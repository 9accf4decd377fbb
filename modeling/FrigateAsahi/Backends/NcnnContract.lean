import FrigateAsahi.Engines

/-!
# ncnn keeps the contract

Every net of a load is held by a local variable until it is installed, and the net that was there
before is held by one until the new one has been warmed up. So no load loses a net, however it ends.
-/

namespace Detector

open Text Python Numpy Interaction

/-! ## The converter -/

theorem still_bothExist (first second : FilePath) :
    Py.Within engines Py.Still (bothExist first second) :=
  (still_ask fun _ _ => rfl).bind fun _ => within_andAlso _ (still_ask fun _ _ => rfl)

theorem still_optimize (ncnnoptimize : Option PyStr) (tmpdir : Nat) :
    Py.Within engines Py.Still (optimize ncnnoptimize tmpdir) := by
  cases ncnnoptimize with
  | none => exact .pure _
  | some tool =>
      exact (still_ask fun _ _ => rfl).bind fun _ =>
        (within_andAlso _ (still_bothExist _ _)).bind fun _ => .pure _

theorem still_convertOnnxToNcnn (onnxPath paramPath binPath : PyStr) :
    Py.Within engines Py.Still (convertOnnxToNcnn onnxPath paramPath binPath) := by
  refine (still_findTool _ _).bind fun _ => (still_require _ _).bind fun onnx2ncnn =>
    (still_findTool _ _).bind fun ncnnoptimize => (still_ask fun _ _ => rfl).bind fun tmpdir =>
      .andFinally ?_ (still_ask fun _ _ => rfl)
  exact (still_ask fun _ _ => rfl).bind fun _ => (within_andAlso _ (still_bothExist _ _)).bind fun _ =>
    .ite (.throw _) (.ite (.throw _) ((still_optimize _ _).bind fun _ =>
      (still_ask fun _ _ => rfl).bind fun _ => still_ask fun _ _ => rfl))

namespace NcnnBackend

theorem still_ensureConverted (modelPath : PyStr) :
    Py.Within engines Py.Still (ensureConverted modelPath) := by
  have fresh : Py.Within engines Py.Still (isFresh modelPath) :=
    (still_ask fun _ _ => rfl).bind fun _ => (still_ask fun _ _ => rfl).bind fun _ =>
      .ite (.pure _) ((still_ask fun _ _ => rfl).bind fun _ => (still_ask fun _ _ => rfl).bind fun _ =>
        .ite (.pure _) ((still_ask fun _ _ => rfl).bind fun _ => .pure _))
  exact (fresh.catching fun _ => .ite (.pure _) (.throw _)).bind fun _ =>
    .ite (.pure _) ((still_convertOnnxToNcnn _ _ _).bind fun _ => .pure _)

/-! ## Nets -/

variable {σ α : Type} {s : NcnnBackend} {w : Engines}

/-- A call that cannot fail. -/
theorem wpc_steady {c : HostCall} {a : c.Answer} (steady : ∀ w r, Engines.Legal w c r ↔ r = .ok a)
    {s : σ} {Q : Except PyErr c.Answer → σ → Engines → Prop} :
    (ask c).wpc engines (fun _ => True) Q s w ↔ Q (.ok a) s (w.note c (.ok a)) := by
  rw [Py.wpc_ask]
  constructor
  · exact fun all => (all (.ok a) _ ⟨(steady w _).mpr rfl, rfl⟩).2
  · rintro post r w' ⟨legal, rfl⟩
    obtain rfl := (steady w r).mp legal
    exact ⟨trivial, post⟩

/-- What a traceback keeps is not in use any more. -/
theorem wpc_referring {net : Nat} {p : HostM σ α} {s : σ}
    {Q : Except PyErr α → σ → Engines → Prop} :
    (referring net p).wpc engines (fun _ => True) Q s w ↔ p.wpc engines (fun _ => True) Q s w := by
  have kept (e : PyErr) (s' : σ) (w' : Engines) :
      (do ask (.tracebackKeeps net); throw e : HostM σ α).wpc engines (fun _ => True) Q s' w' ↔
        Q (.error e) s' w' := by
    rw [Py.wpc_bind, wpc_steady fun _ _ => .rfl]
    exact .rfl
  simp only [referring, Py.wpc_catching, kept]
  refine iff_of_eq (congrArg (Py.wpc engines (fun _ => True) p · s w) ?_)
  funext r s' w'
  cases r <;> rfl

theorem wpc_owning {net : Nat} {p : HostM σ α} {s : σ} {Q : Except PyErr α → σ → Engines → Prop} :
    (owning net p).wpc engines (fun _ => True) Q s w ↔
      p.wpc engines (fun _ => True) (fun r s' w' => Py.either (fun a => Q (.ok a) s' w')
        (fun e => Q (.error e) s' (w'.release net)) r) s w := by
  have released (e : PyErr) (s' : σ) (w' : Engines) :
      (do ask (.tracebackKeeps net); ask (.ncnnRelease net); throw e : HostM σ α).wpc engines
        (fun _ => True) Q s' w' ↔ Q (.error e) s' (w'.release net) := by
    rw [Py.wpc_bind, wpc_steady fun _ _ => .rfl, Py.either_ok, Py.wpc_bind,
      wpc_steady fun _ _ => .rfl]
    exact .rfl
  simp only [owning, Py.wpc_catching, released]

/-- A call on a net that is alive. -/
theorem wpc_using {c : HostCall} {net : Nat} (live : net ∈ w.live)
    (uses : ∀ r, w.note c r = w.use net) {s : σ} {Q : Except PyErr c.Answer → σ → Engines → Prop} :
    (ask c).wpc engines (fun _ => True) Q s w ↔ ∀ r, w.Legal c r → Q r s w :=
  wpc_unnoted fun r => (uses r).trans (Engines.use_of_live live)

theorem still_netThreads : Py.Within engines Py.Still netThreads :=
  Py.Within.get.bind fun _ => .ite ((still_ask fun _ _ => rfl).bind fun _ => .ofExcept _) (.pure _)

theorem buildNet_spec (param binf : PyStr) (known : ∀ h ∈ w.live, (w.made h).isSome = true) :
    (buildNet param binf).wpc engines (fun _ => True) (fun r s' w' => s' = s ∧
      Py.either (fun net => w.made net = none ∧ w' = w.make net (.net w.reading [param, binf]))
        (fun _ => w.Calm w') r) s w := by
  rw [buildNet, Py.wpc_bind, Py.wpc_get, Py.either_ok, Py.wpc_bind, Py.wpc_ask]
  rintro r w' ⟨legal, rfl⟩
  refine ⟨trivial, ?_⟩
  cases r with
  | error e => exact ⟨rfl, .refl w⟩
  | ok net =>
      have fresh : w.made net = none := legal
      have live (o : Provenance) : net ∈ (w.make net o).live := List.mem_cons_self
      have failed (o : Provenance) : w.Calm ((w.make net o).release net) :=
        Engines.calm_release_make fresh known o
      have noted : w.note .ncnnNet (.ok net) = w.make net (.net w.reading []) := rfl
      rw [Py.either_ok, noted, wpc_owning, Py.wpc_bind]
      refine Py.wpc_mono (fun _ _ => trivial) (fun r s₁ w₁ still => ?_)
        (still_netThreads s (w.make net (.net w.reading [])))
      cases still
      cases r with
      | error e => exact ⟨rfl, failed _⟩
      | ok threads =>
          rw [Py.either_ok, Py.wpc_bind, wpc_using (live _) fun _ => rfl]
          intro r _
          cases r with
          | error e => exact ⟨rfl, failed _⟩
          | ok _ =>
              rw [Py.either_ok, Py.wpc_bind]
              rw [Py.wpc_ask]
              rintro r w' ⟨-, rfl⟩
              obtain ⟨files, noted, first⟩ := w.addFile_make net w.reading param [] r
              refine ⟨trivial, ?_⟩
              rw [show Engines.note _ (.ncnnLoadParam net param) r = _ from noted]
              cases r with
              | error e => exact ⟨rfl, failed _⟩
              | ok ret =>
                  rw [Py.either_ok, Py.wpc_ite]
                  split
                  · exact ⟨rfl, failed _⟩
                  · next zero =>
                      obtain rfl : files = [param] := first (congrArg Except.ok (not_not.mp zero))
                      rw [Py.wpc_bind, Py.wpc_ask]
                      rintro r w' ⟨-, rfl⟩
                      obtain ⟨files, noted, second⟩ := w.addFile_make net w.reading binf [param] r
                      refine ⟨trivial, ?_⟩
                      rw [show Engines.note _ (.ncnnLoadModel net binf) r = _ from noted]
                      cases r with
                      | error e => exact ⟨rfl, failed _⟩
                      | ok ret =>
                          rw [Py.either_ok, Py.wpc_ite]
                          split
                          · exact ⟨rfl, failed _⟩
                          · next zero =>
                              obtain rfl : files = [param, binf] :=
                                second (congrArg Except.ok (not_not.mp zero))
                              exact ⟨rfl, fresh, rfl⟩

/-- The net of a load, converted once more if need be. -/
theorem openNet_spec (modelPath : PyStr) (files : PyStr × PyStr)
    (known : ∀ h ∈ w.live, (w.made h).isSome = true) :
    (openNet modelPath files).wpc engines (fun _ => True) (fun r s' w' => s' = s ∧
      Py.either (fun net => ∃ w₁, w.Calm w₁ ∧ w₁.made net = none ∧
          w' = w₁.make net (.net w.reading [files.1, files.2]))
        (fun _ => w.Calm w') r) s w := by
  rw [openNet, wpc_exceptException]
  refine Py.wpc_mono (fun _ _ => trivial) (fun r s₁ w₁ built => ?_)
    (buildNet_spec files.1 files.2 known)
  obtain ⟨rfl, built⟩ := built
  cases r with
  | ok net => exact ⟨rfl, w, .refl w, built.1, built.2⟩
  | error e =>
      have calm : w.Calm w₁ := built
      rw [Py.either_error]
      split
      · rw [Py.wpc_bind]
        refine Py.wpc_mono (fun _ _ => trivial) (fun r s₂ w₂ same => ?_)
          (wpc_free_still (still_convertOnnxToNcnn _ _ _) s₁ w₁)
        obtain ⟨rfl, rfl⟩ := same
        cases r with
        | error e => exact ⟨rfl, calm⟩
        | ok _ =>
            rw [Py.either_ok, Py.wpc_bind]
            refine Py.wpc_mono (fun _ _ => trivial) (fun r s₃ w₃ built => ?_)
              (buildNet_spec files.1 files.2 (calm.known known))
            obtain ⟨rfl, built⟩ := built
            cases r with
            | error e => exact ⟨rfl, calm.trans built⟩
            | ok net =>
                rw [Py.either_ok, Py.wpc_bind, wpc_handled]
                rw [calm.reading] at built
                exact ⟨rfl, w₂, calm, built.1, built.2⟩
      · exact ⟨rfl, calm⟩

theorem checkNames_spec {net : Nat} (live : net ∈ w.live) (ins outs : IoMeta) :
    (checkNames net ins outs).wpc engines (fun _ => True) (fun _ s' w' => s' = s ∧ w' = w) s w := by
  rw [checkNames, Py.wpc_bind, wpc_using live fun _ => rfl]
  intro r _
  cases r with
  | error e => exact ⟨rfl, rfl⟩
  | ok netIn =>
      rw [Py.either_ok, Py.wpc_bind, wpc_using live fun _ => rfl]
      intro r _
      cases r with
      | error e => exact ⟨rfl, rfl⟩
      | ok netOut =>
          rw [Py.either_ok, Py.wpc_ite]
          split
          · exact ⟨rfl, rfl⟩
          · exact ⟨rfl, rfl⟩

/-! ## The contract -/

variable [NumPy]

theorem infer_spec (feeds : Feeds) (held : ∀ h, s.net = some h → h ∈ w.live) :
    (infer feeds).wpc engines (fun _ => True) (fun _ s' w' => s' = s ∧ w' = w) s w := by
  have feed (ex : Nat) (name : PyStr) : Py.Within engines Py.Still (feed feeds ex name) :=
    (still_require _ _).bind fun _ => (Py.Within.ofExcept _).bind fun _ => still_ask fun _ _ => rfl
  have extract (ex : Nat) (out : PyStr × List Dim) : Py.Within engines Py.Still (extract ex out) :=
    (still_ask fun _ _ => rfl).bind fun _ => .ite (.throw _) ((Py.Within.ofExcept _).bind fun _ =>
      .ofExcept _)
  rw [infer, Py.wpc_bind, Py.wpc_get, Py.either_ok, Py.wpc_bind, wpc_require]
  refine ⟨fun net engaged => ?_, fun _ => ⟨rfl, rfl⟩⟩
  rw [Py.either_ok, Py.wpc_bind, wpc_using (held net engaged) fun _ => rfl]
  intro r _
  cases r with
  | error e => exact ⟨rfl, rfl⟩
  | ok ex =>
      rw [Py.either_ok]
      have rest := (Py.Within.forEach (feed ex) s.inNames).bind fun _ =>
        Py.Within.traverse (extract ex) (s.outNames.zip s.outShapes)
      refine Py.wpc_mono (fun _ _ => trivial) (fun r s' w' still => ?_) (rest s w)
      cases still
      exact ⟨rfl, rfl⟩

theorem finishLoad_spec (net : Nat) (ins : IoMeta) (held : ∀ h, s.net = some h → h ∈ w.live) :
    (finishLoad net ins).wpc engines (fun _ => True) (fun r s' w' => s' = s ∧
      Py.either (fun _ => w' = { w with halfway := false }) (fun _ => w' = { w with halfway := true })
        r) s w := by
  have feeds : Py.Within engines Py.Still (Py.traverse (fun input => Py.ofExcept (warmUpFeed input)) ins :
      HostM NcnnBackend Feeds) :=
    .traverse (fun _ => .ofExcept _) ins
  rw [finishLoad, wpc_referring, Py.wpc_bind, wpc_log, Py.either_ok, warmUp, Py.wpc_bind]
  refine Py.wpc_mono (fun _ _ => trivial) (fun r s₁ w₁ still => ?_) (feeds s _)
  cases still
  cases r with
  | error e => exact ⟨rfl, rfl⟩
  | ok feeds =>
      rw [Py.either_ok, Py.wpc_bind]
      refine Py.wpc_mono (fun _ _ => trivial) (fun r s₂ w₂ same => ?_)
        (infer_spec (w := w.note (.log (.loaded .ncnn)) (.ok ())) feeds held)
      obtain ⟨rfl, rfl⟩ := same
      cases r with
      | error e => exact ⟨rfl, rfl⟩
      | ok outputs =>
          rw [Py.either_ok, wpc_log]
          exact ⟨rfl, rfl⟩

instance : Accelerator NcnnBackend where
  engaged := NcnnBackend.net
  closed := NcnnBackend.closed
  Tight _ _ := True

/-- From a net with the right names to the end of the load. -/
theorem installed_spec {modelPath : PyStr} (safe : Safe s w) (reading : w.reading = modelPath)
    {net : Nat} (fresh : w.made net = none) {o : Provenance} (isOf : o.IsOf modelPath)
    (ins outs : IoMeta) :
    (do
      let self ← get
      modify (install net modelPath ins outs)
      match self.net with
      | none => finishLoad net ins
      | some old => do
        owning old (finishLoad net ins)
        ask (.ncnnRelease old) : HostM NcnnBackend Unit).wpc engines (fun _ => True)
          (Loads modelPath s w) s (w.make net o) := by
  have held : ∀ h, (install net modelPath ins outs s).net = some h → h ∈ (w.make net o).live := by
    rintro h ⟨⟩
    exact List.mem_cons_self
  rw [Py.wpc_bind, Py.wpc_get, Py.either_ok, Py.wpc_bind, Py.wpc_modify, Py.either_ok]
  cases before : s.net with
  | none =>
      refine Py.wpc_mono (fun _ _ => trivial) (fun r s₁ w₁ noted => ?_) (finishLoad_spec net ins held)
      obtain ⟨rfl, noted⟩ := noted
      cases r with
      | error e =>
          exact Loads.replaced safe fresh isOf reading rfl rfl none noted nofun (fun _ => before.symm) rfl
      | ok _ =>
          exact Loads.replaced safe fresh isOf reading rfl rfl none noted nofun (fun _ => before.symm) rfl
  | some old =>
      have keeps : ∀ h, some old = some h → Accelerator.engaged s = some h :=
        fun h same => before.trans same
      rw [Py.wpc_bind, wpc_owning]
      refine Py.wpc_mono (fun _ _ => trivial) (fun r s₁ w₁ noted => ?_) (finishLoad_spec net ins held)
      obtain ⟨rfl, noted⟩ := noted
      cases r with
      | error e =>
          exact Loads.replaced safe fresh isOf reading rfl rfl (some old)
            (congrArg (Engines.release · old) noted) keeps (fun _ => before.symm) rfl
      | ok _ =>
          rw [Py.either_ok, Py.either_ok, Py.wpc_ask]
          rintro r w' ⟨legal, rfl⟩
          obtain rfl : r = .ok () := legal
          exact ⟨trivial, Loads.replaced safe fresh isOf reading rfl rfl (some old)
            (congrArg (Engines.release · old) noted) keeps (fun _ => before.symm) rfl⟩

theorem load_spec (modelPath : PyStr) (safe : Safe s w) (ready : w.halfway = false) :
    (load modelPath).wpc engines (fun _ => True) (Loads modelPath s w) s w := by
  refine loads_reading safe ready fun io w safe ready reading => ?_
  rw [Py.wpc_bind]
  refine Py.wpc_mono (fun _ _ => trivial) (fun r s₁ w₁ converted => ?_)
    (wpc_free_returns (still_ensureConverted modelPath) (returns_ensureConverted engines modelPath)
      s w)
  obtain ⟨⟨rfl, rfl⟩, files⟩ := converted
  cases r with
  | error e => exact Loads.failed safe ready (.refl w₁)
  | ok files' =>
      obtain rfl : files' = cachePaths modelPath := files
      rw [Py.either_ok, Py.wpc_bind]
      refine Py.wpc_mono (fun _ _ => trivial) (fun r s₂ w₂ opened => ?_)
        (openNet_spec modelPath (cachePaths modelPath) safe.known)
      obtain ⟨rfl, opened⟩ := opened
      cases r with
      | error e => exact Loads.failed safe ready opened
      | ok net =>
          obtain ⟨w₃, calm, fresh, rfl⟩ := opened
          have safe₃ := safe.of_calm calm
          rw [Py.either_ok, Py.wpc_bind, wpc_owning]
          refine Py.wpc_mono (fun _ _ => trivial) (fun r s₄ w₄ same => ?_)
            (checkNames_spec List.mem_cons_self io.1 io.2)
          obtain ⟨rfl, rfl⟩ := same
          cases r with
          | error e =>
              exact Loads.failed safe ready
                (calm.trans (Engines.calm_release_make fresh safe₃.known _))
          | ok _ =>
              rw [Py.either_ok, Py.either_ok]
              have isOf : (Provenance.net w₁.reading
                [(cachePaths modelPath).1, (cachePaths modelPath).2]).IsOf modelPath := ⟨reading, rfl⟩
              have loads := installed_spec safe₃ (calm.reading.trans reading) fresh isOf io.1 io.2
              exact Py.wpc_mono (fun _ _ => trivial) (fun _ _ _ => Loads.of_calm calm) loads

omit [NumPy] in
theorem drop_spec (old : Option Nat) :
    (drop old).wpc engines (fun _ => True) (fun r s' w' => r = .ok () ∧ s' = s ∧ w' = w.drop old)
      s w := by
  cases old with
  | none => exact ⟨rfl, rfl, rfl⟩
  | some net =>
      rw [drop, Py.wpc_ask]
      rintro r w' ⟨legal, rfl⟩
      obtain rfl : r = .ok () := legal
      exact ⟨trivial, rfl, rfl, rfl⟩

theorem close_spec (safe : Safe s w) :
    close.wpc engines (fun _ => True) (Closes s w) s w := by
  rw [close, Py.wpc_bind, Py.wpc_get, Py.either_ok, Py.wpc_ite]
  split
  · next closed => exact .again safe closed
  · next unclosed =>
      rw [Py.wpc_bind, Py.wpc_modify, Py.either_ok, wpc_exceptException, release, Py.wpc_bind,
        Py.wpc_modify, Py.either_ok, Py.wpc_bind]
      refine Py.wpc_mono (fun _ _ => trivial) (fun r s' w' dropped => ?_) (drop_spec s.net)
      obtain ⟨rfl, rfl, rfl⟩ := dropped
      rw [Py.either_ok, Py.wpc_ite]
      split
      · -- Of what the device answers only an exit request gets out.
        rw [wpc_unnoted fun _ => rfl]
        intro r _
        cases r with
        | ok _ => exact .released safe unclosed rfl rfl trivial
        | error e =>
            rw [Py.either_error]
            split
            · exact .released safe unclosed rfl rfl trivial
            · next exit => exact .released safe unclosed rfl rfl exit
      · exact .released safe unclosed rfl rfl trivial

instance : LawfulAccelerator NcnnBackend where
  tight _ _ _ _ _ _ := trivial
  loaded_eq _ := rfl
  load modelPath _ _ safe ready := load_spec modelPath safe ready
  infer feeds _ _ safe := infer_spec feeds safe.held
  inputNames _ := ⟨rfl, rfl⟩
  close safe := close_spec safe

end NcnnBackend

end Detector
