import FrigateAsahi.Engines

/-!
# MNN keeps the contract

A load that fails between the creation of a handle and its installation loses the handle, unless
it is the comparison of names that fails; and a load that installs a handle and then fails loses
the one that was there before. `MnnBackend.Tight` rules out both.
-/

namespace Detector

open Text Python Numpy Interaction

theorem still_isWritten (p : FilePath) : Py.Within engines Py.Still (isWritten p) :=
  (still_ask fun _ _ => rfl).bind fun _ => within_andAlso _ ((still_ask fun _ _ => rfl).bind
    fun _ => .pure _)

theorem still_convertOnnxToMnn (onnxPath mnnPath : PyStr) :
    Py.Within engines Py.Still (convertOnnxToMnn onnxPath mnnPath) :=
  (still_findTool _ _).bind fun _ => (still_ask fun _ _ => rfl).bind fun _ =>
    (within_andAlso _ (still_isWritten _)).bind fun _ => .ite (.throw _) (still_ask fun _ _ => rfl)

namespace MnnBackend

theorem still_ensureConverted (modelPath : PyStr) :
    Py.Within engines Py.Still (ensureConverted modelPath) := by
  have fresh : Py.Within engines Py.Still (isFresh modelPath) :=
    (still_ask fun _ _ => rfl).bind fun _ => (still_ask fun _ _ => rfl).bind fun _ =>
      .ite (.pure _) ((still_ask fun _ _ => rfl).bind fun _ => .pure _)
  exact (fresh.catching fun _ => .ite (.pure _) (.throw _)).bind fun _ =>
    .ite (.pure _) ((still_convertOnnxToMnn _ _).bind fun _ => .pure _)

variable {s : MnnBackend} {w : Engines}

/-! ## Questions about a handle -/

/-- What is left when a question failed. -/
def spoiled (w : Engines) : Engines := { w with undescribed := true }

theorem io_spec {h : Nat} (live : h ∈ w.live) (which : Nat) (n : Int) :
    (io h which n).wpc engines (fun _ => True) (fun r s' w' => s' = s ∧
      Py.either (fun _ => w' = w) (fun _ => w' = spoiled w) r) s w := by
  have entries := Py.wpc_traverse (E := engines) (C := fun _ => True)
    (I := fun s' w' => s' = s ∧ w' = w) (J := fun _ s' w' => s' = s ∧ w' = spoiled w)
    (f := fun i => (do
      let info ← ask (.mnnIoInfo h which i)
      Py.ofExcept (ioEntry info) : HostM MnnBackend (PyStr × List Int))) ?_ (List.range n.toNat)
      ⟨rfl, rfl⟩
  · refine Py.wpc_mono (fun _ _ => trivial) (fun r s' w' kept => ?_) entries
    cases r with
    | ok _ => exact kept.2
    | error e => exact kept
  · rintro i s₁ w₁ ⟨rfl, rfl⟩
    rw [Py.wpc_bind, Py.wpc_ask]
    rintro r w' ⟨-, rfl⟩
    refine ⟨trivial, ?_⟩
    have noted : w₁.note (.mnnIoInfo h which i) r =
        { w₁.use h with undescribed := w₁.undescribed || !Engines.described r } := rfl
    rw [Engines.use_of_live live] at noted
    rw [noted]
    cases r with
    | error e => simp [spoiled, Engines.described]
    | ok info =>
        rw [Py.either_ok, Py.wpc_ofExcept]
        cases entry : ioEntry info with
        | error e => simp [spoiled, Engines.described, entry, Except.isOk, Except.toBool]
        | ok _ => simp [Engines.described, entry, Except.isOk, Except.toBool]

theorem describe_spec {h : Nat} (live : h ∈ w.live) :
    (describe h).wpc engines (fun _ => True) (fun r s' w' => s' = s ∧
      Py.either (fun _ => w' = w) (fun _ => w' = spoiled w) r) s w := by
  have count {c : HostCall} (asks : ∀ r, w.note c r =
      { w.use h with undescribed := w.undescribed || Engines.isError r }) :
      (ask c).wpc engines (fun _ => True) (fun r s' w' => s' = s ∧
        Py.either (fun _ => w' = w) (fun _ => w' = spoiled w) r) s w := by
    rw [Py.wpc_ask]
    rintro r w' ⟨-, rfl⟩
    rw [asks r, Engines.use_of_live live]
    cases r <;> simp [spoiled, Engines.isError]
  rw [describe, Py.wpc_bind]
  refine Py.wpc_mono (fun _ _ => trivial) (fun r s₁ w₁ noted => ?_)
    (count (c := .mnnNumInputs h) fun _ => rfl)
  obtain ⟨rfl, noted⟩ := noted
  cases r with
  | error e => exact ⟨rfl, noted⟩
  | ok numInputs =>
      obtain rfl : w₁ = w := noted
      rw [Py.either_ok, Py.wpc_bind]
      refine Py.wpc_mono (fun _ _ => trivial) (fun r s₂ w₂ noted => ?_)
        (io_spec (s := s₁) live 0 numInputs)
      obtain ⟨rfl, noted⟩ := noted
      cases r with
      | error e => exact ⟨rfl, noted⟩
      | ok ins =>
          obtain rfl : w₂ = w₁ := noted
          rw [Py.either_ok, Py.wpc_bind]
          refine Py.wpc_mono (fun _ _ => trivial) (fun r s₃ w₃ noted => ?_)
            (count (c := .mnnNumOutputs h) fun _ => rfl)
          obtain ⟨rfl, noted⟩ := noted
          cases r with
          | error e => exact ⟨rfl, noted⟩
          | ok numOutputs =>
              obtain rfl : w₃ = w₂ := noted
              rw [Py.either_ok, Py.wpc_bind]
              refine Py.wpc_mono (fun _ _ => trivial) (fun r s₄ w₄ noted => ?_)
                (io_spec (s := s₃) live 1 numOutputs)
              obtain ⟨rfl, noted⟩ := noted
              cases r with
              | error e => exact ⟨rfl, noted⟩
              | ok outs => exact ⟨rfl, noted⟩

/-! ## The contract -/

theorem drop_spec (old : Option Nat) :
    (drop old).wpc engines (fun _ => True) (fun r s' w' => r = .ok () ∧ s' = s ∧ w' = w.drop old)
      s w := by
  cases old with
  | none => exact ⟨rfl, rfl, rfl⟩
  | some h =>
      rw [drop, Py.wpc_ask]
      rintro r w' ⟨legal, rfl⟩
      obtain rfl : r = .ok () := legal
      exact ⟨trivial, rfl, rfl, rfl⟩

variable [NumPy]

theorem infer_spec (feeds : Feeds) (held : ∀ h, s.h = some h → h ∈ w.live) :
    (infer feeds).wpc engines (fun _ => True) (fun _ s' w' => s' = s ∧ w' = w) s w := by
  have silent (inputs outputs : List NdArray) (r : Except PyErr (Int × Fill)) :
      w.note (.mnnInfer s.h inputs outputs) r = w := by
    cases handle : s.h with
    | none => rfl
    | some h => exact Engines.use_of_live (held h handle)
  rw [infer, Py.wpc_bind, Py.wpc_get, Py.either_ok, Py.wpc_bind, Py.wpc_ofExcept]
  cases inputArrays feeds s.inNames with
  | error e => exact ⟨rfl, rfl⟩
  | ok inputs =>
      rw [Py.either_ok, Py.wpc_bind, wpc_require]
      refine ⟨fun order _ => ?_, fun _ => ⟨rfl, rfl⟩⟩
      rw [Py.either_ok, Py.wpc_bind, Py.wpc_ofExcept]
      cases outputBuffers s.outNames.length (order.zip s.outShapes).reverse with
      | error e => exact ⟨rfl, rfl⟩
      | ok buffers =>
          rw [Py.either_ok, Py.wpc_bind, Py.wpc_ofExcept]
          cases allSome buffers with
          | error e => exact ⟨rfl, rfl⟩
          | ok buffers =>
              rw [Py.either_ok, Py.wpc_bind,
                wpc_unnoted (c := .mnnInfer s.h inputs buffers) (silent inputs buffers)]
              intro r _
              cases r with
              | error e => exact ⟨rfl, rfl⟩
              | ok done =>
                  rw [Py.either_ok, Py.wpc_ite]
                  split
                  · exact ⟨rfl, rfl⟩
                  · exact ⟨rfl, rfl⟩

theorem finishLoad_spec (ins : List (PyStr × List Int)) (held : ∀ h, s.h = some h → h ∈ w.live) :
    (finishLoad ins).wpc engines (fun _ => True) (fun r s' w' => s' = s ∧
      Py.either (fun _ => w' = { w with halfway := false }) (fun _ => w' = { w with halfway := true })
        r) s w := by
  have feeds : Py.Within engines Py.Still (Py.traverse (fun input => Py.ofExcept (warmUpFeed input)) ins :
      HostM MnnBackend Feeds) :=
    .traverse (fun _ => .ofExcept _) ins
  rw [finishLoad, Py.wpc_bind, wpc_log, Py.either_ok, Py.wpc_bind]
  refine Py.wpc_mono (fun _ _ => trivial) (fun r s₁ w₁ still => ?_) (feeds s _)
  cases still
  cases r with
  | error e => exact ⟨rfl, rfl⟩
  | ok feeds =>
      rw [Py.either_ok, Py.wpc_bind]
      refine Py.wpc_mono (fun _ _ => trivial) (fun r s₂ w₂ same => ?_)
        (infer_spec (w := w.note (.log (.loaded .mnn)) (.ok ())) feeds held)
      obtain ⟨rfl, rfl⟩ := same
      cases r with
      | error e => exact ⟨rfl, rfl⟩
      | ok outputs =>
          rw [Py.either_ok, wpc_log]
          exact ⟨rfl, rfl⟩

instance : Accelerator MnnBackend where
  engaged := MnnBackend.h
  closed := MnnBackend.closed
  Tight s w' := w'.undescribed = false ∧ (s.h.isSome = true → w'.halfway = false)

/-- From a handle that describes itself to the end of the load. -/
theorem installed_spec {modelPath : PyStr} (safe : Safe s w) (reading : w.reading = modelPath)
    {h : Nat} (fresh : w.made h = none) {o : Provenance} (isOf : o.IsOf modelPath) (ins outs : List (PyStr × List Int)) (onnxOut : List PyStr) :
    (do
      modify (install h ins outs onnxOut)
      finishLoad ins
      drop s.h : HostM MnnBackend Unit).wpc engines (fun _ => True) (Loads modelPath s w) s
        (w.make h o) := by
  have held : ∀ h', (install h ins outs onnxOut s).h = some h' → h' ∈ (w.make h o).live := by
    rintro h' ⟨⟩
    exact List.mem_cons_self
  rw [Py.wpc_bind, Py.wpc_modify, Py.either_ok, Py.wpc_bind]
  refine Py.wpc_mono (fun _ _ => trivial) (fun r s₁ w₁ noted => ?_) (finishLoad_spec ins held)
  obtain ⟨rfl, noted⟩ := noted
  cases r with
  | error e =>
      -- A handle that was there stays alive, and nothing holds it.
      refine Loads.replaced safe fresh isOf reading rfl rfl none noted nofun ?_ rfl
      rintro ⟨-, tight⟩
      cases old : s.h with
      | none => exact old.symm
      | some h' =>
          have flag := tight (by rw [old]; rfl)
          rw [Py.either_error] at noted
          rw [noted] at flag
          cases flag
  | ok _ =>
      rw [Py.either_ok]
      refine Py.wpc_mono (fun _ _ => trivial) (fun r s₂ w₂ dropped => ?_) (drop_spec s.h)
      obtain ⟨rfl, rfl, rfl⟩ := dropped
      exact Loads.replaced safe fresh isOf reading rfl rfl s.h (congrArg (Engines.drop · s.h) noted)
        (fun _ same => same) (fun _ => rfl) rfl

omit [NumPy] in
theorem create_spec (mnn : PyStr) :
    (create mnn).wpc engines (fun _ => True) (fun r s' w' => s' = s ∧
      Py.either (fun h => w.made h = none ∧ w' = w.make h (.handle w.reading mnn))
        (fun _ => w' = w) r) s w := by
  rw [create, Py.wpc_bind, Py.wpc_get, Py.either_ok, Py.wpc_ite]
  split
  · exact ⟨rfl, rfl⟩
  · rw [Py.wpc_bind, Py.wpc_ask]
    rintro r w' ⟨legal, rfl⟩
    refine ⟨trivial, ?_⟩
    cases r with
    | error e => exact ⟨rfl, rfl⟩
    | ok h =>
        cases h with
        | none => exact ⟨rfl, rfl⟩
        | some h => exact ⟨rfl, legal, rfl⟩

/-- A handle that could not be described is lost. -/
theorem loads_undescribed {modelPath : PyStr} (safe : Safe s w) (ready : w.halfway = false) {h : Nat}
    (fresh : w.made h = none) (o : Provenance) (e : PyErr) :
    Loads modelPath s w (.error e) s (spoiled (w.make h o)) := by
  refine ⟨⟨safe.unmisused, fun h' held => List.mem_cons_of_mem h (safe.held h' held), ?_⟩, rfl,
    Engines.grown_record fresh o, rfl, rfl, ?_, .inl ⟨ready, rfl⟩⟩
  · intro h' live
    rcases List.mem_cons.mp live with rfl | live
    · simp [spoiled, Engines.make, Engines.record]
    · obtain ⟨o', made⟩ := Option.isSome_iff_exists.mp (safe.known h' live)
      rw [show (spoiled (w.make h o)).made h' = some o' from
        Engines.grown_record fresh o h' o' made]
      rfl
  · rintro ⟨described, -⟩
    cases described

theorem load_spec (modelPath : PyStr) (safe : Safe s w) (ready : w.halfway = false) :
    (load modelPath).wpc engines (fun _ => True) (Loads modelPath s w) s w := by
  refine loads_reading safe ready fun onnx w safe ready reading => ?_
  rw [Py.wpc_bind]
  refine Py.wpc_mono (fun _ _ => trivial) (fun r s₁ w₁ converted => ?_)
    (wpc_free_returns (still_ensureConverted modelPath) (returns_ensureConverted engines modelPath)
      s w)
  obtain ⟨⟨rfl, rfl⟩, file⟩ := converted
  cases r with
  | error e => exact Loads.failed safe ready (.refl w₁)
  | ok mnn =>
      have file : mnn = cachePath modelPath := file
      rw [Py.either_ok, Py.wpc_bind]
      refine Py.wpc_mono (fun _ _ => trivial) (fun r s₂ w₂ created => ?_) (create_spec mnn)
      obtain ⟨rfl, created⟩ := created
      cases r with
      | error e =>
          obtain rfl : w₂ = w₁ := created
          exact Loads.failed safe ready (.refl w₂)
      | ok h =>
          obtain ⟨fresh, rfl⟩ := created
          rw [Py.either_ok, Py.wpc_bind]
          refine Py.wpc_mono (fun _ _ => trivial) (fun r s₃ w₃ described => ?_)
            (describe_spec List.mem_cons_self)
          obtain ⟨rfl, described⟩ := described
          cases r with
          | error e =>
              obtain rfl : w₃ = spoiled (w₁.make h (.handle w₁.reading mnn)) := described
              exact loads_undescribed safe ready fresh _ e
          | ok shim =>
              obtain rfl : w₃ = w₁.make h (.handle w₁.reading mnn) := described
              rw [Py.either_ok, Py.wpc_ite]
              split
              · rw [Py.wpc_bind]
                refine Py.wpc_mono (fun _ _ => trivial) (fun r s₄ w₄ destroyed => ?_)
                  (drop_spec (some h))
                obtain ⟨rfl, rfl, rfl⟩ := destroyed
                exact Loads.failed safe ready (Engines.calm_release_make fresh safe.known _)
              · have isOf : (Provenance.handle w₁.reading mnn).IsOf modelPath := ⟨reading, file⟩
                exact installed_spec safe reading fresh isOf _ _ _

theorem close_spec (safe : Safe s w) :
    close.wpc engines (fun _ => True) (Closes s w) s w := by
  rw [close, Py.wpc_bind, Py.wpc_get, Py.either_ok, Py.wpc_ite]
  split
  · next closed => exact .again safe closed
  · next unclosed =>
      rw [Py.wpc_bind, Py.wpc_modify, Py.either_ok, wpc_exceptException]
      refine Py.wpc_mono (fun _ _ => trivial) (fun r s' w' dropped => ?_) (drop_spec _)
      obtain ⟨rfl, rfl, rfl⟩ := dropped
      exact .released safe unclosed rfl rfl trivial

instance : LawfulAccelerator MnnBackend where
  tight _ _ _ undescribed halfway tight :=
    ⟨undescribed.symm.trans tight.1, fun old => halfway.symm.trans (tight.2 old)⟩
  loaded_eq _ := rfl
  load modelPath _ _ safe ready := load_spec modelPath safe ready
  infer feeds _ _ safe := infer_spec feeds safe.held
  inputNames _ := ⟨rfl, rfl⟩
  close safe := close_spec safe

end MnnBackend

end Detector
