import FrigateAsahi.Backends.Calls

/-!
# What tracebacks keep

A net outlives the last variable that refers to it when an exception has taken it along in its
traceback. `Tracebacks` notes which nets are in the traceback of the exception that is on its way or
being handled, and which of them nothing else refers to any more. Such nets are left by a load of ncnn
that fails with a net that was not installed, or with two nets, and by a close inside the handler of a
load that failed in its warm-up (`NcnnBackend.load_lapsed`, `FallbackBackend.tryPrimary_lapsed`).
-/

namespace Detector

open Text Python Numpy Interaction

structure Tracebacks : Type where
  /-- The nets that the traceback of an exception refers to. -/
  kept : List Nat
  /-- Those to which nothing else refers. -/
  fading : List Nat
  /-- A net was made, and none was installed since. -/
  pending : Bool
  /-- An object was installed and not yet warmed up. -/
  halfway : Bool
  deriving DecidableEq

namespace Tracebacks

def start : Tracebacks := ⟨[], [], false, false⟩

/-- The last variable that refers to a net goes. -/
def letGo (t : Tracebacks) (net : Nat) : Tracebacks :=
  if net ∈ t.kept then { t with fading := net :: t.fading } else t

def note (t : Tracebacks) : (c : HostCall) → Except PyErr c.Answer → Tracebacks
  | .tracebackKeeps net, _ => { t with kept := net :: t.kept }
  | .ncnnRelease net, _ => t.letGo net
  | .dropTraceback, _ => { t with kept := [], fading := [] }
  | .ncnnNet, .ok _ => { t with pending := true }
  | .log (.loaded _), _ => { t with pending := false, halfway := true }
  | .log (.warmUpOk _), _ => { t with halfway := false }
  | _, _ => t

/-- Letting go of a net and writing to the log do not fail. -/
def Legal : (c : HostCall) → Except PyErr c.Answer → Prop
  | .ncnnRelease _, r | .tracebackKeeps _, r | .dropTraceback, r | .log _, r => r = .ok ()
  | _, _ => True

/-- No exception is on its way. -/
structure Quiet (t : Tracebacks) : Prop where
  kept : t.kept = []
  fading : t.fading = []

/-- Either nothing happened, or a net was made that was not installed. -/
def Stranded (t t' : Tracebacks) : Prop := t' = t ∨ t'.pending = true

theorem Stranded.trans {t t' t'' : Tracebacks} (first : t.Stranded t') (next : t'.Stranded t'') :
    t.Stranded t'' := by
  rcases next with rfl | pending
  · exact first
  · exact .inr pending

end Tracebacks

def tracebacks : Env Host Tracebacks := .noting (fun _ => Tracebacks.Legal) Tracebacks.note

section Rules

variable {σ α : Type} {s : σ} {t : Tracebacks}

/-- A call that cannot fail. -/
theorem wpc_steady_tracebacks {c : HostCall} {a : c.Answer}
    (steady : ∀ r, Tracebacks.Legal c r ↔ r = .ok a)
    {Q : Except PyErr c.Answer → σ → Tracebacks → Prop} :
    (ask c).wpc tracebacks (fun _ => True) Q s t ↔ Q (.ok a) s (t.note c (.ok a)) := by
  rw [Py.wpc_ask]
  constructor
  · exact fun all => (all (.ok a) _ ⟨(steady _).mpr rfl, rfl⟩).2
  · rintro post r t' ⟨legal, rfl⟩
    obtain rfl := (steady r).mp legal
    exact ⟨trivial, post⟩

theorem still_tracebacks {c : HostCall} (same : ∀ t r, Tracebacks.note t c r = t) :
    Py.Within tracebacks Py.Still (ask c : HostM σ c.Answer) := by
  refine Py.Within.ask fun s t r t' step => ?_
  obtain ⟨-, rfl⟩ := step
  exact Prod.ext rfl (same t r)

theorem still_of_asking {p : HostM σ α} (only : Py.Only Asking p) :
    Py.Within tracebacks Py.Still p := by
  refine only.within fun c asking s t r t' step => ?_
  obtain ⟨-, rfl⟩ := step
  cases c <;> first | rfl | exact asking.elim

/-- A step that leaves everything alone. -/
theorem wpc_still_bind {β : Type} {p : HostM σ β} {f : β → HostM σ α}
    {Q : Except PyErr α → σ → Tracebacks → Prop} (still : Py.Within tracebacks Py.Still p)
    (fails : ∀ e, Q (.error e) s t)
    (rest : ∀ b, (f b).wpc tracebacks (fun _ => True) Q s t) :
    (p >>= f).wpc tracebacks (fun _ => True) Q s t := by
  rw [Py.wpc_bind]
  refine Py.wpc_mono (fun _ _ => trivial) (fun r s' t' same => ?_) (still s t)
  cases same
  cases r with
  | error e => exact fails e
  | ok b => exact rest b

end Rules

/-- No traceback keeps a net that none kept before. -/
def Unkept {σ : Type} (x y : σ × Tracebacks) : Prop := x.2.Quiet → y.2.Quiet

instance {σ : Type} : IsPreorder (σ × Tracebacks) Unkept where
  refl _ := id
  trans _ _ _ first next := next ∘ first

theorem unkept_zoom {σ τ α : Type} {get : σ → τ} {set : τ → σ → σ} {p : HostM τ α}
    (inner : Py.Within tracebacks Unkept p) :
    Py.Within tracebacks Unkept (Py.zoom get set p : HostM σ α) := by
  intro s t
  rw [Py.wpc_zoom]
  refine Py.wpc_mono (fun t' crash => ?_) (fun r x t' kept => kept) (inner (get s) t)
  obtain ⟨_, kept⟩ := crash
  exact ⟨s, kept⟩

/-! ## ncnn -/

theorem silent_convertOnnxToNcnn (onnxPath paramPath binPath : PyStr) :
    Py.Within tracebacks Py.Still (convertOnnxToNcnn onnxPath paramPath binPath) := by
  have optimized (tool : Option PyStr) (tmpdir : Nat) :
      Py.Within tracebacks Py.Still (optimize tool tmpdir) := by
    cases tool with
    | none => exact .pure _
    | some tool =>
        exact (still_tracebacks fun _ _ => rfl).bind fun _ =>
          (within_andAlso _ (still_of_asking (only_bothExist _ _))).bind fun _ => .pure _
  refine (still_of_asking (only_findTool _ _)).bind fun _ => (Py.Within.ofExcept _).bind fun _ =>
    (still_of_asking (only_findTool _ _)).bind fun _ => (still_tracebacks fun _ _ => rfl).bind
      fun _ => .andFinally ?_ (still_tracebacks fun _ _ => rfl)
  exact (still_tracebacks fun _ _ => rfl).bind fun _ =>
    (within_andAlso _ (still_of_asking (only_bothExist _ _))).bind fun _ =>
      .ite (.throw _) (.ite (.throw _) ((optimized _ _).bind fun _ =>
        (still_tracebacks fun _ _ => rfl).bind fun _ => still_tracebacks fun _ _ => rfl))

theorem silent_free {σ α : Type} {p : HostM Unit α} (still : Py.Within tracebacks Py.Still p) :
    Py.Within tracebacks Py.Still (free p : HostM σ α) := by
  intro s t
  rw [wpc_free]
  refine Py.wpc_mono (fun t' crash => ?_) (fun r _ t' same => ?_) (still () t)
  · obtain ⟨_, same⟩ := crash
    exact ⟨s, Prod.ext rfl (Prod.mk.inj same).2⟩
  · exact Prod.ext rfl (Prod.mk.inj same).2

namespace NcnnBackend

variable {s : NcnnBackend} {t : Tracebacks}

theorem silent_ensureConverted (modelPath : PyStr) :
    Py.Within tracebacks Py.Still (ensureConverted modelPath) :=
  ((still_of_asking (only_isFresh modelPath)).catching fun _ => .ite (.pure _) (.throw _)).bind
    fun _ => .ite (.pure _) ((silent_convertOnnxToNcnn _ _ _).bind fun _ => .pure _)

/-- An exception takes a net along that was the frame's alone. -/
theorem wpc_owning_tracebacks {σ α : Type} {net : Nat} {p : HostM σ α} {s : σ}
    {Q : Except PyErr α → σ → Tracebacks → Prop} :
    (owning net p).wpc tracebacks (fun _ => True) Q s t ↔
      p.wpc tracebacks (fun _ => True) (fun r s' t' => Py.either (fun a => Q (.ok a) s' t')
        (fun e => Q (.error e) s' { t' with kept := net :: t'.kept, fading := net :: t'.fading }) r)
        s t := by
  have taken (e : PyErr) (s' : σ) (t' : Tracebacks) :
      (do ask (.tracebackKeeps net); ask (.ncnnRelease net); throw e : HostM σ α).wpc tracebacks
        (fun _ => True) Q s' t' ↔
          Q (.error e) s' { t' with kept := net :: t'.kept, fading := net :: t'.fading } := by
    rw [Py.wpc_bind, wpc_steady_tracebacks fun _ => .rfl, Py.either_ok, Py.wpc_bind,
      wpc_steady_tracebacks fun _ => .rfl]
    simp [Tracebacks.note, Tracebacks.letGo]
  simp only [owning, Py.wpc_catching, taken]

/-- An exception takes a net along that something else refers to as well. -/
theorem wpc_referring_tracebacks {σ α : Type} {net : Nat} {p : HostM σ α} {s : σ}
    {Q : Except PyErr α → σ → Tracebacks → Prop} :
    (referring net p).wpc tracebacks (fun _ => True) Q s t ↔
      p.wpc tracebacks (fun _ => True) (fun r s' t' => Py.either (fun a => Q (.ok a) s' t')
        (fun e => Q (.error e) s' { t' with kept := net :: t'.kept }) r) s t := by
  have taken (e : PyErr) (s' : σ) (t' : Tracebacks) :
      (do ask (.tracebackKeeps net); throw e : HostM σ α).wpc tracebacks (fun _ => True) Q s' t' ↔
          Q (.error e) s' { t' with kept := net :: t'.kept } := by
    rw [Py.wpc_bind, wpc_steady_tracebacks fun _ => .rfl]
    exact .rfl
  simp only [referring, Py.wpc_catching, taken]

theorem buildNet_stranded (param binf : PyStr) :
    (buildNet param binf).wpc tracebacks (fun _ => True) (fun r s' t' => s' = s ∧
      Py.either (fun _ => t' = { t with pending := true }) (fun _ => t.Stranded t') r) s t := by
  have filled (net : Nat) : Py.Within tracebacks Py.Still (do
      let threads ← netThreads
      ask (.ncnnOptions net s.useVulkan s.fp16 threads s.deviceIndex)
      let ret ← ask (.ncnnLoadParam net param)
      if ret ≠ 0 then throw (exception "ncnn load_param failed")
      else do
        let ret ← ask (.ncnnLoadModel net binf)
        if ret ≠ 0 then throw (exception "ncnn load_model failed") else pure net) :=
    (still_of_asking only_netThreads).bind fun _ => (still_tracebacks fun _ _ => rfl).bind fun _ =>
      (still_tracebacks fun _ _ => rfl).bind fun _ => .ite (.throw _)
        ((still_tracebacks fun _ _ => rfl).bind fun _ => .ite (.throw _) (.pure _))
  rw [buildNet, Py.wpc_bind, Py.wpc_get, Py.either_ok, Py.wpc_bind, Py.wpc_ask]
  rintro r t' ⟨-, rfl⟩
  refine ⟨trivial, ?_⟩
  cases r with
  | error e => exact ⟨rfl, .inl rfl⟩
  | ok net =>
      rw [Py.either_ok, wpc_owning_tracebacks]
      refine Py.wpc_mono (fun _ _ => trivial) (fun r s₁ t₁ same => ?_) (filled net s _)
      cases same
      cases r with
      | ok _ => exact ⟨rfl, rfl⟩
      | error e => exact ⟨rfl, .inr rfl⟩

/-- A net that was opened leaves no exception behind. -/
theorem openNet_stranded (modelPath : PyStr) (files : PyStr × PyStr) (quiet : t.Quiet) :
    (openNet modelPath files).wpc tracebacks (fun _ => True) (fun r s' t' => s' = s ∧
      Py.either (fun _ => t'.Quiet ∧ t'.pending = true) (fun _ => t.Stranded t') r) s t := by
  rw [openNet, wpc_exceptException]
  refine Py.wpc_mono (fun _ _ => trivial) (fun r s₁ t₁ built => ?_) (buildNet_stranded files.1 files.2)
  obtain ⟨rfl, built⟩ := built
  cases r with
  | ok net =>
      obtain rfl := built
      exact ⟨rfl, ⟨quiet.kept, quiet.fading⟩, rfl⟩
  | error e =>
      have stranded : t.Stranded t₁ := built
      rw [Py.either_error]
      split
      · refine wpc_still_bind (silent_free (silent_convertOnnxToNcnn _ _ _))
          (fun _ => ⟨rfl, stranded⟩) fun _ => ?_
        rw [Py.wpc_bind]
        refine Py.wpc_mono (fun _ _ => trivial) (fun r s₂ t₂ built => ?_)
          (buildNet_stranded files.1 files.2)
        obtain ⟨rfl, built⟩ := built
        cases r with
        | error e => exact ⟨rfl, stranded.trans built⟩
        | ok net =>
            obtain rfl := built
            rw [Py.either_ok, Py.wpc_bind, wpc_dropException]
            rintro r t' ⟨-, rfl⟩
            exact ⟨trivial, rfl, ⟨rfl, rfl⟩, rfl⟩
      · exact ⟨rfl, stranded⟩

variable [NumPy]

theorem finishLoad_halfway (net : Nat) (ins : IoMeta) :
    (finishLoad net ins).wpc tracebacks (fun _ => True) (fun r s' t' => s' = s ∧
      Py.either (fun _ => t' = { t with pending := false, halfway := false })
        (fun _ => t' = { t with kept := net :: t.kept, pending := false, halfway := true }) r) s t := by
  rw [finishLoad, wpc_referring_tracebacks, Py.wpc_bind, wpc_steady_tracebacks fun _ => .rfl,
    Py.either_ok, warmUp]
  refine wpc_still_bind (.traverse (fun _ => .ofExcept _) _) (fun _ => ⟨rfl, rfl⟩) fun feeds => ?_
  refine wpc_still_bind (still_of_asking (only_infer feeds)) (fun _ => ⟨rfl, rfl⟩) fun _ => ?_
  rw [wpc_steady_tracebacks fun _ => .rfl]
  exact ⟨rfl, rfl⟩

/-- What a failed load may leave in its traceback. -/
structure Lapsed (s : NcnnBackend) (t' : Tracebacks) : Prop where
  kept : t'.kept ≠ [] → t'.pending = true ∨ t'.halfway = true
  fading : t'.fading ≠ [] → t'.pending = true ∨ t'.halfway = true ∧ s.net.isSome = true

omit [NumPy] in
theorem Lapsed.of_pending {t' : Tracebacks} (pending : t'.pending = true) : Lapsed s t' :=
  ⟨fun _ => .inl pending, fun _ => .inl pending⟩

omit [NumPy] in
theorem Lapsed.of_stranded {t' : Tracebacks} (quiet : t.Quiet) (stranded : t.Stranded t') :
    Lapsed s t' := by
  rcases stranded with rfl | pending
  · exact ⟨fun kept => absurd quiet.kept kept, fun fading => absurd quiet.fading fading⟩
  · exact .of_pending pending

theorem load_lapsed (modelPath : PyStr) (quiet : t.Quiet) :
    (load modelPath).wpc tracebacks (fun _ => True) (fun r s' t' => s'.closed = s.closed ∧
      Py.either (fun _ => t'.Quiet) (fun _ => Lapsed s t') r) s t := by
  have unmoved : Lapsed s t := .of_stranded quiet (.inl rfl)
  refine wpc_still_bind (still_of_asking (.ask trivial)) (fun _ => ⟨rfl, unmoved⟩) fun io => ?_
  refine wpc_still_bind (silent_free (silent_ensureConverted modelPath)) (fun _ => ⟨rfl, unmoved⟩)
    fun files => ?_
  rw [Py.wpc_bind]
  refine Py.wpc_mono (fun _ _ => trivial) (fun r s₁ t₁ opened => ?_) (openNet_stranded modelPath files quiet)
  obtain ⟨rfl, opened⟩ := opened
  cases r with
  | error e => exact ⟨rfl, .of_stranded quiet opened⟩
  | ok net =>
      obtain ⟨quiet₁, pending⟩ := opened
      rw [Py.either_ok, Py.wpc_bind, wpc_owning_tracebacks]
      refine Py.wpc_mono (fun _ _ => trivial) (fun r s₂ t₂ same => ?_)
        (still_of_asking (only_checkNames net io.1 io.2) s₁ t₁)
      cases same
      cases r with
      | error e => exact ⟨rfl, .of_pending pending⟩
      | ok _ =>
          rw [Py.either_ok, Py.either_ok, Py.wpc_bind, Py.wpc_get, Py.either_ok, Py.wpc_bind,
            Py.wpc_modify, Py.either_ok]
          cases before : s₁.net with
          | none =>
              refine Py.wpc_mono (fun _ _ => trivial) (fun r s₃ t₃ finished => ?_)
                (finishLoad_halfway net io.1)
              obtain ⟨rfl, finished⟩ := finished
              cases r with
              | ok _ =>
                  obtain rfl := finished
                  exact ⟨rfl, quiet₁.kept, quiet₁.fading⟩
              | error e =>
                  obtain rfl := finished
                  exact ⟨rfl, fun _ => .inr rfl, fun fading => absurd quiet₁.fading fading⟩
          | some old =>
              rw [Py.wpc_bind, wpc_owning_tracebacks]
              refine Py.wpc_mono (fun _ _ => trivial) (fun r s₃ t₃ finished => ?_)
                (finishLoad_halfway net io.1)
              obtain ⟨rfl, finished⟩ := finished
              cases r with
              | ok _ =>
                  obtain rfl := finished
                  rw [Py.either_ok, Py.either_ok, wpc_steady_tracebacks fun _ => .rfl]
                  have kept : old ∉ t₁.kept := by simp [quiet₁.kept]
                  refine ⟨rfl, ?_⟩
                  rw [Py.either_ok, Tracebacks.note, Tracebacks.letGo, if_neg kept]
                  exact ⟨quiet₁.kept, quiet₁.fading⟩
              | error e =>
                  obtain rfl := finished
                  refine ⟨rfl, fun _ => .inr rfl, fun _ => .inr ⟨rfl, ?_⟩⟩
                  rw [before]
                  rfl

omit [NumPy] in
theorem drop_lapsed (old : Option Nat) :
    (drop old).wpc tracebacks (fun _ => True) (fun r s' t' => r = .ok () ∧ s' = s ∧
      t' = { t with fading := t'.fading } ∧ (t.kept = [] → t'.fading = t.fading)) s t := by
  cases old with
  | none => exact ⟨rfl, rfl, rfl, fun _ => rfl⟩
  | some net =>
      rw [drop, wpc_steady_tracebacks fun _ => .rfl, Tracebacks.note, Tracebacks.letGo]
      split
      · next kept => exact ⟨rfl, rfl, rfl, fun none => absurd kept (by simp [none])⟩
      · exact ⟨rfl, rfl, rfl, fun _ => rfl⟩

omit [NumPy] in
theorem close_unkept : Py.Within tracebacks Unkept close := by
  have dropped (old : Option Nat) : Py.Within tracebacks Unkept (drop old) := by
    cases old with
    | none => exact .pure ()
    | some net =>
        refine Py.Within.ask fun s t r t' step quiet => ?_
        obtain ⟨-, rfl⟩ := step
        have none : t.kept = [] := quiet.kept
        have kept : net ∉ t.kept := by simp [none]
        rw [Tracebacks.note, Tracebacks.letGo, if_neg kept]
        exact quiet
  exact Py.Within.get.bind fun _ => .ite (.pure _) <|
    (Py.Within.modify fun _ _ quiet => quiet).bind fun _ =>
      within_exceptException ((Py.Within.modify fun _ _ quiet => quiet).bind fun _ =>
        (dropped _).bind fun _ => .ite (.of_still (still_tracebacks fun _ _ => rfl)) (.pure _))
          fun _ => .pure _

omit [NumPy] in
/-- A close lets go of its net, which a traceback may still keep. -/
theorem close_lapsed :
    close.wpc tracebacks (fun _ => True) (fun _ _ t' => t' = { t with fading := t'.fading } ∧
      (t.kept = [] ∨ s.closed = true → t'.fading = t.fading)) s t := by
  rw [close, Py.wpc_bind, Py.wpc_get, Py.either_ok, Py.wpc_ite]
  split
  · exact ⟨rfl, fun _ => rfl⟩
  · next unclosed =>
      rw [Py.wpc_bind, Py.wpc_modify, Py.either_ok, wpc_exceptException, release, Py.wpc_bind,
        Py.wpc_modify, Py.either_ok, Py.wpc_bind]
      refine Py.wpc_mono (fun _ _ => trivial) (fun r s' t' dropped => ?_) (drop_lapsed s.net)
      obtain ⟨rfl, rfl, only, kept⟩ := dropped
      have closes : t' = { t with fading := t'.fading } ∧
          (t.kept = [] ∨ s.closed = true → t'.fading = t.fading) :=
        ⟨only, fun either => either.elim kept fun closed => absurd closed unclosed⟩
      have device : Py.Within tracebacks Py.Still
          (if s.useVulkan then ask .ncnnDestroyGpuInstance else pure () : HostM NcnnBackend Unit) :=
        .ite (still_tracebacks fun _ _ => rfl) (.pure _)
      rw [Py.either_ok]
      refine Py.wpc_mono (fun _ _ => trivial) (fun r s'' t'' same => ?_) (device _ t')
      cases same
      cases r with
      | ok _ => exact closes
      | error e =>
          rw [Py.either_error]
          split
          · exact closes
          · exact closes

end NcnnBackend

/-! ## MNN -/

namespace MnnBackend

variable {s : MnnBackend} {t : Tracebacks}

theorem silent_ensureConverted (modelPath : PyStr) :
    Py.Within tracebacks Py.Still (ensureConverted modelPath) := by
  have converted : Py.Within tracebacks Py.Still
      (convertOnnxToMnn modelPath (cachePath modelPath)) :=
    (still_of_asking (only_findTool _ _)).bind fun _ => (still_tracebacks fun _ _ => rfl).bind fun _ =>
      (within_andAlso _ (still_of_asking (only_isWritten _))).bind fun _ =>
        .ite (.throw _) (still_tracebacks fun _ _ => rfl)
  exact ((still_of_asking (only_isFresh modelPath)).catching fun _ => .ite (.pure _) (.throw _)).bind
    fun _ => .ite (.pure _) (converted.bind fun _ => .pure _)

variable [NumPy]

theorem load_unkept (modelPath : PyStr) : Py.Within tracebacks Unkept (load modelPath) := by
  have said (line : LogLine) : Py.Within tracebacks Unkept (log line : HostM MnnBackend Unit) :=
    Py.Within.ask fun s t r t' step quiet => by
      obtain ⟨-, rfl⟩ := step
      cases line <;> exact ⟨quiet.kept, quiet.fading⟩
  have created (mnn : PyStr) : Py.Within tracebacks Py.Still (create mnn) :=
    Py.Within.get.bind fun _ => .ite (.throw _) <|
      (still_tracebacks fun _ _ => rfl).bind fun _ => .ofExcept _
  have dropped (old : Option Nat) : Py.Within tracebacks Py.Still (drop old) := by
    cases old with
    | none => exact .pure ()
    | some h => exact still_tracebacks fun _ _ => rfl
  refine (Py.Within.of_still (still_tracebacks fun _ _ => rfl)).bind fun onnx =>
    (Py.Within.of_still (silent_free (silent_ensureConverted modelPath))).bind fun mnn =>
    (Py.Within.of_still (created mnn)).bind fun h =>
    (Py.Within.of_still (still_of_asking (only_describe h))).bind fun shim => .ite ?_ ?_
  · exact (Py.Within.of_still (still_tracebacks fun _ _ => rfl)).bind fun _ => .throw _
  · exact Py.Within.get.bind fun self => (Py.Within.modify fun _ _ quiet => quiet).bind fun _ =>
      ((said _).bind fun _ => (Py.Within.traverse (fun _ => .ofExcept _) _).bind fun feeds =>
        (Py.Within.of_still (still_of_asking (only_infer feeds))).bind fun _ => said _).bind fun _ =>
          Py.Within.of_still (dropped self.h)

omit [NumPy] in
theorem close_unkept : Py.Within tracebacks Unkept close := by
  have dropped (old : Option Nat) : Py.Within tracebacks Py.Still (drop old) := by
    cases old with
    | none => exact .pure ()
    | some h => exact still_tracebacks fun _ _ => rfl
  exact Py.Within.get.bind fun _ => .ite (.pure _) <|
    (Py.Within.modify fun _ _ quiet => quiet).bind fun _ =>
      within_exceptException (Py.Within.of_still (dropped _)) fun _ => .pure _

end MnnBackend

/-! ## Behind the wrapper -/

theorem unkept_dropException {σ : Type} :
    Py.Within tracebacks Unkept (dropException : HostM σ Unit) :=
  within_dropException <| Py.Within.ask fun s t r t' step _ => by
    obtain ⟨-, rfl⟩ := step
    exact ⟨rfl, rfl⟩

theorem OnnxRuntimeBackend.load_unkept (modelPath : PyStr) :
    Py.Within tracebacks Unkept (load modelPath) := by
  have asked {c : HostCall} (same : ∀ t r, Tracebacks.note t c r = t) :
      Py.Within tracebacks Unkept (ask c : HostM OnnxRuntimeBackend c.Answer) :=
    .of_still (still_tracebacks same)
  exact Py.Within.get.bind fun _ => (asked fun _ _ => rfl).bind fun _ => (asked fun _ _ => rfl).bind
    fun _ => (Py.Within.ofExcept _).bind fun _ => (asked fun _ _ => rfl).bind fun _ =>
      (Py.Within.ofExcept _).bind fun _ => .modify fun _ _ quiet => quiet

namespace FallbackBackend

variable [NumPy] {t : Tracebacks}

/-- No net is alive that the primary does not hold, at any moment of the load, by this condition on
how far it came: every net that was made was installed, and the warm-up did not fail, unless the
primary was closed before and held nothing. -/
def Prompt (s : FallbackBackend NcnnBackend OnnxRuntimeBackend) (t : Tracebacks) : Prop :=
  t.pending = false ∧ (s.primary.net.isSome = true ∨ s.primary.closed = false → t.halfway = false)

section Unkept

variable {α : Type} [InferenceBackend α]

omit [NumPy] in
theorem closePrimary_unkept
    (close : Py.Within tracebacks Unkept (InferenceBackend.close : HostM α Unit)) :
    Py.Within tracebacks Unkept (closePrimary : HostM (FallbackBackend α OnnxRuntimeBackend) Unit) :=
  within_exceptException (unkept_zoom close) fun _ => .pure _

omit [NumPy] in
theorem tryPrimary_unkept {modelPath : PyStr}
    (load : Py.Within tracebacks Unkept (InferenceBackend.load modelPath : HostM α Unit))
    (close : Py.Within tracebacks Unkept (InferenceBackend.close : HostM α Unit)) :
    Py.Within tracebacks Unkept
      (tryPrimary modelPath : HostM (FallbackBackend α OnnxRuntimeBackend) Bool) :=
  within_exceptException ((unkept_zoom load).bind fun _ => (Py.Within.modify fun _ _ quiet => quiet).bind
    fun _ => .pure _) fun _ => (closePrimary_unkept close).bind fun _ => .pure _

omit [NumPy] in
theorem load_unkept {modelPath : PyStr}
    (load : Py.Within tracebacks Unkept (InferenceBackend.load modelPath : HostM α Unit))
    (close : Py.Within tracebacks Unkept (InferenceBackend.close : HostM α Unit)) :
    Py.Within tracebacks Unkept
      (FallbackBackend.load modelPath : HostM (FallbackBackend α OnnxRuntimeBackend) Unit) :=
  (tryPrimary_unkept load close).bind fun _ => .ite (.pure _) <| unkept_dropException.bind fun _ =>
    (unkept_zoom (OnnxRuntimeBackend.load_unkept modelPath)).bind fun _ =>
      .modify fun _ _ quiet => quiet

omit [NumPy] in
theorem close_unkept
    (close : Py.Within tracebacks Unkept (InferenceBackend.close : HostM α Unit)) :
    Py.Within tracebacks Unkept
      (FallbackBackend.close : HostM (FallbackBackend α OnnxRuntimeBackend) Unit) :=
  (closePrimary_unkept close).bind fun _ =>
    within_exceptException (unkept_zoom (.pure _)) fun _ => .pure _

end Unkept

variable {s : FallbackBackend NcnnBackend OnnxRuntimeBackend}

omit [NumPy] in
theorem fading_of_lapsed {t' : Tracebacks} (lapsed : s.primary.Lapsed t') (prompt : s.Prompt t') :
    t'.fading = [] := by
  by_contra fading
  rcases lapsed.fading fading with pending | ⟨halfway, net⟩
  · exact absurd (pending.symm.trans prompt.1) (by decide)
  · exact absurd (halfway.symm.trans (prompt.2 (.inl net))) (by decide)

omit [NumPy] in
theorem closed_of_kept {t' : Tracebacks} (lapsed : s.primary.Lapsed t') (prompt : s.Prompt t') :
    t'.kept = [] ∨ s.primary.closed = true := by
  by_contra other
  obtain ⟨kept, unclosed⟩ := not_or.mp other
  have unclosed : s.primary.closed = false := by simpa using unclosed
  rcases lapsed.kept kept with pending | halfway
  · exact absurd (pending.symm.trans prompt.1) (by decide)
  · exact absurd (halfway.symm.trans (prompt.2 (.inr unclosed))) (by decide)

theorem onPrimary_lapsed (modelPath : PyStr) (quiet : t.Quiet) :
    (onPrimary (InferenceBackend.load modelPath) : HostM (FallbackBackend NcnnBackend
      OnnxRuntimeBackend) Unit).wpc tracebacks (fun _ => True) (fun r s' t' =>
        s'.primary.closed = s.primary.closed ∧
          Py.either (fun _ => t'.Quiet) (fun _ => s.primary.Lapsed t') r) s t := by
  rw [onPrimary, Py.wpc_zoom]
  exact Py.wpc_mono (fun _ _ => trivial) (fun _ _ _ lapsed => lapsed)
    (NcnnBackend.load_lapsed modelPath quiet)

theorem tryPrimary_lapsed (modelPath : PyStr) (quiet : t.Quiet) :
    (tryPrimary modelPath : HostM (FallbackBackend NcnnBackend OnnxRuntimeBackend) Bool).wpc
      tracebacks (fun _ => True) (fun r _ t' => (s.Prompt t' → t'.fading = []) ∧
        (r = .ok true → t'.Quiet)) s t := by
  rw [tryPrimary, wpc_exceptException, Py.wpc_bind]
  refine Py.wpc_mono (fun _ _ => trivial) (fun r s₁ t₁ loaded => ?_) (onPrimary_lapsed modelPath quiet)
  obtain ⟨closed, lapsed⟩ := loaded
  cases r with
  | ok _ =>
      have quiet₁ : t₁.Quiet := lapsed
      exact ⟨fun _ => quiet₁.fading, fun _ => quiet₁⟩
  | error e =>
      have lapsed : s.primary.Lapsed t₁ := lapsed
      rw [Py.either_error, Py.either_error]
      split
      · rw [Py.wpc_bind, closePrimary, wpc_exceptException, onPrimary, Py.wpc_zoom]
        refine Py.wpc_mono (fun _ _ => trivial) (fun r s₂ t₂ closes => ?_)
          (NcnnBackend.close_lapsed (s := s₁.primary) (t := t₁))
        obtain ⟨only, same⟩ := closes
        have prompt₁ (prompt : s.Prompt t₂) : s.Prompt t₁ := by
          rw [only] at prompt
          exact prompt
        have faded (prompt : s.Prompt t₂) : t₂.fading = [] := by
          have unkept := closed_of_kept lapsed (prompt₁ prompt)
          rw [← closed] at unkept
          exact (same unkept).trans (fading_of_lapsed lapsed (prompt₁ prompt))
        cases r with
        | ok _ => exact ⟨faded, by rintro ⟨⟩⟩
        | error e =>
            rw [Py.either_error]
            split
            · exact ⟨faded, by rintro ⟨⟩⟩
            · exact ⟨faded, by rintro ⟨⟩⟩
      · exact ⟨fading_of_lapsed lapsed, by rintro ⟨⟩⟩

/-- When the load is over, only an exit request may still keep a net. -/
theorem load_lapsed (modelPath : PyStr) (quiet : t.Quiet) :
    (load modelPath : HostM (FallbackBackend NcnnBackend OnnxRuntimeBackend) Unit).wpc tracebacks
      (fun _ => True) (fun _ _ t' => s.Prompt t' → t'.fading = []) s t := by
  rw [load, Py.wpc_bind]
  refine Py.wpc_mono (fun _ _ => trivial) (fun r s₁ t₁ tried => ?_) (tryPrimary_lapsed modelPath quiet)
  cases r with
  | error e => exact tried.1
  | ok served =>
      rw [Py.either_ok, Py.wpc_ite]
      split
      · next serves => exact fun _ => (tried.2 (congrArg Except.ok serves)).fading
      · rw [Py.wpc_bind, wpc_dropException]
        rintro r t₂ ⟨-, rfl⟩
        refine ⟨trivial, ?_⟩
        have rest : Py.Within tracebacks Unkept (do
            onFallback (InferenceBackend.load modelPath)
            setActive .fallback : HostM (FallbackBackend NcnnBackend OnnxRuntimeBackend) Unit) :=
          (unkept_zoom (OnnxRuntimeBackend.load_unkept modelPath)).bind fun _ =>
            .modify fun _ _ quiet => quiet
        have dropped : (t₁.note .dropTraceback r).Quiet := ⟨rfl, rfl⟩
        rw [Py.either_ok]
        refine Py.wpc_mono (fun _ _ => trivial) (fun r s₂ t₂ kept _ => ?_)
          (rest s₁ (t₁.note .dropTraceback r))
        exact (kept dropped).fading

end FallbackBackend

end Detector
