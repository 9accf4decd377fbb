import FrigateAsahi.Backends.Calls

/-!
# An account of engine objects

Nets, handles and sessions are told apart by numbers that are never given out twice. `Engines` keeps
for each of them the files it was made from, and for nets and handles whether they are still in use: a
handle until it is destroyed, a net until the last variable that refers to it goes. `engines` is the
environment that keeps the account. `LawfulAccelerator` is the contract of an engine that a backend
may put in front of its CPU engine: what a load, an inference and a close do to the object that the
engine holds and to the account.
-/

namespace Detector

open Text Python Numpy Interaction

/-! ## The account -/

/-- Where an object comes from: for a net and a handle the ONNX model that names its inputs and
outputs, and the files that were loaded into it, in this order. -/
inductive Provenance : Type
  | net (model : PyStr) (files : List PyStr)
  | handle (model file : PyStr)
  | session (file : PyStr)
  deriving DecidableEq

namespace Provenance

/-- The object was loaded from this ONNX model: from the model itself, or from the files next to it
that the converter makes of it. -/
def IsOf (path : PyStr) : Provenance → Prop
  | .net model files => model = path ∧
    files = [(NcnnBackend.cachePaths path).1, (NcnnBackend.cachePaths path).2]
  | .handle model file => model = path ∧ file = MnnBackend.cachePath path
  | .session file => file = path

instance (path : PyStr) (o : Provenance) : Decidable (o.IsOf path) :=
  match o with
  | .net _ _ | .handle _ _ => inferInstanceAs (Decidable (_ ∧ _))
  | .session _ => inferInstanceAs (Decidable (_ = _))

/-- One more file was loaded into a net. -/
def addFile (path : PyStr) : Provenance → Provenance
  | .net model files => .net model (files ++ [path])
  | o => o

end Provenance

structure Engines : Type where
  /-- The model that the latest load reads. -/
  reading : PyStr
  /-- What each object was made from. -/
  made : Nat → Option Provenance
  /-- The nets and handles that were not released. -/
  live : List Nat
  /-- Something was used or released that was not alive. -/
  misused : Bool
  /-- A question about the inputs and outputs of a new handle failed. -/
  undescribed : Bool
  /-- An object was installed and not yet warmed up. -/
  halfway : Bool
  /-- The CPU engine did not make a session with inputs and outputs. -/
  cpuFailed : Bool
  /-- The server went about loading a model. -/
  loading : Bool

namespace Engines

def start : Engines := ⟨[], fun _ => none, [], false, false, false, false, false⟩

/-- Forget what belongs to one operation. -/
def forget (w : Engines) : Engines :=
  { w with undescribed := false, halfway := false, cpuFailed := false, loading := false }

def record (w : Engines) (h : Nat) (o : Provenance) : Engines :=
  { w with made := Function.update w.made h (some o) }

def make (w : Engines) (h : Nat) (o : Provenance) : Engines :=
  { w.record h o with live := h :: w.live }

/-- What a net is asked to load becomes a part of it if the answer is zero. -/
def addFile (w : Engines) (h : Nat) (path : PyStr) : Except PyErr Int → Engines
  | .ok ret =>
    if ret = 0 then { w with made := Function.update w.made h ((w.made h).map (.addFile path)) } else w
  | .error _ => w

/-- The object was loaded from this model. -/
def MadeFrom (w : Engines) (h : Nat) (path : PyStr) : Prop :=
  ∃ o, w.made h = some o ∧ o.IsOf path

def use (w : Engines) (h : Nat) : Engines := { w with misused := w.misused || decide (h ∉ w.live) }

def release (w : Engines) (h : Nat) : Engines :=
  { w.use h with live := w.live.filter (· ≠ h) }

/-- Release what may be there. -/
def drop (w : Engines) : Option Nat → Engines
  | none => w
  | some h => w.release h

/-- Whether a question about an input or output got an answer that can be read. -/
def described : Except PyErr IoInfo → Bool
  | .ok info => (MnnBackend.ioEntry info).isOk
  | .error _ => false

def isError {α : Type} : Except PyErr α → Bool
  | .ok _ => false
  | .error _ => true

/-- Whether a session was found to have inputs, or outputs. -/
def hasNames : Except PyErr (List PyStr) → Bool
  | .ok (_ :: _) => true
  | _ => false

/-- Numbers are new. Releasing an object, logging and waiting do not fail. -/
def Legal (w : Engines) : (c : HostCall) → Except PyErr c.Answer → Prop
  | .ncnnNet, .ok h | .mnnCreate _ _ _ _, .ok (some h) | .ortSession _ _ _, .ok h => w.made h = none
  | .ncnnRelease _, r | .tracebackKeeps _, r | .dropTraceback, r | .mnnDestroy _, r | .log _, r =>
    r = .ok ()
  | .sleep, .error e => ¬ e.IsException
  | _, _ => True

def note (w : Engines) : (c : HostCall) → Except PyErr c.Answer → Engines
  | .onnxIoMeta path, _ => { w with reading := path }
  | .ncnnNet, .ok h => w.make h (.net w.reading [])
  | .ncnnLoadParam h path, r | .ncnnLoadModel h path, r => (w.use h).addFile h path r
  | .mnnCreate path _ _ _, .ok (some h) => w.make h (.handle w.reading path)
  | .ncnnOptions h _ _ _ _, _ | .ncnnInputNames h, _ | .ncnnOutputNames h, _ | .ncnnExtractor h, _
  | .mnnInfer (some h) _ _, _ => w.use h
  | .mnnNumInputs h, r | .mnnNumOutputs h, r =>
    { w.use h with undescribed := w.undescribed || isError r }
  | .mnnIoInfo h _ _, r => { w.use h with undescribed := w.undescribed || !described r }
  | .ncnnRelease h, _ | .mnnDestroy h, _ => w.release h
  | .ortSession path _ _, .ok h => Engines.record { w with reading := path } h (.session path)
  | .ortSession path _ _, .error _ => { w with reading := path, cpuFailed := true }
  | .ortInputs _, r | .ortOutputs _, r => { w with cpuFailed := w.cpuFailed || !hasNames r }
  | .log (.loaded _), _ => { w with halfway := true }
  | .log (.warmUpOk _), _ => { w with halfway := false }
  | .log (.loadingModel _), _ => { w with loading := true }
  | _, _ => w

/-- Nothing that was made is forgotten. -/
def Grown (w w' : Engines) : Prop := ∀ h o, w.made h = some o → w'.made h = some o

/-- Objects were made and released, and nothing else happened. -/
structure Calm (w w' : Engines) : Prop where
  grown : w.Grown w'
  rest : w' = { w with made := w'.made }

theorem Grown.trans {w w' w'' : Engines} (first : w.Grown w') (next : w'.Grown w'') :
    w.Grown w'' :=
  fun h o made => next h o (first h o made)

theorem Grown.fresh {w w' : Engines} (grown : w.Grown w') {h : Nat} (fresh : w'.made h = none) :
    w.made h = none := by
  cases made : w.made h with
  | none => rfl
  | some o => rw [grown h o made] at fresh; cases fresh

theorem MadeFrom.grown {w w' : Engines} {h : Nat} {path : PyStr} (made : w.MadeFrom h path)
    (grown : w.Grown w') : w'.MadeFrom h path := by
  obtain ⟨o, made, isOf⟩ := made
  exact ⟨o, grown h o made, isOf⟩

theorem MadeFrom.known {w : Engines} {h : Nat} {path : PyStr} (made : w.MadeFrom h path) :
    (w.made h).isSome = true := by
  obtain ⟨o, made, -⟩ := made
  rw [made]
  rfl

theorem Calm.refl (w : Engines) : w.Calm w := ⟨fun _ _ made => made, rfl⟩

theorem Calm.trans {w w' w'' : Engines} (first : w.Calm w') (next : w'.Calm w'') :
    w.Calm w'' := by
  refine ⟨first.grown.trans next.grown, ?_⟩
  rw [next.rest, first.rest]

theorem Calm.known {w w' : Engines} (calm : w.Calm w')
    (known : ∀ h ∈ w.live, (w.made h).isSome = true) :
    ∀ h ∈ w'.live, (w'.made h).isSome = true := by
  intro h live
  rw [calm.rest] at live
  obtain ⟨o, made⟩ := Option.isSome_iff_exists.mp (known h live)
  rw [calm.grown h o made]
  rfl

theorem Calm.reading {w w' : Engines} (calm : w.Calm w') : w'.reading = w.reading := by
  rw [calm.rest]

theorem use_of_live {w : Engines} {h : Nat} (live : h ∈ w.live) : w.use h = w := by
  simp [use, live]

theorem grown_record {w : Engines} {h : Nat} (fresh : w.made h = none) (o : Provenance) :
    w.Grown (w.record h o) := by
  intro h' o' made
  have other : h' ≠ h := by
    rintro rfl
    rw [fresh] at made
    cases made
  simpa [record, other] using made

/-- Releasing what is alive only shortens the list. -/
theorem drop_of_live {w : Engines} {old : Option Nat} (held : ∀ h, old = some h → h ∈ w.live) :
    w.drop old = { w with live := w.live.filter fun h => old ≠ some h } := by
  cases old with
  | none => simp [drop]
  | some h =>
      rw [drop, release, use_of_live (held h rfl)]
      simp [eq_comm]

theorem not_live_of_fresh {w : Engines} {h : Nat} (fresh : w.made h = none)
    (known : ∀ h ∈ w.live, (w.made h).isSome = true) : h ∉ w.live := by
  intro live
  have made := known h live
  rw [fresh] at made
  cases made

/-- A new net after it was asked to load a file. -/
theorem addFile_make (w : Engines) (h : Nat) (model path : PyStr) (files : List PyStr)
    (r : Except PyErr Int) : ∃ files',
      ((w.make h (.net model files)).use h).addFile h path r = w.make h (.net model files') ∧
        (r = .ok 0 → files' = files ++ [path]) := by
  rw [use_of_live (w := w.make h (.net model files)) List.mem_cons_self]
  cases r with
  | error e => exact ⟨files, rfl, by rintro ⟨⟩⟩
  | ok ret =>
      by_cases zero : ret = 0
      · refine ⟨files ++ [path], ?_, fun _ => rfl⟩
        simp [make, record, addFile, zero, Provenance.addFile]
      · refine ⟨files, ?_, fun same => ?_⟩
        · simp [addFile, zero]
        · exact absurd (Except.ok.inj same) zero

/-- An object that was made and released again. -/
theorem calm_release_make {w : Engines} {h : Nat} (fresh : w.made h = none)
    (known : ∀ h ∈ w.live, (w.made h).isSome = true) (o : Provenance) :
    w.Calm ((w.make h o).release h) := by
  have absent := not_live_of_fresh fresh known
  refine ⟨grown_record fresh o, ?_⟩
  simp only [release, use, make, record, List.filter_cons, List.mem_cons, true_or, not_true,
    decide_false, Bool.or_false, ne_eq, if_false, Bool.false_eq_true, mk.injEq, true_and]
  exact ⟨List.filter_eq_self.mpr fun h' mem => by
    simpa using fun same : h' = h => absent (same ▸ mem), trivial⟩

end Engines

def engines : Env Host Engines := .noting Engines.Legal Engines.note

section Rules

variable {σ : Type} {s : σ} {w : Engines} {C : Engines → Prop}

/-- A call of which no note is taken. -/
theorem wpc_unnoted {c : HostCall} (same : ∀ r, w.note c r = w)
    {Q : Except PyErr c.Answer → σ → Engines → Prop} :
    (ask c).wpc engines (fun _ => True) Q s w ↔ ∀ r, w.Legal c r → Q r s w := by
  rw [Py.wpc_ask]
  constructor
  · intro all r legal
    have noted := (all r (w.note c r) ⟨legal, rfl⟩).2
    rwa [same r] at noted
  · rintro all r w' ⟨legal, rfl⟩
    rw [same r]
    exact ⟨trivial, all r legal⟩

theorem wpc_log {line : LogLine} {Q : Except PyErr Unit → σ → Engines → Prop} :
    (log line).wpc engines (fun _ => True) Q s w ↔ Q (.ok ()) s (w.note (.log line) (.ok ())) := by
  rw [Py.wpc_ask]
  constructor
  · exact fun all => (all (.ok ()) _ ⟨rfl, rfl⟩).2
  · rintro post r w' ⟨legal, rfl⟩
    cases r with
    | ok _ => exact ⟨trivial, post⟩
    | error e => cases legal

theorem wpc_handled {Q : Except PyErr Unit → σ → Engines → Prop} :
    dropException.wpc engines (fun _ => True) Q s w ↔ Q (.ok ()) s w := by
  rw [wpc_dropException]
  constructor
  · exact fun all => (all (.ok ()) w ⟨rfl, rfl⟩).2
  · rintro post r w' ⟨-, rfl⟩
    exact ⟨trivial, post⟩

end Rules

/-! ## Methods of which no note is taken -/

section Still

variable {σ α : Type}

theorem still_ask {c : HostCall} (same : ∀ w r, Engines.note w c r = w) :
    Py.Within engines Py.Still (ask c : HostM σ c.Answer) := by
  refine Py.Within.ask fun s w r w' step => ?_
  obtain ⟨-, rfl⟩ := step
  exact Prod.ext rfl (same w r)

theorem still_require (x : Option α) (msg : String) :
    Py.Within engines Py.Still (require x msg : HostM σ α) :=
  .ofExcept _

theorem still_findTool (name variableName : String) :
    Py.Within engines Py.Still (findTool name variableName) :=
  (still_ask fun _ _ => rfl).bind fun _ => ((within_andAlso _ (still_ask fun _ _ => rfl)).bind
    fun _ => within_andAlso _ (still_ask fun _ _ => rfl)).bind fun _ =>
      .ite (.pure _) (still_ask fun _ _ => rfl)

theorem wpc_free_still {p : HostM Unit α} (still : Py.Within engines Py.Still p) (s : σ)
    (w : Engines) :
    (free p).wpc engines (fun _ => True) (fun _ s' w' => s' = s ∧ w' = w) s w := by
  rw [wpc_free]
  refine Py.wpc_mono (fun _ _ => trivial) (fun r _ w' same => ?_) (still () w)
  exact ⟨rfl, congrArg Prod.snd same⟩

theorem wpc_free_returns {p : HostM Unit α} {ψ : α → Prop} (still : Py.Within engines Py.Still p)
    (returns : Py.Returns engines ψ p) (s : σ) (w : Engines) :
    (free p).wpc engines (fun _ => True)
      (fun r s' w' => (s' = s ∧ w' = w) ∧ Py.either ψ (fun _ => True) r) s w := by
  rw [wpc_free]
  refine Py.wpc_mono (fun _ _ => trivial) (fun r _ w' both => ?_)
    (Py.wpc_and (still () w) (returns () w))
  exact ⟨⟨rfl, congrArg Prod.snd both.1⟩, both.2⟩

end Still

/-! ## Engines -/

/-- A backend that holds at most one net or handle. -/
class Accelerator (α : Type) extends InferenceBackend α where
  engaged : α → Option Nat
  closed : α → Bool
  /-- What a load from a state must not meet, by the end of it, to leave the account exact. -/
  Tight : α → Engines → Prop

section Contract

variable {α : Type} [Accelerator α]

/-- What is held is alive, and nothing was misused. -/
structure Safe (s : α) (w : Engines) : Prop where
  unmisused : w.misused = false
  held : ∀ h, Accelerator.engaged s = some h → h ∈ w.live
  known : ∀ h ∈ w.live, (w.made h).isSome = true

/-- What is alive is held. -/
def Exact (s : α) (w : Engines) : Prop := w.live = (Accelerator.engaged s).toList

/-- The engine holds an object that was loaded from this model since `w`. -/
def Installed (modelPath : PyStr) (w : Engines) (s' : α) (w' : Engines) : Prop :=
  ∃ h, Accelerator.engaged s' = some h ∧ w.made h = none ∧ w'.MadeFrom h modelPath

/-- What a load does. -/
structure Loads (modelPath : PyStr) (s : α) (w : Engines) (r : Except PyErr Unit) (s' : α)
    (w' : Engines) : Prop where
  safe : Safe s' w'
  closed : Accelerator.closed s' = Accelerator.closed s
  grown : w.Grown w'
  cpuFailed : w'.cpuFailed = w.cpuFailed
  loading : w'.loading = w.loading
  exact : Accelerator.Tight s w' → Exact s w → Exact s' w'
  outcome : Py.either
    (fun _ => w'.halfway = false ∧ w'.reading = modelPath ∧ Installed modelPath w s' w')
    (fun _ => w'.halfway = false ∧ Accelerator.engaged s' = Accelerator.engaged s ∨
      w'.halfway = true ∧ Installed modelPath w s' w') r

/-- Reading the model's metadata is the first thing that a load does. -/
theorem Loads.of_reading {modelPath : PyStr} {s s' : α} {w w' : Engines} {r : Except PyErr Unit}
    (rest : Loads modelPath s { w with reading := modelPath } r s' w') :
    Loads modelPath s w r s' w' :=
  ⟨rest.safe, rest.closed, rest.grown, rest.cpuFailed, rest.loading, rest.exact, rest.outcome⟩

theorem Safe.of_calm {s : α} {w w' : Engines} (safe : Safe s w) (calm : w.Calm w') : Safe s w' := by
  have rest := calm.rest
  refine ⟨?_, ?_, ?_⟩
  · rw [rest]
    exact safe.unmisused
  · rw [rest]
    exact safe.held
  · exact calm.known safe.known

/-- A load that fails before anything is installed. -/
theorem Loads.failed {modelPath : PyStr} {s : α} {w w' : Engines} {e : PyErr} (safe : Safe s w)
    (ready : w.halfway = false) (calm : w.Calm w') : Loads modelPath s w (.error e) s w' := by
  have rest := calm.rest
  refine ⟨safe.of_calm calm, rfl, calm.grown, ?_, ?_, ?_, .inl ⟨?_, rfl⟩⟩
  · rw [rest]
  · rw [rest]
  · intro _ exact_
    rw [Exact, rest]
    exact exact_
  · rw [rest]
    exact ready

theorem loads_reading {modelPath : PyStr} {s : α} {w : Engines} {f : IoMeta × IoMeta → HostM α Unit}
    (safe : Safe s w) (ready : w.halfway = false)
    (rest : ∀ io w₁, Safe s w₁ → w₁.halfway = false → w₁.reading = modelPath →
      (f io).wpc engines (fun _ => True) (Loads modelPath s w₁) s w₁) :
    (ask (.onnxIoMeta modelPath) >>= f).wpc engines (fun _ => True) (Loads modelPath s w) s w := by
  rw [Py.wpc_bind, Py.wpc_ask]
  rintro r w' ⟨-, rfl⟩
  have safe₁ : Safe s { w with reading := modelPath } := ⟨safe.unmisused, safe.held, safe.known⟩
  refine ⟨trivial, ?_⟩
  cases r with
  | error e => exact (Loads.failed safe₁ ready (.refl _)).of_reading
  | ok io =>
      exact Py.wpc_mono (fun _ _ => trivial) (fun _ _ _ loads => loads.of_reading)
        (rest io _ safe₁ ready rfl)

/-- A load that made and released objects on the way. -/
theorem Loads.of_calm {modelPath : PyStr} {s s' : α} {w w₁ w' : Engines} {r : Except PyErr Unit}
    (calm : w.Calm w₁) (loads : Loads modelPath s w₁ r s' w') : Loads modelPath s w r s' w' := by
  have rest := calm.rest
  have installed : Installed modelPath w₁ s' w' → Installed modelPath w s' w' := by
    rintro ⟨h, engaged, fresh, made⟩
    exact ⟨h, engaged, calm.grown.fresh fresh, made⟩
  refine ⟨loads.safe, loads.closed, calm.grown.trans loads.grown, ?_, ?_, ?_, ?_⟩
  · rw [loads.cpuFailed, rest]
  · rw [loads.loading, rest]
  · intro tight exact_
    refine loads.exact tight ?_
    rw [Exact, rest]
    exact exact_
  · have outcome := loads.outcome
    cases r with
    | ok _ => exact ⟨outcome.1, outcome.2.1, installed outcome.2.2⟩
    | error e => exact outcome.imp_right fun halfway => ⟨halfway.1, installed halfway.2⟩

/-- A load that puts a new object in place of an old one, which it may have released. -/
theorem Loads.replaced {modelPath : PyStr} {s s' : α} {w w' : Engines} {r : Except PyErr Unit}
    (safe : Safe s w) {h : Nat} (fresh : w.made h = none) {o : Provenance} (isOf : o.IsOf modelPath)
    (reading : w.reading = modelPath)
    (engaged : Accelerator.engaged s' = some h) (closed : Accelerator.closed s' = Accelerator.closed s)
    {halfway : Bool} (dropped : Option Nat)
    (world : w' = Engines.drop { w.make h o with halfway := halfway } dropped)
    (old : ∀ h', dropped = some h' → Accelerator.engaged s = some h')
    (tight : Accelerator.Tight s w' → dropped = Accelerator.engaged s)
    (flag : Py.either (fun _ => halfway = false) (fun _ => halfway = true) r) :
    Loads modelPath s w r s' w' := by
  have absent := Engines.not_live_of_fresh fresh safe.known
  have kept : dropped ≠ some h := fun same => absent (safe.held h (old h same))
  rw [Engines.drop_of_live fun h' drops => List.mem_cons_of_mem h (safe.held h' (old h' drops))] at world
  have live_eq : w'.live = (h :: w.live).filter fun h' => dropped ≠ some h' := by
    rw [world]
    rfl
  have installed : Installed modelPath w s' w' := by
    refine ⟨h, engaged, fresh, o, ?_, isOf⟩
    rw [world]
    simp [Engines.make, Engines.record]
  have grown : w.Grown w' := by
    rw [world]
    exact Engines.grown_record fresh o
  refine ⟨⟨?_, ?_, ?_⟩, closed, grown, ?_, ?_, ?_, ?_⟩
  · rw [world]
    exact safe.unmisused
  · intro h' held
    obtain rfl : h = h' := Option.some.inj (engaged.symm.trans held)
    rw [live_eq]
    exact List.mem_filter.mpr ⟨List.mem_cons_self, by simpa using kept⟩
  · intro h' live
    rw [live_eq] at live
    rcases List.mem_cons.mp (List.mem_of_mem_filter live) with rfl | live
    · obtain ⟨h'', engaged', -, made⟩ := installed
      obtain rfl : h' = h'' := Option.some.inj (engaged.symm.trans engaged')
      exact made.known
    · obtain ⟨o', made⟩ := Option.isSome_iff_exists.mp (safe.known h' live)
      rw [grown h' o' made]
      rfl
  · rw [world]
    rfl
  · rw [world]
    rfl
  · intro tight' exact_
    have same := tight tight'
    rw [Exact] at exact_
    rw [Exact, live_eq, engaged, exact_, ← same, List.filter_cons, if_pos (by simpa using kept)]
    cases dropped with
    | none => rfl
    | some h' => simp
  · have halfway_eq : w'.halfway = halfway := by rw [world]
    cases r with
    | ok _ =>
        refine ⟨halfway_eq.trans flag, ?_, installed⟩
        rw [world]
        exact reading
    | error e => exact .inr ⟨halfway_eq.trans flag, installed⟩

/-- What a close does, and does only once. -/
structure Closes (s : α) (w : Engines) (r : Except PyErr Unit) (s' : α) (w' : Engines) : Prop where
  safe : Safe s' w'
  closed : Accelerator.closed s' = true
  engaged : Accelerator.engaged s' = if Accelerator.closed s then Accelerator.engaged s else none
  grown : w' = { w with live := w'.live }
  exact : Exact s w → Exact s' w'
  outcome : Py.either (fun _ => True) (fun e => ¬ e.IsException) r

theorem Closes.again {s : α} {w : Engines} (safe : Safe s w) (closed : Accelerator.closed s = true) :
    Closes s w (.ok ()) s w :=
  ⟨safe, closed, (if_pos closed).symm, rfl, fun exact_ => exact_, trivial⟩

theorem Closes.released {s s' : α} {w : Engines} {r : Except PyErr Unit} (safe : Safe s w)
    (unclosed : ¬ Accelerator.closed s = true) (closed : Accelerator.closed s' = true)
    (engaged : Accelerator.engaged s' = none)
    (outcome : Py.either (fun _ => True) (fun e => ¬ e.IsException) r) :
    Closes s w r s' (w.drop (Accelerator.engaged s)) := by
  have dropped := Engines.drop_of_live safe.held
  refine ⟨⟨?_, ?_, ?_⟩, closed, engaged.trans (if_neg unclosed).symm, ?_, ?_, outcome⟩
  · rw [dropped]
    exact safe.unmisused
  · intro h held
    rw [engaged] at held
    cases held
  · intro h live
    rw [dropped] at live ⊢
    exact safe.known h (List.mem_of_mem_filter live)
  · rw [dropped]
  · intro exact_
    rw [Exact] at exact_
    rw [Exact, engaged, dropped, exact_]
    cases Accelerator.engaged s with
    | none => rfl
    | some h => simp

end Contract

/-- The contract. -/
class LawfulAccelerator (α : Type) [Accelerator α] : Prop where
  tight (s : α) {w w' : Engines} : w'.undescribed = w.undescribed → w'.halfway = w.halfway →
    Accelerator.Tight s w' → Accelerator.Tight s w
  loaded_eq (s : α) : InferenceBackend.loaded s = (Accelerator.engaged s).isSome
  load (modelPath : PyStr) {s : α} {w : Engines} : Safe s w → w.halfway = false →
    (InferenceBackend.load modelPath).wpc engines (fun _ => True) (Loads modelPath s w) s w
  infer (feeds : Feeds) {s : α} {w : Engines} : Safe s w →
    (InferenceBackend.infer feeds).wpc engines (fun _ => True) (fun _ s' w' => s' = s ∧ w' = w) s w
  inputNames {s : α} {w : Engines} : Safe s w →
    (InferenceBackend.inputNames (β := α)).wpc engines (fun _ => True)
      (fun _ s' w' => s' = s ∧ w' = w) s w
  close {s : α} {w : Engines} : Safe s w →
    InferenceBackend.close.wpc engines (fun _ => True) (Closes s w) s w

end Detector
