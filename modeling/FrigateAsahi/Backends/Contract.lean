import FrigateAsahi.Backends.FallbackContract

/-!
# What the methods of a backend do

The contracts of the engines and of the wrapper, brought together for every backend that a factory
can build and for the bare engines. `Backend.held` is the net or handle that a backend answers for,
`Backend.engaged` the object that its inferences go to.
-/

namespace Detector

open Text Python Numpy Interaction

namespace Backend

/-- The net or handle that the backend has to release. -/
def held : Backend → Option Nat
  | .ort _ => none
  | .ncnn b => b.net
  | .mnn b => b.h
  | .ncnnFallback b => b.primary.net
  | .mnnFallback b => b.primary.h

/-- Whether the engine that may hold something was closed. -/
def closed : Backend → Bool
  | .ort _ => false
  | .ncnn b => b.closed
  | .mnn b => b.closed
  | .ncnnFallback b => b.primary.closed
  | .mnnFallback b => b.primary.closed

/-- A backend as a factory or a constructor leaves it. -/
inductive Fresh : Backend → Prop
  | built {b : Backend} : b.Built → Fresh b
  | ncnn (useVulkan fp16 : Bool) (threads deviceIndex : Option Int) :
    Fresh (.ncnn (.init useVulkan fp16 threads deviceIndex))
  | mnn (forwardType : Int) (fp16 : Bool) (threads : Option Int) :
    Fresh (.mnn (.init forwardType fp16 threads))

theorem Fresh.held {b : Backend} (fresh : b.Fresh) : b.held = none := by
  cases fresh with
  | built built => cases built <;> rfl
  | ncnn _ _ _ _ => rfl
  | mnn _ _ _ => rfl

/-- What a load with MNN must not meet: a question about a new handle that fails, or, where there
was a handle before, a warm-up that fails. -/
def Tight (b : Backend) (w : Engines) : Prop :=
  match b with
  | .mnn b => w.undescribed = false ∧ (b.h.isSome = true → w.halfway = false)
  | .mnnFallback b => w.undescribed = false ∧ (b.primary.h.isSome = true → w.halfway = false)
  | _ => True

instance (b : Backend) (w : Engines) : Decidable (b.Tight w) :=
  match b with
  | .ort _ | .ncnn _ | .ncnnFallback _ => inferInstanceAs (Decidable True)
  | .mnn _ | .mnnFallback _ => inferInstanceAs (Decidable (_ ∧ (_ → _)))

/-- What is held is alive, and nothing was misused. -/
structure Safe (b : Backend) (w : Engines) : Prop where
  unmisused : w.misused = false
  held : ∀ h, b.held = some h → h ∈ w.live
  known : ∀ h ∈ w.live, (w.made h).isSome = true

/-- From an engine's load to the facts about the object that serves. -/
theorem fails_of_loads {α : Type} [Accelerator α] {modelPath : PyStr} {s s' : α}
    {w w' : Engines} {e : PyErr} (safe : Detector.Safe s w)
    (loads : Detector.Loads modelPath s w (.error e) s' w') :
    (w'.halfway = false → Accelerator.engaged s' = Accelerator.engaged s) ∧
      (¬ w'.halfway = false → Accelerator.engaged s' ≠ Accelerator.engaged s) := by
  rcases loads.outcome with ⟨ready, same⟩ | ⟨half, h, installed, fresh, -⟩
  · exact ⟨fun _ => same, fun other => absurd ready other⟩
  · refine ⟨fun ready => ?_, fun _ same => ?_⟩
    · rw [half] at ready
      cases ready
    · have live := safe.held h (same.symm.trans installed)
      exact Engines.not_live_of_fresh fresh safe.known live

variable [NumPy]

/-- The object that an inference goes to. -/
def engaged : Backend → Option Nat
  | .ort b => b.session
  | .ncnn b => b.net
  | .mnn b => b.h
  | .ncnnFallback b => b.engaged
  | .mnnFallback b => b.engaged

/-- A failed load leaves the object that serves in service, by this condition. -/
def Keeps (b : Backend) (w : Engines) : Prop :=
  match b with
  | .ort _ => True
  | .ncnn _ => w.halfway = false
  | .mnn _ => w.halfway = false
  | .ncnnFallback b => b.Keeps w
  | .mnnFallback b => b.Keeps w

/-- A failed load brings no other object into service, by this condition. -/
def Sound (b : Backend) (w : Engines) : Prop :=
  match b with
  | .ort _ => True
  | .ncnn _ => w.halfway = false
  | .mnn _ => w.halfway = false
  | .ncnnFallback b => b.Sound w
  | .mnnFallback b => b.Sound w

instance (b : Backend) (w : Engines) : Decidable (b.Keeps w) :=
  match b with
  | .ort _ => inferInstanceAs (Decidable True)
  | .ncnn _ | .mnn _ => inferInstanceAs (Decidable (w.halfway = false))
  | .ncnnFallback b => inferInstanceAs (Decidable (b.Keeps w))
  | .mnnFallback b => inferInstanceAs (Decidable (b.Keeps w))

instance (b : Backend) (w : Engines) : Decidable (b.Sound w) :=
  match b with
  | .ort _ => inferInstanceAs (Decidable True)
  | .ncnn _ | .mnn _ => inferInstanceAs (Decidable (w.halfway = false))
  | .ncnnFallback b => inferInstanceAs (Decidable (b.Sound w))
  | .mnnFallback b => inferInstanceAs (Decidable (b.Sound w))

theorem loaded_eq (b : Backend) : InferenceBackend.loaded b = b.engaged.isSome := by
  have wrapped {α : Type} [Accelerator α] [LawfulAccelerator α]
      (f : FallbackBackend α OnnxRuntimeBackend) : f.loaded = f.engaged.isSome := by
    unfold FallbackBackend.loaded FallbackBackend.engaged
    cases f.active with
    | none => rfl
    | some active =>
        cases active with
        | primary => exact LawfulAccelerator.loaded_eq f.primary
        | fallback => rfl
  cases b with
  | ort b => rfl
  | ncnn b => rfl
  | mnn b => rfl
  | ncnnFallback b => exact wrapped b
  | mnnFallback b => exact wrapped b

/-! ## Loads -/

/-- What a failed load does to the object that serves. -/
structure Fails (b : Backend) (b' : Backend) (w' : Engines) : Prop where
  keeps : b.Keeps w' → b'.engaged = b.engaged
  loses : ¬ b.Keeps w' → b.engaged ≠ none → b'.engaged ≠ b.engaged
  sound : b.Sound w' → ∀ h, b'.engaged = some h → b.engaged = some h

/-- What a load does. -/
structure Loads (modelPath : PyStr) (b : Backend) (w : Engines) (r : Except PyErr Unit)
    (b' : Backend) (w' : Engines) : Prop where
  safe : b'.Safe w'
  grown : w.Grown w'
  loading : w'.loading = w.loading
  exact : b.Tight w' → w.live = b.held.toList → w'.live = b'.held.toList
  outcome : Py.either
    (fun _ => w'.reading = modelPath ∧
      ∃ h, b'.engaged = some h ∧ w.made h = none ∧ w'.MadeFrom h modelPath)
    (fun e => e.IsException → b.Fails b' w') r

section Wrapped

variable {modelPath : PyStr} {w w' : Engines} {r : Except PyErr Unit}

/-- A bare engine, seen as a backend. -/
theorem loads_of_loads {α : Type} [Accelerator α] {b b' : Backend} {s s' : α}
    (held : b.held = Accelerator.engaged s) (held' : b'.held = Accelerator.engaged s')
    (engaged : b.engaged = Accelerator.engaged s) (engaged' : b'.engaged = Accelerator.engaged s')
    (tight : b.Tight w' → Accelerator.Tight s w') (keeps : b.Keeps w' ↔ w'.halfway = false)
    (sound : b.Sound w' ↔ w'.halfway = false) (safe : Detector.Safe s w)
    (loads : Detector.Loads modelPath s w r s' w') : Loads modelPath b w r b' w' := by
  refine ⟨⟨loads.safe.unmisused, held' ▸ loads.safe.held, loads.safe.known⟩, loads.grown,
    loads.loading, ?_, ?_⟩
  · intro tight' exact_
    rw [held']
    rw [held] at exact_
    exact loads.exact (tight tight') exact_
  · cases r with
    | ok _ =>
        obtain ⟨-, reading, h, installed, fresh, made⟩ := loads.outcome
        exact ⟨reading, h, engaged'.trans installed, fresh, made⟩
    | error e =>
        obtain ⟨same, other⟩ := fails_of_loads safe loads
        refine fun _ => ⟨?_, ?_, ?_⟩
        · intro kept
          rw [engaged, engaged']
          exact same (keeps.mp kept)
        · intro lost _
          rw [engaged, engaged']
          exact other (mt keeps.mpr lost)
        · intro sound' h serves
          rw [engaged, ← same (sound.mp sound'), ← engaged']
          exact serves

/-- A wrapped engine, seen as a backend. -/
theorem loads_of_switches {α : Type} [Accelerator α] {b b' : Backend}
    {s s' : FallbackBackend α OnnxRuntimeBackend}
    (held : b.held = Accelerator.engaged s.primary)
    (held' : b'.held = Accelerator.engaged s'.primary)
    (engaged : b.engaged = s.engaged) (engaged' : b'.engaged = s'.engaged)
    (tight : b.Tight w' → Accelerator.Tight s.primary w') (keeps : b.Keeps w' ↔ s.Keeps w')
    (sound : b.Sound w' ↔ s.Sound w') (safe : Detector.Safe s.primary w)
    (switches : FallbackBackend.Switches modelPath s w r s' w') :
    Loads modelPath b w r b' w' := by
  refine ⟨⟨switches.safe.unmisused, held' ▸ switches.safe.held, switches.safe.known⟩,
    switches.grown, switches.loading, ?_, ?_⟩
  · intro tight' exact_
    rw [held']
    rw [held] at exact_
    exact switches.exact (tight tight') exact_
  · cases r with
    | ok _ =>
        obtain ⟨reading, h, serves, fresh, made⟩ := switches.outcome
        exact ⟨reading, h, engaged'.trans serves, fresh, made⟩
    | error e =>
        intro raised
        refine ⟨?_, ?_, ?_⟩
        · intro kept
          rw [engaged, engaged']
          exact FallbackBackend.engaged_of_keeps switches raised (keeps.mp kept)
        · intro lost serving
          rw [engaged] at serving
          rw [engaged, engaged']
          exact FallbackBackend.engaged_of_not_keeps switches raised safe (mt keeps.mpr lost) serving
        · intro sound' h serves
          rw [engaged]
          rw [engaged'] at serves
          exact FallbackBackend.engaged_of_sound switches raised (sound.mp sound') serves

end Wrapped

variable {b : Backend} {w : Engines}

/-- The rule for a method of the engine inside. -/
theorem wpc_dispatch {γ W : Type} {E : Env Host W} {C : W → Prop} {w : W}
    {method : ∀ {β : Type}, [InferenceBackend β] → HostM β γ}
    {Q : Except PyErr γ → Backend → W → Prop} :
    (dispatch method).wpc E C Q b w ↔
      match b with
      | .ort b => method.wpc E C (fun r b' w' => Q r (.ort b') w') b w
      | .ncnn b => method.wpc E C (fun r b' w' => Q r (.ncnn b') w') b w
      | .mnn b => method.wpc E C (fun r b' w' => Q r (.mnn b') w') b w
      | .ncnnFallback b => method.wpc E C (fun r b' w' => Q r (.ncnnFallback b') w') b w
      | .mnnFallback b => method.wpc E C (fun r b' w' => Q r (.mnnFallback b') w') b w := by
  rw [dispatch, Py.wpc_bind, Py.wpc_get, Py.either_ok]
  cases b with
  | ort b => exact Py.wpc_zoom _ _ _
  | ncnn b => exact Py.wpc_zoom _ _ _
  | mnn b => exact Py.wpc_zoom _ _ _
  | ncnnFallback b => exact Py.wpc_zoom _ _ _
  | mnnFallback b => exact Py.wpc_zoom _ _ _

theorem load_spec (modelPath : PyStr) (safe : b.Safe w) (ready : w.halfway = false) :
    (InferenceBackend.load modelPath).wpc engines (fun _ => True) (Loads modelPath b w) b w := by
  refine wpc_dispatch.mpr ?_
  cases b with
  | ort b =>
      refine Py.wpc_mono (fun _ _ => trivial) (fun r b' w' loads => ?_)
        (OnnxRuntimeBackend.cpuLoads modelPath)
      have rest := loads.rest
      refine ⟨⟨?_, nofun, ?_⟩, loads.grown, ?_, ?_, ?_⟩
      · rw [rest]
        exact safe.unmisused
      · intro h live
        rw [rest] at live
        obtain ⟨o, made⟩ := Option.isSome_iff_exists.mp (safe.known h live)
        rw [loads.grown h o made]
        rfl
      · rw [rest]
      · intro _ exact_
        rw [rest]
        exact exact_
      · cases r with
        | ok _ => exact loads.outcome
        | error e =>
            obtain ⟨rfl, -⟩ := loads.outcome
            exact fun _ => ⟨fun _ => rfl, fun lost => absurd trivial lost, fun _ _ same => same⟩
  | ncnn b =>
      have inner : Detector.Safe b w := ⟨safe.unmisused, safe.held, safe.known⟩
      exact Py.wpc_mono (fun _ _ => trivial)
        (fun r b' w' loads => loads_of_loads rfl rfl rfl rfl (fun tight => tight) .rfl .rfl inner loads)
        (NcnnBackend.load_spec modelPath inner ready)
  | mnn b =>
      have inner : Detector.Safe b w := ⟨safe.unmisused, safe.held, safe.known⟩
      exact Py.wpc_mono (fun _ _ => trivial)
        (fun r b' w' loads => loads_of_loads rfl rfl rfl rfl (fun tight => tight) .rfl .rfl inner loads)
        (MnnBackend.load_spec modelPath inner ready)
  | ncnnFallback b =>
      have inner : Detector.Safe b.primary w := ⟨safe.unmisused, safe.held, safe.known⟩
      exact Py.wpc_mono (fun _ _ => trivial)
        (fun r b' w' switches =>
          loads_of_switches rfl rfl rfl rfl (fun tight => tight) .rfl .rfl inner switches)
        (FallbackBackend.load_spec modelPath inner ready)
  | mnnFallback b =>
      have inner : Detector.Safe b.primary w := ⟨safe.unmisused, safe.held, safe.known⟩
      exact Py.wpc_mono (fun _ _ => trivial)
        (fun r b' w' switches =>
          loads_of_switches rfl rfl rfl rfl (fun tight => tight) .rfl .rfl inner switches)
        (FallbackBackend.load_spec modelPath inner ready)

/-! ## The other methods -/

theorem infer_spec (feeds : Feeds) (safe : b.Safe w) :
    (InferenceBackend.infer feeds).wpc engines (fun _ => True) (fun _ b' w' => Asked b w b' w')
      b w := by
  refine wpc_dispatch.mpr ?_
  cases b with
  | ort b =>
      refine Py.wpc_mono (fun _ _ => trivial) (fun r b' w' asked => ?_)
        (OnnxRuntimeBackend.infer_asked feeds)
      exact ⟨congrArg Backend.ort asked.1, asked.2⟩
  | ncnn b =>
      refine Py.wpc_mono (fun _ _ => trivial) (fun r b' w' same => ?_)
        (NcnnBackend.infer_spec feeds safe.held)
      obtain ⟨rfl, rfl⟩ := same
      exact ⟨rfl, rfl⟩
  | mnn b =>
      refine Py.wpc_mono (fun _ _ => trivial) (fun r b' w' same => ?_)
        (MnnBackend.infer_spec feeds safe.held)
      obtain ⟨rfl, rfl⟩ := same
      exact ⟨rfl, rfl⟩
  | ncnnFallback b =>
      have inner : Detector.Safe b.primary w := ⟨safe.unmisused, safe.held, safe.known⟩
      refine Py.wpc_mono (fun _ _ => trivial) (fun r b' w' asked => ?_)
        (FallbackBackend.infer_spec feeds inner)
      exact ⟨congrArg Backend.ncnnFallback asked.1, asked.2⟩
  | mnnFallback b =>
      have inner : Detector.Safe b.primary w := ⟨safe.unmisused, safe.held, safe.known⟩
      refine Py.wpc_mono (fun _ _ => trivial) (fun r b' w' asked => ?_)
        (FallbackBackend.infer_spec feeds inner)
      exact ⟨congrArg Backend.mnnFallback asked.1, asked.2⟩

theorem inputNames_spec (safe : b.Safe w) :
    (InferenceBackend.inputNames (β := Backend)).wpc engines (fun _ => True)
      (fun _ b' w' => Asked b w b' w') b w := by
  refine wpc_dispatch.mpr ?_
  cases b with
  | ort b =>
      refine Py.wpc_mono (fun _ _ => trivial) (fun r b' w' asked => ?_)
        OnnxRuntimeBackend.inputNames_asked
      exact ⟨congrArg Backend.ort asked.1, asked.2⟩
  | ncnn b => exact ⟨rfl, rfl⟩
  | mnn b => exact ⟨rfl, rfl⟩
  | ncnnFallback b =>
      have inner : Detector.Safe b.primary w := ⟨safe.unmisused, safe.held, safe.known⟩
      refine Py.wpc_mono (fun _ _ => trivial) (fun r b' w' asked => ?_)
        (FallbackBackend.inputNames_spec inner)
      exact ⟨congrArg Backend.ncnnFallback asked.1, asked.2⟩
  | mnnFallback b =>
      have inner : Detector.Safe b.primary w := ⟨safe.unmisused, safe.held, safe.known⟩
      refine Py.wpc_mono (fun _ _ => trivial) (fun r b' w' asked => ?_)
        (FallbackBackend.inputNames_spec inner)
      exact ⟨congrArg Backend.mnnFallback asked.1, asked.2⟩

/-- What a close does. -/
structure Closes (b : Backend) (w : Engines) (b' : Backend) (w' : Engines) : Prop where
  safe : b'.Safe w'
  held : b'.held = if b.closed then b.held else none
  flags : w' = { w with live := w'.live }
  exact : w.live = b.held.toList → w'.live = b'.held.toList

omit [NumPy] in
/-- The close of an engine, seen as one of a backend. -/
theorem closes_of_closes {α : Type} [Accelerator α] {b b' : Backend} {s s' : α} {w' : Engines}
    {r : Except PyErr Unit} (held : b.held = Accelerator.engaged s)
    (held' : b'.held = Accelerator.engaged s') (closed : b.closed = Accelerator.closed s)
    (closes : Detector.Closes s w r s' w') : Closes b w b' w' := by
  refine ⟨⟨closes.safe.unmisused, held' ▸ closes.safe.held, closes.safe.known⟩, ?_, closes.grown, ?_⟩
  · rw [held, held', closed]
    exact closes.engaged
  · intro exact_
    rw [held']
    rw [held] at exact_
    exact closes.exact exact_

theorem close_spec (safe : b.Safe w) :
    InferenceBackend.close.wpc engines (fun _ => True) (fun _ b' w' => Closes b w b' w') b w := by
  refine wpc_dispatch.mpr ?_
  cases b with
  | ort b => exact ⟨safe, rfl, rfl, fun exact_ => exact_⟩
  | ncnn b =>
      have inner : Detector.Safe b w := ⟨safe.unmisused, safe.held, safe.known⟩
      exact Py.wpc_mono (fun _ _ => trivial)
        (fun r b' w' closes => closes_of_closes rfl rfl rfl closes) (NcnnBackend.close_spec inner)
  | mnn b =>
      have inner : Detector.Safe b w := ⟨safe.unmisused, safe.held, safe.known⟩
      exact Py.wpc_mono (fun _ _ => trivial)
        (fun r b' w' closes => closes_of_closes rfl rfl rfl closes) (MnnBackend.close_spec inner)
  | ncnnFallback b =>
      have inner : Detector.Safe b.primary w := ⟨safe.unmisused, safe.held, safe.known⟩
      exact Py.wpc_mono (fun _ _ => trivial)
        (fun r b' w' closed => closes_of_closes rfl rfl rfl closed.1) (FallbackBackend.close_spec inner)
  | mnnFallback b =>
      have inner : Detector.Safe b.primary w := ⟨safe.unmisused, safe.held, safe.known⟩
      exact Py.wpc_mono (fun _ _ => trivial)
        (fun r b' w' closed => closes_of_closes rfl rfl rfl closed.1) (FallbackBackend.close_spec inner)

end Backend

end Detector
