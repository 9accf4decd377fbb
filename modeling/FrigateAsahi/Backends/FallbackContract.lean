import FrigateAsahi.Backends.NcnnContract
import FrigateAsahi.Backends.MnnContract

/-!
# What a load through the fallback wrapper does

A load of ONNX Runtime either installs a new session or changes nothing. A load of the wrapper that
fails has closed the primary, if it was still open, and leaves the choice of the engine and the CPU
engine as they were; only a primary that was closed before can come out of it with another net than
it went in.
-/

namespace Detector

open Text Python Numpy Interaction

/-! ## ONNX Runtime -/

/-- What a load of the CPU engine does. -/
structure CpuLoads (modelPath : PyStr) (s : OnnxRuntimeBackend) (w : Engines)
    (r : Except PyErr Unit) (s' : OnnxRuntimeBackend) (w' : Engines) : Prop where
  rest : w' = { w with reading := w'.reading, made := w'.made, cpuFailed := w'.cpuFailed }
  grown : w.Grown w'
  outcome : Py.either
    (fun _ => w'.reading = modelPath ∧
      ∃ h, s'.session = some h ∧ w.made h = none ∧ w'.MadeFrom h modelPath)
    (fun _ => s' = s ∧ w'.cpuFailed = true) r

/-- Object and account are as they were, except that a question to a session may have failed. -/
def Asked {σ : Type} (s : σ) (w : Engines) (s' : σ) (w' : Engines) : Prop :=
  s' = s ∧ w' = { w with cpuFailed := w'.cpuFailed }

namespace OnnxRuntimeBackend

variable {s : OnnxRuntimeBackend} {w : Engines}

theorem cpuLoads (modelPath : PyStr) :
    (load modelPath).wpc engines (fun _ => True) (CpuLoads modelPath s w) s w := by
  rw [load, Py.wpc_bind, Py.wpc_get, Py.either_ok, Py.wpc_bind, Py.wpc_ask]
  rintro r w' ⟨legal, rfl⟩
  refine ⟨trivial, ?_⟩
  cases r with
  | error e => exact ⟨rfl, fun _ _ made => made, rfl, rfl⟩
  | ok session =>
      have fresh : w.made session = none := legal
      have made : (Engines.record { w with reading := modelPath } session
          (.session modelPath)).MadeFrom session modelPath :=
        ⟨.session modelPath, by simp [Engines.record], rfl⟩
      have grown : w.Grown (Engines.record { w with reading := modelPath } session
          (.session modelPath)) :=
        Engines.grown_record (w := { w with reading := modelPath }) fresh _
      rw [Py.either_ok, Py.wpc_bind, Py.wpc_ask]
      rintro r w' ⟨-, rfl⟩
      refine ⟨trivial, ?_⟩
      cases r with
      | error e => exact ⟨rfl, grown, rfl, Bool.or_true _⟩
      | ok inputs =>
          rw [Py.either_ok, Py.wpc_bind, wpc_require]
          refine ⟨fun name head => ?_, fun empty => ?_⟩
          · rw [Py.either_ok, Py.wpc_bind, Py.wpc_ask]
            rintro r w' ⟨-, rfl⟩
            refine ⟨trivial, ?_⟩
            cases r with
            | error e => exact ⟨rfl, grown, rfl, Bool.or_true _⟩
            | ok outputs =>
                rw [Py.either_ok, Py.wpc_bind, wpc_require]
                refine ⟨fun name head => ?_, fun empty => ?_⟩
                · exact ⟨rfl, grown, rfl, session, rfl, fresh, made⟩
                · obtain rfl := List.head?_eq_none_iff.mp empty
                  exact ⟨rfl, grown, rfl, Bool.or_true _⟩
          · obtain rfl := List.head?_eq_none_iff.mp empty
            exact ⟨rfl, grown, rfl, Bool.or_true _⟩

theorem infer_asked (feeds : Feeds) :
    (infer feeds).wpc engines (fun _ => True) (fun _ s' w' => Asked s w s' w') s w := by
  have still : Py.Within engines Py.Still (infer feeds) :=
    Py.Within.get.bind fun _ => (still_require _ _).bind fun _ => still_ask fun _ _ => rfl
  refine Py.wpc_mono (fun _ _ => trivial) (fun r s' w' same => ?_) (still s w)
  cases same
  exact ⟨rfl, rfl⟩

theorem inputNames_asked :
    inputNames.wpc engines (fun _ => True) (fun _ s' w' => Asked s w s' w') s w := by
  rw [inputNames, Py.wpc_bind, Py.wpc_get, Py.either_ok]
  cases s.session with
  | none => exact ⟨rfl, rfl⟩
  | some session =>
      rw [Py.wpc_ask]
      rintro r w' ⟨-, rfl⟩
      exact ⟨trivial, rfl, rfl⟩

end OnnxRuntimeBackend

/-- The CPU engine touches neither nets nor handles. -/
theorem Safe.of_cpuLoads {α : Type} [Accelerator α] {a : α} {modelPath : PyStr}
    {s s' : OnnxRuntimeBackend} {w w' : Engines} {r : Except PyErr Unit} (safe : Safe a w)
    (loads : CpuLoads modelPath s w r s' w') : Safe a w' := by
  have rest := loads.rest
  refine ⟨?_, ?_, ?_⟩
  · rw [rest]
    exact safe.unmisused
  · rw [rest]
    exact safe.held
  · intro h live
    rw [rest] at live
    obtain ⟨o, made⟩ := Option.isSome_iff_exists.mp (safe.known h live)
    rw [loads.grown h o made]
    rfl

/-! ## The wrapper -/

namespace FallbackBackend

variable {α : Type} {s : FallbackBackend α OnnxRuntimeBackend} {w : Engines}

/-- A method that only asks, of either engine, only asks. -/
theorem onActive_asked {γ : Type} {p : HostM α γ} {q : HostM OnnxRuntimeBackend γ}
    {otherwise : HostM (FallbackBackend α OnnxRuntimeBackend) γ}
    (first : p.wpc engines (fun _ => True) (fun _ s' w' => s' = s.primary ∧ w' = w) s.primary w)
    (second : q.wpc engines (fun _ => True) (fun _ s' w' => Asked s.fallback w s' w') s.fallback w)
    (third : otherwise.wpc engines (fun _ => True) (fun _ s' w' => Asked s w s' w') s w) :
    (onActive p q otherwise).wpc engines (fun _ => True) (fun _ s' w' => Asked s w s' w') s w := by
  rw [onActive, Py.wpc_bind, Py.wpc_get, Py.either_ok]
  cases s.active with
  | none => exact third
  | some active =>
      cases active with
      | primary =>
          change (onPrimary p).wpc _ _ _ _ _
          rw [onPrimary, Py.wpc_zoom]
          refine Py.wpc_mono (fun _ _ => trivial) (fun r a w' same => ?_) first
          obtain ⟨rfl, rfl⟩ := same
          exact ⟨rfl, rfl⟩
      | fallback =>
          change (onFallback q).wpc _ _ _ _ _
          rw [onFallback, Py.wpc_zoom]
          refine Py.wpc_mono (fun _ _ => trivial) (fun r b w' asked => ?_) second
          obtain ⟨rfl, asked⟩ := asked
          exact ⟨rfl, asked⟩

variable [Accelerator α]

/-- The object that an inference goes to. -/
def engaged (s : FallbackBackend α OnnxRuntimeBackend) : Option Nat :=
  match s.active with
  | none => none
  | some .primary => Accelerator.engaged s.primary
  | some .fallback => s.fallback.session

/-- How a failed load leaves the primary, which it closes. -/
def Shut (modelPath : PyStr) (s : α) (w : Engines) (s' : α) (w' : Engines) : Prop :=
  Accelerator.closed s' = true ∧
    if Accelerator.closed s then
      w'.halfway = false ∧ Accelerator.engaged s' = Accelerator.engaged s ∨
        w'.halfway = true ∧ Installed modelPath w s' w'
    else Accelerator.engaged s' = none

/-- What a load of the wrapper does. -/
structure Switches (modelPath : PyStr) (s : FallbackBackend α OnnxRuntimeBackend) (w : Engines)
    (r : Except PyErr Unit) (s' : FallbackBackend α OnnxRuntimeBackend) (w' : Engines) : Prop where
  safe : Safe s'.primary w'
  grown : w.Grown w'
  loading : w'.loading = w.loading
  exact : Accelerator.Tight s.primary w' → Exact s.primary w → Exact s'.primary w'
  outcome : Py.either
    (fun _ => w'.reading = modelPath ∧
      ∃ h, s'.engaged = some h ∧ w.made h = none ∧ w'.MadeFrom h modelPath)
    (fun e => e.IsException → s'.active = s.active ∧ s'.fallback = s.fallback ∧
      w'.cpuFailed = true ∧ Shut modelPath s.primary w s'.primary w') r

theorem Shut.of_cpuLoads {modelPath path : PyStr} {s s' : α} {w w₁ w₂ : Engines}
    {cpu cpu' : OnnxRuntimeBackend} {r : Except PyErr Unit} (shut : Shut modelPath s w s' w₁)
    (loads : CpuLoads path cpu w₁ r cpu' w₂) : Shut modelPath s w s' w₂ := by
  have halfway : w₂.halfway = w₁.halfway := by rw [loads.rest]
  refine ⟨shut.1, ?_⟩
  have engaged := shut.2
  split
  · next closed =>
      rw [if_pos closed] at engaged
      rw [halfway]
      exact engaged.imp_right fun ⟨half, h, installed, fresh, made⟩ =>
        ⟨half, h, installed, fresh, made.grown loads.grown⟩
  · next unclosed => rwa [if_neg unclosed] at engaged

/-! ### A failed load and the object that serves -/

section FailedLoad

variable {modelPath : PyStr} {e : PyErr} {s' : FallbackBackend α OnnxRuntimeBackend} {w' : Engines}

/-- A failed load keeps the object that serves, by this condition on the state before it and on how
far it came. -/
def Keeps (s : FallbackBackend α OnnxRuntimeBackend) (w' : Engines) : Prop :=
  match s.active with
  | none => True
  | some .fallback => True
  | some .primary => Accelerator.closed s.primary = true ∧ w'.halfway = false

/-- A failed load brings no other object into service, by this condition. -/
def Sound (s : FallbackBackend α OnnxRuntimeBackend) (w' : Engines) : Prop :=
  ¬ (s.active = some .primary ∧ Accelerator.closed s.primary = true ∧ w'.halfway = true ∧
    w'.cpuFailed = true)

instance (s : FallbackBackend α OnnxRuntimeBackend) (w' : Engines) : Decidable (Keeps s w') :=
  match h : s.active with
  | none | some .fallback => .isTrue (by simp [Keeps, h])
  | some .primary =>
    decidable_of_iff (Accelerator.closed s.primary = true ∧ w'.halfway = false) (by simp [Keeps, h])

instance (s : FallbackBackend α OnnxRuntimeBackend) (w' : Engines) : Decidable (Sound s w') :=
  inferInstanceAs (Decidable (¬ (_ ∧ _ ∧ _ ∧ _)))

theorem engaged_of_keeps (switches : Switches modelPath s w (.error e) s' w')
    (raised : e.IsException) (keeps : Keeps s w') : s'.engaged = s.engaged := by
  obtain ⟨active, fallback, -, -, primary⟩ := switches.outcome raised
  rw [engaged, engaged, active]
  rw [Keeps] at keeps
  split
  · rfl
  · next serves =>
      rw [serves] at keeps
      rw [if_pos keeps.1] at primary
      rcases primary with ⟨-, same⟩ | ⟨half, -⟩
      · exact same
      · rw [keeps.2] at half
        cases half
  · rw [fallback]

theorem engaged_of_not_keeps (switches : Switches modelPath s w (.error e) s' w')
    (raised : e.IsException) (safe : Safe s.primary w) (keeps : ¬ Keeps s w')
    (serving : s.engaged ≠ none) : s'.engaged ≠ s.engaged := by
  obtain ⟨active, fallback, -, -, primary⟩ := switches.outcome raised
  rw [engaged] at serving
  rw [engaged, engaged, active]
  rw [Keeps] at keeps
  cases serves : s.active with
  | none => simp [serves] at keeps
  | some which =>
      cases which with
      | fallback => simp [serves] at keeps
      | primary =>
          rw [serves] at keeps serving
          split at primary
          · next closed =>
              rcases primary with ⟨ready, -⟩ | ⟨-, h, installed, fresh, -⟩
              · exact absurd ⟨closed, ready⟩ keeps
              · -- What was installed is new.
                intro same
                have live := safe.held h (same.symm.trans installed)
                exact Engines.not_live_of_fresh fresh safe.known live
          · intro same
            exact serving (same.symm.trans primary)

theorem engaged_of_sound (switches : Switches modelPath s w (.error e) s' w')
    (raised : e.IsException) (sound : Sound s w') {h : Nat} (engaged' : s'.engaged = some h) :
    s.engaged = some h := by
  obtain ⟨active, fallback, failed, -, primary⟩ := switches.outcome raised
  rw [engaged, active] at engaged'
  rw [engaged]
  cases serves : s.active with
  | none => simp [serves] at engaged'
  | some which =>
      rw [serves] at engaged'
      cases which with
      | fallback => exact (congrArg OnnxRuntimeBackend.session fallback).symm.trans engaged'
      | primary =>
          split at primary
          · next closed =>
              rcases primary with ⟨-, same⟩ | ⟨half, -⟩
              · exact same.symm.trans engaged'
              · exact absurd ⟨serves, closed, half, failed⟩ sound
          · rw [primary] at engaged'
            cases engaged'

end FailedLoad

/-! ### The methods -/

variable [LawfulAccelerator α]

theorem closePrimary_spec (safe : Safe s.primary w) :
    (closePrimary : HostM (FallbackBackend α OnnxRuntimeBackend) Unit).wpc engines (fun _ => True)
      (fun r s' w' => Closes s.primary w r s'.primary w' ∧ s' = { s with primary := s'.primary })
      s w := by
  rw [closePrimary, wpc_exceptException, onPrimary, Py.wpc_zoom]
  refine Py.wpc_mono (fun _ _ => trivial) (fun r p w' closes => ?_) (LawfulAccelerator.close safe)
  cases r with
  | ok _ => exact ⟨closes, rfl⟩
  | error e =>
      have exit : ¬ e.IsException := closes.outcome
      rw [Py.either_error, if_neg exit]
      exact ⟨closes, rfl⟩

/-- What the attempt on the primary does. -/
structure Tries (modelPath : PyStr) (s : FallbackBackend α OnnxRuntimeBackend) (w : Engines)
    (r : Except PyErr Bool) (s' : FallbackBackend α OnnxRuntimeBackend) (w' : Engines) : Prop where
  safe : Safe s'.primary w'
  grown : w.Grown w'
  loading : w'.loading = w.loading
  fallback : s'.fallback = s.fallback
  exact : Accelerator.Tight s.primary w' → Exact s.primary w → Exact s'.primary w'
  outcome : Py.either
    (fun served =>
      if served then
        s'.active = some .primary ∧ w'.reading = modelPath ∧ Installed modelPath w s'.primary w'
      else s'.active = s.active ∧ Shut modelPath s.primary w s'.primary w')
    (fun e => ¬ e.IsException) r

/-- A load that failed, and the close that follows it. -/
theorem tries_of_closes {modelPath : PyStr} {e : PyErr} {s₁ s₂ : α} {w₁ w₂ : Engines}
    {r : Except PyErr Unit} (loads : Loads modelPath s.primary w (.error e) s₁ w₁)
    (closes : Closes s₁ w₁ r s₂ w₂) :
    Tries modelPath s w (r.map fun _ => false) { s with primary := s₂ } w₂ := by
  have halfway : w₂.halfway = w₁.halfway := by rw [closes.grown]
  have undescribed : w₂.undescribed = w₁.undescribed := by rw [closes.grown]
  have made : w₂.made = w₁.made := by rw [closes.grown]
  have engaged := closes.engaged
  rw [loads.closed] at engaged
  have shut : Shut modelPath s.primary w s₂ w₂ := by
    refine ⟨closes.closed, ?_⟩
    split
    · next closed =>
        rw [if_pos closed] at engaged
        rcases loads.outcome with ⟨ready, same⟩ | ⟨half, h, installed, fresh, origin⟩
        · exact .inl ⟨halfway.trans ready, engaged.trans same⟩
        · have kept : w₂.MadeFrom h modelPath := by rwa [Engines.MadeFrom, made]
          exact .inr ⟨halfway.trans half, h, engaged.trans installed, fresh, kept⟩
    · next unclosed => rwa [if_neg unclosed] at engaged
  refine ⟨closes.safe, ?_, ?_, rfl, ?_, ?_⟩
  · intro h path origin
    rw [made]
    exact loads.grown h path origin
  · rw [closes.grown]
    exact loads.loading
  · intro tight exact_
    exact closes.exact (loads.exact (LawfulAccelerator.tight s.primary undescribed halfway tight) exact_)
  · cases r with
    | ok _ => exact ⟨rfl, shut⟩
    | error e => exact closes.outcome

theorem tryPrimary_spec (modelPath : PyStr) (safe : Safe s.primary w) (ready : w.halfway = false) :
    (tryPrimary modelPath).wpc engines (fun _ => True) (Tries modelPath s w) s w := by
  rw [tryPrimary, wpc_exceptException, Py.wpc_bind, onPrimary, Py.wpc_zoom]
  refine Py.wpc_mono (fun _ _ => trivial) (fun r s₁ w₁ loads => ?_)
    (LawfulAccelerator.load modelPath safe ready)
  cases r with
  | ok _ =>
      obtain ⟨-, reading, installed⟩ := loads.outcome
      exact ⟨loads.safe, loads.grown, loads.loading, rfl, loads.exact, rfl, reading, installed⟩
  | error e =>
      rw [Py.either_error, Py.either_error]
      split
      · rw [Py.wpc_bind]
        refine Py.wpc_mono (fun _ _ => trivial) (fun r s₂ w₂ closed => ?_)
          (closePrimary_spec (s := { s with primary := s₁ }) loads.safe)
        obtain ⟨closes, same⟩ := closed
        rw [same]
        have tries := tries_of_closes loads closes
        cases r with
        | ok _ => exact tries
        | error e => exact tries
      · next exit =>
          exact ⟨loads.safe, loads.grown, loads.loading, rfl, loads.exact, exit⟩

theorem load_spec (modelPath : PyStr) (safe : Safe s.primary w) (ready : w.halfway = false) :
    (load modelPath).wpc engines (fun _ => True) (Switches modelPath s w) s w := by
  rw [load, Py.wpc_bind]
  refine Py.wpc_mono (fun _ _ => trivial) (fun r s₁ w₁ tries => ?_) (tryPrimary_spec modelPath safe ready)
  cases r with
  | error e =>
      have exit : ¬ e.IsException := tries.outcome
      exact ⟨tries.safe, tries.grown, tries.loading, tries.exact, fun raised => absurd raised exit⟩
  | ok served =>
      rw [Py.either_ok, Py.wpc_ite]
      have outcome := tries.outcome
      rw [Py.either_ok] at outcome
      split
      · next serves =>
          rw [if_pos serves] at outcome
          obtain ⟨active, reading, h, engaged, fresh, made⟩ := outcome
          refine ⟨tries.safe, tries.grown, tries.loading, tries.exact, reading, h, ?_, fresh, made⟩
          rw [FallbackBackend.engaged, active]
          exact engaged
      · next serves =>
          rw [if_neg serves] at outcome
          obtain ⟨active, shut⟩ := outcome
          rw [Py.wpc_bind, wpc_handled, Py.either_ok, Py.wpc_bind, onFallback, Py.wpc_zoom]
          refine Py.wpc_mono (fun _ _ => trivial) (fun r cpu w₂ loads => ?_)
            (OnnxRuntimeBackend.cpuLoads (s := s₁.fallback) (w := w₁) modelPath)
          have safe₂ : Safe s₁.primary w₂ := tries.safe.of_cpuLoads loads
          have grown := tries.grown.trans loads.grown
          have loading : w₂.loading = w.loading := by
            rw [loads.rest]
            exact tries.loading
          have kept : Accelerator.Tight s.primary w₂ → Exact s.primary w → Exact s₁.primary w₂ := by
            intro tight exact_
            have undescribed : w₂.undescribed = w₁.undescribed := by rw [loads.rest]
            have halfway : w₂.halfway = w₁.halfway := by rw [loads.rest]
            have before := tries.exact (LawfulAccelerator.tight s.primary undescribed halfway tight) exact_
            rw [Exact, loads.rest]
            exact before
          cases r with
          | ok _ =>
              obtain ⟨reading, h, session, fresh, made⟩ := loads.outcome
              exact ⟨safe₂, grown, loading, kept, reading, h, session, tries.grown.fresh fresh, made⟩
          | error e =>
              obtain ⟨same, failed⟩ := loads.outcome
              exact ⟨safe₂, grown, loading, kept, fun _ => ⟨active, same.trans tries.fallback, failed,
                shut.of_cpuLoads loads⟩⟩

theorem close_spec (safe : Safe s.primary w) :
    (close : HostM (FallbackBackend α OnnxRuntimeBackend) Unit).wpc engines (fun _ => True)
      (fun r s' w' => Closes s.primary w r s'.primary w' ∧ s' = { s with primary := s'.primary })
      s w := by
  rw [close, Py.wpc_bind]
  refine Py.wpc_mono (fun _ _ => trivial) (fun r s' w' closed => ?_) (closePrimary_spec safe)
  cases r with
  | ok _ => exact closed
  | error e => exact closed

theorem infer_spec (feeds : Feeds) (safe : Safe s.primary w) :
    (infer feeds : HostM (FallbackBackend α OnnxRuntimeBackend) _).wpc engines (fun _ => True)
      (fun _ s' w' => Asked s w s' w') s w :=
  onActive_asked (LawfulAccelerator.infer feeds safe) (OnnxRuntimeBackend.infer_asked feeds)
    ⟨rfl, rfl⟩

theorem inputNames_spec (safe : Safe s.primary w) :
    (inputNames : HostM (FallbackBackend α OnnxRuntimeBackend) _).wpc engines (fun _ => True)
      (fun _ s' w' => Asked s w s' w') s w :=
  onActive_asked (LawfulAccelerator.inputNames safe) OnnxRuntimeBackend.inputNames_asked
    ⟨rfl, rfl⟩

end FallbackBackend

end Detector
