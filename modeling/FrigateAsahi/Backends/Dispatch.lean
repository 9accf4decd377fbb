import FrigateAsahi.Backends.Contract

/-!
# Which object an inference goes to

`Dispatch` notes for every call of an inference on an engine the net, handle or session that it goes
to, for the calls on an extractor the net that the extractor was made of. `Backend.infer_sends` says
that all of them go to `Backend.engaged`, whichever engine serves.
-/

namespace Detector

open Text Python Numpy Interaction

structure Dispatch : Type where
  /-- The net that an extractor was made of. -/
  extractors : Nat → Option Nat
  /-- Where the calls went, the latest first. -/
  used : List (Option Nat)

namespace Dispatch

def use (w : Dispatch) (h : Option Nat) : Dispatch := { w with used := h :: w.used }

def note (w : Dispatch) : (c : HostCall) → Except PyErr c.Answer → Dispatch
  | .ncnnExtractor net, .ok ex =>
    { w.use (some net) with extractors := Function.update w.extractors ex (some net) }
  | .ncnnExtractor net, .error _ => w.use (some net)
  | .ncnnInput ex _ _, _ | .ncnnExtract ex _, _ => w.use (w.extractors ex)
  | .mnnInfer h _ _, _ => w.use h
  | .ortRun session _, _ => w.use (some session)
  | _, _ => w

/-- The calls between two states all went to one object. -/
def Sends (h : Option Nat) (w w' : Dispatch) : Prop :=
  ∃ used, w'.used = used ++ w.used ∧ ∀ g ∈ used, g = h

variable {h : Option Nat} {w w' w'' : Dispatch}

theorem Sends.refl (h : Option Nat) (w : Dispatch) : Sends h w w := ⟨[], rfl, by simp⟩

theorem Sends.trans (first : Sends h w w') (next : Sends h w' w'') : Sends h w w'' := by
  obtain ⟨used, eq, all⟩ := first
  obtain ⟨used', eq', all'⟩ := next
  refine ⟨used' ++ used, by rw [eq', eq, List.append_assoc], fun g mem => ?_⟩
  exact (List.mem_append.mp mem).elim (all' g) (all g)

theorem Sends.length_le (sends : Sends h w w') : w.used.length ≤ w'.used.length := by
  obtain ⟨used, eq, -⟩ := sends
  rw [eq, List.length_append]
  exact Nat.le_add_left _ _

theorem sends_use (h : Option Nat) (w : Dispatch) : Sends h w (w.use h) :=
  ⟨[h], rfl, fun _ mem => List.mem_singleton.mp mem⟩

end Dispatch

def dispatching : Env Host Dispatch := .noting (fun _ _ _ => True) Dispatch.note

/-- A method that leaves its object alone and calls an engine only for one object, and does call it if
it returns. -/
def Serves {σ α : Type} (h : Option Nat) (s : σ) (w : Dispatch) (r : Except PyErr α) (s' : σ)
    (w' : Dispatch) : Prop :=
  s' = s ∧ Dispatch.Sends h w w' ∧
    Py.either (fun _ => w.used.length < w'.used.length) (fun _ => True) r

section Rules

variable {σ : Type} {s : σ} {w : Dispatch}

/-- One call on an engine. -/
theorem wpc_sends {c : HostCall} {h : Option Nat} (sends : ∀ r, w.note c r = w.use h) :
    (ask c).wpc dispatching (fun _ => True) (Serves h s w) s w := by
  rw [Py.wpc_ask]
  rintro r w' ⟨-, rfl⟩
  refine ⟨trivial, rfl, ?_⟩
  rw [sends r]
  refine ⟨Dispatch.sends_use h w, ?_⟩
  cases r with
  | ok _ => exact Nat.lt_succ_self _
  | error e => trivial

end Rules

/-! ## The engines -/

theorem OnnxRuntimeBackend.infer_sends (feeds : Feeds) (s : OnnxRuntimeBackend) (w : Dispatch) :
    (infer feeds).wpc dispatching (fun _ => True) (Serves s.session s w) s w := by
  rw [infer, Py.wpc_bind, Py.wpc_get, Py.either_ok, Py.wpc_bind, wpc_require]
  refine ⟨fun session serves => ?_, fun _ => ⟨rfl, .refl _ w, trivial⟩⟩
  rw [Py.either_ok, serves]
  exact wpc_sends fun _ => rfl

variable [NumPy]

theorem MnnBackend.infer_sends (feeds : Feeds) (s : MnnBackend) (w : Dispatch) :
    (infer feeds).wpc dispatching (fun _ => True) (Serves s.h s w) s w := by
  have failed (e : PyErr) : Serves s.h s w (.error e : Except PyErr (List NdArray)) s w :=
    ⟨rfl, .refl _ w, trivial⟩
  rw [infer, Py.wpc_bind, Py.wpc_get, Py.either_ok, Py.wpc_bind, Py.wpc_ofExcept]
  cases inputArrays feeds s.inNames with
  | error e => exact failed e
  | ok inputs =>
      rw [Py.either_ok, Py.wpc_bind, wpc_require]
      refine ⟨fun order _ => ?_, fun _ => failed _⟩
      rw [Py.either_ok, Py.wpc_bind, Py.wpc_ofExcept]
      cases outputBuffers s.outNames.length (order.zip s.outShapes).reverse with
      | error e => exact failed e
      | ok buffers =>
          rw [Py.either_ok, Py.wpc_bind, Py.wpc_ofExcept]
          cases allSome buffers with
          | error e => exact failed e
          | ok buffers =>
              rw [Py.either_ok, Py.wpc_bind]
              refine Py.wpc_mono (fun _ _ => trivial) (fun r s' w' served => ?_)
                (wpc_sends (c := .mnnInfer s.h inputs buffers) (s := s) fun _ => rfl)
              obtain ⟨rfl, sends, ran⟩ := served
              cases r with
              | error e => exact ⟨rfl, sends, trivial⟩
              | ok done =>
                  rw [Py.either_ok, Py.wpc_ite]
                  split
                  · exact ⟨rfl, sends, trivial⟩
                  · exact ⟨rfl, sends, ran⟩

namespace NcnnBackend

/-- Calls on one extractor. -/
def Through (ex : Nat) (x y : NcnnBackend × Dispatch) : Prop :=
  y.1 = x.1 ∧ y.2.extractors = x.2.extractors ∧ Dispatch.Sends (x.2.extractors ex) x.2 y.2

instance (ex : Nat) : IsPreorder (NcnnBackend × Dispatch) (Through ex) where
  refl x := ⟨rfl, rfl, .refl _ _⟩
  trans x y z first next := by
    refine ⟨next.1.trans first.1, next.2.1.trans first.2.1, first.2.2.trans ?_⟩
    rw [← first.2.1]
    exact next.2.2

theorem infer_sends (feeds : Feeds) (s : NcnnBackend) (w : Dispatch) :
    (infer feeds).wpc dispatching (fun _ => True) (Serves s.net s w) s w := by
  have through {ex : Nat} {c : HostCall}
      (sends : ∀ (w : Dispatch) r, w.note c r = w.use (w.extractors ex)) :
      Py.Within dispatching (Through ex) (ask c : HostM NcnnBackend c.Answer) := by
    refine Py.Within.ask fun s w r w' step => ?_
    obtain ⟨-, rfl⟩ := step
    rw [sends w r]
    exact ⟨rfl, rfl, Dispatch.sends_use _ w⟩
  have feed (ex : Nat) (name : PyStr) : Py.Within dispatching (Through ex) (feed feeds ex name) :=
    (Py.Within.ofExcept _).bind fun _ => (Py.Within.ofExcept _).bind fun _ => through fun _ _ => rfl
  have extract (ex : Nat) (out : PyStr × List Dim) :
      Py.Within dispatching (Through ex) (extract ex out) :=
    (through fun _ _ => rfl).bind fun _ => .ite (.throw _) <|
      (Py.Within.ofExcept _).bind fun _ => .ofExcept _
  rw [infer, Py.wpc_bind, Py.wpc_get, Py.either_ok, Py.wpc_bind, wpc_require]
  refine ⟨fun net serves => ?_, fun _ => ⟨rfl, .refl _ w, trivial⟩⟩
  rw [Py.either_ok, Py.wpc_bind, Py.wpc_ask, serves]
  rintro r w₁ ⟨-, rfl⟩
  refine ⟨trivial, ?_⟩
  have begun : Dispatch.Sends (some net) w (w.note (.ncnnExtractor net) r) := by
    cases r with
    | ok ex => exact Dispatch.sends_use (some net) w
    | error e => exact Dispatch.sends_use (some net) w
  cases r with
  | error e => exact ⟨rfl, begun, trivial⟩
  | ok ex =>
      rw [Py.either_ok]
      have rest := (Py.Within.forEach (feed ex) s.inNames).bind fun _ =>
        Py.Within.traverse (extract ex) (s.outNames.zip s.outShapes)
      refine Py.wpc_mono (fun _ _ => trivial) (fun r s' w' done => ?_)
        (rest s (w.note (.ncnnExtractor net) (.ok ex)))
      obtain ⟨rfl, -, sends⟩ := done
      have same : (w.note (.ncnnExtractor net) (.ok ex)).extractors ex = some net := by
        simp [Dispatch.note]
      rw [same] at sends
      refine ⟨rfl, begun.trans sends, ?_⟩
      cases r with
      | error e => trivial
      | ok _ =>
          have more : w.used.length < (w.note (.ncnnExtractor net) (.ok ex)).used.length :=
            Nat.lt_succ_self _
          exact lt_of_lt_of_le more sends.length_le

end NcnnBackend

/-! ## The backends -/

omit [NumPy] in
/-- An inference of the wrapper goes to the engine that serves. -/
theorem FallbackBackend.infer_sends {α : Type} [Accelerator α]
    (primary : ∀ (feeds : Feeds) (a : α) (w : Dispatch),
      (InferenceBackend.infer feeds).wpc dispatching (fun _ => True)
        (Serves (Accelerator.engaged a) a w) a w)
    (feeds : Feeds) (s : FallbackBackend α OnnxRuntimeBackend) (w : Dispatch) :
    (infer feeds).wpc dispatching (fun _ => True) (Serves s.engaged s w) s w := by
  rw [infer, onActive, Py.wpc_bind, Py.wpc_get, Py.either_ok, engaged]
  cases serves : s.active with
  | none => exact ⟨rfl, .refl _ w, trivial⟩
  | some active =>
      cases active with
      | primary =>
          change (onPrimary _).wpc _ _ _ _ _
          rw [onPrimary, Py.wpc_zoom]
          refine Py.wpc_mono (fun _ _ => trivial) (fun r a w' served => ?_) (primary feeds s.primary w)
          obtain ⟨rfl, sends, ran⟩ := served
          exact ⟨rfl, sends, ran⟩
      | fallback =>
          change (onFallback _).wpc _ _ _ _ _
          rw [onFallback, Py.wpc_zoom]
          refine Py.wpc_mono (fun _ _ => trivial) (fun r b w' served => ?_)
            (OnnxRuntimeBackend.infer_sends feeds s.fallback w)
          obtain ⟨rfl, sends, ran⟩ := served
          exact ⟨rfl, sends, ran⟩

namespace Backend

/-- Every call of an inference on an engine goes to the object that serves, and an inference that
returns has made such a call. -/
theorem infer_sends (feeds : Feeds) (b : Backend) (w : Dispatch) :
    (InferenceBackend.infer feeds).wpc dispatching (fun _ => True) (Serves b.engaged b w) b w := by
  change (Backend.dispatch (InferenceBackend.infer feeds)).wpc _ _ _ _ _
  rw [wpc_dispatch]
  have wrapped {β : Type} {wrap : β → Backend} {h : Option Nat} {s s' : β} {w' : Dispatch}
      {r : Except PyErr (List NdArray)} (served : Serves h s w r s' w') :
      Serves h (wrap s) w r (wrap s') w' :=
    ⟨congrArg wrap served.1, served.2⟩
  cases b with
  | ort b =>
      exact Py.wpc_mono (fun _ _ => trivial) (fun _ _ _ => wrapped)
        (OnnxRuntimeBackend.infer_sends feeds b w)
  | ncnn b =>
      exact Py.wpc_mono (fun _ _ => trivial) (fun _ _ _ => wrapped) (NcnnBackend.infer_sends feeds b w)
  | mnn b =>
      exact Py.wpc_mono (fun _ _ => trivial) (fun _ _ _ => wrapped) (MnnBackend.infer_sends feeds b w)
  | ncnnFallback b =>
      exact Py.wpc_mono (fun _ _ => trivial) (fun _ _ _ => wrapped)
        (FallbackBackend.infer_sends NcnnBackend.infer_sends feeds b w)
  | mnnFallback b =>
      exact Py.wpc_mono (fun _ _ => trivial) (fun _ _ _ => wrapped)
        (FallbackBackend.infer_sends MnnBackend.infer_sends feeds b w)

/-- Whatever is inferred is inferred by this object. -/
def RunsOn (b : Backend) (h : Nat) : Prop :=
  ∀ feeds r b' w w', (InferenceBackend.infer feeds).Exec dispatching b w r b' w' →
    Serves (some h) b w r b' w'

theorem runsOn_engaged {b : Backend} {h : Nat} (engaged : b.engaged = some h) : b.RunsOn h := by
  intro feeds r b' w w' exec
  rw [← engaged]
  exact Py.wpc_exec (infer_sends feeds b w) exec

end Backend

end Detector
