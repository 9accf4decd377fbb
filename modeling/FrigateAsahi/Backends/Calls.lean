import FrigateAsahi.Backends.Fallback

/-!
# Parts of a load that change nothing

Most of what a load does asks only: whether a file is there and how old it is, which names a graph
has, what an inference yields. These parts, and an inference as a whole, are the same in every
environment in which such a call changes nothing.
-/

namespace Detector

open Text Python Numpy Interaction

/-- A call that only asks: it makes and lets go of no engine object, and leaves no mark. -/
def Asking : HostCall → Prop
  | .makedirs _ | .openWb _ | .write _ _ | .closeFile _ | .replace _ _ | .mkdtemp _ | .rmtree _
  | .run _ | .ortSession _ _ _ | .ncnnNet | .ncnnLoadParam _ _ | .ncnnLoadModel _ _ | .ncnnRelease _
  | .tracebackKeeps _ | .dropTraceback | .mnnCreate _ _ _ _ | .mnnDestroy _ | .sleep | .log _ => False
  | _ => True

/-- A call that changes no file, loads nothing into a net or handle and does not begin a load. -/
def Idle : HostCall → Prop
  | .makedirs _ | .openWb _ | .write _ _ | .closeFile _ | .replace _ _ | .mkdtemp _ | .rmtree _
  | .run _ | .ncnnLoadParam _ _ | .ncnnLoadModel _ _ | .mnnCreate _ _ _ _ | .sleep
  | .log (.loadingModel _) => False
  | _ => True

/-- A call that changes no file, but may load one. -/
def Filing : HostCall → Prop
  | .ncnnLoadParam _ _ | .ncnnLoadModel _ _ | .mnnCreate _ _ _ _ => True
  | c => Idle c

theorem idle_of_asking {c : HostCall} (asking : Asking c) : Idle c := by
  cases c with
  | makedirs | openWb | write | closeFile | replace | mkdtemp | rmtree | run | ncnnLoadParam
  | ncnnLoadModel | mnnCreate | sleep | log => exact asking.elim
  | _ => trivial

theorem filing_of_idle {c : HostCall} (idle : Idle c) : Filing c := by
  cases c with
  | ncnnLoadParam | ncnnLoadModel | mnnCreate => exact idle.elim
  | _ => exact idle

section Helpers

variable {σ α : Type}

theorem only_idle {p : HostM σ α} (only : Py.Only Asking p) : Py.Only Idle p :=
  only.mono fun _ => idle_of_asking

theorem only_isExecutable (tool : PyStr) : Py.Only Asking (isExecutable tool) :=
  (within_andAlso _ (Py.Only.ask trivial)).bind fun _ => within_andAlso _ (Py.Only.ask trivial)

theorem only_findTool (name env : String) : Py.Only Asking (findTool name env) :=
  Py.Within.bind (Py.Only.ask trivial) fun _ => (only_isExecutable _).bind fun _ =>
    .ite (.pure _) (Py.Only.ask trivial)

theorem only_bothExist (first second : FilePath) : Py.Only Asking (bothExist first second) :=
  Py.Within.bind (Py.Only.ask trivial) fun _ => within_andAlso _ (Py.Only.ask trivial)

theorem only_isWritten (path : FilePath) : Py.Only Asking (isWritten path) :=
  Py.Within.bind (Py.Only.ask trivial) fun _ =>
    within_andAlso _ (Py.Within.bind (Py.Only.ask trivial) fun _ => .pure _)

end Helpers

namespace NcnnBackend

variable {σ α : Type}

theorem only_isFresh (modelPath : PyStr) : Py.Only Asking (isFresh modelPath) :=
  Py.Within.bind (Py.Only.ask trivial) fun _ => Py.Within.bind (Py.Only.ask trivial) fun _ =>
    .ite (.pure _) <| Py.Within.bind (Py.Only.ask trivial) fun _ =>
      Py.Within.bind (Py.Only.ask trivial) fun _ => .ite (.pure _) <|
        Py.Within.bind (Py.Only.ask trivial) fun _ => .pure _

theorem only_referring (net : Nat) {q : HostM σ α} (inner : Py.Only Idle q) :
    Py.Only Idle (referring net q) :=
  inner.catching fun _ => Py.Within.bind (Py.Only.ask trivial) fun _ => .throw _

theorem returns_ensureConverted {W : Type} (E : Env Host W) (modelPath : PyStr) :
    Py.Returns E (fun files => files = cachePaths modelPath) (ensureConverted modelPath) :=
  (Py.Returns.any _).bind fun _ _ =>
    .ite (fun _ => .pure rfl) fun _ => (Py.Returns.any _).bind fun _ _ => .pure rfl

theorem only_owning (net : Nat) {q : HostM σ α} (inner : Py.Only Idle q) :
    Py.Only Idle (owning net q) :=
  inner.catching fun _ => Py.Within.bind (Py.Only.ask trivial) fun _ =>
    Py.Within.bind (Py.Only.ask trivial) fun _ => .throw _

theorem only_netThreads : Py.Only Asking netThreads :=
  Py.Within.get.bind fun _ =>
    .ite (Py.Within.bind (Py.Only.ask trivial) fun _ => .ofExcept _) (.pure _)

theorem only_buildNet (param binf : PyStr) : Py.Only Filing (buildNet param binf) := by
  refine Py.Within.get.bind fun _ => Py.Within.bind (Py.Only.ask trivial) fun net =>
    Py.Within.catching ?_ fun _ => Py.Within.bind (Py.Only.ask trivial) fun _ =>
      Py.Within.bind (Py.Only.ask trivial) fun _ => .throw _
  refine ((only_idle only_netThreads).mono fun _ => filing_of_idle).bind fun _ =>
    Py.Within.bind (Py.Only.ask trivial) fun _ => Py.Within.bind (Py.Only.ask trivial) fun _ => ?_
  exact .ite (.throw _) (Py.Within.bind (Py.Only.ask trivial) fun _ => .ite (.throw _) (.pure _))

theorem only_checkNames (net : Nat) (ins outs : IoMeta) : Py.Only Asking (checkNames net ins outs) :=
  Py.Within.bind (Py.Only.ask trivial) fun _ => Py.Within.bind (Py.Only.ask trivial) fun _ =>
    .ite (.pure _) (.throw _)

variable [NumPy]

theorem only_feed (feeds : Feeds) (ex : Nat) (name : PyStr) : Py.Only Asking (feed feeds ex name) :=
  (Py.Within.ofExcept _).bind fun _ => (Py.Within.ofExcept _).bind fun _ => Py.Only.ask trivial

theorem only_extract (ex : Nat) (out : PyStr × List Dim) : Py.Only Asking (extract ex out) :=
  Py.Within.bind (Py.Only.ask trivial) fun _ => .ite (.throw _) <|
    (Py.Within.ofExcept _).bind fun _ => .ofExcept _

theorem only_infer (feeds : Feeds) : Py.Only Asking (infer feeds) :=
  Py.Within.get.bind fun _ => (Py.Within.ofExcept _).bind fun _ =>
    Py.Within.bind (Py.Only.ask trivial) fun _ =>
      (Py.Within.forEach (only_feed feeds _) _).bind fun _ => .traverse (only_extract _) _

theorem only_finishLoad (net : Nat) (ins : IoMeta) : Py.Only Idle (finishLoad net ins) :=
  only_referring net <| Py.Within.bind (Py.Only.ask trivial) fun _ =>
    (Py.Within.traverse (fun _ => .ofExcept _) _).bind fun _ => (only_idle (only_infer _)).bind
      fun _ => Py.Only.ask trivial

end NcnnBackend

namespace MnnBackend

theorem only_isFresh (modelPath : PyStr) : Py.Only Asking (isFresh modelPath) :=
  Py.Within.bind (Py.Only.ask trivial) fun _ => Py.Within.bind (Py.Only.ask trivial) fun _ =>
    .ite (.pure _) <| Py.Within.bind (Py.Only.ask trivial) fun _ => .pure _

theorem returns_ensureConverted {W : Type} (E : Env Host W) (modelPath : PyStr) :
    Py.Returns E (fun mnn => mnn = cachePath modelPath) (ensureConverted modelPath) :=
  (Py.Returns.any _).bind fun _ _ =>
    .ite (fun _ => .pure rfl) fun _ => (Py.Returns.any _).bind fun _ _ => .pure rfl

theorem only_io (h which : Nat) (n : Int) : Py.Only Asking (io h which n) :=
  .traverse (fun _ => Py.Within.bind (Py.Only.ask trivial) fun _ => .ofExcept _) _

theorem only_describe (h : Nat) : Py.Only Asking (describe h) :=
  Py.Within.bind (Py.Only.ask trivial) fun _ => (only_io _ _ _).bind fun _ =>
    Py.Within.bind (Py.Only.ask trivial) fun _ => (only_io _ _ _).bind fun _ => .pure _

theorem only_drop (old : Option Nat) : Py.Only Idle (drop old) := by
  cases old with
  | none => exact .pure ()
  | some h => exact Py.Only.ask trivial

variable [NumPy]

theorem only_infer (feeds : Feeds) : Py.Only Asking (infer feeds) :=
  Py.Within.get.bind fun _ => (Py.Within.ofExcept _).bind fun _ => (Py.Within.ofExcept _).bind fun _ =>
    (Py.Within.ofExcept _).bind fun _ => (Py.Within.ofExcept _).bind fun _ =>
      Py.Within.bind (Py.Only.ask trivial) fun _ => .ite (.throw _) (.pure _)

theorem only_finishLoad (ins : List (PyStr × List Int)) : Py.Only Idle (finishLoad ins) :=
  Py.Within.bind (Py.Only.ask trivial) fun _ =>
    (Py.Within.traverse (fun _ => .ofExcept _) _).bind fun _ => (only_idle (only_infer _)).bind
      fun _ => Py.Only.ask trivial

end MnnBackend

/-! ## An inference, whichever engine serves -/

theorem OnnxRuntimeBackend.only_infer (feeds : Feeds) : Py.Only Asking (infer feeds) :=
  Py.Within.get.bind fun _ => (Py.Within.ofExcept _).bind fun _ => Py.Only.ask trivial

theorem OnnxRuntimeBackend.only_inputNames : Py.Only Asking inputNames := by
  refine Py.Within.get.bind fun self => ?_
  cases self.session with
  | none => exact .pure []
  | some session => exact Py.Only.ask trivial

theorem NcnnBackend.only_inputNames : Py.Only Asking inputNames := Py.Within.get.bind fun _ => .pure _

theorem MnnBackend.only_inputNames : Py.Only Asking inputNames := Py.Within.get.bind fun _ => .pure _

theorem FallbackBackend.only_onActive {α β γ : Type} {p : HostM α γ} {q : HostM β γ}
    {none : HostM (FallbackBackend α β) γ} (primary : Py.Only Asking p) (fallback : Py.Only Asking q)
    (neither : Py.Only Asking none) : Py.Only Asking (onActive p q none) := by
  refine Py.Within.get.bind fun self => ?_
  rcases self.active with - | active
  · exact neither
  · cases active with
    | primary => exact Py.Only.zoom (fun _ => rfl) primary
    | fallback => exact Py.Only.zoom (fun _ => rfl) fallback

/-- What the engines only ask, the backend only asks. -/
theorem Backend.only_dispatch [NumPy] {γ : Type}
    {method : ∀ {β : Type}, [InferenceBackend β] → HostM β γ}
    (ort : Py.Only Asking (method : HostM OnnxRuntimeBackend γ))
    (ncnn : Py.Only Asking (method : HostM NcnnBackend γ))
    (mnn : Py.Only Asking (method : HostM MnnBackend γ))
    (ncnnFallback : Py.Only Asking (method : HostM (FallbackBackend NcnnBackend OnnxRuntimeBackend) γ))
    (mnnFallback : Py.Only Asking (method : HostM (FallbackBackend MnnBackend OnnxRuntimeBackend) γ)) :
    Py.Only Asking (dispatch method) := by
  have within {β : Type} {q : HostM β γ} (only : Py.Only Asking q) {wrap : β → Backend} (b : β)
      (w : Prop) :
      (Backend.within wrap b q).wpc (Prog.checked Asking)
        (fun w' => ∃ s', Py.Mild (wrap b, w) (s', w')) (fun _ s' w' => Py.Mild (wrap b, w) (s', w'))
        (wrap b) w := by
    rw [Backend.within, Py.wpc_zoom]
    refine Py.wpc_mono (fun w' crash => ?_) (fun r b' w' mild => ?_) (only b w)
    · obtain ⟨_, -, kept⟩ := crash
      exact ⟨wrap b, rfl, kept⟩
    · obtain ⟨rfl, kept⟩ := mild
      exact ⟨rfl, kept⟩
  intro self w
  rw [dispatch, Py.wpc_bind, Py.wpc_get, Py.either_ok]
  cases self with
  | ort b => exact within ort b w
  | ncnn b => exact within ncnn b w
  | mnn b => exact within mnn b w
  | ncnnFallback b => exact within ncnnFallback b w
  | mnnFallback b => exact within mnnFallback b w

variable [NumPy]

theorem Backend.only_infer (feeds : Feeds) :
    Py.Only Asking (InferenceBackend.infer feeds : HostM Backend (List NdArray)) := by
  have ort := OnnxRuntimeBackend.only_infer feeds
  have ncnn := NcnnBackend.only_infer feeds
  have mnn := MnnBackend.only_infer feeds
  exact only_dispatch ort ncnn mnn (FallbackBackend.only_onActive ncnn ort (.throw _))
    (FallbackBackend.only_onActive mnn ort (.throw _))

theorem Backend.only_inputNames :
    Py.Only Asking (InferenceBackend.inputNames : HostM Backend (List PyStr)) := by
  have ort := OnnxRuntimeBackend.only_inputNames
  have ncnn := NcnnBackend.only_inputNames
  have mnn := MnnBackend.only_inputNames
  exact only_dispatch ort ncnn mnn (FallbackBackend.only_onActive ncnn ort (.pure _))
    (FallbackBackend.only_onActive mnn ort (.pure _))

end Detector
