import FrigateAsahi.Backends.MnnSeam
import FrigateAsahi.Backends.NcnnSeam
import FrigateAsahi.ZmqOnnxClient

/-!
# Engines behind the backend seam

What a backend reports and returns has to follow the ONNX graph, since the server feeds its tensor to
the first input name and takes the outputs by position. ONNX Runtime and ncnn do; MNN's outputs do,
and its input names do exactly when the shim happens to enumerate the inputs in the order of the
graph.
-/

namespace Detector

open Text Python Numpy Interaction

/-- The engines, around the server. -/
def Graph.aroundServer [NumPy] (g : Graph) : Env Server Graph.World :=
  ⟨fun w c r w' => match c, r with
    | .host c, r => g.step w c r w'
    | _, _ => w' = w⟩

section Engines

variable [NumPy] {g : Graph}

/-! ## The server on top -/

/-- What the server feeds to an engine: the tensor under the first name of the graph, or the two
inputs of one model type. -/
def Prepared (g : Graph) (tensor : NdArray) (dfine : Bool) (feeds : Feeds) : Prop :=
  if dfine then ∃ images sizes, tensor.astypeFloat32 = .ok images ∧
    feeds = [(py "images", images), (py "orig_target_sizes", sizes)]
  else ∃ name, (g.ins.map Prod.fst).head? = some name ∧ feeds = [(name, tensor)]

/-- The outputs of the graph, by position, of what the server prepared for a request. -/
def Posted (g : Graph) (seam : Seam) (tensor : NdArray) (header : Json) (outs : List NdArray) :
    Prop :=
  ∃ fields feeds, members header = .ok fields ∧
    Prepared g tensor (isDfine (getD fields "model_type" .null)) feeds ∧ g.Computed seam feeds outs

section Server

variable {β : Type} [InferenceBackend β] {seam : Seam} {self : ZmqOnnxClient β} {w : Graph.World}

omit [NumPy] [InferenceBackend β] in
theorem hostEnv_aroundServer [NumPy] : hostEnv g.aroundServer = g.serving := by
  unfold hostEnv Env.pull Graph.serving
  congr
  funext w c r w'
  refine propext ⟨fun called => ?_, fun step => ⟨r, rfl, step⟩⟩
  rcases called with ⟨_, rfl, step⟩
  exact step

theorem feedsOf_spec (same : Interchangeable g.serving id g seam self.backend w) (tensor : NdArray)
    (modelType : Json) (width height : Int) :
    (feedsOf tensor modelType width height).wpc g.aroundServer (fun _ => True)
      (fun r self' w' => self' = self ∧ w' = w ∧ Py.either
        (Prepared g tensor (isDfine modelType)) (fun _ => True) r) self w := by
  unfold feedsOf Prepared
  cases dfine : isDfine modelType with
  | true =>
      rw [if_pos rfl, Py.wpc_bind, Py.wpc_ofExcept]
      cases converted : tensor.astypeFloat32 with
      | error e => exact ⟨rfl, rfl, trivial⟩
      | ok images =>
          rw [Py.either_ok, Py.wpc_bind, Py.wpc_ofExcept]
          cases int64Row height width with
          | error e => exact ⟨rfl, rfl, trivial⟩
          | ok sizes => exact ⟨rfl, rfl, images, sizes, rfl, rfl⟩
  | false =>
      rw [if_neg Bool.false_ne_true, Py.wpc_bind, wpc_onBackend, hostEnv_aroundServer]
      refine Py.wpc_mono (fun _ _ => trivial) (fun r backend w' answered => ?_) same.names
      obtain ⟨rfl, rfl, rfl⟩ := answered
      rw [Py.either_ok]
      cases g.ins.map Prod.fst with
      | nil => exact ⟨rfl, rfl, trivial⟩
      | cons name names => exact ⟨rfl, rfl, name, rfl, rfl⟩

/-- Whatever a run hands to post-processing are the outputs of the graph, in its order, of what the
server prepared. -/
theorem runInference_spec (same : Interchangeable g.serving id g seam self.backend w) (tensor : NdArray)
    (header : Json) :
    (runInference tensor header).wpc g.aroundServer (fun _ => True) (fun _ _ w' =>
      ∀ outs ∈ w'.handed, outs ∈ w.handed ∨ Posted g seam tensor header outs) self w := by
  have nothing : ∀ outs ∈ w.handed, outs ∈ w.handed ∨ Posted g seam tensor header outs :=
    fun outs mem => .inl mem
  have caught : ∀ (e : PyErr) (s' : ZmqOnnxClient β) (w' : Graph.World),
      (∀ outs ∈ w'.handed, outs ∈ w.handed ∨ Posted g seam tensor header outs) →
        if e.IsException then (pure zeroResult : ServerM β NdArray).wpc g.aroundServer
          (fun _ => True) (fun _ _ w' =>
            ∀ outs ∈ w'.handed, outs ∈ w.handed ∨ Posted g seam tensor header outs) s' w'
        else ∀ outs ∈ w'.handed, outs ∈ w.handed ∨ Posted g seam tensor header outs := by
    intro e s' w' kept
    rw [Py.wpc_pure, ite_self]
    exact kept
  rw [runInference, Py.wpc_bind, Py.wpc_get, Py.either_ok, Py.wpc_ite]
  split
  · exact nothing
  · rw [wpc_exceptException, Py.wpc_bind, Py.wpc_ofExcept]
    cases read : members header with
    | error e => exact caught e self w nothing
    | ok fields =>
        rw [Py.either_ok, Py.wpc_bind]
        refine Py.wpc_mono (fun _ _ => trivial) (fun r self' w₁ prepared => ?_)
          (feedsOf_spec same tensor _ _ _)
        obtain ⟨rfl, rfl, prepared⟩ := prepared
        cases r with
        | error e => exact caught e self' w₁ nothing
        | ok feeds =>
            rw [Py.either_ok, Py.wpc_bind, wpc_onBackend, hostEnv_aroundServer]
            refine Py.wpc_mono (fun _ _ => trivial) (fun r backend w₂ inferred => ?_)
              (same.outputs feeds)
            obtain ⟨handed, -, outputs⟩ := inferred
            have handed : w₂.handed = w₁.handed := handed
            cases r with
            | error e => exact caught e _ w₂ (handed ▸ nothing)
            | ok outs =>
                rw [Py.either_ok, Py.wpc_bind, Py.wpc_ofExcept]
                cases postProcessOf _ _ _ with
                | error e => exact caught e _ w₂ (handed ▸ nothing)
                | ok kind =>
                    rw [Py.either_ok, Py.wpc_bind, Py.wpc_ask]
                    intro r w₃ step
                    have granted : g.Granted w₂ (.postProcess kind outs) := trivial
                    have posted : w₃ = { w₂ with handed := outs :: w₂.handed } :=
                      Graph.promised granted step
                    refine ⟨trivial, ?_⟩
                    have now : ∀ outs ∈ w₃.handed,
                        outs ∈ w₁.handed ∨ Posted g seam tensor header outs := by
                      intro outs' mem
                      rw [posted, List.mem_cons, handed] at mem
                      rcases mem with rfl | old
                      · exact .inr ⟨fields, feeds, read, prepared, outputs _ rfl⟩
                      · exact .inl old
                    cases r with
                    | error e => exact caught e _ w₃ now
                    | ok result =>
                        rw [Py.either_ok, Py.wpc_ofExcept]
                        cases result.array.astypeFloat32 with
                        | error e => exact caught e _ w₃ now
                        | ok _ => exact now

end Server

/-- After a load, ONNX Runtime and ncnn stand behind the seam in the order of the graph, each taking
its tensors and returning its outputs in its own way. MNN does if and only if the shim lists the
inputs in the order of the graph; the session that the load replaces is open, as the new one is. And
where a backend stands there, the server hands the outputs of the graph to post-processing, by
position. -/
theorem engines_interchangeable (g : Graph) (modelPath : PyStr) (w : Graph.World) :
    (∀ self, (OnnxRuntimeBackend.load modelPath).wpc g.serving (fun _ => True)
      (fun r self' w' => r = .ok () → Interchangeable g.serving id g .whole self' w') self w) ∧
    (∀ self, (NcnnBackend.load modelPath).wpc g.serving (fun _ => True)
      (fun r self' w' => r = .ok () →
        Interchangeable g.serving id g NcnnBackend.seam self' w') self w) ∧
    (∀ self, MnnBackend.Opened self w → (MnnBackend.load modelPath).wpc g.serving (fun _ => True)
      (fun r self' w' => MnnBackend.Opened self' w' ∧
        (r = .ok () → (Interchangeable g.serving id g MnnBackend.seam self' w' ↔
          g.inOrder = g.ins.map Prod.fst))) self w) ∧
    ∀ {β : Type} [InferenceBackend β] (seam : Seam) (self : ZmqOnnxClient β) (tensor : NdArray)
      (header : Json), Interchangeable g.serving id g seam self.backend w →
        (runInference tensor header).wpc g.aroundServer (fun _ => True) (fun _ _ w' =>
          ∀ outs ∈ w'.handed, outs ∈ w.handed ∨ Posted g seam tensor header outs) self w := by
  refine ⟨fun self => ?_, fun self => ?_, fun self opened => ?_, fun _ _ tensor header same => ?_⟩
  · exact Py.wpc_mono (fun _ _ => trivial)
      (fun _ _ _ opens ok => OnnxRuntimeBackend.interchangeable (opens ok))
      (OnnxRuntimeBackend.load_opens modelPath self w)
  · exact Py.wpc_mono (fun _ _ => trivial)
      (fun _ _ _ serves ok => NcnnBackend.interchangeable (serves ok))
      (NcnnBackend.load_named modelPath self w)
  · exact Py.wpc_mono (fun _ _ => trivial)
      (fun _ _ _ loaded => ⟨loaded.2.1, fun ok => MnnBackend.interchangeable_iff (loaded.2.2 ok)⟩)
      (MnnBackend.load_holds modelPath opened)
  · exact runInference_spec same tensor header

end Engines

/-! ## Two inputs that MNN enumerates by name -/

section Swapped

attribute [local instance] NumPy.reference

def swapped : Graph where
  ins := [(py "z", []), (py "a", [])]
  outs := [(py "y", [])]
  inOrder := [py "a", py "z"]
  outOrder := [py "y"]
  outShape _ := []
  shown := some
  eval _ _ := .zeros [] .float32
  ins_nodup := by decide +kernel
  outs_nodup := by decide +kernel
  inOrder_perm := by decide +kernel
  outOrder_perm := by decide +kernel
  shown_idem := fun _ => rfl

namespace swapped

/-- The converted model is there, and the session answers everything it is asked. -/
def answer (w : Graph.World) : (c : HostCall) → Except PyErr c.Answer
  | .onnxIoMeta _ => .ok (swapped.ins, swapped.outs)
  | .getmtime _ | .mkdtemp _ => .ok 0
  | .getsize _ => .ok 1
  | .mnnCreate _ _ _ _ => .ok (if 1 ∈ w.sessions then none else some 1)
  | .mnnNumInputs _ => .ok 2
  | .mnnNumOutputs _ => .ok 1
  | .mnnIoInfo _ which idx =>
    match (if which = 0 then swapped.inOrder else swapped.outOrder)[idx]? with
    | some name => .ok ⟨0, encodeAscii name, fun _ => 0⟩
    | none => .error (exception "index out of range")
  | .mnnInfer _ _ buffers =>
    if ∀ a ∈ buffers, a.data = [0, 0, 0, 0] then .ok (0, .untouched)
    else .error (exception "size mismatch")
  | .log _ => .ok ()
  | .ortInputs _ => .ok (swapped.ins.map Prod.fst)
  | _ => .error (exception "failed")

def note (w : Graph.World) (c : HostCall) (_ : Except PyErr c.Answer) : Graph.World :=
  match c with
  | .postProcess _ outputs => { w with handed := outputs :: w.handed }
  | .mnnCreate _ _ _ _ => if 1 ∈ w.sessions then w else w.opened 1
  | .mnnDestroy h => w.shut h
  | _ => w

theorem kept (w : Graph.World) (c : HostCall) :
    swapped.promise w c (answer w c) (note w c (answer w c)) := by
  have ascii : ∀ name ∈ swapped.inOrder ++ swapped.outOrder, IsAscii name := by decide +kernel
  cases c with
  | mnnCreate path forwardType precision threads =>
      change w.Created (.ok (if 1 ∈ w.sessions then none else some 1))
        (if 1 ∈ w.sessions then w else w.opened 1)
      by_cases old : 1 ∈ w.sessions
      · rw [if_pos old, if_pos old]
        rfl
      · rw [if_neg old, if_neg old]
        exact ⟨old, rfl⟩
  | mnnIoInfo h which idx =>
      refine ⟨rfl, fun info made nonneg => ?_⟩
      dsimp only [answer] at made
      split at made
      · next name found =>
          cases made
          have mem : name ∈ swapped.inOrder ++ swapped.outOrder := by
            have mem := List.mem_of_getElem? found
            split at mem
            · exact List.mem_append_left _ mem
            · exact List.mem_append_right _ mem
          refine ⟨name, found, fun n decoded => ?_, fun _ => ⟨rfl, fun k d none => ?_⟩⟩
          · rw [decodeUtf8_ascii (ascii name mem)] at decoded
            exact decoded
          · cases none
      · cases made
  | mnnInfer h inputs buffers =>
      refine ⟨rfl, fun fill made i name a _ buffer => ?_⟩
      dsimp only [answer] at made
      split at made
      · next zeros =>
          cases made
          exact ⟨.zeros [] .float32, rfl, rfl, zeros a (List.mem_of_getElem? buffer)⟩
      · cases made
  | ncnnExtractor | ncnnInput => exact ⟨⟨w.fed, rfl⟩, by simp [answer]⟩
  | _ => simp [Graph.promise, answer, note, swapped]

theorem sound (w : Graph.World) (c : HostCall) :
    swapped.serving.step w c (answer w c) (note w c (answer w c)) := by
  by_cases granted : swapped.Granted w c
  · exact .inl ⟨granted, kept w c⟩
  · refine .inr ⟨granted, .inl ?_⟩
    cases c with
    | mnnNumInputs | mnnNumOutputs | mnnIoInfo | mnnInfer => rfl
    | mnnDestroy h =>
        have same : w.sessions.erase h = w.sessions := List.erase_of_not_mem granted
        change { w with sessions := w.sessions.erase h } = w
        rw [same]
    | _ => exact absurd trivial granted

/-- What the load leaves. -/
def loaded : (Except PyErr Unit × MnnBackend) × Graph.World :=
  (MnnBackend.load (py "m.onnx")).answering note answer (.init 7 true none)
    ⟨fun _ => [], [], false, []⟩

theorem exec_loaded : (MnnBackend.load (py "m.onnx")).Exec swapped.serving (.init 7 true none)
    ⟨fun _ => [], [], false, []⟩ (.ok ()) loaded.1.2 loaded.2 := by
  refine Py.exec_answering sound _ _ _ ?_
  decide +kernel

end swapped

/-- The second input of the graph is reported as the first one. -/
theorem swapped_not_interchangeable :
    ¬ ∀ (g : Graph) (modelPath : PyStr) (self : MnnBackend) (w : Graph.World),
      MnnBackend.Opened self w → (MnnBackend.load modelPath).wpc g.serving (fun _ => True)
        (fun r self' w' => r = .ok () →
          Interchangeable g.serving id g MnnBackend.seam self' w') self w := by
  intro all
  have opened : MnnBackend.Opened (.init 7 true none) ⟨fun _ => [], [], false, []⟩ := by
    intro h none
    cases none
  have same := Py.wpc_exec (all swapped (py "m.onnx") _ _ opened) swapped.exec_loaded rfl
  have loaded := Py.wpc_exec (MnnBackend.load_holds (py "m.onnx") opened) swapped.exec_loaded
  exact absurd ((MnnBackend.interchangeable_iff (loaded.2.2 rfl)).mp same) (by decide +kernel)

end Swapped

end Detector
