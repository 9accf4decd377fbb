import FrigateAsahi.Backends.Ncnn
import FrigateAsahi.Backends.Mnn

/-!
# What stands behind the backend seam

An engine has its own order for the inputs and outputs of a model, and its own way to take a tensor
and to return one. The promises of the three engines about a model are here, and what a backend has
to make of them: names and outputs in the order of the ONNX graph. ONNX Runtime does so.
-/

namespace Detector

open Text Python Numpy Interaction

/-! ## A model in an engine -/

/-- The last tensor that was fed under a name, the latest first. -/
def fedBy (fed : Feeds) (name : PyStr) : Option NdArray :=
  (fed.find? fun f => decide (f.1 = name)).map Prod.snd

/-- A model with distinctly named inputs and outputs, the order in which the engine enumerates
them, the shapes of the outputs in a session of MNN, what of a name comes through the buffer of the
shim, and what the model computes: an output, by name, from tensors, by name. -/
structure Graph : Type where
  ins : IoMeta
  outs : IoMeta
  inOrder : List PyStr
  outOrder : List PyStr
  outShape : PyStr → List Nat
  shown : PyStr → Option PyStr
  eval : (PyStr → Option NdArray) → PyStr → NdArray
  ins_nodup : (ins.map Prod.fst).Nodup
  outs_nodup : (outs.map Prod.fst).Nodup
  inOrder_perm : inOrder.Perm (ins.map Prod.fst)
  outOrder_perm : outOrder.Perm (outs.map Prod.fst)
  shown_idem : ∀ {n m}, shown n = some m → shown m = some m

/-- One array of type `float32` for each of so many tensors. -/
def Float32s (count : Nat) (arrays : List NdArray) : Prop :=
  arrays.length = count ∧ ∀ a ∈ arrays, a.dtype = .float32

instance (count : Nat) (arrays : List NdArray) : Decidable (Float32s count arrays) :=
  inferInstanceAs (Decidable (arrays.length = count ∧ ∀ a ∈ arrays, a.dtype = .float32))

namespace Graph

/-- What the engines hold: what each extractor of ncnn has been fed, the sessions of MNN that are
open, and whether the shim was called in a way for which it promises nothing. Last, the outputs that
were handed to post-processing. -/
structure World : Type where
  fed : Nat → Feeds
  sessions : List Nat
  faulted : Bool
  handed : List (List NdArray)

def World.opened (w : World) (h : Nat) : World := { w with sessions := h :: w.sessions }

def World.shut (w : World) (h : Nat) : World := { w with sessions := w.sessions.erase h }

/-- A session that was created is a new one. -/
def World.Created (w : World) : Except PyErr (Option Nat) → World → Prop
  | .ok (some h), w' => h ∉ w.sessions ∧ w' = w.opened h
  | _, w' => w' = w

section Promises

variable [NumPy] (g : Graph)

/-- What the shim has to be called with: an open session, and for an inference one array of type
`float32` for each input and output. It checks none of this. -/
def Granted (w : World) : HostCall → Prop
  | .mnnNumInputs h | .mnnNumOutputs h | .mnnIoInfo h _ _ | .mnnDestroy h => h ∈ w.sessions
  | .mnnInfer h inputs outputs => (∃ k ∈ h, k ∈ w.sessions) ∧
    Float32s g.inOrder.length inputs ∧ Float32s g.outOrder.length outputs
  | _ => True

/-- The tensors that a feed dictionary holds for the inputs, converted as an engine takes them. -/
def matched (taken : NdArray → Option NdArray) (feeds : Feeds) (name : PyStr) : Option NdArray :=
  if name ∈ g.ins.map Prod.fst then (feeds.get name).bind taken else none

/-- What `mnn_shim_io_info` leaves behind for a tensor of a session: its name as far as it comes
through, and the dimensions of an output as far as there is room. -/
def Described (which : Nat) (o : PyStr) (info : IoInfo) : Prop :=
  (∀ n, decodeUtf8 info.name = some n → g.shown o = some n) ∧
    (which ≠ 0 → info.nd = (g.outShape o).length ∧
      ∀ (k : Fin 8) d, (g.outShape o)[k.val]? = some d → info.dims k = d)

/-- The promises of the three engines about a model. The shim hands over what fits of a name, and
takes and fills its buffers in its own order. -/
def promise (w : World) : (c : HostCall) → Except PyErr c.Answer → World → Prop
  | .onnxIoMeta _, r, w' => w' = w ∧ ∀ io, r = .ok io → io = (g.ins, g.outs)
  | .ortInputs _, r, w' => w' = w ∧ r = .ok (g.ins.map Prod.fst)
  | .ortRun _ feeds, r, w' => w' = w ∧
    ∀ outs, r = .ok outs → outs = g.outs.map fun o => g.eval (g.matched some feeds) o.1
  | .ncnnExtractor _, r, w' => (∃ fed, w' = { w with fed := fed }) ∧
    ∀ ex, r = .ok ex → w'.fed = Function.update w.fed ex []
  | .ncnnInput ex name mat, r, w' => (∃ fed, w' = { w with fed := fed }) ∧
    (r = .ok () → w'.fed = Function.update w.fed ex ((name, mat) :: w.fed ex))
  | .ncnnExtract ex name, r, w' => w' = w ∧
    ∀ m, r = .ok (0, m) → m = g.eval (fedBy (w.fed ex)) name
  | .mnnCreate _ _ _ _, r, w' => w.Created r w'
  | .mnnNumInputs _, r, w' => w' = w ∧ ∀ n, r = .ok n → n = g.inOrder.length
  | .mnnNumOutputs _, r, w' => w' = w ∧ ∀ n, r = .ok n → n = g.outOrder.length
  | .mnnIoInfo _ which idx, r, w' => w' = w ∧ ∀ info, r = .ok info → 0 ≤ info.nd →
    ∃ o, (if which = 0 then g.inOrder else g.outOrder)[idx]? = some o ∧ g.Described which o info
  | .mnnInfer _ inputs buffers, r, w' => w' = w ∧ ∀ fill, r = .ok (0, fill) →
    ∀ (i : Nat) name a, g.outOrder[i]? = some name → buffers[i]? = some a →
      ∃ b, (g.eval (fedBy (g.inOrder.zip inputs)) name).astypeFloat32 = .ok b ∧
        b.shape = g.outShape name ∧ (fill i a).1 = b.data
  | .mnnDestroy h, _, w' => w' = w.shut h
  | .postProcess _ outputs, _, w' => w' = { w with handed := outputs :: w.handed }
  | _, _, w' => w' = w

/-- A call of the shim that it checks nothing of may be answered with anything, and is noted. -/
def step (w : World) (c : HostCall) (r : Except PyErr c.Answer) (w' : World) : Prop :=
  (g.Granted w c ∧ g.promise w c r w') ∨
    (¬ g.Granted w c ∧ (w' = w ∨ w' = { w with faulted := true }))

def serving : Env Host World := ⟨g.step⟩

variable {g}

theorem promised {w w' : World} {c : HostCall} {r : Except PyErr c.Answer} (granted : g.Granted w c)
    (step : g.step w c r w') : g.promise w c r w' := by
  rcases step with ⟨-, promise⟩ | ⟨refused, -⟩
  · exact promise
  · exact absurd granted refused

end Promises

end Graph

/-! ## Standing behind the seam -/

/-- How an engine takes a tensor, and what it may return for an output of the model, given the shape
that the graph declares for it. -/
structure Seam : Type where
  taken : NdArray → Option NdArray
  Returns : List Dim → NdArray → NdArray → Prop

/-- A tensor as an engine is fed it: its numbers as `float32`, in their order, under the shape that
the engine sees. -/
def fedAs [NumPy] (see : List Nat → Option (List Nat))
    (size : ∀ {shape seen}, see shape = some seen → seen.prod = shape.prod) (x : NdArray) :
    Option NdArray :=
  match NumPy.float32Data x with
  | none => none
  | some octets =>
    match sees : see x.shape with
    | none => none
    | some seen => some ⟨seen, .float32, octets.1, (congrArg (· * 4) (size sees)).symm ▸ octets.2⟩

/-- Tensors go in and come out as they are. -/
def Seam.whole : Seam := ⟨some, fun _ a t => t = a⟩

/-- At each position the output of the graph that stands there, computed from the feeds by name. -/
def Graph.Computed [NumPy] (g : Graph) (seam : Seam) (feeds : Feeds) (outs : List NdArray) : Prop :=
  List.Forall₂ (fun t o => seam.Returns o.2 (g.eval (g.matched seam.taken feeds) o.1) t) outs g.outs

/-- The input names are those of the graph in its order. So are the outputs of an inference, which
hands nothing to post-processing and stays within what the shim may be called with. -/
structure Interchangeable [NumPy] {W β : Type} [InferenceBackend β] (E : Env Host W)
    (view : W → Graph.World) (g : Graph) (seam : Seam) (backend : β) (w : W) : Prop where
  names : (InferenceBackend.inputNames : HostM β (List PyStr)).wpc E (fun _ => True)
    (fun r b w' => r = .ok (g.ins.map Prod.fst) ∧ b = backend ∧ w' = w) backend w
  outputs : ∀ feeds, (InferenceBackend.infer feeds : HostM β (List NdArray)).wpc E (fun _ => True)
    (fun r _ w' => (view w').handed = (view w).handed ∧ (view w').faulted = (view w).faulted ∧
      ∀ outs, r = .ok outs → g.Computed seam feeds outs) backend w

/-- The relation of a method that changes no field, hands nothing to post-processing and calls the
shim only as it may be called. -/
def Unposted {σ : Type} (x y : σ × Graph.World) : Prop :=
  y.1 = x.1 ∧ y.2.handed = x.2.handed ∧ y.2.faulted = x.2.faulted

instance {σ : Type} : IsPreorder (σ × Graph.World) Unposted where
  refl _ := ⟨rfl, rfl, rfl⟩
  trans _ _ _ first next := ⟨next.1.trans first.1, next.2.1.trans first.2.1, next.2.2.trans first.2.2⟩

/-- A call that is none of the shim's and hands nothing to post-processing. -/
def Sessionless : HostCall → Prop
  | .mnnCreate _ _ _ _ | .mnnNumInputs _ | .mnnNumOutputs _ | .mnnIoInfo _ _ _ | .mnnInfer _ _ _
  | .mnnDestroy _ | .postProcess _ _ => False
  | _ => True

section Engines

variable [NumPy] {g : Graph}

omit [NumPy] in
theorem granted_of_sessionless {c : HostCall} (free : Sessionless c) (w : Graph.World) :
    g.Granted w c := by
  cases c with
  | mnnNumInputs | mnnNumOutputs | mnnIoInfo | mnnInfer | mnnDestroy => exact free.elim
  | _ => trivial

theorem unposted_ask {σ : Type} {c : HostCall} (free : Sessionless c) :
    Py.Within g.serving Unposted (ask c : HostM σ c.Answer) := by
  refine .ask fun s w r w' step => ⟨rfl, ?_⟩
  have step : g.promise w c r w' := Graph.promised (granted_of_sessionless free w) step
  unfold Graph.promise at step
  split at step
  all_goals first
    | exact free.elim
    | exact ⟨congrArg Graph.World.handed step.1, congrArg Graph.World.faulted step.1⟩
    | exact ⟨congrArg Graph.World.handed step, congrArg Graph.World.faulted step⟩
    | obtain ⟨⟨fed, rfl⟩, -⟩ := step; exact ⟨rfl, rfl⟩

theorem apart_of_unposted {σ α : Type} {p : HostM σ α} (unposted : Py.Within g.serving Unposted p) :
    Py.Within g.serving Py.Apart p := by
  intro s w
  refine Py.wpc_mono (fun w' crash => ?_) (fun _ _ _ same => same.1) (unposted s w)
  exact ⟨s, rfl⟩

/-- A call that is no engine's. -/
def Elsewhere : HostCall → Prop
  | .ncnnExtractor _ | .ncnnInput _ _ _ => False
  | c => Sessionless c

theorem elsewhere_ask {σ : Type} {c : HostCall} (elsewhere : Elsewhere c) :
    Py.Within g.serving Py.Still (ask c : HostM σ c.Answer) := by
  have free : Sessionless c := by
    cases c with
    | ncnnExtractor | ncnnInput => exact elsewhere.elim
    | _ => exact elsewhere
  refine .ask fun s w r w' step => congrArg (Prod.mk s) ?_
  have step : g.promise w c r w' := Graph.promised (granted_of_sessionless free w) step
  unfold Graph.promise at step
  split at step
  all_goals first
    | exact elsewhere.elim
    | exact step.1
    | exact step

omit [NumPy] in
theorem wpc_elsewhere {σ α W : Type} {E : Env Host W} {p : HostM σ α} (still : Py.Within E Py.Still p)
    {s : σ} {w : W} : p.wpc E (fun w' => w' = w) (fun _ s' w' => s' = s ∧ w' = w) s w := by
  refine Py.wpc_mono (fun w' crash => ?_) (fun r s' w' same => ?_) (still s w)
  · obtain ⟨s', same⟩ := crash
    exact congrArg Prod.snd same
  · exact ⟨congrArg Prod.fst same, congrArg Prod.snd same⟩

/-- A method leaves the seam as it was, whatever else is known of what it returns. -/
theorem unposted_and {σ α : Type} {p : HostM σ α} {Q : Except PyErr α → Prop} {s : σ}
    {w : Graph.World} (unposted : Py.Within g.serving Unposted p)
    (returns : p.wpc g.serving (fun _ => True) (fun r _ _ => Q r) s w) :
    p.wpc g.serving (fun _ => True)
      (fun r _ w' => w'.handed = w.handed ∧ w'.faulted = w.faulted ∧ Q r) s w :=
  Py.wpc_mono (fun _ _ => trivial) (fun _ _ _ both => ⟨both.1.2.1, both.1.2.2, both.2⟩)
    (Py.wpc_and (unposted s w) returns)

theorem astypeFloat32_dtype {a b : NdArray} (converted : a.astypeFloat32 = .ok b) :
    b.dtype = .float32 := by
  unfold NdArray.astypeFloat32 at converted
  split at converted
  · cases converted
    rfl
  · cases converted

/-! ## ONNX Runtime -/

namespace OnnxRuntimeBackend

theorem unposted_infer (feeds : Feeds) : Py.Within g.serving Unposted (infer feeds) :=
  Py.Within.get.bind fun _ => (Py.Within.ofExcept _).bind fun _ => unposted_ask (by trivial)

theorem interchangeable {self : OnnxRuntimeBackend} {w : Graph.World}
    (open' : self.session.isSome) : Interchangeable g.serving id g .whole self w := by
  obtain ⟨session, shape⟩ := Option.isSome_iff_exists.mp open'
  constructor
  · change inputNames.wpc _ _ _ _ _
    rw [inputNames, Py.wpc_bind, Py.wpc_get, Py.either_ok, shape, Py.wpc_ask]
    intro r w' step
    have granted : g.Granted w (.ortInputs session) := trivial
    obtain ⟨same, named⟩ := Graph.promised granted step
    exact ⟨trivial, named, rfl, same⟩
  · intro feeds
    refine unposted_and (unposted_infer feeds) ?_
    change (infer feeds).wpc _ _ _ _ _
    rw [infer, Py.wpc_bind, Py.wpc_get, Py.either_ok, Py.wpc_bind, wpc_require]
    refine ⟨fun session _ => ?_, fun _ => by simp⟩
    rw [Py.either_ok, Py.wpc_ask]
    intro r w' step
    refine ⟨trivial, fun outs made => ?_⟩
    have granted : g.Granted w (.ortRun session feeds) := trivial
    rw [(Graph.promised granted step).2 outs made]
    exact List.forall₂_map_left_iff.mpr (List.forall₂_same.mpr fun _ _ => rfl)

theorem load_opens (modelPath : PyStr) (self : OnnxRuntimeBackend) (w : Graph.World) :
    (load modelPath).wpc g.serving (fun _ => True)
      (fun r self' _ => r = .ok () → self'.session.isSome) self w := by
  have failed : ∀ {self : OnnxRuntimeBackend} (e : PyErr) (_ : Graph.World),
      (Except.error e : Except PyErr Unit) = .ok () → self.session.isSome :=
    by simp
  rw [load, Py.wpc_bind, Py.wpc_get, Py.either_ok]
  refine Py.wpc_skip (.ask_apart _ _) failed fun session w => ?_
  refine Py.wpc_skip (.ask_apart _ _) failed fun inputs w => ?_
  refine Py.wpc_skip (.ofExcept _) failed fun _ w => ?_
  refine Py.wpc_skip (.ask_apart _ _) failed fun outputs w => ?_
  refine Py.wpc_skip (.ofExcept _) failed fun _ w => ?_
  rw [Py.wpc_modify]
  exact fun _ => rfl

end OnnxRuntimeBackend

end Engines

end Detector
