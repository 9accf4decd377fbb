import FrigateAsahi.Backends.Base

/-!
# MNN through the C shim

Handles are numbers that `mnnCreate` returns and `mnnDestroy` takes back; the shim itself keeps no
account of them.
-/

namespace Detector

open Text Python Numpy Interaction

/-! ## The converter -/

/-- Whether the converter left a file that is not empty. -/
def isWritten (p : FilePath) : HostM Unit Bool := do
  let present ← ask (.exists p)
  andAlso present (do
    let size ← ask (.getsize p)
    pure (decide (size ≠ 0)))

def convertOnnxToMnn (onnxPath mnnPath : PyStr) : HostM Unit Unit := do
  let tool ← findTool "MNNConvert" "DETECTOR_MNNCONVERT"
  let r ← ask (.run (.mnnconvert tool onnxPath (.at (mnnPath ++ py ".tmp"))))
  let converted ← andAlso (decide (r.returncode = 0)) (isWritten (.at (mnnPath ++ py ".tmp")))
  if ¬ converted then throw (exception "mnn conversion failed")
  else ask (.replace (.at (mnnPath ++ py ".tmp")) (.at mnnPath))

/-! ## The backend -/

structure MnnBackend : Type where
  forwardType : Int
  fp16 : Bool
  threads : Option Int
  h : Option Nat
  inNames : List PyStr
  inShapes : List (List Int)
  outNames : List PyStr
  outShapes : List (List Int)
  /-- Set by the first load. -/
  outOrder : Option (List Nat)
  closed : Bool

namespace MnnBackend

/-- What the constructor leaves once the shim is open. -/
def init (forwardType : Int) (fp16 : Bool) (threads : Option Int) : MnnBackend :=
  ⟨forwardType, fp16, threads, none, [], [], [], [], none, false⟩

def cachePath (modelPath : PyStr) : PyStr := (splitext modelPath).1 ++ py ".mnn"

def isFresh (modelPath : PyStr) : HostM Unit Bool := do
  let mnnTime ← ask (.getmtime (.at (cachePath modelPath)))
  let modelTime ← ask (.getmtime (.at modelPath))
  if mnnTime < modelTime then pure false
  else do
    let size ← ask (.getsize (.at (cachePath modelPath)))
    pure (decide (0 < size))

def ensureConverted (modelPath : PyStr) : HostM Unit PyStr := do
  let fresh ← Py.catching (isFresh modelPath) fun e =>
    if e.kind = .osError then pure false else throw e
  if fresh then pure (cachePath modelPath)
  else do
    convertOnnxToMnn modelPath (cachePath modelPath)
    pure (cachePath modelPath)

/-- One input or output of a session: its name and its dimensions, of which the buffer holds
eight. -/
def ioEntry (info : IoInfo) : Except PyErr (PyStr × List Int) :=
  if info.nd < 0 then .error (exception "mnn_shim_io_info failed")
  else match decodeUtf8 info.name with
    | none => .error (decodeErr .unicode)
    | some name =>
      if 8 < info.nd then .error (exception "invalid index")
      else .ok (name, (List.range info.nd.toNat).map fun k => info.dims (Fin.ofNat 8 k))

def io (h which : Nat) (n : Int) : HostM MnnBackend (List (PyStr × List Int)) :=
  Py.traverse (fun i => do
    let info ← ask (.mnnIoInfo h which i)
    Py.ofExcept (ioEntry info)) (List.range n.toNat)

/-- A path with a surrogate has no UTF-8 form. -/
def encodable (p : PyStr) : Bool := p.all fun c => decide (c.val < 0xD800 ∨ 0xDFFF < c.val)

def create (mnn : PyStr) : HostM MnnBackend Nat := do
  let self ← get
  if ¬ encodable mnn then throw (exception "surrogates not allowed")
  else do
    let h ← ask (.mnnCreate mnn self.forwardType (if self.fp16 then 2 else 1)
      (if self.forwardType = 0 then (self.threads.filter (· ≠ 0)).getD 4 else 1))
    require h "MNN create failed"

variable [NumPy]

/-! ## Inference -/

def inputArray (feeds : Feeds) (name : PyStr) : Except PyErr NdArray :=
  match feeds.get name with
  | none => .error (exception "KeyError")
  | some x => do
    let x ← x.astypeFloat32
    .ok x.contiguous

/-- The buffers of a session's outputs in the shim's order. The k-th name of the model is the
`order[k]`-th of the shim. -/
def outputBuffers (count : Nat) : List (Nat × List Int) → Except PyErr (List (Option NdArray))
  | [] => .ok (List.replicate count none)
  | (i, shape) :: rest => do
    let buffers ← outputBuffers count rest
    let zeros ← float32Zeros shape
    if i < count then .ok (buffers.set i (some zeros))
    else .error (exception "list assignment index out of range")

def allSome : List (Option NdArray) → Except PyErr (List NdArray)
  | [] => .ok []
  | none :: _ => .error (exception "'NoneType' object has no attribute 'ctypes'")
  | some a :: rest => do
    let rest ← allSome rest
    .ok (a :: rest)

/-- The k-th buffer after the shim has filled it. -/
def filled (fill : Fill) (k : Nat) (a : NdArray) : NdArray :=
  ⟨a.shape, a.dtype, (fill k a).1, (fill k a).2.trans a.size_eq⟩

def inputArrays (feeds : Feeds) : List PyStr → Except PyErr (List NdArray)
  | [] => .ok []
  | name :: names => do
    let a ← inputArray feeds name
    let rest ← inputArrays feeds names
    .ok (a :: rest)

def infer (feeds : Feeds) : HostM MnnBackend (List NdArray) := do
  let self ← get
  let inputs ← Py.ofExcept (inputArrays feeds self.inNames)
  let order ← require self.outOrder "'MnnBackend' object has no attribute '_out_order'"
  let buffers ← Py.ofExcept (outputBuffers self.outNames.length (order.zip self.outShapes).reverse)
  let buffers ← Py.ofExcept (allSome buffers)
  let done ← ask (.mnnInfer self.h inputs buffers)
  if done.1 ≠ 0 then throw (exception "mnn_shim_infer failed")
  else pure (order.filterMap fun i => (buffers.mapIdx (filled done.2))[i]?)

/-! ## Loading -/

/-- The fields that a load sets: the outputs in the order of the ONNX graph. -/
def install (h : Nat) (ins outs : List (PyStr × List Int)) (onnxOut : List PyStr)
    (self : MnnBackend) : MnnBackend :=
  let order := onnxOut.map fun n => (outs.map Prod.fst).idxOf n
  { self with
    h := some h, inNames := ins.map Prod.fst, inShapes := ins.map Prod.snd
    outNames := order.filterMap fun i => (outs.map Prod.fst)[i]?
    outShapes := order.filterMap fun i => (outs.map Prod.snd)[i]?
    outOrder := some order }

def warmUpFeed (input : PyStr × List Int) : Except PyErr (PyStr × NdArray) := do
  let zeros ← float32Zeros input.2
  .ok (input.1, zeros)

/-- Log and warm up the handle that was just installed. -/
def finishLoad (ins : List (PyStr × List Int)) : HostM MnnBackend Unit := do
  log (.loaded .mnn)
  let feeds ← Py.traverse (fun input => Py.ofExcept (warmUpFeed input)) ins
  let _ ← infer feeds
  log (.warmUpOk .mnn)

/-- The inputs and outputs of a session. -/
def describe (h : Nat) : HostM MnnBackend (List (PyStr × List Int) × List (PyStr × List Int)) := do
  let numInputs ← ask (.mnnNumInputs h)
  let ins ← io h 0 numInputs
  let numOutputs ← ask (.mnnNumOutputs h)
  let outs ← io h 1 numOutputs
  pure (ins, outs)

def drop : Option Nat → HostM MnnBackend Unit
  | none => pure ()
  | some h => ask (.mnnDestroy h)

def load (modelPath : PyStr) : HostM MnnBackend Unit := do
  let onnx ← ask (.onnxIoMeta modelPath)
  let mnn ← free (ensureConverted modelPath)
  let h ← create mnn
  let shim ← describe h
  if ¬ (SameNames (shim.2.map Prod.fst) (onnx.2.map Prod.fst) ∧
      SameNames (shim.1.map Prod.fst) (onnx.1.map Prod.fst)) then do
    ask (.mnnDestroy h)
    throw (exception "MNN graph I/O does not match ONNX")
  else do
    let self ← get
    modify (install h shim.1 shim.2 (onnx.2.map Prod.fst))
    finishLoad shim.1
    drop self.h

def loaded (self : MnnBackend) : Bool := self.h.isSome

def inputNames : HostM MnnBackend (List PyStr) := do
  let self ← get
  pure self.inNames

def close : HostM MnnBackend Unit := do
  let self ← get
  if self.closed then pure ()
  else do
    modify fun self => { self with closed := true, h := none }
    exceptException (drop self.h) fun _ => pure ()

instance : InferenceBackend MnnBackend := ⟨load, infer, loaded, inputNames, close⟩

end MnnBackend

end Detector
