import FrigateAsahi.Backends.Base

/-!
# ncnn

The converter with its temporary directory, the cache next to the model, and the backend that
builds one net for each load. A net lives as long as something refers to it. `referring` and `owning`
mark the frames of a load whose local variables refer to a net: an exception that leaves such a frame
takes the net with it in its traceback, until the handler of the exception ends.
-/

namespace Detector

open Text Python Numpy Interaction

variable {σ α : Type}

/-! ## The converter -/

def rawParam (tmpdir : Nat) : FilePath := .temp tmpdir (py "raw.param")
def rawBin (tmpdir : Nat) : FilePath := .temp tmpdir (py "raw.bin")
def optParam (tmpdir : Nat) : FilePath := .temp tmpdir (py "opt.param")
def optBin (tmpdir : Nat) : FilePath := .temp tmpdir (py "opt.bin")

def bothExist (first second : FilePath) : HostM Unit Bool := do
  let present ← ask (.exists first)
  andAlso present (ask (.exists second))

/-- The optimized files, or the raw ones where there is no optimizer or it fails. -/
def optimize (ncnnoptimize : Option PyStr) (tmpdir : Nat) : HostM Unit (FilePath × FilePath) :=
  match ncnnoptimize with
  | none => pure (rawParam tmpdir, rawBin tmpdir)
  | some tool => do
    let r ← ask (.run (.ncnnoptimize tool (rawParam tmpdir) (rawBin tmpdir) (optParam tmpdir)
      (optBin tmpdir)))
    let optimized ← andAlso (decide (r.returncode = 0)) (bothExist (optParam tmpdir) (optBin tmpdir))
    pure (if optimized then (optParam tmpdir, optBin tmpdir) else (rawParam tmpdir, rawBin tmpdir))

/-- The part of the conversion that works inside the temporary directory. -/
def convertInside (onnx2ncnn : PyStr) (ncnnoptimize : Option PyStr) (tmpdir : Nat)
    (onnxPath paramPath binPath : PyStr) : HostM Unit Unit := do
  let r ← ask (.run (.onnx2ncnn onnx2ncnn onnxPath (rawParam tmpdir) (rawBin tmpdir)))
  let converted ← andAlso (decide (r.returncode = 0)) (bothExist (rawParam tmpdir) (rawBin tmpdir))
  if ¬ converted then throw (exception "onnx2ncnn failed")
  else if r.unsupported then throw (exception "onnx2ncnn: unsupported ops")
  else do
    let final ← optimize ncnnoptimize tmpdir
    ask (.replace final.1 (.at paramPath))
    ask (.replace final.2 (.at binPath))

def convertOnnxToNcnn (onnxPath paramPath binPath : PyStr) : HostM Unit Unit := do
  let onnx2ncnn ← findTool "onnx2ncnn" "DETECTOR_ONNX2NCNN"
  let onnx2ncnn ← require onnx2ncnn "onnx2ncnn not found"
  let ncnnoptimize ← findTool "ncnnoptimize" "DETECTOR_NCNNOPTIMIZE"
  let tmpdir ← ask (.mkdtemp paramPath)
  Py.andFinally (convertInside onnx2ncnn ncnnoptimize tmpdir onnxPath paramPath binPath)
    (ask (.rmtree tmpdir))

/-! ## The backend -/

structure NcnnBackend : Type where
  useVulkan : Bool
  fp16 : Bool
  threads : Option Int
  deviceIndex : Option Int
  net : Option Nat
  inNames : List PyStr
  inShapes : List (List Dim)
  outNames : List PyStr
  outShapes : List (List Dim)
  modelPath : Option PyStr
  closed : Bool

namespace NcnnBackend

/-- What the constructor leaves, once the device is chosen. -/
def init (useVulkan fp16 : Bool) (threads deviceIndex : Option Int) : NcnnBackend :=
  ⟨useVulkan, fp16, threads, deviceIndex, none, [], [], [], [], none, false⟩

def cachePaths (modelPath : PyStr) : PyStr × PyStr :=
  ((splitext modelPath).1 ++ py ".ncnn.param", (splitext modelPath).1 ++ py ".ncnn.bin")

/-- Whether both files are at least as new as the model and the weights are not empty. -/
def isFresh (modelPath : PyStr) : HostM Unit Bool := do
  let paramTime ← ask (.getmtime (.at (cachePaths modelPath).1))
  let modelTime ← ask (.getmtime (.at modelPath))
  if paramTime < modelTime then pure false
  else do
    let binTime ← ask (.getmtime (.at (cachePaths modelPath).2))
    let modelTime ← ask (.getmtime (.at modelPath))
    if binTime < modelTime then pure false
    else do
      let size ← ask (.getsize (.at (cachePaths modelPath).2))
      pure (decide (0 < size))

def ensureConverted (modelPath : PyStr) : HostM Unit (PyStr × PyStr) := do
  let fresh ← Py.catching (isFresh modelPath) fun e =>
    if e.kind = .osError then pure false else throw e
  if fresh then pure (cachePaths modelPath)
  else do
    convertOnnxToNcnn modelPath (cachePaths modelPath).1 (cachePaths modelPath).2
    pure (cachePaths modelPath)

/-- Run the part of a frame in which a local variable refers to a net that something else refers to
as well. -/
def referring (net : Nat) (p : HostM σ α) : HostM σ α :=
  Py.catching p fun e => do
    ask (.tracebackKeeps net)
    throw e

/-- Run the part of a frame in which a local variable is the only one that refers to a net. An
exception that leaves the frame ends the variable, and the traceback still refers to the net. -/
def owning (net : Nat) (p : HostM σ α) : HostM σ α :=
  Py.catching p fun e => do
    ask (.tracebackKeeps net)
    ask (.ncnnRelease net)
    throw e

/-- `int(os.environ.get("DETECTOR_NCNN_THREADS", "1"))` -/
def threadsOfEnv (text : Option PyStr) : Except PyErr Int := int (.str (text.getD (py "1")))

def netThreads : HostM NcnnBackend Int := do
  let self ← get
  if self.useVulkan then do
    let text ← ask (.getenv "DETECTOR_NCNN_THREADS")
    Py.ofExcept (threadsOfEnv text)
  else pure ((self.threads.filter (· ≠ 0)).getD 4)

def buildNet (param binf : PyStr) : HostM NcnnBackend Nat := do
  let self ← get
  let net ← ask .ncnnNet
  owning net do
    let threads ← netThreads
    ask (.ncnnOptions net self.useVulkan self.fp16 threads self.deviceIndex)
    let ret ← ask (.ncnnLoadParam net param)
    if ret ≠ 0 then throw (exception "ncnn load_param failed")
    else do
      let ret ← ask (.ncnnLoadModel net binf)
      if ret ≠ 0 then throw (exception "ncnn load_model failed") else pure net

variable [NumPy]

/-! ## Inference -/

def asFloat32 (x : NdArray) : Except PyErr NdArray :=
  if x.dtype ≠ .float32 then x.astypeFloat32 else .ok x

def toMat (x : NdArray) : Except PyErr NdArray := do
  let x ← asFloat32 x
  if x.ndim = 4 then
    match shape : x.shape with
    | 1 :: rest => .ok (x.only rest shape).contiguous
    | _ => .error (exception "ncnn backend supports batch 1 only")
  else .ok x.contiguous

/-- The first dimension of a target that may be missing from ncnn's output. -/
def isBatchDim : Dim → Bool
  | .int n => n = 1
  | .sym _ => true
  | .none => true

/-- The target as numbers, if all of them are positive. -/
def positiveDims : List Dim → Option (List Int)
  | [] => some []
  | .int n :: dims => if 0 < n then (n :: ·) <$> positiveDims dims else none
  | _ :: _ => none

def reshapeOut (arr : NdArray) (target : List Dim) : Except PyErr NdArray :=
  if target.length = arr.ndim + 1 ∧ (target.head?.map isBatchDim).getD false then .ok arr.expand
  else match positiveDims target with
    | none => .ok arr
    | some dims => if dims.prod.bmod (2 ^ 64) = arr.size then arr.withShape dims else .ok arr

/-- One input of an inference. -/
def feed (feeds : Feeds) (ex : Nat) (name : PyStr) : HostM NcnnBackend Unit := do
  let x ← require (feeds.get name) "KeyError"
  let mat ← Py.ofExcept (toMat x)
  ask (.ncnnInput ex name mat)

/-- One output of an inference. -/
def extract (ex : Nat) (out : PyStr × List Dim) : HostM NcnnBackend NdArray := do
  let m ← ask (.ncnnExtract ex out.1)
  if m.1 ≠ 0 then throw (exception "ncnn extract failed")
  else do
    let arr ← Py.ofExcept m.2.astypeFloat32
    Py.ofExcept (reshapeOut arr out.2)

def infer (feeds : Feeds) : HostM NcnnBackend (List NdArray) := do
  let self ← get
  let net ← require self.net "'NoneType' object has no attribute 'create_extractor'"
  let ex ← ask (.ncnnExtractor net)
  Py.forEach (feed feeds ex) self.inNames
  Py.traverse (extract ex) (self.outNames.zip self.outShapes)

/-! ## Loading -/

/-- The shape of a warm-up input: unknown dimensions are 1 in front and 320 elsewhere. -/
def warmUpShape (shape : List Dim) : List Int :=
  shape.mapIdx fun i d =>
    match d with
    | .int n => if 0 < n then n else if i = 0 then 1 else 320
    | _ => if i = 0 then 1 else 320

def warmUpFeed (input : PyStr × List Dim) : Except PyErr (PyStr × NdArray) := do
  let zeros ← float32Zeros (warmUpShape input.2)
  .ok (input.1, zeros)

def warmUp (ins : IoMeta) : HostM NcnnBackend Unit := do
  let feeds ← Py.traverse (fun input => Py.ofExcept (warmUpFeed input)) ins
  let _ ← infer feeds
  log (.warmUpOk .ncnn)

/-- The check that the net has the inputs and outputs of the ONNX graph. -/
def checkNames (net : Nat) (ins outs : IoMeta) : HostM NcnnBackend Unit := do
  let netIn ← ask (.ncnnInputNames net)
  let netOut ← ask (.ncnnOutputNames net)
  if SameNames (ins.map Prod.fst) netIn ∧ SameNames (outs.map Prod.fst) netOut then pure ()
  else throw (exception "ncnn graph I/O does not match ONNX")

/-- The fields that a load sets. -/
def install (net : Nat) (modelPath : PyStr) (ins outs : IoMeta) (self : NcnnBackend) :
    NcnnBackend :=
  { self with
    net := some net, inNames := ins.map Prod.fst, inShapes := ins.map Prod.snd
    outNames := outs.map Prod.fst, outShapes := outs.map Prod.snd, modelPath := some modelPath }

/-- The net of the files, converting once more when they do not load. The first failure is dropped
when the second attempt has succeeded; otherwise it is the context of the second one. -/
def openNet (modelPath : PyStr) (files : PyStr × PyStr) : HostM NcnnBackend Nat :=
  exceptException (buildNet files.1 files.2) fun _ => do
    free (convertOnnxToNcnn modelPath files.1 files.2)
    let net ← buildNet files.1 files.2
    dropException
    pure net

/-- Log and warm up the net that was just installed. -/
def finishLoad (net : Nat) (ins : IoMeta) : HostM NcnnBackend Unit :=
  referring net do
    log (.loaded .ncnn)
    warmUp ins

def load (modelPath : PyStr) : HostM NcnnBackend Unit := do
  let io ← ask (.onnxIoMeta modelPath)
  let files ← free (ensureConverted modelPath)
  let net ← openNet modelPath files
  owning net (checkNames net io.1 io.2)
  let self ← get
  modify (install net modelPath io.1 io.2)
  match self.net with
  | none => finishLoad net io.1
  | some old => do
    owning old (finishLoad net io.1)
    ask (.ncnnRelease old)

def loaded (self : NcnnBackend) : Bool := self.net.isSome

def inputNames : HostM NcnnBackend (List PyStr) := do
  let self ← get
  pure self.inNames

/-- The last reference to a net that may be there goes. -/
def drop : Option Nat → HostM NcnnBackend Unit
  | none => pure ()
  | some net => ask (.ncnnRelease net)

/-- Drop the net, then the device. -/
def release (self : NcnnBackend) : HostM NcnnBackend Unit := do
  modify fun self => { self with net := none }
  drop self.net
  if self.useVulkan then ask .ncnnDestroyGpuInstance else pure ()

def close : HostM NcnnBackend Unit := do
  let self ← get
  if self.closed then pure ()
  else do
    modify fun self => { self with closed := true }
    exceptException (release self) fun _ => pure ()

instance : InferenceBackend NcnnBackend := ⟨load, infer, loaded, inputNames, close⟩

end NcnnBackend

end Detector
