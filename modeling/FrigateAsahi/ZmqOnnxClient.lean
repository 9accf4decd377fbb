import FrigateAsahi.Backends.Fallback

/-!
# The detector server

`ZmqOnnxClient` answers on a REP socket: model requests and model data load a model into the
backend, tensors are run through it. The loop of `start_server` is `serveOnce`, one round of it
with all its handlers, and `serveRounds`, any number of rounds.
-/

namespace Detector

open Text Python Numpy Interaction

/-! ## Calls -/

inductive SocketOption : Type
  | rcvtimeo (ms : Int)
  | sndtimeo (ms : Int)
  | linger (ms : Int)

inductive ServerCall : Type
  | host (c : HostCall)
  | bind (socket : Nat) (endpoint : PyStr)
  | recvMultipart (socket : Nat)
  | sendMultipart (socket : Nat) (frames : List Bytes)
  | closeSocket (socket : Nat)
  | newContext
  | newSocket
  | setsockopt (socket : Nat) (option : SocketOption)
  | termContext

@[reducible] def ServerCall.Answer : ServerCall → Type
  | .host c => c.Answer
  | .recvMultipart _ => List Bytes
  | .newSocket => Nat
  | _ => Unit

abbrev Server : PFunctor.{0, 0} := ⟨ServerCall, fun c => Except PyErr c.Answer⟩

structure ZmqOnnxClient (β : Type) : Type where
  endpoint : PyStr
  modelsDir : PyStr
  currentModel : Option Json
  modelReady : Bool
  context : Bool
  socket : Option Nat
  backend : β

abbrev ServerM (β α : Type) : Type := Py Server (ZmqOnnxClient β) PyErr α

variable {β α : Type}

abbrev callServer (c : ServerCall) : ServerM β c.Answer := Py.ask c fun r => r

abbrev callHost (c : HostCall) : ServerM β c.Answer := Py.ask (.host c) fun r => r

/-- Call a method of the backend. -/
def onBackend (p : HostM β α) : ServerM β α :=
  Py.zoom ZmqOnnxClient.backend (fun backend self => { self with backend })
    (Py.through ServerCall.host (fun _ r => r) p)

/-- The surroundings of the backend, as an environment for the server shows them. -/
def hostEnv {W : Type} (E : Env Server W) : Env Host W := E.pull ServerCall.host fun _ r => r

@[simp] theorem wpc_onBackend {W : Type} {E : Env Server W} {C : W → Prop} {s : ZmqOnnxClient β}
    {w : W} (p : HostM β α) {Q : Except PyErr α → ZmqOnnxClient β → W → Prop} :
    (onBackend p).wpc E C Q s w ↔
      p.wpc (hostEnv E) C (fun r b w' => Q r { s with backend := b } w') s.backend w := by
  simp only [onBackend, Py.wpc_zoom, Py.wpc_through, hostEnv]

/-! ## Sockets -/

def sendMultipart (frames : List Bytes) : ServerM β Unit := do
  let self ← get
  match self.socket with
  | none => throw (exception "'NoneType' object has no attribute 'send_multipart'")
  | some socket => callServer (.sendMultipart socket frames)

def recvMultipart : ServerM β (List Bytes) := do
  let self ← get
  match self.socket with
  | none => throw (exception "'NoneType' object has no attribute 'recv_multipart'")
  | some socket => callServer (.recvMultipart socket)

def bind : ServerM β Unit := do
  let self ← get
  match self.socket with
  | none => throw (exception "'NoneType' object has no attribute 'bind'")
  | some socket => callServer (.bind socket self.endpoint)

/-- Close the socket if there is one. -/
def closeSocket : ServerM β Unit := do
  let self ← get
  match self.socket with
  | none => pure ()
  | some socket => do
    callServer (.closeSocket socket)
    modify fun self => { self with socket := none }

/-- A new REP socket with its options. -/
def openSocket : ServerM β Unit := do
  let self ← get
  if self.context then do
    let socket ← callServer .newSocket
    modify fun self => { self with socket := some socket }
    callServer (.setsockopt socket (.rcvtimeo 5000))
    callServer (.setsockopt socket (.sndtimeo 5000))
    callServer (.setsockopt socket (.linger 0))
  else throw (exception "'NoneType' object has no attribute 'socket'")

def resetSocket : ServerM β Unit := do
  closeSocket
  openSocket
  bind

/-- The part of `cleanup` that concerns ZMQ. -/
def releaseZmq : ServerM β Unit := do
  closeSocket
  let self ← get
  if self.context then do
    callServer .termContext
    modify fun self => { self with context := false }
  else pure ()

/-- The part of the constructor that comes before there is a backend. -/
def initializeZmq : ServerM β Unit :=
  exceptException (do
    callServer .newContext
    modify fun self => { self with context := true }
    openSocket) fun e => do
      exceptException releaseZmq fun _ => pure ()
      throw e

variable [InferenceBackend β]

def cleanup : ServerM β Unit :=
  exceptException (do
    releaseZmq
    onBackend InferenceBackend.close) fun _ => pure ()

/-! ## Models -/

/-- `os.path.join(self.models_dir, model_name)` -/
def modelFile (modelsDir : PyStr) : Json → Except PyErr PyStr
  | .str name => .ok (pathJoin modelsDir name)
  | _ => .error (exception "join() argument must be str, bytes, or os.PathLike object")

def loadModelFile (modelPath : PyStr) : ServerM β Bool :=
  exceptException (do
    onBackend (InferenceBackend.load modelPath)
    pure true) fun _ => pure false

def checkModelExists (modelName : Json) : ServerM β Bool := do
  let self ← get
  let modelPath ← Py.ofExcept (modelFile self.modelsDir modelName)
  callHost (.exists (.at modelPath))

def loadModel (modelName : Json) : ServerM β Bool :=
  exceptException (do
    let self ← get
    let modelPath ← Py.ofExcept (modelFile self.modelsDir modelName)
    callHost (.log (.loadingModel modelPath))
    let ok ← loadModelFile modelPath
    if ok then do
      modify fun self => { self with currentModel := some modelName, modelReady := true }
      callHost .sleep
      pure true
    else pure false) fun _ => pure false

def saveModel (modelName : Json) (modelData : Bytes) : ServerM β Bool :=
  exceptException (do
    let self ← get
    callHost (.makedirs self.modelsDir)
    let modelPath ← Py.ofExcept (modelFile self.modelsDir modelName)
    callHost (.openWb modelPath)
    Py.andFinally (callHost (.write modelPath modelData)) (callHost (.closeFile modelPath))
    pure true) fun _ => pure false

/-! ## Replies -/

def zeroResult : NdArray := .zeros [20, 6] .float32

/-- The header of a reply that stands in for a result. -/
def errorHeader (msg : PyStr) : Json :=
  .obj [(py "shape", jsonShape [20, 6]), (py "dtype", .str (py "float32")), (py "error", .str msg)]

def buildErrorResponse (msg : PyStr) : List Bytes :=
  [encodeJson (.obj [(py "error", .str msg)])]

def responseHeader (result : NdArray) (timestamp : FloatLit) : Json :=
  .obj [(py "shape", jsonShape result.shape), (py "dtype", .str result.dtype.name),
    (py "timestamp", .float timestamp)]

def buildResponse (result : NdArray) : ServerM β (List Bytes) :=
  exceptException (do
    let timestamp ← callHost .time
    pure [encodeJson (responseHeader result timestamp), result.data]) fun _ =>
      pure [encodeJson (errorHeader (py "Failed to build response")), zeroResult.data]

def sendErrorResponse (msg : PyStr) : ServerM β Unit :=
  exceptException (sendMultipart [encodeJson (errorHeader msg), zeroResult.data]) fun _ => pure ()

/-- The header of a reply to a model request. -/
def requestReply (available : Bool) (loaded : Option Bool) (name : Json) (before after : String) :
    Json :=
  .obj ([(py "model_available", .bool available)] ++
    (loaded.toList.map fun b => (py "model_loaded", .bool b)) ++
    [(py "model_name", name), (py "message", .str (py before ++ str name ++ py after))])

/-- The header of a reply to model data. -/
def dataReply (saved loaded : Bool) (name : Json) (before after : String) : Json :=
  .obj [(py "model_saved", .bool saved), (py "model_loaded", .bool loaded), (py "model_name", name),
    (py "message", .str (py before ++ str name ++ py after))]

def handleModelRequest (header : Json) : ServerM β (List Bytes) := do
  let header ← Py.ofExcept (members header)
  let name := getD header "model_name" .null
  if ¬ name.truthy then pure (buildErrorResponse (py "Model request missing model_name"))
  else do
    let available ← checkModelExists name
    if available then do
      let loaded ← loadModel name
      if loaded then
        pure [encodeJson (requestReply true (some true) name "Model " " loaded successfully")]
      else
        pure [encodeJson (requestReply true (some false) name "Model " " exists but failed to load")]
    else
      pure [encodeJson (requestReply false none name "Model " " not found, please send model data")]

def handleModelData (header : Json) (modelData : Bytes) : ServerM β (List Bytes) := do
  let header ← Py.ofExcept (members header)
  let name := getD header "model_name" .null
  if ¬ name.truthy then pure (buildErrorResponse (py "Model data missing model_name"))
  else do
    let saved ← saveModel name modelData
    if saved then do
      let loaded ← loadModel name
      if loaded then
        pure [encodeJson (dataReply true true name "Model " " saved and loaded successfully")]
      else pure [encodeJson (dataReply true false name "Model " " saved but failed to load")]
    else pure [encodeJson (dataReply false false name "Failed to save model " "")]

/-! ## Tensors -/

/-- `header.get("layout") or header.get("order")` -/
def layoutOf (header : List (PyStr × Json)) : Json :=
  let layout := getD header "layout" .null
  if layout.truthy then layout else getD header "order" .null

/-- The two entries of a shape, read as numbers. -/
def sizeAt (shape : List Json) (width height : Nat) : Except PyErr (Option (Int × Int)) := do
  let w ← int (shape.getD width .null)
  let h ← int (shape.getD height .null)
  .ok (some (w, h))

/-- The size that a layout picks from a shape; `ok none` where the layout does not fit. -/
def sizeByLayout (layout : Json) (shape : List Json) : Except PyErr (Option (Int × Int)) :=
  if ¬ layout.truthy then .ok none
  else if shape.length = 4 ∧ upperIs "NCHW" layout then sizeAt shape 3 2
  else if shape.length = 4 ∧ upperIs "NHWC" layout then sizeAt shape 2 1
  else if shape.length = 3 ∧ upperIs "CHW" layout then sizeAt shape 2 1
  else if shape.length = 3 ∧ upperIs "HWC" layout then sizeAt shape 1 0
  else .ok none

def isChannels (d : Json) : Bool := equalsNat 1 d || equalsNat 3 d

/-- The size guessed from a shape alone. -/
def sizeByShape (shape : List Json) : Except PyErr (Option (Int × Int)) :=
  match shape with
  | [_, d₁, _, _] => if isChannels d₁ then sizeAt shape 3 2 else sizeAt shape 2 1
  | [d₀, _, _] => if isChannels d₀ then sizeAt shape 2 1 else sizeAt shape 1 0
  | [_, _] => sizeAt shape 1 0
  | _ => .ok none

def tryExtractInputHw (header : List (PyStr × Json)) : Except PyErr (Option (Int × Int)) := do
  match lookup (py "width") header, lookup (py "height") header with
  | some width, some height => sizeAt [width, height] 0 1
  | _, _ => do
    let shape ← tuple (getD header "shape" (.arr []))
    let size ← sizeByLayout (layoutOf header) shape
    match size with
    | some size => .ok (some size)
    | none => sizeByShape shape

def extractInputHw (header : List (PyStr × Json)) : Int × Int :=
  match tryExtractInputHw header with
  | .ok (some size) => size
  | _ => (320, 320)

/-- Which post-processing a `model_type` selects. -/
def postProcessOf (modelType : Json) (width height : Int) : Except PyErr PostProcess :=
  match modelType with
  | .null => .ok (.yolo width height)
  | .str s =>
    if s = py "yolo-generic" ∨ s = py "yologeneric" then .ok (.yolo width height)
    else if s = py "dfine" then .ok (.dfine width height)
    else if s = py "rfdetr" then .ok .rfdetr
    else .error (exception "Unsupported model_type")
  | _ => .error (exception "Unsupported model_type")

def isDfine : Json → Bool
  | .str s => s = py "dfine"
  | _ => false

variable [NumPy]

def decodeRequest (frames : List Bytes) : Except PyErr (Option NdArray × Json) :=
  match frames with
  | [] => .error (exception "Expected at least 1 frame, got 0")
  | headerBytes :: rest => do
    let header ← jsonLoads headerBytes
    let request ← contains (py "model_request") header
    if request then .ok (none, header)
    else do
      let data ← contains (py "model_data") header
      if data then
        match rest with
        | [] => .error (exception "Model data request expected 2 frames, got 1")
        | _ :: _ => .ok (none, header)
      else match rest with
        | [] => .error (exception "Tensor request expected 2 frames, got 1")
        | tensorBytes :: _ => do
          let fields ← members header
          let shape ← tuple (getD fields "shape" (.arr []))
          let dtype ← ((NumPy.dtype (getD fields "dtype" (.str (py "uint8")))).elim
            (.error (exception "data type not understood")) .ok)
          let flat ← frombuffer tensorBytes dtype
          let tensor ← flat.reshape shape
          .ok (some tensor, header)

/-- The inputs of an inference; one model type has a second one. -/
def feedsOf (tensor : NdArray) (modelType : Json) (width height : Int) : ServerM β Feeds :=
  if isDfine modelType then do
    let images ← Py.ofExcept tensor.astypeFloat32
    let sizes ← Py.ofExcept (int64Row height width)
    pure [(py "images", images), (py "orig_target_sizes", sizes)]
  else do
    let names ← onBackend InferenceBackend.inputNames
    match names with
    | [] => throw (exception "list index out of range")
    | name :: _ => pure [(name, tensor)]

def runInference (tensor : NdArray) (header : Json) : ServerM β NdArray := do
  let self ← get
  if ¬ InferenceBackend.loaded self.backend then pure zeroResult
  else
    exceptException (do
      let header ← Py.ofExcept (members header)
      let modelType := getD header "model_type" .null
      let size := extractInputHw header
      let feeds ← feedsOf tensor modelType size.1 size.2
      let outputs ← onBackend (InferenceBackend.infer feeds)
      let kind ← Py.ofExcept (postProcessOf modelType size.1 size.2)
      let result ← callHost (.postProcess kind outputs)
      Py.ofExcept result.array.astypeFloat32) fun _ => pure zeroResult

/-! ## The loop -/

/-- The result of a tensor request. -/
def resultFor (tensor : NdArray) (header : Json) : ServerM β NdArray := do
  let self ← get
  if self.modelReady ∧ InferenceBackend.loaded self.backend then runInference tensor header
  else pure zeroResult

/-- The frames that answer a message. -/
def respond (frames : List Bytes) (tensor : Option NdArray) (header : Json) :
    ServerM β (List Bytes) := do
  let request ← Py.ofExcept (contains (py "model_request") header)
  let data ← andAlso (!request) (Py.ofExcept (contains (py "model_data") header))
  if request then handleModelRequest header
  else if data ∧ 2 ≤ frames.length then handleModelData header (frames.getD 1 [])
  else match tensor with
    | some tensor => do
      let result ← resultFor tensor header
      buildResponse result
    | none => buildResponse zeroResult

def serveMessage : ServerM β Unit := do
  let frames ← recvMultipart
  let request ← Py.ofExcept (decodeRequest frames)
  let response ← respond frames request.1 request.2
  sendMultipart response

/-- How a round of the loop ends: with `continue`, or with `break`. -/
inductive Next : Type
  | again
  | stop
  deriving DecidableEq

def handleZmqError (e : PyErr) : ServerM β Next :=
  if py "Resource temporarily unavailable" <:+: e.msg then pure .again
  else if py "Operation cannot be accomplished in current state" <:+: e.msg then
    exceptException (do
      resetSocket
      pure .again) fun _ => pure .stop
  else do
    sendErrorResponse e.msg
    pure .again

/-- One round of the loop. An exit request is no `Exception` and leaves it. -/
def serveOnce : ServerM β Next :=
  Py.catching (do
    serveMessage
    pure .again) fun e =>
      if e.IsZmqError then handleZmqError e
      else if e.IsException then do
        sendErrorResponse e.msg
        pure .again
      else throw e

/-- At most so many rounds. -/
def serveRounds : Nat → ServerM β Next
  | 0 => pure .again
  | n + 1 => do
    let next ← serveOnce
    match next with
    | .again => serveRounds n
    | .stop => pure .stop

/-- The server for at most so many rounds; `again` says that it is still serving. -/
def startServer (rounds : Nat) : ServerM β Next := do
  let next ← Py.catching (do
    bind
    serveRounds rounds) fun _ => pure .stop
  match next with
  | .again => pure .again
  | .stop => do
    cleanup
    pure .stop

/-- What is left of the constructor once the sockets and the backend are there; `none` stands for
`AUTO`. -/
def loadPinned : Option PyStr → ServerM β Unit
  | none => pure ()
  | some modelPath => do
    let ok ← loadModelFile modelPath
    if ok then
      modify fun self =>
        { self with currentModel := some (.str (basename modelPath)), modelReady := true }
    else pure ()

end Detector
