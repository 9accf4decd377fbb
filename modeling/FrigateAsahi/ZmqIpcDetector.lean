import FrigateAsahi.Numpy

/-!
# The detector plugin on Frigate's side

`ZmqIpcDetector` keeps a REQ socket and the flag that a handshake has succeeded. `initializeModel`
is the handshake, `detectRaw` the one operation that Frigate calls; it runs the handshake again
after errors and, while the flag is down, from time to time.
-/

namespace Plugin

open Text Python Numpy Interaction

/-! ## Calls -/

inductive SocketOption : Type
  | rcvtimeo (ms : Int)
  | sndtimeo (ms : Int)
  | linger (ms : Int)

inductive LogLine : Type
  | modelReady
  | failedToInitialize
  deriving DecidableEq

inductive ClientCall : Type
  | closeSocket (socket : Nat) (linger : Int)
  | newSocket
  | setsockopt (socket : Nat) (option : SocketOption)
  | getRcvtimeo (socket : Nat)
  | connect (socket : Nat) (endpoint : PyStr)
  | sendMultipart (socket : Nat) (frames : List Bytes)
  | recvMultipart (socket : Nat)
  | exists (path : PyStr)
  | readFile (path : PyStr)
  | monotonic
  | log (line : LogLine)

@[reducible] def ClientCall.Answer : ClientCall → Type
  | .newSocket => Nat
  | .getRcvtimeo _ => Int
  | .recvMultipart _ => List Bytes
  | .exists _ => Bool
  | .readFile _ => Bytes
  | .monotonic => Int
  | _ => Unit

abbrev Client : PFunctor.{0, 0} := ⟨ClientCall, fun c => Except PyErr c.Answer⟩

/-- The settings that are read. -/
structure Config : Type where
  endpoint : PyStr
  requestTimeoutMs : Int
  lingerMs : Int
  modelPath : PyStr
  modelType : PyStr

structure ZmqIpcDetector : Type where
  config : Config
  socket : Option Nat
  modelReady : Bool
  modelName : PyStr
  /-- In nanoseconds. -/
  lastInitAttempt : Int

abbrev ClientM (α : Type) : Type := Py Client ZmqIpcDetector PyErr α

abbrev call (c : ClientCall) : ClientM c.Answer := Py.ask c fun r => r

/-! ## The socket -/

def newSocket : ClientM Unit := do
  let self ← get
  let socket ← call .newSocket
  modify fun self => { self with socket := some socket }
  call (.setsockopt socket (.rcvtimeo self.config.requestTimeoutMs))
  call (.setsockopt socket (.sndtimeo self.config.requestTimeoutMs))
  call (.setsockopt socket (.linger self.config.lingerMs))
  call (.connect socket self.config.endpoint)

def createSocket : ClientM Unit := do
  let self ← get
  match self.socket with
  | none => newSocket
  | some old => do
    exceptException (call (.closeSocket old self.config.lingerMs)) fun _ => pure ()
    newSocket

/-- The socket, which every method after the constructor finds in place. -/
def theSocket : ClientM Nat := do
  let self ← get
  match self.socket with
  | none => throw (exception "'NoneType' object has no attribute")
  | some socket => pure socket

/-- Send a message, then wait for the reply with another timeout. -/
def exchange (frames : List Bytes) (timeout : Int) : ClientM (List Bytes) := do
  let socket ← theSocket
  call (.sendMultipart socket frames)
  let original ← call (.getRcvtimeo socket)
  call (.setsockopt socket (.rcvtimeo timeout))
  Py.andFinally (call (.recvMultipart socket)) (call (.setsockopt socket (.rcvtimeo original)))

/-! ## The handshake -/

section Interpreted

variable [Interpreter]

/-- The two fields of a reply that decide, read as truth values. A reply that is no JSON counts as
`none`. -/
def readReply (first second : String) (frame : Bytes) : Except PyErr (Option (Bool × Bool)) :=
  match decodeJson Interpreter.limits frame with
  | .error .json => .ok none
  | .error .unicode => .error (decodeErr .unicode)
  | .error .limit => .error (decodeErr .limit)
  | .ok response => do
    let response ← members response
    .ok (some ((getD response first (.bool false)).truthy, (getD response second (.bool false)).truthy))

def requestHeader (modelName : PyStr) : Json :=
  .obj [(py "model_request", .bool true), (py "model_name", .str modelName)]

def dataHeader (modelName : PyStr) : Json :=
  .obj [(py "model_data", .bool true), (py "model_name", .str modelName)]

def sendModelData : ClientM Bool :=
  exceptException (do
    let self ← get
    let present ← call (.exists self.config.modelPath)
    if ¬ present then pure false
    else do
      let modelData ← call (.readFile self.config.modelPath)
      let frames ← exchange [encodeJson (dataHeader self.modelName), modelData] 30000
      match frames with
      | [frame] => do
        let reply ← Py.ofExcept (readReply "model_saved" "model_loaded" frame)
        pure (reply.elim false fun (saved, loaded) => saved && loaded)
      | _ => pure false) fun _ => pure false

def checkAndTransferModel : ClientM Bool :=
  exceptException (do
    let self ← get
    let frames ← exchange [encodeJson (requestHeader self.modelName)] 30000
    match frames with
    | [frame] => do
      let reply ← Py.ofExcept (readReply "model_available" "model_loaded" frame)
      match reply with
      | none => pure false
      | some (available, loaded) =>
        if available then pure loaded else sendModelData
    | _ => pure false) fun _ => pure false

def initializeModel : ClientM Unit :=
  exceptException (do
    let ok ← checkAndTransferModel
    if ok then do
      call (.log .modelReady)
      modify fun self => { self with modelReady := true }
    else call (.log .failedToInitialize)) fun _ => call (.log .failedToInitialize)

/-- The constructor. -/
def construct : ClientM Unit := do
  createSocket
  modify fun self =>
    { self with modelReady := false, modelName := basename self.config.modelPath }
  initializeModel
  let now ← call .monotonic
  modify fun self => { self with lastInitAttempt := now }

/-- The object before its constructor runs. -/
def ZmqIpcDetector.blank (config : Config) : ZmqIpcDetector := ⟨config, none, false, [], 0⟩

/-! ## Detection -/

def zeroResult : NdArray := .zeros [20, 6] .float32

def retryInterval : Int := 10000000000

def tensorHeader (tensor : NdArray) (modelType : PyStr) : Json :=
  .obj [(py "shape", jsonShape tensor.shape), (py "dtype", .str tensor.dtype.name),
    (py "model_type", .str modelType)]

/-- After a failed request: a new socket and a new handshake, whatever comes of it. -/
def recover : ClientM NdArray := do
  exceptException (do
    createSocket
    initializeModel) fun _ => pure ()
  pure zeroResult

/-- Whether a request may be sent; while no handshake has succeeded, one is tried at most every
`retryInterval`. -/
def ensureReady : ClientM Bool := do
  let self ← get
  if self.modelReady then pure true
  else do
    let now ← call .monotonic
    if retryInterval ≤ now - self.lastInitAttempt then do
      modify fun self => { self with lastInitAttempt := now }
      createSocket
      initializeModel
      let self ← get
      pure self.modelReady
    else pure false

end Interpreted

variable [NumPy]

def tryDecodeResponse (frames : List Bytes) : Except PyErr NdArray :=
  match frames with
  | [] => .ok zeroResult
  | [buf] =>
    if buf.length ≠ 480 then .ok zeroResult
    else do
      let flat ← frombuffer buf ⟨.float32, []⟩
      flat.withShape [20, 6]
  | headerBytes :: payload :: _ => do
    let header ← jsonLoads headerBytes
    let header ← members header
    let shape ← tuple (getD header "shape" (.arr []))
    let dtype ← ((NumPy.dtype (getD header "dtype" (.str (py "float32")))).elim
      (.error (exception "data type not understood")) .ok)
    let flat ← frombuffer payload dtype
    flat.reshape shape

def decodeResponse (frames : List Bytes) : NdArray :=
  match tryDecodeResponse frames with
  | .ok a => a
  | .error _ => zeroResult

def request (tensorInput : NdArray) : ClientM NdArray := do
  let self ← get
  let socket ← theSocket
  call (.sendMultipart socket
    [encodeJson (tensorHeader tensorInput self.config.modelType), tensorInput.data])
  let replyFrames ← call (.recvMultipart socket)
  pure (decodeResponse replyFrames)

def detectRaw (tensorInput : NdArray) : ClientM NdArray := do
  let ready ← ensureReady
  if ¬ ready then pure zeroResult
  else
    Py.catching (request tensorInput) fun e =>
      if e.IsZmqError then recover
      else if e.IsException then pure zeroResult
      else throw e

end Plugin
