import FrigateAsahi.Replies

/-!
# The REP socket and the message handlers

A REP socket is in one of two states: it owes a reply to a message, or it does not. `Rep` is that
machine together with an account of what became of each message, and `rep` is the environment in
which the server talks to it; sends and receives may fail at any time, and a call that the state
does not allow is refused. The handlers of the server leave the socket alone (`aside_respond`),
raise no error of ZMQ (`foreign_respond`) and answer a message that is not about models with
detections (`isDetectionsReply_respond`).
-/

namespace Detector

open Text Python Numpy Interaction

/-! ## The socket -/

/-- What became of a message. -/
structure Exchange : Type where
  message : List Bytes
  reply : Option (List Bytes)
  /-- How many replies to it could not be sent. -/
  failed : Nat

structure Rep : Type where
  /-- The open socket. -/
  socket : Option Nat
  bound : Bool
  /-- How many sockets were made. -/
  opened : Nat
  /-- The message that waits for its reply. -/
  owed : Option (List Bytes)
  /-- How many replies to that message could not be sent. -/
  failed : Nat
  /-- The open socket refused to receive, because it owes a reply. -/
  refused : Bool
  /-- The latest receive brought a message, and its reply has been delivered. -/
  answered : Bool
  /-- After that, another reply was tried. -/
  repeated : Bool
  /-- The messages that were answered or given up. -/
  done : List Exchange
  received : List (List Bytes)
  delivered : List (List Bytes)
  /-- Making, binding or closing a socket failed. -/
  broken : Bool

def Rep.start : Rep where
  socket := none
  bound := false
  opened := 0
  owed := none
  failed := 0
  refused := false
  answered := false
  repeated := false
  done := []
  received := []
  delivered := []
  broken := false

def wrongState : PyErr := ⟨.zmqError, py "Operation cannot be accomplished in current state"⟩

/-- A call that the state of the socket does not allow. An exit request may come at any time. -/
def Refused {α : Type} (r : Except PyErr α) : Prop :=
  r = .error wrongState ∨ ∃ e, r = .error e ∧ ¬ e.IsException

/-- The answers that are possible. Looking for a file is the only call of the server outside of
every handler, and it does not involve the sockets. -/
def Rep.Legal (w : Rep) : (c : ServerCall) → Except PyErr c.Answer → Prop
  | .recvMultipart socket, r => w.socket = some socket → w.owed.isSome = true → Refused r
  | .sendMultipart socket _, r => w.socket = some socket → w.owed = none → Refused r
  | .host (.exists _), .error e => ¬ e.IsZmqError
  | _, _ => True

/-- The socket is gone, and with it the message that waits. -/
def Rep.close (w : Rep) : Rep :=
  { w with
    socket := none
    bound := false
    owed := none
    failed := 0
    refused := false
    done := w.done ++ w.owed.toList.map fun message => ⟨message, none, w.failed⟩ }

def Rep.receive (w : Rep) (message : List Bytes) : Rep :=
  { w with
    owed := some message
    failed := 0
    answered := false
    received := w.received ++ [message] }

def Rep.deliver (w : Rep) (frames : List Bytes) : Rep :=
  { w with
    owed := none
    failed := 0
    answered := true
    done := w.done ++ w.owed.toList.map fun message => ⟨message, some frames, w.failed⟩
    delivered := w.delivered ++ [frames] }

/-- A reply is tried. -/
def Rep.send (w : Rep) (frames : List Bytes) (r : Except PyErr Unit) : Rep :=
  if w.owed.isSome then
    match r with
    | .ok _ => w.deliver frames
    | .error _ => { w with failed := w.failed + 1 }
  else { w with repeated := w.repeated || w.answered }

def Rep.note (w : Rep) : (c : ServerCall) → Except PyErr c.Answer → Rep
  | .recvMultipart _, .ok message => w.receive message
  | .recvMultipart _, .error _ => { w with answered := false, refused := w.refused || w.owed.isSome }
  | .sendMultipart _ frames, r => w.send frames r
  | .newSocket, .ok socket => { w.close with socket := some socket, opened := w.opened + 1 }
  | .closeSocket _, .ok _ => w.close
  | .bind _ _, .ok _ => { w with bound := true }
  | .newSocket, .error _ | .closeSocket _, .error _ | .setsockopt _ _, .error _
  | .bind _ _, .error _ => { w with broken := true }
  | _, _ => w

def rep : Env Server Rep := .noting Rep.Legal Rep.note

/-! ## The account -/

section Account

variable [NumPy]

/-- A message was answered, in the agreed form unless it is about models, by the first or by the
second reply that was tried; or else one or two replies to it could not be sent. -/
def Exchange.Settled (x : Exchange) : Prop :=
  match x.reply with
  | some frames => x.failed ≤ 1 ∧ (¬ IsModelMessage x.message → IsDetectionsReply frames)
  | none => 1 ≤ x.failed ∧ x.failed ≤ 2

/-- Each message that was received was answered once, or given up, or waits; each reply that was
delivered answers one of them; and no further reply was tried after that. -/
structure Rep.Lockstep (w : Rep) : Prop where
  settled : ∀ x ∈ w.done, x.Settled
  received : w.received = w.done.map Exchange.message ++ w.owed.toList
  delivered : w.delivered = w.done.filterMap Exchange.reply
  few : w.failed ≤ 2
  idle : w.owed = none → w.failed = 0
  once : w.repeated = false

/-- If a message waits, a reply to it could not be sent. -/
def Rep.Excused (w : Rep) : Prop := w.owed.isSome = true → 1 ≤ w.failed

/-- One more reply may be tried. -/
def Rep.Payable (w : Rep) : Prop := w.failed ≤ 1 ∧ (w.owed = none → w.answered = false)

namespace Rep.Lockstep

variable {w : Rep}

theorem start : Rep.start.Lockstep := ⟨by rintro x ⟨⟩, rfl, rfl, Nat.zero_le 2, fun _ => rfl, rfl⟩

theorem receive (kept : w.Lockstep) (free : w.owed = none) (message : List Bytes) :
    (w.receive message).Lockstep where
  settled := kept.settled
  received := by simp [Rep.receive, kept.received, free]
  delivered := kept.delivered
  few := Nat.zero_le 2
  idle _ := rfl
  once := kept.once

theorem close (kept : w.Lockstep) (excused : w.Excused) : w.close.Lockstep := by
  cases owed : w.owed with
  | none =>
      refine ⟨?_, ?_, ?_, Nat.zero_le 2, fun _ => rfl, kept.once⟩
      · simpa [Rep.close, owed] using kept.settled
      · simpa [Rep.close, owed] using kept.received
      · simpa [Rep.close, owed] using kept.delivered
  | some message =>
      have failed : 1 ≤ w.failed := excused (by rw [owed]; rfl)
      refine ⟨fun x mem => ?_, ?_, ?_, Nat.zero_le 2, fun _ => rfl, kept.once⟩
      · rcases List.mem_append.mp mem with old | new
        · exact kept.settled x old
        · rw [owed] at new
          obtain rfl := List.mem_singleton.mp new
          exact ⟨failed, kept.few⟩
      · simpa [Rep.close, owed] using kept.received
      · simpa [Rep.close, owed] using kept.delivered

theorem deliver (kept : w.Lockstep) (payable : w.failed ≤ 1) {message frames : List Bytes}
    (owed : w.owed = some message) (proper : ¬ IsModelMessage message → IsDetectionsReply frames) :
    (w.deliver frames).Lockstep := by
  refine ⟨fun x mem => ?_, ?_, ?_, Nat.zero_le 2, fun _ => rfl, kept.once⟩
  · rcases List.mem_append.mp mem with old | new
    · exact kept.settled x old
    · rw [owed] at new
      obtain rfl := List.mem_singleton.mp new
      exact ⟨payable, proper⟩
  · simpa [Rep.deliver, owed] using kept.received
  · simp [Rep.deliver, owed, kept.delivered]

/-- A change that leaves the account alone. -/
theorem of_eq {w' : Rep} (kept : w.Lockstep) (done : w'.done = w.done) (owed : w'.owed = w.owed)
    (failed : w'.failed = w.failed) (received : w'.received = w.received)
    (delivered : w'.delivered = w.delivered) (once : w'.repeated = false) : w'.Lockstep where
  settled := done ▸ kept.settled
  received := by rw [received, done, owed, kept.received]
  delivered := by rw [delivered, done, kept.delivered]
  few := failed ▸ kept.few
  idle free := failed.trans (kept.idle (owed ▸ free))
  once := once

end Rep.Lockstep

end Account

/-! ## Handlers leave the socket alone -/

section Handlers

variable {β α W : Type} {E : Env Server W}

/-- The same sockets, and nothing that the world shows. -/
def Aside (x y : ZmqOnnxClient β × W) : Prop :=
  y.1.context = x.1.context ∧ y.1.socket = x.1.socket ∧ y.2 = x.2

instance : IsPreorder (ZmqOnnxClient β × W) Aside where
  refl _ := ⟨rfl, rfl, rfl⟩
  trans _ _ _ first next :=
    ⟨next.1.trans first.1, next.2.1.trans first.2.1, next.2.2.trans first.2.2⟩

/-- Calls on the host do not show in the world. -/
def Quiet (E : Env Server W) : Prop := ∀ w c r w', E.step w (.host c) r w' → w' = w

theorem quiet_rep : Quiet rep := by
  rintro w c r w' ⟨-, rfl⟩
  rfl

theorem aside_callHost (quiet : Quiet E) (c : HostCall) :
    Py.Within E Aside (callHost c : ServerM β c.Answer) :=
  Py.Within.ask fun _ w r w' step => ⟨rfl, rfl, quiet w c r w' step⟩

theorem aside_onBackend (quiet : Quiet E) (p : HostM β α) : Py.Within E Aside (onBackend p) := by
  intro s w
  rw [wpc_onBackend]
  have still : ∀ u c r u', (hostEnv E).step u c r u' → u = w → u' = w := by
    rintro u c r u' ⟨r', -, step⟩ rfl
    exact quiet u c r' u' step
  refine Py.wpc_mono (fun w' same => ⟨s, rfl, rfl, same⟩) (fun r b w' same => ?_)
    (Py.wpc_invariant still p rfl)
  exact ⟨rfl, rfl, same⟩

theorem aside_saveModel (quiet : Quiet E) (modelName : Json) (modelData : Bytes) :
    Py.Within E Aside (saveModel modelName modelData : ServerM β Bool) :=
  within_exceptException (Py.Within.get.bind fun _ => (aside_callHost quiet _).bind fun _ =>
    (Py.Within.ofExcept _).bind fun _ => (aside_callHost quiet _).bind fun _ =>
      (Py.Within.andFinally (aside_callHost quiet _) (aside_callHost quiet _)).bind
        fun _ => .pure true) fun _ => .pure false

theorem aside_buildResponse (quiet : Quiet E) (result : NdArray) :
    Py.Within E Aside (buildResponse result : ServerM β (List Bytes)) :=
  within_exceptException ((aside_callHost quiet _).bind fun _ => .pure _) fun _ => .pure _

/-- What may leave a handler. -/
abbrev Foreign (e : PyErr) : Prop := ¬ e.IsZmqError

theorem foreign_exit {e : PyErr} (exit : ¬ e.IsException) : Foreign e :=
  fun zmq => exit zmq.isException

theorem foreign_ofExcept {r : Except PyErr α} (plain : Plain r) :
    Py.Raises rep Foreign (Py.ofExcept r : ServerM β α) :=
  .ofExcept (plain.mono fun _ plain => plain.not_isZmqError)

theorem foreign_guarded {p : ServerM β α} (a : α) :
    Py.Raises rep Foreign (exceptException p fun _ => pure a) :=
  raises_guarded (fun _ => foreign_exit) fun _ => .pure a

theorem plain_modelFile (modelsDir : PyStr) (modelName : Json) :
    Plain (modelFile modelsDir modelName) := by
  cases modelName with
  | str name => exact .ok _
  | _ => exact plain_exception _

theorem returns_members {W : Type} {E : Env Server W} (header : Json)
    {f : List (PyStr × Json) → ServerM β α} {ψ : α → Prop}
    (rest : ∀ fields, header = .obj fields → Py.Returns E ψ (f fields)) :
    Py.Returns E ψ (Py.ofExcept (members header) >>= f) :=
  Py.Returns.bind (.ofExcept fun _ read => members_eq_ok.mp read) rest

section Models

variable [InferenceBackend β]

theorem aside_loadModelFile (quiet : Quiet E) (modelPath : PyStr) :
    Py.Within E Aside (loadModelFile modelPath : ServerM β Bool) :=
  within_exceptException ((aside_onBackend quiet _).bind fun _ => .pure true) fun _ => .pure false

theorem aside_loadPinned (quiet : Quiet E) (pinned : Option PyStr) :
    Py.Within E Aside (loadPinned pinned : ServerM β Unit) := by
  cases pinned with
  | none => exact .pure ()
  | some modelPath =>
      exact (aside_loadModelFile quiet modelPath).bind fun _ =>
        .ite (.modify fun _ _ => ⟨rfl, rfl, rfl⟩) (.pure ())

theorem aside_loadModel (quiet : Quiet E) (modelName : Json) :
    Py.Within E Aside (loadModel modelName : ServerM β Bool) := by
  refine within_exceptException (Py.Within.get.bind fun _ => (Py.Within.ofExcept _).bind
    fun path => (aside_callHost quiet _).bind fun _ =>
      (aside_loadModelFile quiet path).bind fun ok => ?_) fun _ => .pure false
  exact .ite ((Py.Within.modify fun _ _ => ⟨rfl, rfl, rfl⟩).bind fun _ =>
    (aside_callHost quiet _).bind fun _ => .pure true) (.pure false)

theorem aside_handleModelRequest (quiet : Quiet E) (header : Json) :
    Py.Within E Aside (handleModelRequest header : ServerM β (List Bytes)) := by
  refine (Py.Within.ofExcept _).bind fun fields => .ite (.pure _) ?_
  have present : Py.Within E Aside (checkModelExists (getD fields "model_name" .null) :
      ServerM β Bool) :=
    Py.Within.get.bind fun _ => (Py.Within.ofExcept _).bind fun _ => aside_callHost quiet _
  exact present.bind fun _ => .ite ((aside_loadModel quiet _).bind fun _ =>
    .ite (.pure _) (.pure _)) (.pure _)

theorem aside_handleModelData (quiet : Quiet E) (header : Json) (modelData : Bytes) :
    Py.Within E Aside (handleModelData header modelData : ServerM β (List Bytes)) :=
  (Py.Within.ofExcept _).bind fun _ => .ite (.pure _) ((aside_saveModel quiet _ _).bind fun _ =>
    .ite ((aside_loadModel quiet _).bind fun _ => .ite (.pure _) (.pure _)) (.pure _))

theorem foreign_handleModelRequest (header : Json) :
    Py.Raises rep Foreign (handleModelRequest header : ServerM β (List Bytes)) := by
  refine (foreign_ofExcept (plain_members header)).bind fun fields => .ite (.pure _) ?_
  have present : Py.Raises rep Foreign (checkModelExists (getD fields "model_name" .null) :
      ServerM β Bool) := by
    refine Py.Raises.get.bind fun self => (foreign_ofExcept (plain_modelFile _ _)).bind fun path =>
      Py.Raises.ask fun w r w' step e failed => ?_
    obtain ⟨legal, -⟩ := step
    subst failed
    exact legal
  exact present.bind fun _ => .ite (Py.Raises.bind (foreign_guarded false) fun _ =>
    .ite (.pure _) (.pure _)) (.pure _)

theorem foreign_handleModelData (header : Json) (modelData : Bytes) :
    Py.Raises rep Foreign (handleModelData header modelData : ServerM β (List Bytes)) :=
  (foreign_ofExcept (plain_members header)).bind fun _ => .ite (.pure _)
    (Py.Raises.bind (foreign_guarded false) fun _ => .ite
      (Py.Raises.bind (foreign_guarded false) fun _ => .ite (.pure _) (.pure _)) (.pure _))

end Models

variable [NumPy]

theorem plain_decodeRequest (frames : List Bytes) : Plain (decodeRequest frames) := by
  rcases frames with _ | ⟨headerBytes, rest⟩
  · exact plain_exception _
  refine (plain_jsonLoads headerBytes).bind fun header => (plain_contains _ _).bind fun request => .ite (.ok _)
    ((plain_contains _ _).bind fun data => .ite ?_ ?_)
  · cases rest with
    | nil => exact plain_exception _
    | cons _ _ => exact .ok _
  · cases rest with
    | nil => exact plain_exception _
    | cons tensorBytes _ =>
        refine (plain_members _).bind fun fields => (plain_tuple _).bind fun shape =>
          Py.ErrorIn.bind ?_ fun dtype => (plain_frombuffer _ _).bind fun flat =>
            (plain_reshape _ _).bind fun tensor => .ok _
        cases NumPy.dtype (getD fields "dtype" (.str (py "uint8"))) with
        | none => exact plain_exception _
        | some descr => exact .ok descr

/-- A message that was decoded has a header, and that is what was decoded. -/
theorem decodeRequest_ok {frames : List Bytes} {request : Option NdArray × Json}
    (decoded : decodeRequest frames = .ok request) :
    ∃ headerBytes rest, frames = headerBytes :: rest ∧ jsonLoads headerBytes = .ok request.2 := by
  rcases frames with _ | ⟨headerBytes, rest⟩
  · cases decoded
  obtain ⟨header, parsed, decoded⟩ := bind_eq_ok.mp decoded
  refine ⟨headerBytes, rest, rfl, parsed.trans (congrArg _ ?_)⟩
  obtain ⟨asked, -, decoded⟩ := bind_eq_ok.mp decoded
  split at decoded
  · cases decoded
    rfl
  · obtain ⟨data, -, decoded⟩ := bind_eq_ok.mp decoded
    split at decoded
    · split at decoded
      · cases decoded
      · cases decoded
        rfl
    · split at decoded
      · cases decoded
      · obtain ⟨fields, -, decoded⟩ := bind_eq_ok.mp decoded
        obtain ⟨shape, -, decoded⟩ := bind_eq_ok.mp decoded
        obtain ⟨dtype, -, decoded⟩ := bind_eq_ok.mp decoded
        obtain ⟨flat, -, decoded⟩ := bind_eq_ok.mp decoded
        obtain ⟨tensor, -, decoded⟩ := bind_eq_ok.mp decoded
        cases decoded
        rfl

theorem isDetectionsReply_buildResponse {W : Type} {E : Env Server W} {result : NdArray}
    (detections : Plugin.IsDetections result) :
    Py.Returns E IsDetectionsReply (buildResponse result : ServerM β (List Bytes)) :=
  returns_exceptException ((Py.Returns.any _).bind fun timestamp _ =>
    .pure (isDetectionsReply_response detections timestamp)) fun _ =>
      .pure (isDetectionsReply_error _)

variable [InferenceBackend β]

theorem aside_feedsOf (quiet : Quiet E) (tensor : NdArray) (modelType : Json) (width height : Int) :
    Py.Within E Aside (feedsOf tensor modelType width height : ServerM β Feeds) := by
  refine .ite ((Py.Within.ofExcept _).bind fun images => (Py.Within.ofExcept _).bind fun sizes =>
    .pure _) ((aside_onBackend quiet _).bind fun names => ?_)
  cases names with
  | nil => exact .throw _
  | cons name names => exact .pure _

theorem aside_resultFor (quiet : Quiet E) (tensor : NdArray) (header : Json) :
    Py.Within E Aside (resultFor tensor header : ServerM β NdArray) := by
  refine Py.Within.get.bind fun _ => .ite (Py.Within.get.bind fun _ => .ite (.pure _) ?_)
    (.pure _)
  exact within_exceptException ((Py.Within.ofExcept _).bind fun _ =>
    (aside_feedsOf quiet _ _ _ _).bind fun _ => (aside_onBackend quiet _).bind fun _ =>
      (Py.Within.ofExcept _).bind fun _ => (aside_callHost quiet _).bind fun _ =>
        Py.Within.ofExcept _) fun _ => .pure _

theorem aside_respond (quiet : Quiet E) (frames : List Bytes) (tensor : Option NdArray)
    (header : Json) : Py.Within E Aside (respond frames tensor header : ServerM β (List Bytes)) := by
  refine (Py.Within.ofExcept _).bind fun request => Py.Within.bind (.ite (Py.Within.ofExcept _)
    (.pure _)) fun data => .ite (aside_handleModelRequest quiet header)
      (.ite (aside_handleModelData quiet header _) ?_)
  cases tensor with
  | none => exact aside_buildResponse quiet _
  | some tensor =>
      exact (aside_resultFor quiet tensor header).bind fun result => aside_buildResponse quiet result

/-! ## Handlers raise no error of ZMQ -/

theorem foreign_respond (frames : List Bytes) (tensor : Option NdArray) (header : Json) :
    Py.Raises rep Foreign (respond frames tensor header : ServerM β (List Bytes)) := by
  refine (foreign_ofExcept (plain_contains _ _)).bind fun request => Py.Raises.bind
    (.ite (foreign_ofExcept (plain_contains _ _)) (.pure _)) fun data =>
      .ite (foreign_handleModelRequest header) (.ite (foreign_handleModelData header _) ?_)
  cases tensor with
  | none => exact foreign_guarded _
  | some tensor =>
      exact Py.Raises.bind (.bind .get fun self => .ite (.bind .get fun self =>
        .ite (.pure _) (foreign_guarded _)) (.pure _)) fun result => foreign_guarded _

/-! ## Handlers answer with detections -/

theorem isDetections_resultFor {W : Type} {E : Env Server W} (tensor : NdArray) (header : Json) :
    Py.Returns E Plugin.IsDetections (resultFor tensor header : ServerM β NdArray) := by
  have zero : Plugin.IsDetections zeroResult := ⟨rfl, rfl⟩
  refine (Py.Returns.any _).bind fun self _ => .ite (fun _ => (Py.Returns.any _).bind fun self _ =>
    .ite (fun _ => .pure zero) fun _ => ?_) fun _ => .pure zero
  refine returns_exceptException ((Py.Returns.any _).bind fun fields _ => (Py.Returns.any _).bind
    fun feeds _ => (Py.Returns.any _).bind fun outputs _ => (Py.Returns.any _).bind fun kind _ =>
      (Py.Returns.any _).bind fun result _ => .ofExcept fun a made => ?_) fun _ => .pure zero
  rw [NdArray.astypeFloat32_of_float32 rfl] at made
  cases made
  exact ⟨rfl, rfl⟩

/-- The reply to a message that is not about models. -/
theorem isDetectionsReply_respond {W : Type} {E : Env Server W} {headerBytes : Bytes}
    {rest : List Bytes} {header : Json} (decoded : jsonLoads headerBytes = .ok header)
    (tensor : Option NdArray) :
    Py.Returns E (fun reply => ¬ IsModelMessage (headerBytes :: rest) → IsDetectionsReply reply)
      (respond (headerBytes :: rest) tensor header : ServerM β (List Bytes)) := by
  have about {key : PyStr} {fields : List (PyStr × Json)} (read : contains key header = .ok true)
      (object : header = .obj fields) : (lookup key fields).isSome = true := by
    rw [object] at read
    exact Except.ok.inj read
  refine Py.Returns.bind (.ofExcept fun request read => read) fun request read => ?_
  -- The second key is looked for only where the first is missing.
  have looked : Py.Returns E (fun data => data = true → contains (py "model_data") header = .ok true)
      (andAlso (!request) (Py.ofExcept (contains (py "model_data") header)) : ServerM β Bool) :=
    .ite (fun _ => .ofExcept fun data read same => read.trans (congrArg _ same)) fun _ => .pure nofun
  refine Py.Returns.bind looked fun data read' => ?_
  refine .ite (fun asked => ?_) fun _ => .ite (fun asked => ?_) fun _ => ?_
  · refine returns_members header fun fields object => .all _ fun reply other => absurd ?_ other
    exact ⟨headerBytes, rest, fields, rfl, decoded.trans (congrArg _ object),
      .inl (about (read.trans (congrArg _ asked)) object)⟩
  · refine returns_members header fun fields object => .all _ fun reply other => absurd ?_ other
    exact ⟨headerBytes, rest, fields, rfl, decoded.trans (congrArg _ object),
      .inr (about (read' asked.1) object)⟩
  · refine Py.Returns.mono ?_ fun reply good _ => good
    cases tensor with
    | none => exact isDetectionsReply_buildResponse ⟨rfl, rfl⟩
    | some tensor =>
        exact (isDetections_resultFor tensor header).bind fun result detections =>
          isDetectionsReply_buildResponse detections

end Handlers

end Detector
