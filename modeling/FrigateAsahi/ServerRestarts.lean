import FrigateAsahi.ClientReadiness
import FrigateAsahi.ModelReadiness
import Mathlib.Logic.Relation

/-!
# The plugin and a server that restarts

`composed` puts the two programs together. What the plugin sends waits until the server takes it up,
and a reply waits until the plugin takes it up or gives up. In between the server's process may end
and be started again; what was on its way to it is then lost. The plugin asks for its model again
only when a call of its socket fails, and a server without a model answers a tensor like any other
one. So a restart is noticed only where it costs a reply (`stale_iff`).
-/

namespace Detector.Restarts

open Text Python Numpy Interaction

/-! ## Messages -/

inductive Kind : Type
  | request
  | tensor
  | other
  deriving DecidableEq

/-- A message that asks whether a model is there. -/
def isModelRequest : List Bytes → Bool
  | header :: _ =>
    match decodeJson .none header with
    | .ok (.obj fields) => (lookup (py "model_request") fields).isSome
    | _ => false
  | _ => false

def kindOf (frames : List Bytes) : Kind :=
  if Plugin.isTensorRequest frames then .tensor
  else if isModelRequest frames then .request
  else .other

/-- A message of the plugin. -/
structure Message : Type where
  number : Nat
  frames : List Bytes
  deriving DecidableEq

structure Reply : Type where
  message : Message
  frames : List Bytes
  /-- The server had a model ready when it took the message up. -/
  ready : Bool
  /-- A load had succeeded since the server was started, and the last one had left an engine. -/
  covered : Bool

/-- What the plugin does and what becomes of it. A message counts as sent also where its socket
fails. -/
inductive Event : Type
  | sent (kind : Kind)
  | answered (ready covered : Bool)
  deriving DecidableEq

/-- Both programs but for the plugin's own state. -/
structure System : Type where
  server : ZmqOnnxClient Backend
  store : Store
  running : Bool
  /-- A load has succeeded since the server was started. -/
  succeeded : Bool
  /-- The last load has left an engine in the backend. -/
  engine : Bool
  requests : List Message
  replies : List Reply
  /-- The message whose reply the plugin's socket waits for. -/
  awaiting : Option Message
  count : Nat
  events : List Event

section System

variable [NumPy]

/-- The test that decides about a tensor. -/
def hasModel (server : ZmqOnnxClient Backend) : Bool := server.modelReady && server.backend.loaded

namespace System

/-! ## The server -/

/-- After a round in which a message was taken up. -/
def taken (w : System) (message : Message) (rest : List Message) (r : Except PyErr Next)
    (server : ZmqOnnxClient Backend) (wire : Wire) : System :=
  { w with
    server := server
    store := wire.store
    running := decide (r = .ok .again)
    succeeded := w.succeeded || (wire.store.loads.drop w.store.loads.length).any Prod.snd
    engine := if wire.store.loads.length = w.store.loads.length then w.engine
      else server.backend.loaded
    requests := rest
    replies := w.replies ++ wire.outgoing.head?.toList.map fun frames =>
      ⟨message, frames, hasModel w.server, w.succeeded && w.engine⟩ }

/-- A server in `AUTO` mode when its constructor is done. -/
structure Fresh (server : ZmqOnnxClient Backend) : Prop where
  built : Backend.Built server.backend
  unready : server.modelReady = false

/-- What happens behind the plugin's back. A round without a message changes nothing and is left
out. -/
inductive Move : System → System → Prop
  | serves {w : System} {message : Message} {before after : List Message} {r : Except PyErr Next}
    {server : ZmqOnnxClient Backend} {wire : Wire} :
    w.running = true → w.requests = before ++ message :: after →
    serveOnce.Exec (flaky disk) w.server ⟨w.store, some message.frames, []⟩ r server wire →
    Move w (w.taken message (before ++ after) r server wire)
  | crashes {w : System} {store : Store} {replies : List Reply} :
    (store = w.store ∨ ∃ message ∈ w.requests, ∃ wire, store = wire.store ∧
      Prog.Reaches (flaky disk) ((serveOnce : ServerM Backend Next) w.server)
        ⟨w.store, some message.frames, []⟩ wire) →
    replies.Sublist w.replies →
    Move w { w with store, replies, running := false, requests := [] }
  | starts {w : System} {server : ZmqOnnxClient Backend} : w.running = false → Fresh server →
    Move w { w with server, running := true, succeeded := false, engine := false }

/-! ## The plugin's calls -/

def issue (w : System) (frames : List Bytes) : System :=
  { w with events := w.events ++ [.sent (kindOf frames)] }

def post (w : System) (frames : List Bytes) : System :=
  { w.issue frames with
    requests := w.requests ++ [⟨w.count, frames⟩]
    awaiting := some ⟨w.count, frames⟩
    count := w.count + 1 }

def receive (w : System) (reply : Reply) : System :=
  { w with
    awaiting := none
    replies := w.replies.filter fun other => other.message.number ≠ reply.message.number
    events := w.events ++
      if kindOf reply.message.frames = .tensor then [.answered reply.ready reply.covered] else [] }

/-- Any call may fail; a reply that is received is one to the message that waits. -/
def Call (w : System) : (c : Plugin.ClientCall) → Except PyErr c.Answer → System → Prop
  | .newSocket, .ok _, w' => w' = { w with awaiting := none }
  | .sendMultipart _ frames, .ok _, w' => w' = w.post frames
  | .sendMultipart _ frames, .error _, w' => w' = w.issue frames
  | .recvMultipart _, .ok frames, w' =>
    ∃ reply ∈ w.replies, w.awaiting = some reply.message ∧ frames = reply.frames ∧ w' = w.receive reply
  | _, _, w' => w' = w

end System

/-- The plugin's surroundings: before each call anything may have happened at the server. -/
def composed : Env Plugin.Client System :=
  ⟨fun w c r w' => ∃ v, Relation.ReflTransGen System.Move w v ∧ v.Call c r w'⟩

/-! ## Runs -/

/-- The server may be running, and may have loaded models before. -/
structure Started (w : System) : Prop where
  account : w.running = true → w.succeeded = w.server.modelReady ∧ w.engine = w.server.backend.loaded
  empty : w.requests = [] ∧ w.replies = [] ∧ w.awaiting = none ∧ w.events = []

/-- The plugin after its constructor and any number of calls. -/
inductive Run (config : Plugin.Config) : Plugin.ZmqIpcDetector → System → Prop
  | constructed {w w' : System} {s : Plugin.ZmqIpcDetector} : Started w →
    Plugin.construct.Exec composed (.blank config) w (.ok ()) s w' → Run config s w'
  | detected {s s' : Plugin.ZmqIpcDetector} {w w' : System} {r : Except PyErr NdArray}
    (tensor : NdArray) : Run config s w →
    (Plugin.detectRaw tensor).Exec composed s w r s' w' → Run config s' w'

/-- All that is met in a run, within the calls too. -/
inductive Met (config : Plugin.Config) : System → Prop
  | constructing {w w' : System} : Started w →
    Prog.Reaches composed (Plugin.construct (.blank config)) w w' → Met config w'
  | detecting {s : Plugin.ZmqIpcDetector} {w w' : System} (tensor : NdArray) : Run config s w →
    Prog.Reaches composed (Plugin.detectRaw tensor s) w w' → Met config w'

/-! ## What is kept -/

/-- After an answer the plugin sends its next tensor. -/
def Follows : Event → Event → Prop
  | .answered _ _, next => next = .sent .tensor
  | .sent _, _ => True

/-- What is recorded of the server's loads is what the server knows itself. -/
structure Kept (w : System) : Prop where
  account : w.running = true → w.succeeded = w.server.modelReady ∧ w.engine = w.server.backend.loaded
  replies : ∀ reply ∈ w.replies, reply.ready = reply.covered
  answers : ∀ ready covered, .answered ready covered ∈ w.events → ready = covered
  order : w.events.IsChain Follows

/-- No answer came last. -/
structure Settled (w : System) : Prop extends Kept w where
  quiet : ∀ e ∈ w.events.getLast?, ∃ kind, e = .sent kind

/-- The socket waits for no answer either. -/
structure Open (w : System) : Prop extends Settled w where
  awaiting : ∀ m ∈ w.awaiting, kindOf m.frames ≠ .tensor

section Server

variable {w w' : System}

theorem loaded_of_built {b : Backend} (built : b.Built) : b.loaded = false := by
  cases built with
  | ort => rfl
  | ncnn => rfl
  | mnn => rfl

/-- A round that goes on is entered as what it was. -/
theorem account_taken {message : Message} {rest : List Message} {server : ZmqOnnxClient Backend}
    {wire : Wire} (kept : Kept w) (running : w.running = true)
    (ran : serveOnce.Exec (flaky disk) w.server ⟨w.store, some message.frames, []⟩ (.ok .again) server
      wire) :
    (w.taken message rest (.ok .again) server wire).succeeded = server.modelReady ∧
      (w.taken message rest (.ok .again) server wire).engine = server.backend.loaded := by
  obtain ⟨succeeded, engine⟩ := kept.account running
  have moves := Py.wpc_exec (moving_serveOnce _ _) ran (proceeds_ok _)
  simp only [System.taken]
  cases moves with
  | unmoved same =>
      have loads : wire.store.loads = w.store.loads := same.loads
      have ready : server.modelReady = w.server.modelReady := same.ready
      have loaded : server.backend.loaded = w.server.backend.loaded := same.loaded
      rw [loads, List.drop_length, if_pos rfl, ready, loaded, succeeded, engine]
      exact ⟨Bool.or_false _, rfl⟩
  | tried load =>
      rcases load.loads with ⟨p, loads⟩
      have loads : wire.store.loads = w.store.loads ++ [(p, _)] := loads
      have ready : server.modelReady = (w.server.modelReady || _) := load.ready
      rw [loads, List.drop_left, ready, succeeded, if_neg (by simp)]
      simp

theorem Kept.taken {message : Message} {before after : List Message} {r : Except PyErr Next}
    {server : ZmqOnnxClient Backend} {wire : Wire} (kept : Kept w) (running : w.running = true)
    (ran : serveOnce.Exec (flaky disk) w.server ⟨w.store, some message.frames, []⟩ r server wire) :
    Kept (w.taken message (before ++ after) r server wire) := by
  refine ⟨fun again => ?_, fun reply member => ?_, kept.answers, kept.order⟩
  · obtain rfl : r = .ok .again := of_decide_eq_true again
    exact account_taken kept running ran
  · rcases List.mem_append.mp member with earlier | now
    · exact kept.replies reply earlier
    · obtain ⟨succeeded, engine⟩ := kept.account running
      obtain ⟨frames, -, rfl⟩ := List.mem_map.mp now
      simp only [hasModel, succeeded, engine]

/-- Nothing that happens at the server is seen by the plugin before it asks. -/
theorem Kept.move (kept : Kept w) (move : System.Move w w') :
    Kept w' ∧ w'.events = w.events ∧ w'.awaiting = w.awaiting := by
  cases move with
  | serves running waiting ran => exact ⟨kept.taken running ran, rfl, rfl⟩
  | crashes cut left =>
      refine ⟨⟨nofun, fun reply member => ?_, kept.answers, kept.order⟩, rfl, rfl⟩
      exact kept.replies reply (left.subset member)
  | starts stopped fresh =>
      refine ⟨⟨fun _ => ⟨fresh.unready.symm, ?_⟩, kept.replies, kept.answers, kept.order⟩, rfl, rfl⟩
      exact (loaded_of_built fresh.built).symm

theorem Kept.moves (kept : Kept w) (moves : Relation.ReflTransGen System.Move w w') :
    Kept w' ∧ w'.events = w.events ∧ w'.awaiting = w.awaiting := by
  induction moves with
  | refl => exact ⟨kept, rfl, rfl⟩
  | tail _ move before =>
      obtain ⟨kept, events, awaiting⟩ := before
      obtain ⟨kept, events', awaiting'⟩ := kept.move move
      exact ⟨kept, events'.trans events, awaiting'.trans awaiting⟩

theorem Settled.moves (settled : Settled w) (moves : Relation.ReflTransGen System.Move w w') :
    Settled w' := by
  obtain ⟨kept, events, -⟩ := settled.toKept.moves moves
  refine ⟨kept, ?_⟩
  rw [events]
  exact settled.quiet

theorem Open.moves (idle : Open w) (moves : Relation.ReflTransGen System.Move w w') : Open w' := by
  obtain ⟨-, -, awaiting⟩ := idle.toKept.moves moves
  refine ⟨idle.toSettled.moves moves, ?_⟩
  rw [awaiting]
  exact idle.awaiting

end Server

/-! ## The plugin's messages -/

omit [NumPy] in
theorem kindOf_tensorHeader (tensor : NdArray) (modelType : PyStr) (payload : Bytes) :
    kindOf [encodeJson (Plugin.tensorHeader tensor modelType), payload] = .tensor := by
  rw [kindOf, if_pos (Plugin.isTensorRequest_tensorHeader tensor modelType payload)]

omit [NumPy] in
theorem kindOf_requestHeader (name : PyStr) :
    kindOf [encodeJson (Plugin.requestHeader name)] = .request := by
  have other : py "model_request" ≠ py "model_name" := by decide +kernel
  have decoded := @decodeJson_modelFields .none rfl _ (by decide +kernel) other name
  have asked : isModelRequest [encodeJson (Plugin.requestHeader name)] = true := by
    rw [isModelRequest, Plugin.requestHeader, decoded]
    dsimp only
    rw [modelFields, lookup_cons, if_pos rfl, Option.isSome_some]
  rw [kindOf, if_neg (by simp [Plugin.isTensorRequest]), if_pos asked]

omit [NumPy] in
theorem kindOf_dataHeader (name : PyStr) (data : Bytes) :
    kindOf [encodeJson (Plugin.dataHeader name), data] ≠ .tensor := by
  rw [kindOf, if_neg (by simp [Plugin.isTensorRequest_dataHeader])]
  split
  · nofun
  · nofun

section Events

variable {w : System}

/-- A message may be sent after another one; only a tensor after an answer. -/
theorem Kept.issue {frames : List Bytes} (kept : Kept w)
    (next : Settled w ∨ kindOf frames = .tensor) : Settled (w.issue frames) := by
  refine ⟨⟨kept.account, kept.replies, fun ready covered member => ?_, ?_⟩, fun e last => ?_⟩
  · rcases List.mem_append.mp member with earlier | now
    · exact kept.answers ready covered earlier
    · cases List.mem_singleton.mp now
  · refine List.isChain_append.mpr ⟨kept.order, .singleton _, fun x last y first => ?_⟩
    obtain rfl : .sent (kindOf frames) = y := Option.some.inj first
    rcases next with settled | tensor
    · obtain ⟨kind, rfl⟩ := settled.quiet x last
      trivial
    · rw [tensor]
      cases x with
      | sent kind => trivial
      | answered ready covered => rfl
  · simp only [System.issue, List.getLast?_append, List.getLast?_singleton, Option.some_or,
      Option.mem_def, Option.some.injEq] at last
    exact ⟨_, last.symm⟩

theorem Kept.post {frames : List Bytes} (kept : Kept w)
    (next : Settled w ∨ kindOf frames = .tensor) : Settled (w.post frames) := by
  have settled := kept.issue next
  exact ⟨⟨settled.account, settled.replies, settled.answers, settled.order⟩, settled.quiet⟩

theorem Open.issue {frames : List Bytes} (idle : Open w) : Open (w.issue frames) :=
  ⟨idle.toKept.issue (.inl idle.toSettled), idle.awaiting⟩

theorem Open.post {frames : List Bytes} (idle : Open w) (other : kindOf frames ≠ .tensor) :
    Open (w.post frames) := by
  refine ⟨idle.toKept.post (.inl idle.toSettled), fun m waits => ?_⟩
  obtain rfl : ⟨w.count, frames⟩ = m := Option.some.inj waits
  exact other

/-- What is received for a tensor is an answer. -/
theorem Settled.receive (settled : Settled w) {reply : Reply} (member : reply ∈ w.replies) :
    Kept (w.receive reply) := by
  refine ⟨settled.account, fun other left => ?_, fun ready covered answered => ?_, ?_⟩
  · exact settled.replies other (List.mem_filter.mp left).1
  · rcases List.mem_append.mp answered with earlier | now
    · exact settled.answers ready covered earlier
    · split at now
      · cases List.mem_singleton.mp now
        exact settled.replies reply member
      · cases now
  · refine List.isChain_append.mpr ⟨settled.order, ?_, fun x last y _ => ?_⟩
    · split
      · exact .singleton _
      · exact .nil
    · obtain ⟨kind, rfl⟩ := settled.quiet x last
      trivial

theorem Open.receive (idle : Open w) {reply : Reply} (member : reply ∈ w.replies)
    (waits : w.awaiting = some reply.message) : Open (w.receive reply) := by
  have other := idle.awaiting reply.message waits
  refine ⟨⟨idle.toSettled.receive member, ?_⟩, nofun⟩
  simp only [System.receive, if_neg other, List.append_nil]
  exact idle.quiet

end Events

/-! ## A handshake -/

/-- The flag is not lowered, and a socket that waits for no answer goes on waiting for none. -/
def Handshaking (x y : Plugin.ZmqIpcDetector × System) : Prop :=
  (x.1.modelReady = true → y.1.modelReady = true) ∧ (Open x.2 → Open y.2)

instance : IsPreorder (Plugin.ZmqIpcDetector × System) Handshaking where
  refl _ := ⟨id, id⟩
  trans _ _ _ first next := ⟨fun up => next.1 (first.1 up), fun idle => next.2 (first.2 idle)⟩

section Handshake

variable {c : Plugin.ClientCall}

/-- A call that sends and receives nothing. -/
theorem handshaking_call (silent : ∀ v r w', System.Call v c r w' → w' = v) :
    Py.Within composed Handshaking (Plugin.call c) := by
  refine .ask fun s w r w' step => ⟨id, fun idle => ?_⟩
  obtain ⟨v, moves, step⟩ := step
  obtain rfl := silent v r w' step
  exact idle.moves moves

theorem handshaking_send {socket : Nat} {frames : List Bytes} (other : kindOf frames ≠ .tensor) :
    Py.Within composed Handshaking (Plugin.call (.sendMultipart socket frames)) := by
  refine .ask fun s w r w' step => ⟨id, fun idle => ?_⟩
  obtain ⟨v, moves, step⟩ := step
  have idle := idle.moves moves
  cases r with
  | error e =>
      obtain rfl : w' = v.issue frames := step
      exact idle.issue
  | ok _ =>
      obtain rfl : w' = v.post frames := step
      exact idle.post other

theorem handshaking_recv {socket : Nat} :
    Py.Within composed Handshaking (Plugin.call (.recvMultipart socket)) := by
  refine .ask fun s w r w' step => ⟨id, fun idle => ?_⟩
  obtain ⟨v, moves, step⟩ := step
  have idle := idle.moves moves
  cases r with
  | error e =>
      obtain rfl : w' = v := step
      exact idle
  | ok frames =>
      obtain ⟨reply, member, waits, -, rfl⟩ := step
      exact idle.receive member waits

theorem handshaking_theSocket : Py.Within composed Handshaking Plugin.theSocket := by
  refine Py.Within.get.bind fun self => ?_
  cases self.socket with
  | none => exact .throw _
  | some socket => exact .pure socket

theorem handshaking_exchange {frames : List Bytes} (other : kindOf frames ≠ .tensor)
    (timeout : Int) : Py.Within composed Handshaking (Plugin.exchange frames timeout) :=
  handshaking_theSocket.bind fun _ => (handshaking_send other).bind fun _ =>
    (handshaking_call (by exact fun _ _ _ => id)).bind fun _ =>
      (handshaking_call (by exact fun _ _ _ => id)).bind fun _ =>
        Py.Within.andFinally handshaking_recv (handshaking_call (by exact fun _ _ _ => id))

theorem handshaking_sendModelData : Py.Within composed Handshaking Plugin.sendModelData := by
  refine within_exceptException (Py.Within.get.bind fun self =>
    (handshaking_call (by exact fun _ _ _ => id)).bind fun present => .ite (.pure false) ?_)
      fun _ => .pure false
  refine (handshaking_call (by exact fun _ _ _ => id)).bind fun data =>
    (handshaking_exchange (kindOf_dataHeader _ _) _).bind fun frames => ?_
  split
  · exact (Py.Within.ofExcept _).bind fun _ => .pure _
  · exact .pure false

theorem handshaking_checkAndTransferModel :
    Py.Within composed Handshaking Plugin.checkAndTransferModel := by
  have other (name : PyStr) : kindOf [encodeJson (Plugin.requestHeader name)] ≠ .tensor := by
    rw [kindOf_requestHeader]
    nofun
  refine within_exceptException (Py.Within.get.bind fun self =>
    (handshaking_exchange (other _) _).bind fun frames => ?_) fun _ => .pure false
  split
  · refine (Py.Within.ofExcept _).bind fun reply => ?_
    cases reply with
    | none => exact .pure false
    | some answer => exact .ite (.pure _) handshaking_sendModelData
  · exact .pure false

theorem handshaking_initializeModel : Py.Within composed Handshaking Plugin.initializeModel := by
  have log (line : Plugin.LogLine) : Py.Within composed Handshaking (Plugin.call (.log line)) :=
    handshaking_call (by exact fun _ _ _ => id)
  have raise : Py.Within composed Handshaking
      (modify fun self : Plugin.ZmqIpcDetector => { self with modelReady := true } :
        Plugin.ClientM PUnit) :=
    .modify fun _ _ => ⟨fun _ => rfl, id⟩
  refine within_exceptException (handshaking_checkAndTransferModel.bind fun ok => .ite ?_ (log _))
    fun _ => log _
  exact (log _).bind fun _ => raise

end Handshake

/-! ## A new socket -/

section Socket

variable {s : Plugin.ZmqIpcDetector} {w : System}

/-- A part of a handshake, seen from a socket that waits for no answer. -/
theorem wpc_handshaking {α : Type} {p : Plugin.ClientM α}
    (within : Py.Within composed Handshaking p) (idle : Open w)
    {Q : Except PyErr α → Plugin.ZmqIpcDetector → System → Prop}
    (post : ∀ r s' w', (s.modelReady = true → s'.modelReady = true) → Open w' → Q r s' w') :
    p.wpc composed Settled Q s w := by
  refine Py.wpc_mono (fun w' crash => ?_) (fun r s' w' kept => ?_) (within s w)
  · obtain ⟨_, -, kept⟩ := crash
    exact (kept idle).toSettled
  · exact post r s' w' kept.1 (kept.2 idle)

theorem newSocket_opens (settled : Settled w) :
    Plugin.newSocket.wpc composed Settled (fun r s' w' =>
      (s.modelReady = true → s'.modelReady = true) ∧ Settled w' ∧ (r = .ok () → Open w')) s w := by
  rw [Plugin.newSocket, Py.wpc_bind, Py.wpc_get, Py.either_ok, Py.wpc_bind, Py.wpc_ask]
  intro r w₁ step
  obtain ⟨v, moves, step⟩ := step
  have settled := settled.moves moves
  cases r with
  | error e =>
      obtain rfl : w₁ = v := step
      exact ⟨settled, id, settled, by rintro ⟨⟩⟩
  | ok socket =>
      obtain rfl : w₁ = { v with awaiting := none } := step
      have idle : Open { v with awaiting := none } :=
        ⟨⟨⟨settled.account, settled.replies, settled.answers, settled.order⟩, settled.quiet⟩, by rintro m ⟨⟩⟩
      have silent {c : Plugin.ClientCall} (none : ∀ v r w', System.Call v c r w' → w' = v) :=
        handshaking_call none
      have rest : Py.Within composed Handshaking (do
          modify fun self => { self with socket := some socket }
          Plugin.call (.setsockopt socket (.rcvtimeo s.config.requestTimeoutMs))
          Plugin.call (.setsockopt socket (.sndtimeo s.config.requestTimeoutMs))
          Plugin.call (.setsockopt socket (.linger s.config.lingerMs))
          Plugin.call (.connect socket s.config.endpoint) : Plugin.ClientM Unit) := by
        refine Py.Within.bind (.modify fun _ _ => ⟨id, id⟩) fun _ => ?_
        exact (silent (by exact fun _ _ _ => id)).bind fun _ =>
          (silent (by exact fun _ _ _ => id)).bind fun _ =>
            (silent (by exact fun _ _ _ => id)).bind fun _ => silent (by exact fun _ _ _ => id)
      refine ⟨idle.toSettled, ?_⟩
      rw [Py.either_ok]
      exact wpc_handshaking rest idle fun r s' w' up open' => ⟨up, open'.toSettled, fun _ => open'⟩

theorem createSocket_opens (settled : Settled w) :
    Plugin.createSocket.wpc composed Settled (fun r s' w' =>
      (s.modelReady = true → s'.modelReady = true) ∧ Settled w' ∧ (r = .ok () → Open w')) s w := by
  rw [Plugin.createSocket, Py.wpc_bind, Py.wpc_get, Py.either_ok]
  cases s.socket with
  | none => exact newSocket_opens settled
  | some old =>
      dsimp only
      rw [Py.wpc_bind, wpc_exceptException, Py.wpc_ask]
      intro r w₁ step
      obtain ⟨v, moves, step⟩ := step
      obtain rfl : w₁ = v := step
      have settled := settled.moves moves
      refine ⟨settled, ?_⟩
      cases r with
      | ok _ => exact newSocket_opens settled
      | error e =>
          rw [Py.either_error]
          split
          · exact newSocket_opens settled
          · exact ⟨id, settled, by rintro ⟨⟩⟩

end Socket

/-! ## Calls of the plugin -/

/-- After an answer the flag is up. -/
def Answered (s : Plugin.ZmqIpcDetector) (w : System) : Prop :=
  Kept w ∧ (Settled w ∨ s.modelReady = true)

section Calls

variable {s : Plugin.ZmqIpcDetector} {w : System}

theorem Settled.answered (settled : Settled w) : Answered s w := ⟨settled.toKept, .inl settled⟩

theorem Started.idle (started : Started w) : Open w := by
  obtain ⟨requests, replies, awaiting, events⟩ := started.empty
  refine ⟨⟨⟨started.account, ?_, ?_, ?_⟩, ?_⟩, ?_⟩
  · simp [replies]
  · simp [events]
  · simp [events]
  · simp [events]
  · simp [awaiting]

theorem construct_settled (config : Plugin.Config) (started : Started w) :
    Plugin.construct.wpc composed Settled (fun _ _ w' => Settled w') (.blank config) w := by
  rw [Plugin.construct, Py.wpc_bind]
  refine Py.wpc_mono (fun _ crash => crash) (fun r s₁ w₁ opened => ?_)
    (createSocket_opens started.idle.toSettled)
  obtain ⟨-, settled, opened⟩ := opened
  cases r with
  | error e => exact settled
  | ok _ =>
      rw [Py.either_ok, Py.wpc_bind, Py.wpc_modify, Py.either_ok, Py.wpc_bind]
      refine wpc_handshaking handshaking_initializeModel (opened rfl) fun r s₂ w₂ _ idle => ?_
      cases r with
      | error e => exact idle.toSettled
      | ok _ =>
          rw [Py.either_ok, Py.wpc_bind]
          refine wpc_handshaking (handshaking_call (by exact fun _ _ _ => id)) idle
            fun r s₃ w₃ _ idle => ?_
          cases r with
          | error e => exact idle.toSettled
          | ok now => exact idle.toSettled

/-- A tensor is sent, or a handshake was made, or nothing was done. -/
theorem ensureReady_answered (answered : Answered s w) :
    Plugin.ensureReady.wpc composed Kept (fun r s' w' => Answered s' w' ∧
      ∀ ready, r = .ok ready → s'.modelReady = ready) s w := by
  rw [Plugin.ensureReady, Py.wpc_bind, Py.wpc_get, Py.either_ok, Py.wpc_ite]
  split
  · next ready =>
      refine ⟨answered, fun b same => ?_⟩
      cases same
      exact ready
  · next unready =>
      rcases answered.2 with settled | ready
      · rw [Py.wpc_bind, Py.wpc_ask]
        intro r w₁ step
        obtain ⟨v, moves, step⟩ := step
        obtain rfl : w₁ = v := step
        have settled := settled.moves moves
        refine ⟨settled.toKept, ?_⟩
        cases r with
        | error e => exact ⟨settled.answered, by simp⟩
        | ok now =>
            rw [Py.either_ok, Py.wpc_ite]
            split
            · rw [Py.wpc_bind, Py.wpc_modify, Py.either_ok, Py.wpc_bind]
              refine Py.wpc_mono (fun _ crash => crash.toKept) (fun r s₂ w₂ opened => ?_)
                (createSocket_opens settled)
              obtain ⟨-, settled, opened⟩ := opened
              cases r with
              | error e => exact ⟨settled.answered, by simp⟩
              | ok _ =>
                  rw [Py.either_ok, Py.wpc_bind]
                  refine Py.wpc_mono (fun _ crash => crash.toKept) (fun _ _ _ post => post)
                    (wpc_handshaking handshaking_initializeModel (opened rfl)
                      fun r s₃ w₃ _ idle => ?_)
                  cases r with
                  | error e => exact ⟨idle.toSettled.answered, by simp⟩
                  | ok _ =>
                      refine ⟨idle.toSettled.answered, fun b same => ?_⟩
                      cases same
                      rfl
            · refine ⟨settled.answered, fun b same => ?_⟩
              cases same
              simpa using unready
      · exact absurd ready unready

theorem recover_settled (settled : Settled w) :
    Plugin.recover.wpc composed Settled (fun _ _ w' => Settled w') s w := by
  rw [Plugin.recover, Py.wpc_bind, wpc_exceptException, Py.wpc_bind]
  refine Py.wpc_mono (fun _ crash => crash) (fun r s₁ w₁ opened => ?_) (createSocket_opens settled)
  obtain ⟨-, settled, opened⟩ := opened
  cases r with
  | error e =>
      rw [Py.either_error, Py.either_error]
      split
      · exact settled
      · exact settled
  | ok _ =>
      rw [Py.either_ok]
      refine wpc_handshaking handshaking_initializeModel (opened rfl) fun r s₂ w₂ _ idle => ?_
      cases r with
      | ok _ => exact idle.toSettled
      | error e =>
          rw [Py.either_error]
          split
          · exact idle.toSettled
          · exact idle.toSettled

/-- A request of a plugin whose flag is up. An error of its socket comes after the tensor. -/
theorem request_answered (tensor : NdArray) (kept : Kept w) (ready : s.modelReady = true) :
    (Plugin.request tensor).wpc composed Kept (fun r s' w' => Answered s' w' ∧
      ∀ e, r = .error e → e.IsZmqError → Settled w') s w := by
  rw [Plugin.request, Py.wpc_bind, Py.wpc_get, Py.either_ok, Py.wpc_bind, Plugin.theSocket,
    Py.wpc_bind, Py.wpc_get, Py.either_ok]
  cases s.socket with
  | none =>
      refine ⟨⟨kept, .inr ready⟩, fun e same zmq => ?_⟩
      cases same
      exact absurd zmq (by decide)
  | some socket =>
      rw [Py.wpc_pure, Py.either_ok, Py.wpc_bind, Py.wpc_ask]
      intro r w₁ step
      obtain ⟨v, moves, step⟩ := step
      obtain ⟨kept, -, -⟩ := kept.moves moves
      have kind := kindOf_tensorHeader tensor s.config.modelType tensor.data
      cases r with
      | error e =>
          obtain rfl : w₁ = v.issue _ := step
          have settled := kept.issue (.inr kind)
          exact ⟨settled.toKept, settled.answered, fun _ _ _ => settled⟩
      | ok _ =>
          obtain rfl : w₁ = v.post _ := step
          have settled := kept.post (.inr kind)
          refine ⟨settled.toKept, ?_⟩
          rw [Py.either_ok, Py.wpc_bind, Py.wpc_ask]
          intro r w₂ step
          obtain ⟨u, moves, step⟩ := step
          have settled := settled.moves moves
          cases r with
          | error e =>
              obtain rfl : w₂ = u := step
              exact ⟨settled.toKept, settled.answered, fun _ _ _ => settled⟩
          | ok frames =>
              obtain ⟨reply, member, -, -, rfl⟩ := step
              have answered := settled.receive member
              exact ⟨answered, ⟨answered, .inr ready⟩, by simp⟩

theorem detectRaw_answered (tensor : NdArray) (answered : Answered s w) :
    (Plugin.detectRaw tensor).wpc composed Kept (fun _ s' w' => Answered s' w') s w := by
  rw [Plugin.detectRaw, Py.wpc_bind]
  refine Py.wpc_mono (fun _ crash => crash) (fun r s₁ w₁ ensured => ?_)
    (ensureReady_answered answered)
  obtain ⟨answered, flag⟩ := ensured
  cases r with
  | error e => exact answered
  | ok ready =>
      rw [Py.either_ok, Py.wpc_ite]
      split
      · exact answered
      · next up =>
          have raised : s₁.modelReady = true := (flag ready rfl).trans (by simpa using up)
          rw [Py.wpc_catching]
          refine Py.wpc_mono (fun _ crash => crash) (fun r s₂ w₂ requested => ?_)
            (request_answered tensor answered.1 raised)
          obtain ⟨answered, failed⟩ := requested
          cases r with
          | ok a => exact answered
          | error e =>
              rw [Py.either_error, Py.wpc_ite]
              split
              · next zmq =>
                  refine Py.wpc_mono (fun _ crash => crash.toKept)
                    (fun _ _ _ settled => settled.answered) (recover_settled (failed e rfl zmq))
              · rw [Py.wpc_ite]
                split
                · exact answered
                · exact answered

end Calls

/-! ## Runs -/

section Runs

variable {config : Plugin.Config} {s : Plugin.ZmqIpcDetector} {w : System}

theorem Run.answered (run : Run config s w) : Answered s w := by
  induction run with
  | constructed started ran => exact (Py.wpc_exec (construct_settled config started) ran).answered
  | detected tensor _ ran answered => exact Py.wpc_exec (detectRaw_answered tensor answered) ran

theorem Met.kept (met : Met config w) : Kept w := by
  cases met with
  | constructing started reached =>
      exact (Prog.wpc_reaches (construct_settled config started) started.idle.toSettled reached).toKept
  | detecting tensor run reached =>
      exact Prog.wpc_reaches (detectRaw_answered tensor run.answered) run.answered.1 reached

/-- A tensor was answered by a server without a model, and the next one was sent without a handshake
in between. -/
def Stale (events : List Event) : Prop :=
  ∃ before covered between after,
    events = before ++ .answered false covered :: (between ++ .sent .tensor :: after) ∧
      .sent .request ∉ between

/-- No tensor that a server takes up before it has loaded a model since it was started, or after a
load that left no engine, is answered; unless nothing is sent after it. -/
def Unanswered (events : List Event) : Prop :=
  ∀ before ready after, events = before ++ .answered ready false :: after → after = []

/-- A server without a model goes unnoticed exactly where it answers a tensor. -/
theorem stale_iff (met : Met config w) : ¬ Stale w.events ↔ Unanswered w.events := by
  have kept := met.kept
  constructor
  · intro fresh before ready after split
    have member : .answered ready false ∈ w.events := by
      rw [split]
      exact List.mem_append_right _ (List.mem_cons_self)
    obtain rfl : ready = false := kept.answers ready false member
    cases after with
    | nil => rfl
    | cons next rest =>
        have order := kept.order
        rw [split, List.isChain_append_cons_cons] at order
        obtain rfl : next = .sent .tensor := order.2.1
        exact absurd ⟨before, false, [], rest, split, List.not_mem_nil⟩ fresh
  · intro unanswered stale
    obtain ⟨before, covered, between, after, split, -⟩ := stale
    have member : .answered false covered ∈ w.events := by
      rw [split]
      exact List.mem_append_right _ (List.mem_cons_self)
    obtain rfl : false = covered := kept.answers false covered member
    have ended := unanswered before false _ split
    exact absurd ended (by simp)

end Runs

end System

/-! ## A restart between two tensors -/

section Script

attribute [local instance] NumPy.reference

/-- The server's calls on a disk in order, with a clock. -/
def serve (w : Wire) : (c : ServerCall) → Except PyErr c.Answer
  | .host .time => .ok .zero
  | c => healthy.serve w c

theorem step_serve (w : Wire) (c : ServerCall) :
    (flaky disk).step w c (serve w c) (healthy.noteWire w c (serve w c)) := by
  have onDisk (c : HostCall) (same : serve w (.host c) = healthy.serve w (.host c)) :
      (flaky disk).step w (.host c) (serve w (.host c))
        (healthy.noteWire w (.host c) (serve w (.host c))) := by
    rw [same]
    exact DiskScript.legal_serve healthy.legal w (.host c)
  cases c with
  | host c =>
      cases c with
      | time => exact ⟨healthy.note w.store .time _, ⟨fun _ _ => rfl, fun _ _ => rfl, trivial, rfl⟩, rfl⟩
      | _ => exact onDisk _ rfl
  | recvMultipart socket =>
      cases waiting : w.incoming with
      | none =>
          have answer : serve w (.recvMultipart socket) = .error Plugin.zmqAgain := by
            simp [serve, DiskScript.serve, waiting]
          rw [answer]
          change { w with incoming := none } = w
          rw [← waiting]
      | some frames =>
          have answer : serve w (.recvMultipart socket) = .ok frames := by
            simp [serve, DiskScript.serve, waiting]
          rw [answer]
          exact ⟨waiting, rfl⟩
  | sendMultipart socket frames => exact rfl
  | _ => exact rfl

namespace System

/-- The server's process ends and is started again. -/
def restarted (w : System) : System :=
  { w with server := idle, running := true, succeeded := false, engine := false, requests := [] }

theorem moves_restarted (w : System) : Relation.ReflTransGen Move w w.restarted := by
  have crash : Move w { w with running := false, requests := [] } :=
    .crashes (.inl rfl) (List.Sublist.refl _)
  have start : Move { w with running := false, requests := [] } w.restarted :=
    .starts rfl ⟨.ort _ _, rfl⟩
  exact .tail (.single crash) start

/-- The round that takes up a message. -/
def round (w : System) (message : Message) : (Except PyErr Next × ZmqOnnxClient Backend) × Wire :=
  serveOnce.answering healthy.noteWire serve w.server ⟨w.store, some message.frames, []⟩

/-- The oldest message is taken up. -/
def served (w : System) : System :=
  match w.running, w.requests with
  | true, message :: rest =>
    w.taken message rest (w.round message).1.1 (w.round message).1.2 (w.round message).2
  | _, _ => w

theorem moves_served (w : System) : Relation.ReflTransGen Move w w.served := by
  rw [served]
  split
  · next message rest running waiting =>
      have ran := Py.exec_answering step_serve serveOnce w.server ⟨w.store, some message.frames, []⟩
        rfl
      have waiting : w.requests = [] ++ message :: rest := waiting
      exact .single (.serves running waiting ran)
  · exact .refl

/-- The server takes up each message while the plugin waits. Where `restart` says so, it was started
again before the message was sent. -/
def play (restart : Bool) (w : System) : (c : Plugin.ClientCall) → Except PyErr c.Answer × System
  | .newSocket => (.ok 1, { w with awaiting := none })
  | .sendMultipart _ frames => (.ok (), (if restart then w.restarted else w).post frames)
  | .recvMultipart _ =>
    match w.served.replies.find? fun reply => w.served.awaiting = some reply.message with
    | some reply => (.ok reply.frames, w.served.receive reply)
    | none => (.error Plugin.zmqAgain, w.served)
  | .getRcvtimeo _ => (.ok 200, w)
  | .exists _ => (.ok true, w)
  | .readFile _ => (.ok [0], w)
  | .monotonic => (.ok 0, w)
  | .closeSocket _ _ | .setsockopt _ _ | .connect _ _ | .log _ => (.ok (), w)

theorem step_play (restart : Bool) (w : System) (c : Plugin.ClientCall) :
    composed.step w c (w.play restart c).1 (w.play restart c).2 := by
  cases c with
  | sendMultipart socket frames =>
      cases restart with
      | false => exact ⟨w, .refl, rfl⟩
      | true => exact ⟨w.restarted, w.moves_restarted, rfl⟩
  | recvMultipart socket =>
      refine ⟨w.served, w.moves_served, ?_⟩
      rw [play]
      split
      · next reply found =>
          have waits : w.served.awaiting = some reply.message := by simpa using List.find?_some found
          exact ⟨reply, List.mem_of_find?_eq_some found, waits, rfl, rfl⟩
      · exact rfl
  | _ => exact ⟨w, .refl, rfl⟩

end System

/-- The model is on the server's disk. -/
def stored : Store :=
  ⟨fun p => if p = pathJoin (py "models") (py "m.onnx") then some [8, 9] else none, fun _ => 0, []⟩

def beginning : System := ⟨idle, stored, true, false, false, [], [], none, 0, []⟩

theorem started_beginning : Started beginning := ⟨fun _ => ⟨rfl, rfl⟩, rfl, rfl, rfl, rfl⟩

/-- What a call of the plugin gives, and the surroundings it leaves. -/
abbrev Outcome (α : Type) : Type := (Except PyErr α × Plugin.ZmqIpcDetector) × System

@[nospecialize] def detect [NumPy] (self : Plugin.ZmqIpcDetector) :
    Prog Plugin.Client (Except PyErr NdArray × Plugin.ZmqIpcDetector) :=
  Plugin.detectRaw Plugin.exampleTensor self

/-- The handshake of the constructor succeeds. -/
def constructed : Outcome Unit :=
  (Plugin.construct (.blank Plugin.exampleConfig)).run (System.play false) beginning

/-- One more tensor. -/
def detected {α : Type} (restart : Bool) (x : Outcome α) : Outcome NdArray :=
  (detect x.1.2).run (System.play restart) x.2

theorem run_constructed : Run Plugin.exampleConfig constructed.1.2 constructed.2 := by
  have ok : constructed.1.1 = .ok () := by decide +kernel
  rw [constructed] at ok ⊢
  exact .constructed started_beginning (Py.exec_run (System.step_play false) Plugin.construct _ _ ok)

theorem run_detected {α : Type} {x : Outcome α} (run : Run Plugin.exampleConfig x.1.2 x.2)
    (restart : Bool) :
    Run Plugin.exampleConfig (detected restart x).1.2 (detected restart x).2 := by
  have ran := Py.exec_run (System.step_play restart) (Plugin.detectRaw Plugin.exampleTensor) x.1.2
    x.2 rfl
  exact .detected Plugin.exampleTensor run ran

/-- A tensor is answered by the server that has the model. -/
theorem stale_iff_served :
    (detected false constructed).2.events = [.sent .request, .sent .tensor, .answered true true] ∧
      ¬ Stale (detected false constructed).2.events := by
  have events : (detected false constructed).2.events =
      [.sent .request, .sent .tensor, .answered true true] := by decide +kernel
  have met : Met Plugin.exampleConfig (detected false constructed).2 :=
    .detecting Plugin.exampleTensor (run_detected run_constructed false) .here
  refine ⟨events, (stale_iff met).mpr fun before ready after split => ?_⟩
  have member : .answered ready false ∈ (detected false constructed).2.events := by
    rw [split]
    exact List.mem_append_right _ List.mem_cons_self
  rw [events] at member
  exact absurd member (by simp)

/-- The server is started again while nothing is on its way to it. The next tensor is answered with
zeros, and the one after it is sent with no handshake in between. -/
theorem restart_unnoticed : ∃ config s w, Run config s w ∧ s.modelReady = true ∧ Stale w.events := by
  have first := run_detected run_constructed true
  have second := run_detected first false
  have ready : (detected false (detected true constructed)).1.2.modelReady = true := by
    decide +kernel
  have events : (detected false (detected true constructed)).2.events =
      [.sent .request, .sent .tensor, .answered false false, .sent .tensor,
        .answered false false] := by decide +kernel
  have stale : Stale (detected false (detected true constructed)).2.events := by
    rw [events]
    exact ⟨[.sent .request, .sent .tensor], false, [], [.answered false false], rfl, List.not_mem_nil⟩
  exact ⟨_, _, _, second, ready, stale⟩

end Script

end Detector.Restarts
