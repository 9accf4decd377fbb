import FrigateAsahi.RepSocket
import FrigateAsahi.ServerRestarts
import FrigateAsahi.WireFormat

/-!
# Where detections come from

Whatever happens at the server in between, what the plugin hands to Frigate for a tensor is all
zeros, or it is what inference made of this very tensor on a server that had a model ready while the
plugin waited for the reply (`detections_inferred`). Neither another tensor's detections nor a
reply to a handshake can take their place, and no octet of them is lost on the way back.
-/

namespace Detector

open Text Python Numpy Interaction

/-! ## Replies to tensors, read by the plugin -/

section Replies

variable [NumPy]

theorem decodeResponse_detections {headerBytes : Bytes} {rest : List (PyStr × Json)} {d : NdArray}
    (decoded : jsonLoads headerBytes = .ok (detectionsHeader rest))
    (detections : Plugin.IsDetections d) : Plugin.decodeResponse [headerBytes, d.data] = d := by
  obtain ⟨shape, dtype⟩ := detections
  have float32 : NumPy.dtype (.str (py "float32")) = some ⟨d.dtype, []⟩ := by
    rw [dtype]
    exact NumPy.dtype_number .float32 (by decide)
  have number : IsNumber d.dtype := by
    rw [dtype]
    exact .inl (by decide)
  have made := reshape_frombuffer d number (by rw [shape]; decide)
    (by rw [shape]; exact NumPy.two_le_maxdims) (by rw [shape, dtype]; decide)
  rw [shape] at made
  have whole : Plugin.tryDecodeResponse [headerBytes, d.data] = .ok d := by
    refine bind_eq_ok.mpr ⟨_, decoded, bind_eq_ok.mpr ⟨_, rfl, ?_⟩⟩
    refine bind_eq_ok.mpr ⟨_, congrArg tuple (getD_shape _ _), ?_⟩
    exact bind_eq_ok.mpr ⟨_, elim_eq_ok.mpr ((congrArg NumPy.dtype (getD_dtype _ _ _)).trans float32),
      made⟩
  unfold Plugin.decodeResponse
  rw [whole]

theorem decodeResponse_response {d : NdArray} (detections : Plugin.IsDetections d)
    (timestamp : FloatLit) :
    Plugin.decodeResponse [encodeJson (responseHeader d timestamp), d.data] = d := by
  have header : responseHeader d timestamp =
      detectionsHeader [(py "timestamp", .float timestamp)] := by
    rw [responseHeader, detections.1, detections.2]
    rfl
  rw [header]
  exact decodeResponse_detections
    (jsonLoads_detectionsHeader (py "timestamp") (v := .float timestamp) trivial (by decide +kernel))
    detections

/-- An error is read as zeros. -/
theorem decodeResponse_error (msg : PyStr) :
    Plugin.decodeResponse [encodeJson (errorHeader msg), zeroResult.data] = Plugin.zeroResult :=
  decodeResponse_detections (jsonLoads_detectionsHeader (py "error") (v := .str msg) trivial
    (by decide +kernel))
    Plugin.isDetections_zeroResult

theorem returns_buildResponse {β W : Type} {E : Env Server W} {d : NdArray}
    (detections : Plugin.IsDetections d) :
    Py.Returns E (fun frames => Plugin.decodeResponse frames = d ∨
        Plugin.decodeResponse frames = Plugin.zeroResult)
      (buildResponse d : ServerM β (List Bytes)) :=
  returns_exceptException ((Py.Returns.any _).bind fun timestamp _ =>
    .pure (.inl (decodeResponse_response detections timestamp))) fun _ =>
      .pure (.inr (decodeResponse_error _))

end Replies

/-! ## Parts of a round that send nothing else -/

section Sending

variable {β α W : Type} {E : Env Server W} {R : ZmqOnnxClient β × W → ZmqOnnxClient β × W → Prop}
  [IsPreorder (ZmqOnnxClient β × W) R]

/-- The calls of `resetSocket` are those of the socket that send nothing. -/
theorem within_resetSocket
    (calls : ∀ c, (∀ socket frames, c ≠ .sendMultipart socket frames) →
      Py.Within E R (callServer c : ServerM β c.Answer))
    (sets : ∀ socket, Py.Within E R
      (modify fun self : ZmqOnnxClient β => { self with socket } : ServerM β PUnit)) :
    Py.Within E R (resetSocket : ServerM β Unit) := by
  have closes : Py.Within E R (closeSocket : ServerM β Unit) := by
    refine Py.Within.get.bind fun self => ?_
    cases self.socket with
    | none => exact .pure ()
    | some socket => exact (calls _ (by simp)).bind fun _ => sets none
  have opens : Py.Within E R (openSocket : ServerM β Unit) := by
    refine Py.Within.get.bind fun self => .ite ?_ (.throw _)
    exact (calls _ (by simp)).bind fun _ => (sets _).bind fun _ => (calls _ (by simp)).bind fun _ =>
      (calls _ (by simp)).bind fun _ => calls _ (by simp)
  have binds : Py.Within E R (bind : ServerM β Unit) := by
    refine Py.Within.get.bind fun self => ?_
    cases self.socket with
    | none => exact .throw _
    | some socket => exact calls _ (by simp)
  exact closes.bind fun _ => opens.bind fun _ => binds

end Sending

section Rounds

/-- Nothing is sent but what is in `P`. -/
def Sending (P : List Bytes → Prop) (x y : ZmqOnnxClient Backend × Wire) : Prop :=
  (∀ frames ∈ x.2.outgoing, P frames) → ∀ frames ∈ y.2.outgoing, P frames

instance {P : List Bytes → Prop} : IsPreorder (ZmqOnnxClient Backend × Wire) (Sending P) where
  refl _ := id
  trans _ _ _ first next := fun start => next (first start)

variable {P : List Bytes → Prop}

theorem sending_callServer {c : ServerCall}
    (other : ∀ socket frames, c ≠ .sendMultipart socket frames) :
    Py.Within (flaky disk) (Sending P) (callServer c : ServerM Backend c.Answer) := by
  refine .ask fun s w r w' step start => ?_
  cases c with
  | host c =>
      obtain ⟨store, -, rfl⟩ := step
      exact start
  | recvMultipart socket =>
      cases r with
      | error e =>
          obtain rfl : w' = w := step
          exact start
      | ok frames =>
          obtain ⟨-, rfl⟩ := step
          exact start
  | sendMultipart socket frames => exact absurd rfl (other socket frames)
  | _ =>
      obtain rfl : w' = w := step
      exact start

theorem sending_sendMultipart {frames : List Bytes} (allowed : P frames) :
    Py.Within (flaky disk) (Sending P) (sendMultipart frames : ServerM Backend Unit) := by
  refine Py.Within.get.bind fun self => ?_
  cases self.socket with
  | none => exact .throw _
  | some socket =>
      refine .ask fun s w r w' step start => ?_
      cases r with
      | error e =>
          obtain rfl : w' = w := step
          exact start
      | ok _ =>
          obtain rfl : w' = { w with outgoing := w.outgoing ++ [frames] } := step
          intro sent member
          rcases List.mem_append.mp member with earlier | now
          · exact start sent earlier
          · rw [List.mem_singleton.mp now]
            exact allowed

theorem sending_sendErrorResponse
    (errors : ∀ msg, P [encodeJson (errorHeader msg), zeroResult.data]) (msg : PyStr) :
    Py.Within (flaky disk) (Sending P) (sendErrorResponse msg : ServerM Backend Unit) :=
  within_exceptException (sending_sendMultipart (errors msg)) fun _ => .pure ()

theorem sending_handleZmqError
    (errors : ∀ msg, P [encodeJson (errorHeader msg), zeroResult.data]) (e : PyErr) :
    Py.Within (flaky disk) (Sending P) (handleZmqError e : ServerM Backend Next) := by
  have resets : Py.Within (flaky disk) (Sending P) (resetSocket : ServerM Backend Unit) :=
    within_resetSocket (fun _ => sending_callServer) fun _ => .modify fun _ _ => id
  refine .ite (.pure _) (.ite ?_ ?_)
  · exact within_exceptException (resets.bind fun _ => .pure _) fun _ => .pure _
  · exact (sending_sendErrorResponse errors _).bind fun _ => .pure _

/-- What was sent is what had been sent. -/
def Hushed (x y : ZmqOnnxClient Backend × Wire) : Prop := y.2.outgoing = x.2.outgoing

instance : IsPreorder (ZmqOnnxClient Backend × Wire) Hushed where
  refl _ := rfl
  trans _ _ _ first next := Eq.trans next first

theorem hushed_callHost (c : HostCall) :
    Py.Within (flaky disk) Hushed (callHost c : ServerM Backend c.Answer) := by
  refine .ask fun s w r w' step => ?_
  obtain ⟨store, -, rfl⟩ := step
  rfl

theorem hushed_onBackend {α : Type} (p : HostM Backend α) :
    Py.Within (flaky disk) Hushed (onBackend p) := by
  intro s w
  rw [wpc_onBackend]
  have kept : ∀ v c r v', (hostEnv (flaky disk)).step v c r v' → v.outgoing = w.outgoing →
      v'.outgoing = w.outgoing := by
    intro v c r v' step same
    obtain ⟨r, -, store, -, rfl⟩ := step
    exact same
  exact Py.wpc_mono (fun w' same => ⟨s, same⟩) (fun _ _ _ same => same)
    (Py.wpc_invariant kept p rfl)

theorem hushed_resultFor [NumPy] (tensor : NdArray) (header : Json) :
    Py.Within (flaky disk) Hushed (resultFor tensor header : ServerM Backend NdArray) := by
  have feeds (modelType : Json) (width height : Int) : Py.Within (flaky disk) Hushed
      (feedsOf tensor modelType width height : ServerM Backend Feeds) := by
    refine .ite ?_ ?_
    · exact (Py.Within.ofExcept _).bind fun _ => (Py.Within.ofExcept _).bind fun _ => .pure _
    · refine (hushed_onBackend _).bind fun names => ?_
      cases names with
      | nil => exact .throw _
      | cons name rest => exact .pure _
  have inferred : Py.Within (flaky disk) Hushed (runInference tensor header : ServerM Backend NdArray) :=
    Py.Within.get.bind fun _ => .ite (.pure _) <| within_exceptException
      ((Py.Within.ofExcept _).bind fun _ => (feeds _ _ _).bind fun _ =>
        (hushed_onBackend _).bind fun _ => (Py.Within.ofExcept _).bind fun _ =>
          (hushed_callHost _).bind fun _ => .ofExcept _) fun _ => .pure _
  exact Py.Within.get.bind fun _ => .ite inferred (.pure _)

theorem hushed_buildResponse (result : NdArray) :
    Py.Within (flaky disk) Hushed (buildResponse result : ServerM Backend (List Bytes)) :=
  within_exceptException ((hushed_callHost _).bind fun _ => .pure _) fun _ => .pure _

/-! ## The round that takes a tensor up -/

variable [NumPy]

/-- What inference makes of a tensor, on a server that has a model ready. -/
def Inferred (server : ZmqOnnxClient Backend) (store : Store) (tensor : NdArray) (header : Json)
    (d : NdArray) : Prop :=
  server.modelReady = true ∧ InferenceBackend.loaded server.backend = true ∧ ∃ server' wire,
    (runInference tensor header).Exec (flaky disk) server ⟨store, none, []⟩ (.ok d) server' wire

/-- Frames that the plugin reads as such detections, or as zeros. -/
def Honest (server : ZmqOnnxClient Backend) (store : Store) (tensor : NdArray) (header : Json)
    (frames : List Bytes) : Prop :=
  Plugin.decodeResponse frames = Plugin.zeroResult ∨
    Inferred server store tensor header (Plugin.decodeResponse frames)

variable {server : ZmqOnnxClient Backend} {store : Store}

theorem resultFor_inferred (server : ZmqOnnxClient Backend) (store : Store) (tensor : NdArray)
    (header : Json) :
    (resultFor tensor header).wpc (flaky disk) (fun _ => True)
      (fun r _ _ => ∀ d, r = .ok d → d = zeroResult ∨ Inferred server store tensor header d)
      server ⟨store, none, []⟩ := by
  rw [resultFor, Py.wpc_bind, Py.wpc_get, Py.either_ok, Py.wpc_ite]
  split
  · next ready =>
      refine Py.wpc_mono (fun _ _ => trivial) (fun r s' w' ran d same => ?_) (Py.wpc_self _ _ _)
      subst same
      exact .inr ⟨ready.1, ready.2, s', w', ran⟩
  · exact fun d same => .inl (Except.ok.inj same).symm

theorem respond_honest {tensor : NdArray} {header : Json}
    (request : contains (py "model_request") header = .ok false)
    (data : contains (py "model_data") header = .ok false) (message : List Bytes) :
    (respond message (some tensor) header).wpc (flaky disk) (fun _ => True)
      (fun r _ w' => w'.outgoing = [] ∧ ∀ frames, r = .ok frames →
        Honest server store tensor header frames) server ⟨store, none, []⟩ := by
  have asked : andAlso (!false) (Py.ofExcept (contains (py "model_data") header)) =
      (pure false : ServerM Backend Bool) := by
    rw [data]
    rfl
  rw [respond, Py.wpc_bind, request, Py.wpc_ofExcept, Py.either_ok, Py.wpc_bind, asked, Py.wpc_pure,
    Py.either_ok, if_neg Bool.false_ne_true, if_neg (by simp), Py.wpc_bind]
  have computed := Py.wpc_and (hushed_resultFor tensor header server ⟨store, none, []⟩)
    (Py.wpc_and (resultFor_inferred server store tensor header)
      (isDetections_resultFor (E := flaky disk) tensor header server ⟨store, none, []⟩))
  refine Py.wpc_mono (fun _ _ => trivial) (fun r s₁ w₁ made => ?_) computed
  obtain ⟨hushed, inferred, detections⟩ := made
  cases r with
  | error e => exact ⟨hushed, fun _ same => by cases same⟩
  | ok d =>
      rw [Py.either_ok]
      refine Py.wpc_mono (fun _ _ => trivial) (fun r s₂ w₂ built => ?_)
        (Py.wpc_and (hushed_buildResponse d s₁ w₁) (returns_buildResponse detections s₁ w₁))
      obtain ⟨hushed', read⟩ := built
      refine ⟨Eq.trans hushed' hushed, fun frames same => ?_⟩
      subst same
      rcases read with same | zero
      · rw [Honest, same]
        exact inferred d rfl
      · exact .inl zero

/-- Whatever a round sends for a tensor is read as what inference makes of it, or as zeros. -/
theorem serveOnce_honest {message : List Bytes} {tensor : NdArray} {header : Json}
    (decoded : decodeRequest message = .ok (some tensor, header))
    (request : contains (py "model_request") header = .ok false)
    (data : contains (py "model_data") header = .ok false) :
    serveOnce.wpc (flaky disk) (fun _ => True)
      (fun _ _ w' => ∀ frames ∈ w'.outgoing, Honest server store tensor header frames)
      server ⟨store, some message, []⟩ := by
  have errors (msg : PyStr) : Honest server store tensor header
      [encodeJson (errorHeader msg), zeroResult.data] := .inl (decodeResponse_error msg)
  have handled (e : PyErr) : Py.Within (flaky disk) (Sending (Honest server store tensor header))
      (if e.IsZmqError then handleZmqError e
        else if e.IsException then (do
          sendErrorResponse e.msg
          pure .again)
        else throw e : ServerM Backend Next) :=
    .ite (sending_handleZmqError errors e)
      (.ite ((sending_sendErrorResponse errors _).bind fun _ => .pure _) (.throw e))
  have served : serveMessage.wpc (flaky disk) (fun _ => True)
      (fun _ _ w' => ∀ frames ∈ w'.outgoing, Honest server store tensor header frames)
      server ⟨store, some message, []⟩ := by
    rw [serveMessage, Py.wpc_bind, recvMultipart, Py.wpc_bind, Py.wpc_get, Py.either_ok]
    cases server.socket with
    | none => exact fun _ mem => by cases mem
    | some socket =>
        rw [Py.wpc_ask]
        refine fun r w₁ step => ⟨trivial, ?_⟩
        cases r with
        | error e =>
            obtain rfl : w₁ = _ := step
            exact fun _ mem => by cases mem
        | ok frames =>
            obtain ⟨same, rfl⟩ := step
            obtain rfl : message = frames := Option.some.inj same
            rw [Py.either_ok, Py.wpc_bind, decoded, Py.wpc_ofExcept, Py.either_ok, Py.wpc_bind]
            refine Py.wpc_mono (fun _ _ => trivial) (fun r s₂ w₂ answered => ?_)
              (respond_honest request data message)
            obtain ⟨empty, honest⟩ := answered
            cases r with
            | error e =>
                rw [Py.either_error, empty]
                exact fun _ mem => by cases mem
            | ok frames =>
                rw [Py.either_ok]
                refine Py.wpc_mono (fun _ _ => trivial) (fun r s₃ w₃ sends => ?_)
                  (sending_sendMultipart (honest frames rfl) s₂ w₂)
                refine sends ?_
                rw [empty]
                exact fun _ mem => by cases mem
  rw [serveOnce, Py.wpc_catching, Py.wpc_bind]
  refine Py.wpc_mono (fun _ _ => trivial) (fun r s₁ w₁ honest => ?_) served
  cases r with
  | ok _ => exact honest
  | error e =>
      rw [Py.either_error, Py.either_error]
      exact Py.wpc_mono (fun _ _ => trivial) (fun r s₂ w₂ sends => sends honest) (handled e s₁ w₁)

end Rounds

namespace Restarts

section System

variable [NumPy]

/-! ## Replies and the rounds they come from -/

section Provenance

variable {v x : System}

theorem awaiting_moves (moves : Relation.ReflTransGen System.Move v x) : x.awaiting = v.awaiting := by
  induction moves with
  | refl => rfl
  | tail _ move before =>
      rw [← before]
      cases move with
      | serves => rfl
      | crashes => rfl
      | starts => rfl

/-- A round that took up the message of a reply and sent it, between two states. -/
def Served (v x : System) (reply : Reply) : Prop :=
  ∃ u server wire r, Relation.ReflTransGen System.Move v u ∧ Relation.ReflTransGen System.Move u x ∧
    serveOnce.Exec (flaky disk) u.server ⟨u.store, some reply.message.frames, []⟩ r server wire ∧
    reply.frames ∈ wire.outgoing

theorem Served.tail {y : System} {reply : Reply} (served : Served v x reply)
    (move : System.Move x y) : Served v y reply := by
  obtain ⟨u, server, wire, r, before, after, ran, sent⟩ := served
  exact ⟨u, server, wire, r, before, after.tail move, ran, sent⟩

/-- A reply was there before, or a round has sent it since. -/
theorem served_of_moves (moves : Relation.ReflTransGen System.Move v x) {reply : Reply}
    (member : reply ∈ x.replies) : reply ∈ v.replies ∨ Served v x reply := by
  induction moves with
  | refl => exact .inl member
  | tail before move ih =>
      cases move with
      | @serves message earlier later r server wire running waiting ran =>
          rcases List.mem_append.mp member with old | new
          · exact (ih old).imp_right fun served => served.tail (.serves running waiting ran)
          · obtain ⟨frames, sent, rfl⟩ := List.mem_map.mp new
            have sent : frames ∈ wire.outgoing :=
              List.mem_of_mem_head? (Option.mem_toList.mp sent)
            exact .inr ⟨_, server, wire, r, before, .single (.serves running waiting ran), ran, sent⟩
      | crashes cut left =>
          exact (ih (left.subset member)).imp_right fun served => served.tail (.crashes cut left)
      | starts stopped fresh =>
          exact (ih member).imp_right fun served => served.tail (.starts stopped fresh)

end Provenance

/-! ## Message numbers -/

/-- A number that was given to a message is not given to another one. -/
structure Numbered (w : System) : Prop where
  requests : ∀ m ∈ w.requests, m.number < w.count
  replies : ∀ reply ∈ w.replies, reply.message.number < w.count

section Numbers

variable {w w' : System}

theorem Numbered.move (numbered : Numbered w) (move : System.Move w w') :
    Numbered w' ∧ w'.count = w.count := by
  cases move with
  | @serves message before after r server wire running waiting ran =>
      have request : ∀ m ∈ before ++ message :: after, m.number < w.count := by
        rw [← waiting]
        exact numbered.requests
      refine ⟨⟨fun m member => request m ?_, fun reply member => ?_⟩, rfl⟩
      · rcases List.mem_append.mp member with left | right
        · exact List.mem_append_left _ left
        · exact List.mem_append_right _ (List.mem_cons_of_mem _ right)
      · rcases List.mem_append.mp member with earlier | now
        · exact numbered.replies reply earlier
        · obtain ⟨frames, -, rfl⟩ := List.mem_map.mp now
          exact request message (List.mem_append_right _ List.mem_cons_self)
  | crashes cut left =>
      exact ⟨⟨by simp, fun reply member => numbered.replies reply (left.subset member)⟩, rfl⟩
  | starts stopped fresh => exact ⟨⟨numbered.requests, numbered.replies⟩, rfl⟩

theorem Numbered.moves (numbered : Numbered w) (moves : Relation.ReflTransGen System.Move w w') :
    Numbered w' ∧ w'.count = w.count := by
  induction moves with
  | refl => exact ⟨numbered, rfl⟩
  | tail _ move before =>
      obtain ⟨numbered, count⟩ := before.1.move move
      exact ⟨numbered, count.trans before.2⟩

omit [NumPy] in
theorem Numbered.post (numbered : Numbered w) (frames : List Bytes) : Numbered (w.post frames) := by
  refine ⟨fun m member => ?_, fun reply member => ?_⟩
  · rcases List.mem_append.mp member with earlier | now
    · exact Nat.lt_succ_of_lt (numbered.requests m earlier)
    · rw [List.mem_singleton.mp now]
      exact Nat.lt_succ_self _
  · exact Nat.lt_succ_of_lt (numbered.replies reply member)

theorem Numbered.step (numbered : Numbered w) {c : Plugin.ClientCall} {r : Except PyErr c.Answer}
    (step : composed.step w c r w') : Numbered w' ∧ w.count ≤ w'.count := by
  obtain ⟨v, moves, step⟩ := step
  obtain ⟨numbered, count⟩ := numbered.moves moves
  have same (idle : w' = v) : Numbered w' ∧ w.count ≤ w'.count := by
    rw [idle]
    exact ⟨numbered, count.ge⟩
  cases c with
  | newSocket =>
      cases r with
      | error e => exact same step
      | ok socket =>
          obtain rfl : w' = { v with awaiting := none } := step
          exact ⟨⟨numbered.requests, numbered.replies⟩, count.ge⟩
  | sendMultipart socket frames =>
      cases r with
      | error e =>
          obtain rfl : w' = v.issue frames := step
          exact ⟨⟨numbered.requests, numbered.replies⟩, count.ge⟩
      | ok _ =>
          obtain rfl : w' = v.post frames := step
          exact ⟨numbered.post frames, count.ge.trans (Nat.le_succ _)⟩
  | recvMultipart socket =>
      cases r with
      | error e => exact same step
      | ok frames =>
          obtain ⟨reply, member, -, -, rfl⟩ := step
          refine ⟨⟨numbered.requests, fun other left => ?_⟩, count.ge⟩
          exact numbered.replies other (List.mem_filter.mp left).1
  | _ => exact same step

/-- The settings stay, and message numbers are given out in order. -/
def Steady (x y : Plugin.ZmqIpcDetector × System) : Prop :=
  y.1.config = x.1.config ∧ (Numbered x.2 → Numbered y.2 ∧ x.2.count ≤ y.2.count)

instance : IsPreorder (Plugin.ZmqIpcDetector × System) Steady where
  refl _ := ⟨rfl, fun numbered => ⟨numbered, le_rfl⟩⟩
  trans _ _ _ first next := by
    refine ⟨next.1.trans first.1, fun numbered => ?_⟩
    obtain ⟨numbered, count⟩ := first.2 numbered
    obtain ⟨numbered, count'⟩ := next.2 numbered
    exact ⟨numbered, count.trans count'⟩

theorem steady_call (c : Plugin.ClientCall) : Py.Within composed Steady (Plugin.call c) :=
  .ask fun _ _ _ _ step => ⟨rfl, fun numbered => numbered.step step⟩

theorem steady_modify {f : Plugin.ZmqIpcDetector → Plugin.ZmqIpcDetector}
    (kept : ∀ s, (f s).config = s.config) :
    Py.Within composed Steady (modify f : Plugin.ClientM PUnit) :=
  .modify fun s _ => ⟨kept s, fun numbered => ⟨numbered, le_rfl⟩⟩

theorem steady_createSocket : Py.Within composed Steady Plugin.createSocket := by
  have opens : Py.Within composed Steady Plugin.newSocket :=
    Py.Within.get.bind fun _ => (steady_call _).bind fun _ =>
      (steady_modify (by exact fun _ => rfl)).bind fun _ => (steady_call _).bind fun _ =>
        (steady_call _).bind fun _ => (steady_call _).bind fun _ => steady_call _
  refine Py.Within.get.bind fun self => ?_
  cases self.socket with
  | none => exact opens
  | some old =>
      exact (within_exceptException (steady_call _) fun _ => .pure ()).bind fun _ => opens

theorem steady_theSocket : Py.Within composed Steady Plugin.theSocket := by
  refine Py.Within.get.bind fun self => ?_
  cases self.socket with
  | none => exact .throw _
  | some socket => exact .pure socket

theorem steady_exchange (frames : List Bytes) (timeout : Int) :
    Py.Within composed Steady (Plugin.exchange frames timeout) :=
  steady_theSocket.bind fun _ => (steady_call _).bind fun _ => (steady_call _).bind fun _ =>
    (steady_call _).bind fun _ => Py.Within.andFinally (steady_call _) (steady_call _)

theorem steady_initializeModel : Py.Within composed Steady Plugin.initializeModel := by
  have sends : Py.Within composed Steady Plugin.sendModelData := by
    refine within_exceptException (Py.Within.get.bind fun self => (steady_call _).bind fun present =>
      .ite (.pure false) ?_) fun _ => .pure false
    refine (steady_call _).bind fun data => (steady_exchange _ _).bind fun frames => ?_
    split
    · exact (Py.Within.ofExcept _).bind fun _ => .pure _
    · exact .pure false
  have checks : Py.Within composed Steady Plugin.checkAndTransferModel := by
    refine within_exceptException (Py.Within.get.bind fun self =>
      (steady_exchange _ _).bind fun frames => ?_) fun _ => .pure false
    split
    · refine (Py.Within.ofExcept _).bind fun reply => ?_
      cases reply with
      | none => exact .pure false
      | some answer => exact .ite (.pure _) sends
    · exact .pure false
  exact within_exceptException (checks.bind fun ok => .ite
    ((steady_call _).bind fun _ => steady_modify (by exact fun _ => rfl)) (steady_call _))
      fun _ => steady_call _

theorem steady_construct : Py.Within composed Steady Plugin.construct :=
  steady_createSocket.bind fun _ => (steady_modify (by exact fun _ => rfl)).bind fun _ =>
    steady_initializeModel.bind fun _ => (steady_call _).bind fun _ =>
      steady_modify (by exact fun _ => rfl)

theorem steady_ensureReady : Py.Within composed Steady Plugin.ensureReady :=
  Py.Within.get.bind fun _ => .ite (.pure true) <| (steady_call _).bind fun _ => .ite
    ((steady_modify (by exact fun _ => rfl)).bind fun _ => steady_createSocket.bind fun _ =>
      steady_initializeModel.bind fun _ => Py.Within.get.bind fun _ => .pure _) (.pure false)

theorem steady_recover : Py.Within composed Steady Plugin.recover :=
  (within_exceptException (steady_createSocket.bind fun _ => steady_initializeModel)
    fun _ => .pure ()).bind fun _ => .pure _

theorem steady_detectRaw (tensor : NdArray) :
    Py.Within composed Steady (Plugin.detectRaw tensor) := by
  have requests : Py.Within composed Steady (Plugin.request tensor) :=
    Py.Within.get.bind fun _ => steady_theSocket.bind fun _ => (steady_call _).bind fun _ =>
      (steady_call _).bind fun _ => .pure _
  exact steady_ensureReady.bind fun _ => .ite (.pure _) <| requests.catching fun _ =>
    .ite steady_recover (.ite (.pure _) (.throw _))

end Numbers

theorem Run.numbered {config : Plugin.Config} {s : Plugin.ZmqIpcDetector} {w : System}
    (run : Run config s w) : s.config = config ∧ Numbered w := by
  induction run with
  | constructed started ran =>
      obtain ⟨requests, replies, -, -⟩ := started.empty
      obtain ⟨settings, numbered⟩ := Py.wpc_exec (steady_construct _ _) ran
      exact ⟨settings, (numbered ⟨by simp [requests], by simp [replies]⟩).1⟩
  | detected tensor _ ran before =>
      obtain ⟨settings, numbered⟩ := Py.wpc_exec (steady_detectRaw tensor _ _) ran
      exact ⟨settings.trans before.1, (numbered before.2).1⟩

/-! ## The detections -/

/-- The message that a tensor is sent in. -/
def tensorFrames (tensor : NdArray) (modelType : PyStr) : List Bytes :=
  [encodeJson (Plugin.tensorHeader tensor modelType), tensor.data]

/-- The header that the server reads in it. -/
def headerRead (tensor : NdArray) (modelType : PyStr) : Json :=
  .obj (arrayHeader tensor [(py "model_type", .str (joinSurrogates modelType))])

/-- Inference made them of the tensor while the plugin waited for the reply to a message with at
least this number, and what came back is the reply that is taken up last. -/
def Returned (first : Nat) (tensor : NdArray) (modelType : PyStr) (d : NdArray) (w' : System) : Prop :=
  ∃ number u x reply, first ≤ number ∧
    reply.message = ⟨number, tensorFrames tensor modelType⟩ ∧ u.awaiting = some reply.message ∧
    Relation.ReflTransGen System.Move u x ∧ reply ∈ x.replies ∧ w' = x.receive reply ∧
    Inferred u.server u.store tensor (headerRead tensor modelType) d

section Detections

variable {a : Strided} {s : Plugin.ZmqIpcDetector} {w : System}

theorem request_returned (number : IsNumber a.dtype) (nonempty : a.shape.prod ≠ 0)
    (numbered : Numbered w) :
    (Plugin.request a.array).wpc composed (fun _ => True) (fun r _ w' => ∀ d, r = .ok d →
      d = Plugin.zeroResult ∨ Returned w.count a.array s.config.modelType d w') s w := by
  rw [Plugin.request, Py.wpc_bind, Py.wpc_get, Py.either_ok, Py.wpc_bind, Plugin.theSocket,
    Py.wpc_bind, Py.wpc_get, Py.either_ok]
  cases s.socket with
  | none => exact fun _ same => by cases same
  | some socket =>
      rw [Py.wpc_pure, Py.either_ok, Py.wpc_bind, Py.wpc_ask]
      refine fun r w₁ step => ⟨trivial, ?_⟩
      obtain ⟨v, moves, step⟩ := step
      obtain ⟨numbered, count⟩ := numbered.moves moves
      cases r with
      | error e => exact fun _ same => by cases same
      | ok _ =>
          obtain rfl : w₁ = v.post (tensorFrames a.array s.config.modelType) := step
          rw [Py.either_ok, Py.wpc_bind, Py.wpc_ask]
          refine fun r w₂ step => ⟨trivial, ?_⟩
          obtain ⟨x, moves, step⟩ := step
          cases r with
          | error e => exact fun _ same => by cases same
          | ok frames =>
              obtain ⟨reply, member, waits, rfl, rfl⟩ := step
              rw [awaiting_moves moves] at waits
              have message := Option.some.inj waits
              intro d same
              obtain rfl := Except.ok.inj same
              rcases served_of_moves moves member with old | served
              · -- Replies that were there before have smaller numbers.
                have smaller := numbered.replies reply old
                rw [← message] at smaller
                exact absurd smaller (Nat.lt_irrefl _)
              · obtain ⟨u, server, wire, r, before, after, ran, sent⟩ := served
                rw [← message] at ran
                obtain ⟨request, data⟩ := contains_tensorHeader a.array
                  (.str (joinSurrogates s.config.modelType))
                have honest := Py.wpc_exec (serveOnce_honest
                  (decodeRequest_tensor a number nonempty s.config.modelType) request data) ran
                rcases honest reply.frames sent with zero | inferred
                · exact .inl zero
                · refine .inr ⟨v.count, u, x, reply, count.ge, message.symm, ?_, after, member, rfl,
                    inferred⟩
                  rw [awaiting_moves before]
                  exact waits

theorem detectRaw_returned (number : IsNumber a.dtype) (nonempty : a.shape.prod ≠ 0)
    (numbered : Numbered w) :
    (Plugin.detectRaw a.array).wpc composed (fun _ => True) (fun r _ w' => ∀ d, r = .ok d →
      d = Plugin.zeroResult ∨ Returned w.count a.array s.config.modelType d w') s w := by
  have zeros {p : Plugin.ClientM NdArray} {s₁ : Plugin.ZmqIpcDetector} {w₁ : System}
      (zero : Py.Returns composed (· = Plugin.zeroResult) p) :
      p.wpc composed (fun _ => True) (fun r _ w' => ∀ d, r = .ok d →
        d = Plugin.zeroResult ∨ Returned w.count a.array s.config.modelType d w') s₁ w₁ := by
    refine Py.wpc_mono (fun _ _ => trivial) (fun r s' w' same d made => ?_) (zero s₁ w₁)
    subst made
    exact .inl same
  rw [Plugin.detectRaw, Py.wpc_bind]
  refine Py.wpc_mono (fun _ _ => trivial) (fun r s₁ w₁ steady => ?_) (steady_ensureReady s w)
  obtain ⟨settings, numbers⟩ := steady
  obtain ⟨numbered, count⟩ := numbers numbered
  cases r with
  | error e => exact fun _ same => by cases same
  | ok ready =>
      rw [Py.either_ok, Py.wpc_ite]
      split
      · exact zeros (.pure rfl)
      · rw [Py.wpc_catching]
        refine Py.wpc_mono (fun _ _ => trivial) (fun r s₂ w₂ returned => ?_)
          (request_returned (s := s₁) number nonempty numbered)
        cases r with
        | ok d =>
            intro d' same
            rcases returned d' same with zero | made
            · exact .inl zero
            · obtain ⟨n, u, x, reply, later, rest⟩ := made
              rw [settings] at rest
              exact .inr ⟨n, u, x, reply, count.trans later, rest⟩
        | error e =>
            rw [Py.either_error, Py.wpc_ite]
            split
            · exact zeros ((Py.Returns.any _).bind fun _ _ => .pure rfl)
            · rw [Py.wpc_ite]
              split
              · exact zeros (.pure rfl)
              · exact fun _ same => by cases same

/-- In every run of both programs, with any crashes and restarts of the server: detections that are
not all zeros are what inference made of this tensor, under a header that describes it, on a server
that had a model ready, while the plugin waited for the reply to a message of this very call. -/
theorem detections_inferred {config : Plugin.Config} {d : NdArray} {s' : Plugin.ZmqIpcDetector}
    {w' : System} (number : IsNumber a.dtype) (nonempty : a.shape.prod ≠ 0) (run : Run config s w)
    (ran : (Plugin.detectRaw a.array).Exec composed s w (.ok d) s' w') :
    d = Plugin.zeroResult ∨ Returned w.count a.array config.modelType d w' := by
  obtain ⟨rfl, numbered⟩ := run.numbered
  exact Py.wpc_exec (detectRaw_returned number nonempty numbered) ran d rfl

end Detections

end System

/-! ## A tensor in which something is found -/

section Script

attribute [local instance] NumPy.reference

/-- The server's calls on a disk in order, where inference finds something. -/
def see (w : Wire) : (c : ServerCall) → Except PyErr c.Answer
  | .host (.ortRun _ _) => .ok []
  | .host (.postProcess _ _) => .ok ⟨List.replicate 480 1, List.length_replicate⟩
  | c => serve w c

theorem step_see (w : Wire) (c : ServerCall) :
    (flaky disk).step w c (see w c) (healthy.noteWire w c (see w c)) := by
  cases c with
  | host c =>
      cases c with
      | ortRun session feeds => exact ⟨_, ⟨fun _ _ => rfl, fun _ _ => rfl, trivial, rfl⟩, rfl⟩
      | postProcess kind outputs => exact ⟨_, ⟨fun _ _ => rfl, fun _ _ => rfl, trivial, rfl⟩, rfl⟩
      | _ => exact step_serve w _
  | _ => exact step_serve w _

namespace System

/-- The oldest message is taken up. -/
def seen (w : System) : System :=
  match w.running, w.requests with
  | true, message :: rest =>
    let round := serveOnce.answering healthy.noteWire see w.server ⟨w.store, some message.frames, []⟩
    w.taken message rest round.1.1 round.1.2 round.2
  | _, _ => w

theorem moves_seen (w : System) : Relation.ReflTransGen Move w w.seen := by
  rw [seen]
  split
  · next message rest running waiting =>
      have ran := Py.exec_answering step_see serveOnce w.server ⟨w.store, some message.frames, []⟩ rfl
      have waiting : w.requests = [] ++ message :: rest := waiting
      exact .single (.serves running waiting ran)
  · exact .refl

/-- The server takes up each message while the plugin waits. -/
def look (w : System) : (c : Plugin.ClientCall) → Except PyErr c.Answer × System
  | .recvMultipart _ =>
    match w.seen.replies.find? fun reply => w.seen.awaiting = some reply.message with
    | some reply => (.ok reply.frames, w.seen.receive reply)
    | none => (.error Plugin.zmqAgain, w.seen)
  | c => w.play false c

theorem step_look (w : System) (c : Plugin.ClientCall) :
    composed.step w c (w.look c).1 (w.look c).2 := by
  cases c with
  | recvMultipart socket =>
      refine ⟨w.seen, w.moves_seen, ?_⟩
      rw [look]
      split
      · next reply found =>
          have waits : w.seen.awaiting = some reply.message := by simpa using List.find?_some found
          exact ⟨reply, List.mem_of_find?_eq_some found, waits, rfl, rfl⟩
      · exact rfl
  | _ => exact step_play false w _

end System

def flippedArray : NdArray := flipped.array

@[nospecialize] def detectFlipped [NumPy] (self : Plugin.ZmqIpcDetector) :
    Prog Plugin.Client (Except PyErr NdArray × Plugin.ZmqIpcDetector) :=
  Plugin.detectRaw flippedArray self

/-- The tensor, after some other call. -/
def looked {α : Type} (x : Outcome α) : Outcome NdArray := (detectFlipped x.1.2).run System.look x.2

theorem exec_looked {α : Type} (x : Outcome α) :
    (Plugin.detectRaw flippedArray).Exec composed x.1.2 x.2 (looked x).1.1 (looked x).1.2
      (looked x).2 :=
  Py.exec_run System.step_look (Plugin.detectRaw flippedArray) x.1.2 x.2 rfl

/-- Rows of ones come back for a tensor, and inference made them of it. -/
theorem detections_inferred_flipped : ∃ d, d.data = List.replicate 480 1 ∧
    Returned constructed.2.count flippedArray Plugin.exampleConfig.modelType d
      (looked constructed).2 := by
  have found : (looked constructed).1.1.toOption.map NdArray.data = some (List.replicate 480 1) := by
    decide +kernel
  have ran := exec_looked constructed
  generalize (looked constructed).1.1 = r at ran found
  cases r with
  | error e => cases found
  | ok d =>
      have found := Option.some.inj found
      have returned := detections_inferred (a := flipped) (.inl (by decide)) (by decide)
        run_constructed ran
      refine ⟨d, found, returned.resolve_left fun zero => ?_⟩
      rw [zero] at found
      exact absurd found (by decide)

end Script

end Restarts

end Detector
