import FrigateAsahi.ClientContract
import FrigateAsahi.Lib.JsonRoundTrip

/-!
# When the plugin sends tensors

An observer of the plugin's messages keeps the outcomes of the handshakes. A handshake begins with
the message that asks for the model, and it succeeds when a reply says that the model is there, or
has been saved, and is loaded, and the plugin has put the timeout of its socket back. So the outcome
is told by what was sent and received, not by what the plugin makes of it. The flag `modelReady` is
raised by a handshake that succeeds and is never lowered. `run_upToDate` says what follows for whole
runs: as long as no handshake fails after one has succeeded, the flag is the outcome of the latest
handshake and every tensor is sent after a handshake that succeeded.
-/

namespace Plugin

open Text Python Numpy Interaction

/-! ## Telling messages apart -/

/-- The members of the header of a message. -/
def headerFields (header : Bytes) : Option (List (PyStr × Json)) :=
  match decodeJson .none header with
  | .ok (.obj fields) => some fields
  | _ => none

def hasField (key : String) (header : Bytes) : Bool :=
  (headerFields header).any fun fields => (lookup (py key) fields).isSome

/-- A message that a server takes for a tensor: two frames, and a header that asks for neither of
the model operations. -/
def isTensorRequest : List Bytes → Bool
  | header :: _ :: _ =>
    (headerFields header).isSome && !hasField "model_request" header &&
      !hasField "model_data" header
  | _ => false

/-- The message that begins a handshake. -/
def opensHandshake : List Bytes → Bool
  | header :: _ => hasField "model_request" header
  | _ => false

/-- The message that goes on with the file. -/
def carriesModel : List Bytes → Bool
  | header :: _ :: _ => hasField "model_data" header
  | _ => false

theorem headerFields_encodeJson {fields : List (PyStr × Json)}
    (keys : ((normMembers fields).map Prod.fst).Nodup) :
    headerFields (encodeJson (.obj fields)) = some (normMembers fields) := by
  rw [headerFields, decodeJson_encodeJson_obj (within_none 0 _) keys]

theorem headerFields_requestHeader (modelName : PyStr) :
    headerFields (encodeJson (requestHeader modelName)) =
      some [(py "model_request", .bool true), (py "model_name", .str (joinSurrogates modelName))] := by
  have keys : [joinSurrogates (py "model_request"), joinSurrogates (py "model_name")].Nodup := by
    decide +kernel
  exact headerFields_encodeJson keys

theorem headerFields_dataHeader (modelName : PyStr) :
    headerFields (encodeJson (dataHeader modelName)) =
      some [(py "model_data", .bool true), (py "model_name", .str (joinSurrogates modelName))] := by
  have keys : [joinSurrogates (py "model_data"), joinSurrogates (py "model_name")].Nodup := by
    decide +kernel
  exact headerFields_encodeJson keys

theorem headerFields_tensorHeader (tensor : NdArray) (modelType : PyStr) :
    ∃ shape dtype modelType', headerFields (encodeJson (tensorHeader tensor modelType)) =
      some [(py "shape", shape), (py "dtype", dtype), (py "model_type", modelType')] := by
  have keys : [joinSurrogates (py "shape"), joinSurrogates (py "dtype"),
      joinSurrogates (py "model_type")].Nodup := by
    decide +kernel
  exact ⟨_, _, _, headerFields_encodeJson keys⟩

theorem isTensorRequest_dataHeader (modelName : PyStr) (data : Bytes) :
    isTensorRequest [encodeJson (dataHeader modelName), data] = false := by
  rw [isTensorRequest, hasField, hasField, headerFields_dataHeader]
  rfl

theorem isTensorRequest_tensorHeader (tensor : NdArray) (modelType : PyStr) (payload : Bytes) :
    isTensorRequest [encodeJson (tensorHeader tensor modelType), payload] = true := by
  obtain ⟨shape, dtype, modelType', header⟩ := headerFields_tensorHeader tensor modelType
  rw [isTensorRequest, hasField, hasField, header]
  rfl

theorem opensHandshake_requestHeader (modelName : PyStr) :
    opensHandshake [encodeJson (requestHeader modelName)] = true := by
  rw [opensHandshake, hasField, headerFields_requestHeader]
  rfl

theorem opensHandshake_dataHeader (modelName : PyStr) (data : Bytes) :
    opensHandshake [encodeJson (dataHeader modelName), data] = false := by
  rw [opensHandshake, hasField, headerFields_dataHeader]
  rfl

theorem carriesModel_dataHeader (modelName : PyStr) (data : Bytes) :
    carriesModel [encodeJson (dataHeader modelName), data] = true := by
  rw [carriesModel, hasField, headerFields_dataHeader]
  rfl

theorem tensorHeader_other (tensor : NdArray) (modelType : PyStr) (payload : Bytes) :
    opensHandshake [encodeJson (tensorHeader tensor modelType), payload] = false ∧
      carriesModel [encodeJson (tensorHeader tensor modelType), payload] = false := by
  obtain ⟨shape, dtype, modelType', header⟩ := headerFields_tensorHeader tensor modelType
  rw [opensHandshake, carriesModel, hasField, hasField, header]
  exact ⟨rfl, rfl⟩

/-! ## The observer of a run -/

structure Handshakes : Type where
  /-- How the handshakes ended, the latest first. -/
  outcomes : List Bool
  /-- The field that the next reply has to confirm. -/
  awaiting : Option String
  /-- A reply has confirmed it, and the timeout is still to be put back. -/
  granted : Bool
  /-- A tensor was sent while the latest handshake had not succeeded. -/
  stale : Bool
  deriving DecidableEq

def Handshakes.start : Handshakes := ⟨[], none, false, false⟩

/-- No handshake failed after one had succeeded. -/
def Undropped (outcomes : List Bool) : Prop :=
  outcomes.Pairwise fun later earlier => earlier = true → later = true

instance (outcomes : List Bool) : Decidable (Undropped outcomes) :=
  inferInstanceAs (Decidable (outcomes.Pairwise _))

section Interpreted

variable [Interpreter]

/-- The reply that a handshake waits for: one frame with an object in it, which says of the model
that it is there, or has been saved, and that it is loaded. -/
def grants (field : String) : List Bytes → Bool
  | [frame] =>
    match jsonLoads frame with
    | .ok (.obj fields) => (getD fields field (.bool false)).truthy &&
        (getD fields "model_loaded" (.bool false)).truthy
    | _ => false
  | _ => false

/-- A handshake counts as failed from its first message on, until it has succeeded. -/
def Handshakes.note (w : Handshakes) (c : ClientCall) (r : Except PyErr c.Answer) : Handshakes :=
  match c, r with
  | .sendMultipart _ frames, _ =>
    if opensHandshake frames then
      { w with outcomes := false :: w.outcomes, awaiting := some "model_available", granted := false }
    else if carriesModel frames then { w with awaiting := some "model_saved", granted := false }
    else if isTensorRequest frames then
      { w with
        awaiting := none
        granted := false
        stale := w.stale || w.outcomes.head? != some true }
    else w
  | .recvMultipart _, .ok frames => { w with granted := w.awaiting.any fun field => grants field frames }
  | .setsockopt _ _, .ok _ =>
    if w.granted then { w with outcomes := true :: w.outcomes.tail, granted := false } else w
  | .setsockopt _ _, .error _ => { w with granted := false }
  | _, _ => w

/-- Anything may be answered. -/
def handshaking : Env Client Handshakes := .noting (fun _ c r => Steady c r) Handshakes.note

theorem handshaking_tame : TameEnv handshaking := by
  rintro w c r w' ⟨steady, -⟩ e rfl
  cases c <;> first | exact steady | simp [Steady] at steady

/-! ## Methods that touch neither the flag nor the notes -/

/-- Outside of a handshake, the flag and the notes are as they were, and a socket stays in place. -/
def SameReady (x y : ZmqIpcDetector × Handshakes) : Prop :=
  x.2.granted = false →
    y.2 = x.2 ∧ y.1.modelReady = x.1.modelReady ∧ (x.1.socket.isSome → y.1.socket.isSome)

instance : IsPreorder (ZmqIpcDetector × Handshakes) SameReady where
  refl _ := fun _ => ⟨rfl, rfl, id⟩
  trans x y z first next := by
    intro idle
    obtain ⟨notes, ready, placed⟩ := first idle
    obtain ⟨notes', ready', placed'⟩ := next (by rw [notes, idle])
    exact ⟨notes'.trans notes, ready'.trans ready, placed' ∘ placed⟩

/-- A call that neither sends nor receives. -/
def isQuiet : ClientCall → Bool
  | .sendMultipart _ _ | .recvMultipart _ => false
  | _ => true

/-- Outside of a handshake, the observer learns nothing from such a call. -/
theorem note_quiet {w : Handshakes} (idle : w.granted = false) {c : ClientCall}
    (quiet : isQuiet c = true) (r : Except PyErr c.Answer) : w.note c r = w := by
  obtain ⟨outcomes, awaiting, granted, stale⟩ := w
  obtain rfl : granted = false := idle
  cases c with
  | sendMultipart => cases quiet
  | recvMultipart => cases quiet
  | setsockopt => cases r <;> rfl
  | _ => rfl

theorem quiet_call {c : ClientCall} (quiet : isQuiet c = true) :
    Py.Within handshaking SameReady (call c) := by
  refine Py.Within.ask fun s w r w' step => ?_
  obtain ⟨-, rfl⟩ := step
  exact fun idle => ⟨note_quiet idle quiet r, rfl, id⟩

theorem quiet_newSocket : Py.Within handshaking SameReady newSocket := by
  have placed (socket : Nat) : Py.Within handshaking SameReady
      (modify fun self : ZmqIpcDetector => { self with socket := some socket } : ClientM PUnit) :=
    fun _ _ _ => ⟨rfl, rfl, fun _ => rfl⟩
  exact Py.Within.get.bind fun _ => (quiet_call rfl).bind fun socket => (placed socket).bind
    fun _ => (quiet_call rfl).bind fun _ => (quiet_call rfl).bind fun _ => (quiet_call rfl).bind
      fun _ => quiet_call rfl

theorem quiet_createSocket : Py.Within handshaking SameReady createSocket := by
  refine Py.Within.get.bind fun self => ?_
  cases self.socket with
  | none => exact quiet_newSocket
  | some old =>
      exact (within_exceptException (quiet_call rfl) fun _ => Py.Within.pure ()).bind fun _ =>
        quiet_newSocket

/-- A socket that was made is in place. -/
theorem newSocket_places (s : ZmqIpcDetector) {w : Handshakes} (idle : w.granted = false) :
    newSocket.wpc handshaking (fun _ => True) (fun r s' _ => r = .ok () → s'.socket.isSome) s w := by
  rw [newSocket, Py.wpc_bind, Py.wpc_get, Py.either_ok, Py.wpc_bind, Py.wpc_ask]
  rintro r w' ⟨-, rfl⟩
  refine ⟨trivial, ?_⟩
  cases r with
  | error e => exact nofun
  | ok socket =>
      rw [Py.either_ok, Py.wpc_bind, Py.wpc_modify, Py.either_ok]
      have rest : Py.Within handshaking SameReady (do
          call (.setsockopt socket (.rcvtimeo s.config.requestTimeoutMs))
          call (.setsockopt socket (.sndtimeo s.config.requestTimeoutMs))
          call (.setsockopt socket (.linger s.config.lingerMs))
          call (.connect socket s.config.endpoint)) :=
        (quiet_call rfl).bind fun _ => (quiet_call rfl).bind fun _ => (quiet_call rfl).bind
          fun _ => quiet_call rfl
      refine Py.wpc_mono (fun _ _ => trivial) (fun r s' w' same _ => ?_)
        (rest { s with socket := some socket } _)
      exact (same idle).2.2 rfl

theorem createSocket_places (s : ZmqIpcDetector) {w : Handshakes} (idle : w.granted = false) :
    createSocket.wpc handshaking (fun _ => True) (fun r s' w' =>
      (r = .ok () → s'.socket.isSome) ∧ w' = w ∧ s'.modelReady = s.modelReady) s w := by
  have places : createSocket.wpc handshaking (fun _ => True)
      (fun r s' _ => r = .ok () → s'.socket.isSome) s w := by
    rw [createSocket, Py.wpc_bind, Py.wpc_get, Py.either_ok]
    cases s.socket with
    | none => exact newSocket_places s idle
    | some old =>
        rw [Py.wpc_bind]
        refine Py.wpc_mono (fun _ _ => trivial) (fun r s' w' same => ?_)
          ((within_exceptException (quiet_call rfl) fun _ => Py.Within.pure ()) s w)
        cases r with
        | error e => exact nofun
        | ok _ =>
            have notes : w' = w := (same idle).1
            exact newSocket_places s' (by rw [notes, idle])
  refine Py.wpc_mono (fun _ _ => trivial) (fun r s' w' both => ?_)
    (Py.wpc_and places (quiet_createSocket s w))
  obtain ⟨placed, same⟩ := both
  exact ⟨placed, (same idle).1, (same idle).2.1⟩

/-! ## A handshake -/

/-- What the observer makes of the end of an exchange. -/
def confirmed (field : String) : Except PyErr (List Bytes) → Bool
  | .ok frames => grants field frames
  | .error _ => false

/-- An exchange after whose message the observer waits for a field: the reply tells the outcome of
the handshake. -/
theorem exchange_noted {frames : List Bytes} {timeout : Int} {field : String} {rest : List Bool}
    {s : ZmqIpcDetector} {w w₁ : Handshakes} (socket : s.socket.isSome)
    (sends : ∀ k r, w.note (.sendMultipart k frames) r = w₁) (awaiting : w₁.awaiting = some field)
    (idle : w₁.granted = false) (begun : w₁.outcomes = false :: rest) :
    (exchange frames timeout).wpc handshaking (fun _ => True) (fun r s' w' => s' = s ∧
      w' = { w₁ with outcomes := confirmed field r :: rest }) s w := by
  obtain ⟨k, socket⟩ := Option.isSome_iff_exists.mp socket
  have failed : w₁ = { w₁ with outcomes := false :: rest } := by rw [← begun]
  rw [exchange, Py.wpc_bind, theSocket, Py.wpc_bind, Py.wpc_get, Py.either_ok, socket, Py.wpc_pure,
    Py.either_ok, Py.wpc_bind, Py.wpc_ask]
  rintro r w₂ ⟨-, noted⟩
  rw [sends] at noted
  subst w₂
  refine ⟨trivial, ?_⟩
  cases r with
  | error e => exact ⟨rfl, failed⟩
  | ok _ =>
      rw [Py.either_ok, Py.wpc_bind, Py.wpc_ask]
      rintro r w₂ ⟨-, noted⟩
      rw [note_quiet idle rfl] at noted
      subst w₂
      refine ⟨trivial, ?_⟩
      cases r with
      | error e => exact ⟨rfl, failed⟩
      | ok original =>
          rw [Py.either_ok, Py.wpc_bind, Py.wpc_ask]
          rintro r w₂ ⟨-, noted⟩
          rw [note_quiet idle rfl] at noted
          subst w₂
          refine ⟨trivial, ?_⟩
          cases r with
          | error e => exact ⟨rfl, failed⟩
          | ok _ =>
              rw [Py.either_ok, Py.wpc_andFinally, Py.wpc_ask]
              rintro r _ ⟨-, rfl⟩
              refine ⟨trivial, ?_⟩
              rw [Py.wpc_ask]
              rintro r' _ ⟨-, rfl⟩
              refine ⟨trivial, ?_⟩
              cases r with
              | error e =>
                  have same : w₁.note (.recvMultipart k) (.error e) = w₁ := rfl
                  rw [same, note_quiet idle rfl]
                  cases r' with
                  | ok _ => exact ⟨rfl, failed⟩
                  | error e' => exact ⟨rfl, failed⟩
              | ok reply =>
                  -- The reply counts once the timeout has been put back.
                  have noted : w₁.note (.recvMultipart k) (.ok reply) =
                      { w₁ with granted := grants field reply } := by
                    simp [Handshakes.note, awaiting]
                  rw [noted]
                  cases r' with
                  | ok _ =>
                      refine ⟨rfl, ?_⟩
                      cases grant : grants field reply with
                      | true => simp [Handshakes.note, confirmed, grant, begun, idle]
                      | false =>
                          rw [← idle, note_quiet idle rfl]
                          simpa [confirmed, grant] using failed
                  | error e' =>
                      refine ⟨rfl, ?_⟩
                      simpa [Handshakes.note, confirmed, idle] using begun

/-- What the plugin reads in a reply agrees with what the observer does. -/
theorem readReply_grants (field : String) (frame : Bytes) :
    (∃ first loaded, readReply field "model_loaded" frame = .ok (some (first, loaded)) ∧
      grants field [frame] = (first && loaded)) ∨
    ((readReply field "model_loaded" frame = .ok none ∨
        ∃ e, readReply field "model_loaded" frame = .error e ∧ e.IsException) ∧
      grants field [frame] = false) := by
  cases decoded : decodeJson Interpreter.limits frame with
  | error e =>
      have refused : jsonLoads frame = .error (decodeErr e) := by
        rw [jsonLoads, decoded]
        rfl
      rw [grants, refused, readReply, decoded]
      refine .inr ⟨?_, rfl⟩
      cases e with
      | json => exact .inl rfl
      | unicode => exact .inr ⟨_, rfl, isException_decodeErr _⟩
      | limit => exact .inr ⟨_, rfl, isException_decodeErr _⟩
  | ok response =>
      have read : jsonLoads frame = .ok response := by
        rw [jsonLoads, decoded]
        rfl
      rw [grants, read, readReply, decoded]
      cases response with
      | obj fields => exact .inl ⟨_, _, rfl, rfl⟩
      | _ => exact .inr ⟨.inr ⟨_, rfl, isException_exception _⟩, rfl⟩

theorem grants_of_ne {field : String} {frames : List Bytes} (other : ∀ frame, frames ≠ [frame]) :
    grants field frames = false := by
  match frames, other with
  | [], _ => rfl
  | [frame], other => exact absurd rfl (other frame)
  | _ :: _ :: _, _ => rfl

/-- The state in which a handshake leaves the notes. -/
def Settled (w : Handshakes) (earlier : List Bool) (stale : Bool) (outcome : Bool) : Prop :=
  w.outcomes = outcome :: earlier ∧ w.stale = stale ∧ w.granted = false

theorem sendModelData_noted {earlier : List Bool} {s : ZmqIpcDetector} {w : Handshakes}
    (socket : s.socket.isSome) (failing : Settled w earlier w.stale false) :
    sendModelData.wpc handshaking (fun _ => True) (fun r s' w' => s' = s ∧
      ∃ outcome, r = .ok outcome ∧ Settled w' earlier w.stale outcome) s w := by
  obtain ⟨begun, -, idle⟩ := failing
  have unsettled : Settled w earlier w.stale false := ⟨begun, rfl, idle⟩
  rw [sendModelData, wpc_exceptException, Py.wpc_bind, Py.wpc_get, Py.either_ok, Py.wpc_bind,
    Py.wpc_ask]
  rintro r w₁ ⟨steady, noted⟩
  rw [note_quiet idle rfl] at noted
  subst w₁
  refine ⟨trivial, ?_⟩
  cases r with
  | error e =>
      have caught : e.IsException := steady
      rw [Py.either_error, Py.either_error, if_pos caught]
      exact ⟨rfl, false, rfl, unsettled⟩
  | ok present =>
      rw [Py.either_ok, Py.wpc_ite]
      split
      · exact ⟨rfl, false, rfl, unsettled⟩
      · rw [Py.wpc_bind, Py.wpc_ask]
        rintro r w₁ ⟨steady, noted⟩
        rw [note_quiet idle rfl] at noted
        subst w₁
        refine ⟨trivial, ?_⟩
        cases r with
        | error e =>
            have caught : e.IsException := steady
            rw [Py.either_error, Py.either_error, if_pos caught]
            exact ⟨rfl, false, rfl, unsettled⟩
        | ok data =>
            have sends : ∀ k r, w.note (.sendMultipart k [encodeJson (dataHeader s.modelName), data]) r =
                { w with awaiting := some "model_saved", granted := false } := by
              intro k r
              simp [Handshakes.note, opensHandshake_dataHeader, carriesModel_dataHeader]
            rw [Py.either_ok, Py.wpc_bind]
            refine Py.wpc_mono (fun _ _ => trivial) (fun r s' w' noted => ?_)
              (Py.wpc_and (tame_exchange handshaking_tame _ _ s w)
                (exchange_noted socket sends rfl rfl begun))
            obtain ⟨tame, rfl, rfl⟩ := noted
            have settled (outcome : Bool) (same : confirmed "model_saved" r = outcome) :
                Settled { w with
                  awaiting := some "model_saved"
                  granted := false
                  outcomes := confirmed "model_saved" r :: earlier } earlier w.stale outcome :=
              ⟨by rw [same], rfl, rfl⟩
            cases r with
            | error e =>
                have caught : e.IsException := tame
                rw [Py.either_error, Py.either_error, if_pos caught]
                exact ⟨rfl, false, rfl, settled false rfl⟩
            | ok frames =>
                rw [Py.either_ok]
                split
                · next frame =>
                    rw [Py.wpc_bind, Py.wpc_ofExcept]
                    rcases readReply_grants "model_saved" frame with
                      ⟨saved, loaded, read, granted⟩ | ⟨none' | ⟨e, error, caught⟩, refused⟩
                    · rw [read]
                      exact ⟨rfl, _, rfl, settled _ granted⟩
                    · rw [none']
                      exact ⟨rfl, false, rfl, settled false refused⟩
                    · rw [error, Py.either_error, Py.either_error, if_pos caught]
                      exact ⟨rfl, false, rfl, settled false refused⟩
                · next other =>
                    exact ⟨rfl, false, rfl, settled false (grants_of_ne other)⟩

theorem checkAndTransferModel_noted {s : ZmqIpcDetector} {w : Handshakes}
    (socket : s.socket.isSome) :
    checkAndTransferModel.wpc handshaking (fun _ => True) (fun r s' w' => s' = s ∧
      ∃ outcome, r = .ok outcome ∧ Settled w' w.outcomes w.stale outcome) s w := by
  have sends : ∀ k r, w.note (.sendMultipart k [encodeJson (requestHeader s.modelName)]) r =
      { w with
        outcomes := false :: w.outcomes
        awaiting := some "model_available"
        granted := false } := by
    intro k r
    simp [Handshakes.note, opensHandshake_requestHeader]
  rw [checkAndTransferModel, wpc_exceptException, Py.wpc_bind, Py.wpc_get, Py.either_ok,
    Py.wpc_bind]
  refine Py.wpc_mono (fun _ _ => trivial) (fun r s' w' noted => ?_)
    (Py.wpc_and (tame_exchange handshaking_tame _ _ s w) (exchange_noted socket sends rfl rfl rfl))
  obtain ⟨tame, rfl, rfl⟩ := noted
  have settled (outcome : Bool) (same : confirmed "model_available" r = outcome) :
      Settled { w with
        awaiting := some "model_available"
        granted := false
        outcomes := confirmed "model_available" r :: w.outcomes } w.outcomes w.stale outcome :=
    ⟨by rw [same], rfl, rfl⟩
  cases r with
  | error e =>
      have caught : e.IsException := tame
      rw [Py.either_error, Py.either_error, if_pos caught]
      exact ⟨rfl, false, rfl, settled false rfl⟩
  | ok frames =>
      rw [Py.either_ok]
      split
      · next frame =>
          rw [Py.wpc_bind, Py.wpc_ofExcept]
          rcases readReply_grants "model_available" frame with
            ⟨available, loaded, read, granted⟩ | ⟨none' | ⟨e, error, caught⟩, refused⟩
          · rw [read, Py.either_ok]
            dsimp only
            rw [Py.wpc_ite]
            split
            · next there =>
                rw [there, Bool.true_and] at granted
                exact ⟨rfl, loaded, rfl, settled loaded granted⟩
            · next missing =>
                -- Nothing is confirmed yet, and the handshake goes on with the file.
                rw [Bool.not_eq_true] at missing
                rw [missing, Bool.false_and] at granted
                refine Py.wpc_mono (fun _ _ => trivial) (fun r s'' w'' sent => ?_)
                  (sendModelData_noted socket (settled false granted))
                obtain ⟨rfl, outcome, rfl, ended⟩ := sent
                exact ⟨rfl, outcome, rfl, ended⟩
          · rw [none']
            exact ⟨rfl, false, rfl, settled false refused⟩
          · rw [error, Py.either_error, Py.either_error, if_pos caught]
            exact ⟨rfl, false, rfl, settled false refused⟩
      · next other =>
          exact ⟨rfl, false, rfl, settled false (grants_of_ne other)⟩

theorem wpc_logLine {Q : Except PyErr Unit → ZmqIpcDetector → Handshakes → Prop} (line : LogLine)
    (s : ZmqIpcDetector) (w : Handshakes) :
    (call (.log line)).wpc handshaking (fun _ => True) Q s w ↔ Q (.ok ()) s w := by
  rw [Py.wpc_ask]
  constructor
  · exact fun all => (all (.ok ()) _ ⟨rfl, rfl⟩).2
  · rintro post r w' ⟨steady, rfl⟩
    cases r with
    | ok _ => exact ⟨trivial, post⟩
    | error e => cases steady

/-- One handshake: the observer has its outcome, and the flag is raised by success and never
lowered. -/
theorem initializeModel_ended {s : ZmqIpcDetector} {w : Handshakes} (socket : s.socket.isSome) :
    initializeModel.wpc handshaking (fun _ => True) (fun r s' w' => r = .ok () ∧
      s'.socket.isSome ∧ ∃ outcome, s'.modelReady = (s.modelReady || outcome) ∧
        Settled w' w.outcomes w.stale outcome) s w := by
  rw [initializeModel, wpc_exceptException, Py.wpc_bind]
  refine Py.wpc_mono (fun _ _ => trivial) (fun r s' w' noted => ?_)
    (checkAndTransferModel_noted socket)
  obtain ⟨rfl, outcome, rfl, settled⟩ := noted
  rw [Py.either_ok, Py.wpc_ite]
  split
  · next succeeded =>
      rw [Py.wpc_bind, wpc_logLine, Py.either_ok, Py.wpc_modify, Py.either_ok]
      exact ⟨rfl, socket, outcome, by simp [succeeded], settled⟩
  · next failed =>
      rw [wpc_logLine, Py.either_ok]
      exact ⟨rfl, socket, outcome, by simp [failed], settled⟩

end Interpreted

/-! ## The invariant -/

/-- Between two calls, the flag says whether some handshake has succeeded. As long as none failed
after that, no tensor was sent without one. -/
structure UpToDate (s : ZmqIpcDetector) (w : Handshakes) : Prop where
  socket : s.socket.isSome
  idle : w.granted = false
  begun : w.outcomes ≠ []
  ready : s.modelReady = w.outcomes.any id
  stale : Undropped w.outcomes → w.stale = false

/-- As long as no handshake fails after one has succeeded, the latest one tells about all. -/
theorem head_of_undropped {outcomes : List Bool} (begun : outcomes ≠ [])
    (undropped : Undropped outcomes) : outcomes.head? = some (outcomes.any id) := by
  cases outcomes with
  | nil => exact absurd rfl begun
  | cons latest earlier =>
      have kept := (List.pairwise_cons.mp undropped).1
      cases latest with
      | true => rfl
      | false =>
          have failed : earlier.any id = false :=
            List.any_eq_false.mpr fun outcome mem succeeded => nomatch kept outcome mem succeeded
          simp [failed]

theorem Settled.upToDate {s s' : ZmqIpcDetector} {w w' : Handshakes} {outcome : Bool}
    (socket : s'.socket.isSome) (ready : s.modelReady = w.outcomes.any id)
    (stale : Undropped w.outcomes → w.stale = false)
    (raised : s'.modelReady = (s.modelReady || outcome))
    (settled : Settled w' w.outcomes w.stale outcome) : UpToDate s' w' := by
  obtain ⟨outcomes, same, idle⟩ := settled
  refine ⟨socket, idle, by simp [outcomes], ?_, fun undropped => ?_⟩
  · rw [raised, ready, outcomes, List.any_cons, id, Bool.or_comm]
  · rw [outcomes] at undropped
    rw [same, stale (List.pairwise_cons.mp undropped).2]

/-- A method that leaves the flag, the notes and the socket alone keeps the invariant. -/
theorem UpToDate.kept {s s' : ZmqIpcDetector} {w w' : Handshakes} (before : UpToDate s w)
    (same : SameReady (s, w) (s', w')) : UpToDate s' w' := by
  obtain ⟨notes, ready, placed⟩ := same before.idle
  obtain rfl : w' = w := notes
  exact ⟨placed before.socket, before.idle, before.begun, ready.trans before.ready, before.stale⟩

section Detection

variable [NumPy]

theorem initializeModel_upToDate {s : ZmqIpcDetector} {w : Handshakes} (before : UpToDate s w) :
    initializeModel.wpc handshaking (fun _ => True) (fun r s' w' =>
      r = .ok () ∧ UpToDate s' w') s w := by
  refine Py.wpc_mono (fun _ _ => trivial) (fun r s' w' ended => ?_)
    (initializeModel_ended before.socket)
  obtain ⟨rfl, socket, outcome, raised, settled⟩ := ended
  exact ⟨rfl, settled.upToDate socket before.ready before.stale raised⟩

theorem construct_upToDate (config : Config) :
    construct.wpc handshaking (fun _ => True) (fun r s' w' => r = .ok () → UpToDate s' w')
      (.blank config) .start := by
  rw [construct, Py.wpc_bind]
  refine Py.wpc_mono (fun _ _ => trivial) (fun r s w made => ?_)
    (createSocket_places (.blank config) (w := .start) rfl)
  obtain ⟨placed, rfl, -⟩ := made
  cases r with
  | error e => exact nofun
  | ok _ =>
      rw [Py.either_ok, Py.wpc_bind, Py.wpc_modify, Py.either_ok, Py.wpc_bind]
      refine Py.wpc_mono (fun _ _ => trivial) (fun r s' w' ended => ?_)
        (initializeModel_ended (placed rfl))
      obtain ⟨rfl, socket, outcome, raised, settled⟩ := ended
      have after : UpToDate s' w' := settled.upToDate socket rfl (fun _ => rfl) raised
      rw [Py.either_ok, Py.wpc_bind, Py.wpc_ask]
      rintro r w'' ⟨-, rfl⟩
      cases r with
      | error e => exact ⟨trivial, nofun⟩
      | ok now =>
          exact ⟨trivial, fun _ => ⟨after.socket, after.idle, after.begun, after.ready, after.stale⟩⟩

theorem recover_upToDate {s : ZmqIpcDetector} {w : Handshakes} (before : UpToDate s w) :
    recover.wpc handshaking (fun _ => True) (fun _ s' w' => UpToDate s' w') s w := by
  rw [recover, Py.wpc_bind, wpc_exceptException, Py.wpc_bind]
  refine Py.wpc_mono (fun _ _ => trivial) (fun r s' w' same => ?_) (quiet_createSocket s w)
  have kept : UpToDate s' w' := before.kept same
  cases r with
  | error e =>
      rw [Py.either_error, Py.either_error]
      split
      · exact kept
      · exact kept
  | ok _ =>
      rw [Py.either_ok]
      refine Py.wpc_mono (fun _ _ => trivial) (fun r s'' w'' ended => ?_)
        (initializeModel_upToDate kept)
      obtain ⟨rfl, after⟩ := ended
      exact after

theorem ensureReady_upToDate {s : ZmqIpcDetector} {w : Handshakes} (before : UpToDate s w) :
    ensureReady.wpc handshaking (fun _ => True) (fun r s' w' => UpToDate s' w' ∧
      ∀ ready, r = .ok ready → s'.modelReady = ready) s w := by
  rw [ensureReady, Py.wpc_bind, Py.wpc_get, Py.either_ok, Py.wpc_ite]
  split
  · next ready =>
      refine ⟨before, fun b same => ?_⟩
      cases same
      exact ready
  · next unready =>
      have down : s.modelReady = false := by simpa using unready
      rw [Py.wpc_bind, Py.wpc_ask]
      rintro r w₁ ⟨steady, noted⟩
      obtain rfl : w = w₁ := noted.symm
      cases r with
      | error e => cases steady
      | ok now =>
          refine ⟨trivial, ?_⟩
          rw [Py.either_ok, Py.wpc_ite]
          split
          · have tried : UpToDate { s with lastInitAttempt := now } w :=
              ⟨before.socket, before.idle, before.begun, before.ready, before.stale⟩
            rw [Py.wpc_bind, Py.wpc_modify, Py.either_ok, Py.wpc_bind]
            refine Py.wpc_mono (fun _ _ => trivial) (fun r s' w' same => ?_)
              (quiet_createSocket _ _)
            have kept : UpToDate s' w' := tried.kept same
            cases r with
            | error e => exact ⟨kept, by simp⟩
            | ok _ =>
                rw [Py.either_ok, Py.wpc_bind]
                refine Py.wpc_mono (fun _ _ => trivial) (fun r s'' w'' ended => ?_)
                  (initializeModel_upToDate kept)
                obtain ⟨rfl, after⟩ := ended
                exact ⟨after, fun b same => by cases same; rfl⟩
          · refine ⟨before, fun b same => ?_⟩
            cases same
            exact down

/-- A request from a plugin whose flag is raised. -/
theorem request_upToDate (tensorInput : NdArray) {s : ZmqIpcDetector} {w : Handshakes}
    (before : UpToDate s w) (ready : s.modelReady = true) :
    (request tensorInput).wpc handshaking (fun _ => True) (fun _ s' w' => UpToDate s' w') s w := by
  obtain ⟨k, socket⟩ := Option.isSome_iff_exists.mp before.socket
  obtain ⟨notOpening, notCarrying⟩ :=
    tensorHeader_other tensorInput s.config.modelType tensorInput.data
  have after : UpToDate s { w with
      awaiting := none
      granted := false
      stale := w.stale || w.outcomes.head? != some true } := by
    refine ⟨before.socket, rfl, before.begun, before.ready, fun undropped => ?_⟩
    have latest : w.outcomes.head? = some true := by
      rw [head_of_undropped before.begun undropped, ← before.ready, ready]
    simp [before.stale undropped, latest]
  rw [request, Py.wpc_bind, Py.wpc_get, Py.either_ok, Py.wpc_bind, theSocket, Py.wpc_bind,
    Py.wpc_get, Py.either_ok, socket, Py.wpc_pure, Py.either_ok, Py.wpc_bind, Py.wpc_ask]
  rintro r w' ⟨-, noted⟩
  rw [Handshakes.note, if_neg (by simp [notOpening]), if_neg (by simp [notCarrying]),
    if_pos (isTensorRequest_tensorHeader _ _ _)] at noted
  subst w'
  refine ⟨trivial, ?_⟩
  cases r with
  | error e => exact after
  | ok _ =>
      rw [Py.either_ok, Py.wpc_bind, Py.wpc_ask]
      rintro r w'' ⟨-, rfl⟩
      -- Nothing is awaited, so the reply to a tensor confirms nothing.
      cases r with
      | error e => exact ⟨trivial, after⟩
      | ok frames => exact ⟨trivial, after⟩

theorem detectRaw_upToDate (tensorInput : NdArray) {s : ZmqIpcDetector} {w : Handshakes}
    (before : UpToDate s w) :
    (detectRaw tensorInput).wpc handshaking (fun _ => True) (fun _ s' w' => UpToDate s' w') s w := by
  rw [detectRaw, Py.wpc_bind]
  refine Py.wpc_mono (fun _ _ => trivial) (fun r s' w' noted => ?_) (ensureReady_upToDate before)
  obtain ⟨kept, flag⟩ := noted
  cases r with
  | error e => exact kept
  | ok ready =>
      rw [Py.either_ok, Py.wpc_ite]
      split
      · exact kept
      · next up =>
          have raised : s'.modelReady = true := (flag ready rfl).trans (by simpa using up)
          rw [Py.wpc_catching]
          refine Py.wpc_mono (fun _ _ => trivial) (fun r s'' w'' after => ?_)
            (request_upToDate tensorInput kept raised)
          cases r with
          | ok a => exact after
          | error e =>
              rw [Py.either_error]
              split
              · exact recover_upToDate after
              · split
                · exact after
                · exact after

/-! ## Whole runs -/

/-- The plugin after its constructor and any number of calls, with what was noted meanwhile. -/
inductive Run (config : Config) : ZmqIpcDetector → Handshakes → Prop
  | constructed {s : ZmqIpcDetector} {w : Handshakes} :
    construct.Exec handshaking (.blank config) .start (.ok ()) s w → Run config s w
  | called {s s' : ZmqIpcDetector} {w w' : Handshakes} {r : Except PyErr NdArray}
    (tensorInput : NdArray) :
    Run config s w → (detectRaw tensorInput).Exec handshaking s w r s' w' → Run config s' w'

/-- In a run in which no handshake fails after one has succeeded, no tensor is sent while the latest
handshake has not succeeded, and the flag is the outcome of that handshake as the messages tell
it. -/
theorem run_upToDate {config : Config} {s : ZmqIpcDetector} {w : Handshakes}
    (run : Run config s w) (undropped : Undropped w.outcomes) :
    w.stale = false ∧ w.outcomes.head? = some s.modelReady := by
  have kept : UpToDate s w := by
    clear undropped
    induction run with
    | constructed run => exact Py.wpc_exec (construct_upToDate config) run rfl
    | called tensorInput _ run ih => exact Py.wpc_exec (detectRaw_upToDate tensorInput ih) run
  refine ⟨kept.stale undropped, ?_⟩
  rw [head_of_undropped kept.begun undropped, kept.ready]

end Detection

/-! ## Example runs -/

/-- Run a method under a script. -/
def Script.replay [Interpreter] {α : Type} (script : Script) (p : ClientM α) (s : ZmqIpcDetector)
    (w : Handshakes) : (Except PyErr α × ZmqIpcDetector) × Handshakes :=
  p.answering Handshakes.note (fun _ => script.answer) s w

theorem Script.exec_replay [Interpreter] {α : Type} (script : Script)
    (newSocket : TameOutcome script.newSocket) (recv : TameOutcome script.recv) (p : ClientM α)
    (s : ZmqIpcDetector) (w : Handshakes) {r : Except PyErr α}
    (outcome : (script.replay p s w).1.1 = r) :
    p.Exec handshaking s w r (script.replay p s w).1.2 (script.replay p s w).2 := by
  have sound : ∀ (w : Handshakes) (c : ClientCall),
      handshaking.step w c (script.answer c) (w.note c (script.answer c)) :=
    fun _ c => ⟨Script.steady newSocket recv c, rfl⟩
  exact Py.exec_answering sound p s w outcome

section

variable [NumPy] {config : Config} {script : Script} (newSocket : TameOutcome script.newSocket)
  (recv : TameOutcome script.recv)

include newSocket recv

theorem run_construct (outcome : (script.replay construct (.blank config) .start).1.1 = .ok ()) :
    Run config (script.replay construct (.blank config) .start).1.2
      (script.replay construct (.blank config) .start).2 :=
  .constructed (script.exec_replay newSocket recv construct _ _ outcome)

theorem run_call {s : ZmqIpcDetector} {w : Handshakes} (run : Run config s w)
    (tensorInput : NdArray) :
    Run config (script.replay (detectRaw tensorInput) s w).1.2
      (script.replay (detectRaw tensorInput) s w).2 :=
  .called tensorInput run (script.exec_replay newSocket recv (detectRaw tensorInput) s w rfl)

end

section Examples

attribute [local instance] NumPy.reference

/-- The constructor with a server that has the model. -/
def served : (Except PyErr Unit × ZmqIpcDetector) × Handshakes :=
  serving.replay construct (.blank exampleConfig) .start

theorem run_served : Run exampleConfig served.1.2 served.2 := by
  have ended : served.1.1 = .ok () := by decide +kernel
  unfold served at ended ⊢
  exact run_construct (.ok 1) tame_serving ended

/-- A call that is answered with detections. -/
def detected : (Except PyErr NdArray × ZmqIpcDetector) × Handshakes :=
  detecting.replay (detectRaw exampleTensor) served.1.2 served.2

theorem run_detected : Run exampleConfig detected.1.2 detected.2 := by
  unfold detected
  exact run_call (.ok 1) (.ok _) run_served exampleTensor

/-- A handshake that succeeds and a tensor sent after it. -/
theorem run_upToDate_detected :
    Undropped detected.2.outcomes ∧ detected.2.stale = false ∧
      detected.2.outcomes.head? = some detected.1.2.modelReady := by
  have undropped : Undropped detected.2.outcomes := by decide +kernel
  exact ⟨undropped, run_upToDate run_detected undropped⟩

/-- The handshake succeeds, is repeated after a timeout and fails, and the next call sends its
tensor all the same. -/
theorem run_stale : ¬ ∀ (config : Config) (s : ZmqIpcDetector) (w : Handshakes),
    Run config s w → w.stale = false ∧ w.outcomes.head? = some s.modelReady := by
  intro all
  have failed := @run_call _ exampleConfig silent (.ok 1) tame_zmqAgain _ _ run_served exampleTensor
  have sent := @run_call _ exampleConfig silent (.ok 1) tame_zmqAgain _ _ failed exampleTensor
  exact absurd (all _ _ _ sent).1 (by decide +kernel)

end Examples

end Plugin
