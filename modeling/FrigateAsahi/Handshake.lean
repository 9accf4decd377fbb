import FrigateAsahi.ModelStore
import FrigateAsahi.Replies

/-!
# The two programs of a handshake

`joint` composes them: a message that the plugin sends is answered by one round of the server's
loop, and no message is lost. The server's files may be anything, saving and loading may fail at any
call, and so may the calls by which the plugin reads its own file. `handshake_agreement` says that
the plugin and the server agree on the outcome. The model name that both mean is the plugin's as
JSON carries it.
-/

namespace Detector

open Text Python Numpy Interaction

/-! ## A message at the server -/

/-- The server's files, the message that waits for it, and its replies. -/
structure Wire : Type where
  store : Store
  incoming : Option (List Bytes)
  outgoing : List (List Bytes)

def Wire.over (w : Wire) (store : Store) : Wire := { w with store }

def Wire.Step (D : Env Host Store) (w : Wire) :
    (c : ServerCall) → Except PyErr c.Answer → Wire → Prop
  | .host c, r, w' => ∃ store, D.step w.store c r store ∧ w' = w.over store
  | .recvMultipart _, r, w' =>
    r = w.incoming.elim (.error Plugin.zmqAgain) .ok ∧ w' = { w with incoming := none }
  | .sendMultipart _ frames, r, w' =>
    r = .ok () ∧ w' = { w with outgoing := w.outgoing ++ [frames] }
  | _, _, w' => w' = w

/-- The server's surroundings, where `D` are those of its backend. -/
def wire (D : Env Host Store) : Env Server Wire := ⟨Wire.Step D⟩

/-- Files that behave, and a backend that leaves the file of a model it loads alone. -/
structure Sound (D : Env Host Store) (β : Type) [InferenceBackend β] : Prop where
  files : ∀ w c r w', D.step w c r w' → Store.Step w c r w'
  load : ∀ (p : PyStr) (b : β) (w : Store),
    (InferenceBackend.load p : HostM β Unit).wpc D (fun _ => True) (Installs p w) b w

theorem disk_sound [NumPy] : Sound disk Backend := ⟨fun _ _ _ _ step => step, Backend.load_keeps⟩

/-- What a load of a path does to the backend when it returns (`true`) and when it raises. -/
def LoadsBy {β : Type} [InferenceBackend β] (D : Env Host Store)
    (R : PyStr → Bool → β → β → Prop) : Prop :=
  ∀ (p : PyStr) (b : β) (w : Store), (InferenceBackend.load p : HostM β Unit).wpc D (fun _ => True)
    (fun r b' _ => R p r.isOk b b') b w

theorem loadsBy_any {β : Type} [InferenceBackend β] {D : Env Host Store} :
    LoadsBy D fun (_ : PyStr) (_ : Bool) (_ _ : β) => True :=
  fun _ _ _ => Py.wpc_mono (fun _ _ => trivial) (fun _ _ _ _ => trivial)
    (Py.wpc_invariant (fun _ _ _ _ _ _ => trivial) _ trivial)

section Rules

variable {D : Env Host Store} {β α : Type} {s : ZmqOnnxClient β} {w : Wire}

theorem wire_host {c : HostCall} {Q : Except PyErr c.Answer → ZmqOnnxClient β → Wire → Prop}
    (each : ∀ r store, D.step w.store c r store → Q r s (w.over store)) :
    (callHost c : ServerM β c.Answer).wpc (wire D) (fun _ => True) Q s w := by
  rw [Py.wpc_ask]
  intro r w' step
  obtain ⟨store, step, rfl⟩ := step
  exact ⟨trivial, each r store step⟩

theorem wire_backend {p : HostM β α} {Q : Except PyErr α → ZmqOnnxClient β → Wire → Prop}
    (pre : p.wpc D (fun _ => True) (fun r b store => Q r { s with backend := b } (w.over store))
      s.backend w.store) :
    (onBackend p).wpc (wire D) (fun _ => True) Q s w := by
  rw [wpc_onBackend]
  have steps : ∀ v c r v', (hostEnv (wire D)).step v c r v' → v = w.over v.store →
      D.step v.store c r v'.store ∧ v' = w.over v'.store := by
    intro v c r v' step frame
    obtain ⟨r, rfl, store, step, rfl⟩ := step
    rw [frame]
    exact ⟨step, rfl⟩
  refine Py.wpc_mono (fun _ _ => trivial) (fun r b v post => ?_)
    (Py.wpc_project (v := Wire.store) (F := fun v => v = w.over v.store) steps rfl pre)
  obtain ⟨post, frame⟩ := post
  rw [frame]
  exact post

end Rules

/-! ## Loading and saving -/

section Server

variable {D : Env Host Store} {β : Type} [InferenceBackend β] {s : ZmqOnnxClient β} {w : Wire}
  {name : PyStr} {R : PyStr → Bool → β → β → Prop}

/-- The model is served under its name. -/
structure Serving (name : PyStr) (s : ZmqOnnxClient β) : Prop where
  current : s.currentModel = some (.str name)
  ready : s.modelReady = true
  loaded : InferenceBackend.loaded s.backend = true

/-- No load was performed, or one that raised. -/
def Unserved (R : PyStr → Bool → β → β → Prop) (p : PyStr) (b b' : β) : Prop :=
  b' = b ∨ R p false b b'

/-- One call of `_load_model`, and whether it returned true. -/
structure Attempt (R : PyStr → Bool → β → β → Prop) (name : PyStr) (s : ZmqOnnxClient β) (w : Store)
    (ok : Bool) (s' : ZmqOnnxClient β) (w' : Store) : Prop where
  performed : ok = true → R (pathJoin s.modelsDir name) true s.backend s'.backend
  unserved : ok = false → Unserved R (pathJoin s.modelsDir name) s.backend s'.backend
  file : ∀ content, w.files (pathJoin s.modelsDir name) = some content →
    w'.files (pathJoin s.modelsDir name) = some content
  serving : ok = true → Serving name s'

/-- A load counts from before the calls that came first and did not touch the file. -/
theorem Attempt.after {s s' : ZmqOnnxClient β} {w w₁ w' : Store} {ok : Bool}
    (attempt : Attempt R name s w₁ ok s' w')
    (same : w₁.files (pathJoin s.modelsDir name) = w.files (pathJoin s.modelsDir name)) :
    Attempt R name s w ok s' w' :=
  { attempt with file := fun content held => attempt.file content (same.trans held) }

/-- The socket is the same, and nothing was sent on it. -/
structure Unsent (s : ZmqOnnxClient β) (w : Wire) (s' : ZmqOnnxClient β) (w' : Wire) : Prop where
  socket : s'.socket = s.socket
  outgoing : w'.outgoing = w.outgoing

theorem succeed_append (loads : List (PyStr × Bool)) (p : PyStr) :
    succeed (loads ++ [(p, false)]) = loads ++ [(p, true)] := by
  simp [succeed]

theorem loadModel_attempt (sound : Sound D β) (loads : LoadsBy D R) :
    (loadModel (.str name)).wpc (wire D) (fun _ => True) (fun r s' w' => Unsent s w s' w' ∧
      Py.either (fun ok => Attempt R name s w.store ok s' w'.store) (fun e => ¬ e.IsException) r)
      s w := by
  rw [loadModel, wpc_exceptException, Py.wpc_bind, Py.wpc_get, Py.either_ok, Py.wpc_bind,
    Py.wpc_ofExcept, modelFile, Py.either_ok, Py.wpc_bind]
  refine wire_host fun r store₁ step => ?_
  have begun := sound.files _ _ _ _ step
  have file₁ : ∀ content, w.store.files (pathJoin s.modelsDir name) = some content →
      store₁.files (pathJoin s.modelsDir name) = some content := fun content held =>
    (begun.frame _ List.not_mem_nil).trans held
  cases r with
  | error e =>
      rw [Py.either_error, Py.either_error]
      split
      · exact ⟨⟨rfl, rfl⟩, by simp, fun _ => .inl rfl, file₁, by simp⟩
      · next exit => exact ⟨⟨rfl, rfl⟩, exit⟩
  | ok _ =>
      rw [Py.either_ok, Py.wpc_bind, loadModelFile, wpc_exceptException, Py.wpc_bind]
      refine wire_backend ?_
      refine Py.wpc_mono (fun _ _ => trivial) (fun r b store₂ both => ?_)
        (Py.wpc_and (sound.load (pathJoin s.modelsDir name) s.backend store₁)
          (loads (pathJoin s.modelsDir name) s.backend store₁))
      obtain ⟨installs, performed⟩ := both
      have file₂ : ∀ content, w.store.files (pathJoin s.modelsDir name) = some content →
          store₂.files (pathJoin s.modelsDir name) = some content := fun content held =>
        installs.spares.file content (file₁ content held)
      cases r with
      | error e =>
          rw [Py.either_error, Py.either_error]
          split
          · exact ⟨⟨rfl, rfl⟩, by simp, fun _ => .inr performed, file₂, by simp⟩
          · next exit =>
              rw [Py.either_error, Py.either_error, if_neg exit]
              exact ⟨⟨rfl, rfl⟩, exit⟩
      | ok _ =>
          rw [Py.either_ok, Py.wpc_pure, Py.either_ok, Py.either_ok, if_pos rfl, Py.wpc_bind,
            Py.wpc_modify, Py.either_ok, Py.wpc_bind]
          refine wire_host fun r store₃ step => ?_
          have ended := sound.files _ _ _ _ step
          have file₃ : ∀ content, w.store.files (pathJoin s.modelsDir name) = some content →
              store₃.files (pathJoin s.modelsDir name) = some content := fun content held =>
            (ended.frame _ List.not_mem_nil).trans (file₂ content held)
          cases r with
          | error e =>
              have exit : ¬ e.IsException := ended.answers
              rw [Py.either_error, Py.either_error, if_neg exit]
              exact ⟨⟨rfl, rfl⟩, exit⟩
          | ok _ =>
              rw [Py.either_ok, Py.wpc_pure, Py.either_ok]
              exact ⟨⟨rfl, rfl⟩, fun _ => performed, by simp, file₃,
                fun _ => ⟨rfl, rfl, installs.loaded rfl⟩⟩

/-- The end of `_save_model`. -/
structure Save (name : PyStr) (data : Bytes) (s : ZmqOnnxClient β) (r : Except PyErr Bool)
    (s' : ZmqOnnxClient β) (w' : Store) : Prop where
  object : s' = s
  saved : r = .ok true → w'.files (pathJoin s.modelsDir name) = some data
  exits : ∀ e, r = .error e → ¬ e.IsException

theorem saveModel_save (sound : Sound D β) (data : Bytes) :
    (saveModel (.str name) data : ServerM β Bool).wpc (wire D) (fun _ => True) (fun r s' w' =>
      Unsent s w s' w' ∧ Save name data s r s' w'.store) s w := by
  -- The exception of a call is caught, and an exit request is not.
  have failed {e : PyErr} {store : Store} :
      if e.IsException then
        (pure false : ServerM β Bool).wpc (wire D) (fun _ => True) (fun r s' w' =>
          Unsent s w s' w' ∧ Save name data s r s' w'.store) s (w.over store)
      else Unsent s w s (w.over store) ∧ Save name data s (.error e) s store := by
    split
    · exact ⟨⟨rfl, rfl⟩, rfl, by simp, by simp⟩
    · next exit =>
        refine ⟨⟨rfl, rfl⟩, rfl, by simp, fun e' same => ?_⟩
        cases same
        exact exit
  rw [saveModel, wpc_exceptException, Py.wpc_bind, Py.wpc_get, Py.either_ok, Py.wpc_bind]
  refine wire_host fun r store₁ step => ?_
  cases r with
  | error e => exact failed
  | ok _ =>
      rw [Py.either_ok, Py.wpc_bind, Py.wpc_ofExcept, modelFile, Py.either_ok, Py.wpc_bind]
      refine wire_host fun r store₂ step => ?_
      have opened := sound.files _ _ _ _ step
      cases r with
      | error e => exact failed
      | ok _ =>
          rw [Py.either_ok, Py.wpc_bind, Py.wpc_andFinally]
          refine wire_host fun r store₃ step => ?_
          have written := sound.files _ _ _ _ step
          refine wire_host fun r' store₄ step => ?_
          have closed := sound.files _ _ _ _ step
          cases r' with
          | error e => exact failed
          | ok _ =>
              cases r with
              | error e => exact failed
              | ok _ =>
                  refine ⟨⟨rfl, rfl⟩, rfl, fun _ => ?_, by simp⟩
                  have empty : store₂.files (pathJoin s.modelsDir name) = some [] := opened.answers
                  have filled : store₃.files (pathJoin s.modelsDir name) = some ([] ++ data) :=
                    written.answers.trans (congrArg (Option.map (· ++ data)) empty)
                  exact closed.answers.trans filled

/-! ## The two handlers -/

/-- What the plugin makes of a reply: the two fields that decide, where it can read them. -/
def verdict [Interpreter] (first second : String) : Option (List Bytes) → Option (Bool × Bool)
  | some [frame] => (Plugin.readReply first second frame).toOption.join
  | _ => none

/-- What the server has done when the plugin reads its reply to a model request. -/
def Requested (R : PyStr → Bool → β → β → Prop) (name : PyStr) (s : ZmqOnnxClient β) (w : Store)
    (s' : ZmqOnnxClient β) (w' : Store) : Option (Bool × Bool) → Prop
  | some (true, ok) => Attempt R name s w ok s' w'
  | some (false, _) => s'.modelsDir = s.modelsDir ∧ s'.backend = s.backend
  | none => Unserved R (pathJoin s.modelsDir name) s.backend s'.backend

/-- What it has done when the plugin reads its reply to model data. -/
def Pushed (R : PyStr → Bool → β → β → Prop) (name : PyStr) (data : Bytes) (s : ZmqOnnxClient β)
    (s' : ZmqOnnxClient β) (w' : Store) : Option (Bool × Bool) → Prop
  | some (true, true) =>
    R (pathJoin s.modelsDir name) true s.backend s'.backend ∧ Serving name s' ∧
      w'.files (pathJoin s.modelsDir name) = some data
  | _ => Unserved R (pathJoin s.modelsDir name) s.backend s'.backend

/-- The members of a header that the plugin sends about a model, as the server reads them. -/
def modelFields (key : String) (name : PyStr) : List (PyStr × Json) :=
  [(py key, .bool true), (py "model_name", .str name)]

theorem verdict_buildErrorResponse [Interpreter] (first second : String) (msg : PyStr)
    (first_ne : py first ≠ py "error") (second_ne : py second ≠ py "error") :
    verdict first second (some (buildErrorResponse msg)) = some (false, false) := by
  have error : joinSurrogates (py "error") = py "error" := by decide +kernel
  have keys : [joinSurrogates (py "error")].Nodup := List.nodup_singleton _
  have read := readReply_of_keys first second [(py "error", .str msg)]
    ⟨not_deep (by decide), trivial, trivial⟩ keys
  rw [buildErrorResponse, verdict, read, normMembers, normMembers, error, getD, getD, lookup_cons,
    lookup_cons, if_neg first_ne.symm, if_neg second_ne.symm]
  rfl

/-- The handler of a model request. Its exceptions are none of ZMQ, and those that are no exit
requests come before the load. -/
theorem handleModelRequest_requested [Interpreter] (sound : Sound D β) (loads : LoadsBy D R)
    {fields : List (PyStr × Json)} (named : getD fields "model_name" .null = .str name) :
    (handleModelRequest (.obj fields) : ServerM β (List Bytes)).wpc (wire D) (fun _ => True)
      (fun r s' w' => Unsent s w s' w' ∧ Py.either
        (fun reply => Requested R name s w.store s' w'.store
          (verdict "model_available" "model_loaded" (some reply)))
        (fun e => ¬ e.IsZmqError ∧ (e.IsException → Requested R name s w.store s' w'.store none)) r)
      s w := by
  rw [handleModelRequest, Py.wpc_bind, Py.wpc_ofExcept, members, Py.either_ok, named, Py.wpc_ite]
  split
  · refine ⟨⟨rfl, rfl⟩, ?_⟩
    rw [Py.either_ok, verdict_buildErrorResponse _ _ _ (by decide +kernel) (by decide +kernel)]
    exact ⟨rfl, rfl⟩
  rw [Py.wpc_bind, checkModelExists, Py.wpc_bind, Py.wpc_get, Py.either_ok, Py.wpc_bind,
    Py.wpc_ofExcept, modelFile, Py.either_ok]
  refine wire_host fun r store₁ step => ?_
  have asked := sound.files _ _ _ _ step
  cases r with
  | error e => exact ⟨⟨rfl, rfl⟩, asked.answers, fun _ => .inl rfl⟩
  | ok available =>
      rw [Py.either_ok, Py.wpc_ite]
      split
      · rw [Py.wpc_bind]
        refine Py.wpc_mono (fun _ _ => trivial) (fun r s' w' done => ?_)
          (loadModel_attempt sound loads)
        obtain ⟨unsent, attempt⟩ := done
        have unsent : Unsent s w s' w' := ⟨unsent.socket, unsent.outgoing⟩
        have same := asked.frame (pathJoin s.modelsDir name) List.not_mem_nil
        cases r with
        | error e =>
            exact ⟨unsent, fun zmq => attempt zmq.isException, fun raised => absurd raised attempt⟩
        | ok ok =>
            have attempt := attempt.after same
            rw [Py.either_ok, Py.wpc_ite]
            cases ok with
            | true =>
                refine ⟨unsent, ?_⟩
                rw [Py.either_ok, verdict, readReply_requestReply]
                exact attempt
            | false =>
                refine ⟨unsent, ?_⟩
                rw [Py.either_ok, verdict, readReply_requestReply]
                exact attempt
      · refine ⟨⟨rfl, rfl⟩, ?_⟩
        rw [Py.either_ok, verdict, readReply_requestReply]
        exact ⟨rfl, rfl⟩

theorem handleModelData_pushed [Interpreter] (sound : Sound D β) (loads : LoadsBy D R)
    {fields : List (PyStr × Json)} (named : getD fields "model_name" .null = .str name)
    (data : Bytes) :
    (handleModelData (.obj fields) data : ServerM β (List Bytes)).wpc (wire D) (fun _ => True)
      (fun r s' w' => Unsent s w s' w' ∧ Py.either
        (fun reply => Pushed R name data s s' w'.store
          (verdict "model_saved" "model_loaded" (some reply)))
        (fun e => ¬ e.IsZmqError ∧ (e.IsException → Pushed R name data s s' w'.store none)) r)
      s w := by
  rw [handleModelData, Py.wpc_bind, Py.wpc_ofExcept, members, Py.either_ok, named, Py.wpc_ite]
  split
  · refine ⟨⟨rfl, rfl⟩, ?_⟩
    rw [Py.either_ok, verdict_buildErrorResponse _ _ _ (by decide +kernel) (by decide +kernel)]
    exact .inl rfl
  rw [Py.wpc_bind]
  refine Py.wpc_mono (fun _ _ => trivial) (fun r s₁ w₁ done => ?_) (saveModel_save sound data)
  obtain ⟨unsent, save⟩ := done
  obtain rfl := save.object
  cases r with
  | error e =>
      have exit := save.exits e rfl
      exact ⟨unsent, fun zmq => exit zmq.isException, fun raised => absurd raised exit⟩
  | ok saved =>
      rw [Py.either_ok, Py.wpc_ite]
      cases saved with
      | false =>
          refine ⟨unsent, ?_⟩
          rw [Py.either_ok, verdict, readReply_dataReply]
          exact .inl rfl
      | true =>
          rw [if_pos rfl, Py.wpc_bind]
          refine Py.wpc_mono (fun _ _ => trivial) (fun r s' w' done => ?_)
            (loadModel_attempt sound loads)
          obtain ⟨unsent', attempt⟩ := done
          have unsent : Unsent s₁ w s' w' :=
            ⟨unsent'.socket, unsent'.outgoing.trans unsent.outgoing⟩
          cases r with
          | error e =>
              exact ⟨unsent, fun zmq => attempt zmq.isException,
                fun raised => absurd raised attempt⟩
          | ok ok =>
              rw [Py.either_ok, Py.wpc_ite]
              cases ok with
              | true =>
                  refine ⟨unsent, ?_⟩
                  rw [Py.either_ok, verdict, readReply_dataReply]
                  exact ⟨attempt.performed rfl, attempt.serving rfl,
                    attempt.file data (save.saved rfl)⟩
              | false =>
                  refine ⟨unsent, ?_⟩
                  rw [Py.either_ok, verdict, readReply_dataReply]
                  exact attempt.unserved rfl

/-! ## The round -/

omit [InferenceBackend β] in
theorem sendMultipart_wire {frames : List Bytes} {socket : Nat} (held : s.socket = some socket)
    {Q : Except PyErr Unit → ZmqOnnxClient β → Wire → Prop}
    (sent : Q (.ok ()) s { w with outgoing := w.outgoing ++ [frames] }) :
    (sendMultipart frames : ServerM β Unit).wpc (wire D) (fun _ => True) Q s w := by
  rw [sendMultipart, Py.wpc_bind, Py.wpc_get, Py.either_ok, held, Py.wpc_ask]
  intro r w' step
  obtain ⟨rfl, rfl⟩ := step
  exact ⟨trivial, sent⟩

omit [InferenceBackend β] in
/-- A reply of two frames stands for an exception and says nothing about a model. -/
theorem sendErrorResponse_wire [Interpreter] (first second : String) (msg : PyStr)
    (empty : w.outgoing = []) :
    (sendErrorResponse msg : ServerM β Unit).wpc (wire D) (fun _ => True) (fun r s' w' =>
      r = .ok () ∧ s' = s ∧ w'.store = w.store ∧ verdict first second w'.outgoing.head? = none) s w := by
  rw [sendErrorResponse, wpc_exceptException]
  cases held : s.socket with
  | none =>
      rw [sendMultipart, Py.wpc_bind, Py.wpc_get, Py.either_ok, held, Py.wpc_throw, Py.either_error,
        if_pos (isException_exception _), Py.wpc_pure, empty]
      exact ⟨rfl, rfl, rfl, rfl⟩
  | some socket =>
      refine sendMultipart_wire held ?_
      rw [Py.either_ok, empty]
      exact ⟨rfl, rfl, rfl, rfl⟩

variable [NumPy]

/-- One round of the loop, from what the handler does to what the plugin is sent. An exit request
leaves the loop, and nothing is sent. -/
theorem serveOnce_reply {frames : List Bytes} {header : Json} {first second : String}
    {O : Bool → ZmqOnnxClient β → Store → Option (Bool × Bool) → Prop}
    (decoded : decodeRequest frames = .ok (none, header))
    (incoming : w.incoming = some frames) (empty : w.outgoing = [])
    (deaf : s.socket = none → O true s w.store none)
    (handled : (respond frames none header).wpc (wire D) (fun _ => True)
      (fun r s' w' => Unsent s { w with incoming := none } s' w' ∧ Py.either
        (fun reply => O true s' w'.store (verdict first second (some reply)))
        (fun e => ¬ e.IsZmqError ∧ O (decide e.IsException) s' w'.store none) r)
      s { w with incoming := none }) :
    (serveOnce : ServerM β Next).wpc (wire D) (fun _ => True)
      (fun r s' w' => O r.isOk s' w'.store (verdict first second w'.outgoing.head?)) s w := by
  -- An exception that is none of ZMQ is answered with an error reply, an exit request not at all.
  have failed {e : PyErr} (other : ¬ e.IsZmqError) {s' : ZmqOnnxClient β} {w' : Wire}
      (empty : w'.outgoing = []) (outcome : O (decide e.IsException) s' w'.store none) :
      (if e.IsZmqError then handleZmqError e
        else if e.IsException then (do
          sendErrorResponse e.msg
          pure .again)
        else throw e : ServerM β Next).wpc (wire D) (fun _ => True)
          (fun r s' w' => O r.isOk s' w'.store (verdict first second w'.outgoing.head?)) s' w' := by
    rw [if_neg other, Py.wpc_ite]
    split
    · next raised =>
      rw [decide_eq_true raised] at outcome
      rw [Py.wpc_bind]
      refine Py.wpc_mono (fun _ _ => trivial) (fun r s'' w'' sent => ?_)
        (sendErrorResponse_wire first second e.msg empty)
      obtain ⟨rfl, rfl, same, unread⟩ := sent
      have outcome : O true s'' w''.store (verdict first second w''.outgoing.head?) := by
        rw [same, unread]
        exact outcome
      exact outcome
    · next exit =>
      rw [decide_eq_false exit] at outcome
      rw [Py.wpc_throw, empty]
      exact outcome
  rw [serveOnce, Py.wpc_catching, Py.wpc_bind, serveMessage, Py.wpc_bind, recvMultipart, Py.wpc_bind,
    Py.wpc_get, Py.either_ok]
  cases held : s.socket with
  | none =>
      rw [Py.wpc_throw, Py.either_error, Py.either_error, Py.either_error]
      exact failed (by decide) empty (deaf held)
  | some socket =>
      rw [Py.wpc_ask]
      intro r w₁ step
      obtain ⟨rfl, rfl⟩ := step
      refine ⟨trivial, ?_⟩
      rw [incoming, Option.elim_some, Py.either_ok, decoded, Py.wpc_bind, Py.wpc_ofExcept, Py.either_ok,
        Py.wpc_bind]
      refine Py.wpc_mono (fun _ _ => trivial) (fun r s' w' done => ?_) handled
      obtain ⟨unsent, outcome⟩ := done
      have empty : w'.outgoing = [] := unsent.outgoing.trans empty
      cases r with
      | error e => exact failed outcome.1 empty outcome.2
      | ok reply =>
          rw [Py.either_ok]
          refine sendMultipart_wire (unsent.socket.trans held) ?_
          rw [Py.either_ok, Py.wpc_pure, Py.either_ok, empty]
          exact outcome

/-! ## The two messages -/

omit [InferenceBackend β] [NumPy] in
theorem decodeJson_modelFields {lim : Limits} (shallow : lim.deep 0 = false) {key : String}
    (ascii : IsAscii (py key)) (other : py key ≠ py "model_name") (name : PyStr) :
    decodeJson lim (encodeJson (.obj [(py key, .bool true), (py "model_name", .str name)])) =
      .ok (.obj (modelFields key (joinSurrogates name))) := by
  have key_eq : joinSurrogates (py key) = py key := joinSurrogates_ascii ascii
  have name_eq : joinSurrogates (py "model_name") = py "model_name" := by decide +kernel
  have norm : normMembers [(py key, .bool true), (py "model_name", .str name)] =
      modelFields key (joinSurrogates name) := by
    rw [normMembers, normMembers, normMembers, key_eq, name_eq]
    rfl
  have keys : ((normMembers [(py key, .bool true), (py "model_name", .str name)]).map
      Prod.fst).Nodup := by
    rw [norm]
    simpa [modelFields] using other
  have within : (Json.obj [(py key, .bool true), (py "model_name", .str name)]).Within lim 0 :=
    ⟨shallow, trivial, trivial, trivial⟩
  rw [decodeJson_encodeJson_obj within keys, norm]

omit [InferenceBackend β] in
theorem jsonLoads_modelFields {key : String} (ascii : IsAscii (py key))
    (other : py key ≠ py "model_name") (name : PyStr) :
    jsonLoads (encodeJson (.obj [(py key, .bool true), (py "model_name", .str name)])) =
      .ok (.obj (modelFields key (joinSurrogates name))) := by
  rw [jsonLoads, decodeJson_modelFields (not_deep (by decide)) ascii other]
  rfl

omit [InferenceBackend β] [NumPy] in
theorem getD_modelFields {key : String} (other : py key ≠ py "model_name") (name : PyStr) :
    getD (modelFields key name) "model_name" .null = .str name := by
  rw [getD, modelFields, lookup_cons, if_neg other, lookup_cons, if_pos rfl, Option.getD_some]

/-- The round that answers a model request is its handler. -/
theorem serveOnce_modelRequest {O : Bool → ZmqOnnxClient β → Store → Option (Bool × Bool) → Prop}
    (incoming : w.incoming = some [encodeJson (Plugin.requestHeader name)])
    (empty : w.outgoing = []) (deaf : s.socket = none → O true s w.store none)
    (handled : ∀ fields, getD fields "model_name" .null = .str (joinSurrogates name) →
      (handleModelRequest (.obj fields)).wpc (wire D) (fun _ => True)
        (fun r s' w' => Unsent s { w with incoming := none } s' w' ∧ Py.either
          (fun reply => O true s' w'.store (verdict "model_available" "model_loaded" (some reply)))
          (fun e => ¬ e.IsZmqError ∧ O (decide e.IsException) s' w'.store none) r)
        s { w with incoming := none }) :
    (serveOnce : ServerM β Next).wpc (wire D) (fun _ => True) (fun r s' w' =>
      O r.isOk s' w'.store (verdict "model_available" "model_loaded" w'.outgoing.head?)) s w := by
  have other : py "model_request" ≠ py "model_name" := by decide +kernel
  have header := jsonLoads_modelFields (by decide +kernel) other name
  have request : contains (py "model_request")
      (.obj (modelFields "model_request" (joinSurrogates name))) = .ok true := by
    rw [contains, modelFields, lookup_cons, if_pos rfl, Option.isSome_some]
  have decoded : decodeRequest [encodeJson (Plugin.requestHeader name)] =
      .ok (none, .obj (modelFields "model_request" (joinSurrogates name))) := by
    simp only [decodeRequest, Plugin.requestHeader, header, bind_eq_ok]
    exact ⟨_, rfl, true, request, rfl⟩
  refine serveOnce_reply decoded incoming empty deaf ?_
  rw [respond, Py.wpc_bind, Py.wpc_ofExcept, request, Py.either_ok, Py.wpc_bind, Bool.not_true,
    andAlso, if_neg Bool.false_ne_true, Py.wpc_pure, Py.either_ok, if_pos rfl]
  exact handled _ (getD_modelFields other _)

/-- The round that answers model data is its handler. -/
theorem serveOnce_modelData {data : Bytes}
    {O : Bool → ZmqOnnxClient β → Store → Option (Bool × Bool) → Prop}
    (incoming : w.incoming = some [encodeJson (Plugin.dataHeader name), data])
    (empty : w.outgoing = []) (deaf : s.socket = none → O true s w.store none)
    (handled : ∀ fields, getD fields "model_name" .null = .str (joinSurrogates name) →
      (handleModelData (.obj fields) data).wpc (wire D) (fun _ => True)
        (fun r s' w' => Unsent s { w with incoming := none } s' w' ∧ Py.either
          (fun reply => O true s' w'.store (verdict "model_saved" "model_loaded" (some reply)))
          (fun e => ¬ e.IsZmqError ∧ O (decide e.IsException) s' w'.store none) r)
        s { w with incoming := none }) :
    (serveOnce : ServerM β Next).wpc (wire D) (fun _ => True) (fun r s' w' =>
      O r.isOk s' w'.store (verdict "model_saved" "model_loaded" w'.outgoing.head?)) s w := by
  have other : py "model_data" ≠ py "model_name" := by decide +kernel
  have header := jsonLoads_modelFields (by decide +kernel) other name
  have request : contains (py "model_request")
      (.obj (modelFields "model_data" (joinSurrogates name))) = .ok false := by
    rw [contains, modelFields, lookup_cons, if_neg (by decide +kernel), lookup_cons,
      if_neg (by decide +kernel)]
    rfl
  have pushed : contains (py "model_data")
      (.obj (modelFields "model_data" (joinSurrogates name))) = .ok true := by
    rw [contains, modelFields, lookup_cons, if_pos rfl, Option.isSome_some]
  have decoded : decodeRequest [encodeJson (Plugin.dataHeader name), data] =
      .ok (none, .obj (modelFields "model_data" (joinSurrogates name))) := by
    simp only [decodeRequest, Plugin.dataHeader, header, bind_eq_ok]
    refine ⟨_, rfl, false, request, ?_⟩
    rw [if_neg Bool.false_ne_true, bind_eq_ok]
    exact ⟨true, pushed, rfl⟩
  refine serveOnce_reply decoded incoming empty deaf ?_
  rw [respond, Py.wpc_bind, Py.wpc_ofExcept, request, Py.either_ok, Py.wpc_bind, Bool.not_false,
    andAlso, if_pos rfl, Py.wpc_ofExcept, pushed, Py.either_ok, if_neg Bool.false_ne_true,
    if_pos ⟨rfl, le_rfl⟩]
  exact handled _ (getD_modelFields other _)

end Server

/-! ## Both programs -/

/-- The server with its files, the reply that waits for the plugin, how many of the plugin's
messages were answered, and whether the server was asked to exit meanwhile. -/
structure Joint (β : Type) : Type where
  server : ZmqOnnxClient β
  store : Store
  pending : Option (List Bytes)
  exchanges : Nat
  exited : Bool

def Joint.start {β : Type} (server : ZmqOnnxClient β) (store : Store) : Joint β :=
  ⟨server, { store with loads := [] }, none, 0, false⟩

section Plugin

variable [NumPy] {D : Env Host Store} {β : Type} [InferenceBackend β]

/-- The server takes the message and plays a round; what it sends reaches the plugin. A round that
an exit request leaves is the server's last. -/
structure Round (D : Env Host Store) (frames : List Bytes) (j j' : Joint β) : Prop where
  served : ∃ r w', serveOnce.Exec (wire D) j.server ⟨j.store, some frames, []⟩ r j'.server w' ∧
    j'.store = w'.store ∧ j'.pending = w'.outgoing.head? ∧ j'.exited = (j.exited || !r.isOk)
  exchanges : j'.exchanges = j.exchanges + 1

def Joint.Step (D : Env Host Store) (data : Bytes) (j : Joint β) :
    (c : Plugin.ClientCall) → Except PyErr c.Answer → Joint β → Prop
  | .sendMultipart _ frames, r, j' => r = .ok () ∧ Round D frames j j'
  | .recvMultipart _, r, j' =>
    j' = j ∧ Py.either (fun reply => j.pending = some reply)
      (fun e => j.pending = none ∧ e.IsException) r
  | .exists _, r, j' => j' = j ∧ Py.ErrorIn PyErr.IsException r
  | .readFile _, r, j' => j' = j ∧ Py.either (fun content => content = data) PyErr.IsException r
  | _, r, j' => j' = j ∧ ∃ a, r = .ok a

/-- The plugin's surroundings, where `data` is what its own model file holds. -/
def joint (D : Env Host Store) (data : Bytes) : Env Plugin.Client (Joint β) := ⟨Joint.Step D data⟩

variable {data : Bytes} {client : Plugin.ZmqIpcDetector} {j : Joint β}
  {R : PyStr → Bool → β → β → Prop}

/-- What is known of the end of a round: the plugin's reading of the reply tells what the server did,
unless it was asked to exit; then there is no reply. -/
def Heard (P : Option (Bool × Bool) → Prop) (v : Option (Bool × Bool)) (j' : Joint β) : Prop :=
  (j'.exited = false → P v) ∧ (j'.exited = true → v = none)

theorem Round.requested (sound : Sound D β) (loads : LoadsBy D R) {name : PyStr}
    {j j' : Joint β} (running : j.exited = false)
    (round : Round D [encodeJson (Plugin.requestHeader name)] j j') :
    Heard (Requested R (joinSurrogates name) j.server j.store j'.server j'.store)
      (verdict "model_available" "model_loaded" j'.pending) j' := by
  obtain ⟨⟨r, w', run, store, pending, exited⟩, -⟩ := round
  rw [running, Bool.false_or] at exited
  rw [Heard, exited, store, pending, Bool.not_eq_false', Bool.not_eq_true']
  refine Py.wpc_exec (serveOnce_modelRequest (O := fun normal s' store v => (normal = true →
    Requested R (joinSurrogates name) j.server j.store s' store v) ∧ (normal = false → v = none))
    rfl rfl (fun _ => ⟨fun _ => .inl rfl, fun _ => rfl⟩) fun fields named => ?_) run
  refine Py.wpc_mono (fun _ _ => trivial) (fun r s' w' done => ⟨done.1, ?_⟩)
    (handleModelRequest_requested sound loads named)
  cases r with
  | ok reply => exact ⟨fun _ => done.2, by simp⟩
  | error e => exact ⟨done.2.1, fun raised => done.2.2 (of_decide_eq_true raised), fun _ => rfl⟩

theorem Round.pushed (sound : Sound D β) (loads : LoadsBy D R) {name : PyStr} {data : Bytes}
    {j j' : Joint β} (running : j.exited = false)
    (round : Round D [encodeJson (Plugin.dataHeader name), data] j j') :
    Heard (Pushed R (joinSurrogates name) data j.server j'.server j'.store)
      (verdict "model_saved" "model_loaded" j'.pending) j' := by
  obtain ⟨⟨r, w', run, store, pending, exited⟩, -⟩ := round
  rw [running, Bool.false_or] at exited
  rw [Heard, exited, store, pending, Bool.not_eq_false', Bool.not_eq_true']
  refine Py.wpc_exec (serveOnce_modelData (O := fun normal s' store v => (normal = true →
    Pushed R (joinSurrogates name) data j.server s' store v) ∧ (normal = false → v = none))
    rfl rfl (fun _ => ⟨fun _ => .inl rfl, fun _ => rfl⟩) fun fields named => ?_) run
  refine Py.wpc_mono (fun _ _ => trivial) (fun r s' w' done => ⟨done.1, ?_⟩)
    (handleModelData_pushed sound loads named data)
  cases r with
  | ok reply => exact ⟨fun _ => done.2, by simp⟩
  | error e => exact ⟨done.2.1, fun raised => done.2.2 (of_decide_eq_true raised), fun _ => rfl⟩

theorem joint_steady {c : Plugin.ClientCall}
    (steady : ∀ r j', (joint D data).step j c r j' → j' = j ∧ ∃ a, r = .ok a)
    {Q : Except PyErr c.Answer → Plugin.ZmqIpcDetector → Joint β → Prop}
    (each : ∀ a, Q (.ok a) client j) :
    (Plugin.call c).wpc (joint D data) (fun _ => True) Q client j := by
  rw [Py.wpc_ask]
  intro r j' step
  obtain ⟨rfl, a, rfl⟩ := steady r j' step
  exact ⟨trivial, each a⟩

/-- A message and its reply: the server plays a round, unless the plugin has no socket. -/
theorem exchange_round (frames : List Bytes) (timeout : Int) :
    (Plugin.exchange frames timeout).wpc (joint D data) (fun _ => True) (fun r client' j' =>
      client' = client ∧ Py.either (fun reply => Round D frames j j' ∧ j'.pending = some reply)
        (fun e => e.IsException ∧
          (j' = j ∧ client.socket = none ∨ Round D frames j j' ∧ j'.pending = none)) r)
      client j := by
  rw [Plugin.exchange, Py.wpc_bind, Plugin.theSocket, Py.wpc_bind, Py.wpc_get, Py.either_ok]
  cases client.socket with
  | none => exact ⟨rfl, isException_exception _, .inl ⟨rfl, rfl⟩⟩
  | some socket =>
      rw [Py.wpc_pure, Py.either_ok, Py.wpc_bind, Py.wpc_ask]
      intro r j₁ step
      obtain ⟨rfl, round⟩ := step
      refine ⟨trivial, ?_⟩
      rw [Py.either_ok, Py.wpc_bind]
      refine joint_steady (c := .getRcvtimeo socket) (fun _ _ step => step) fun original => ?_
      rw [Py.either_ok, Py.wpc_bind]
      refine joint_steady (c := .setsockopt _ _) (fun _ _ step => step) fun _ => ?_
      rw [Py.either_ok, Py.wpc_andFinally, Py.wpc_ask]
      intro r j₂ step
      obtain ⟨rfl, received⟩ := step
      refine ⟨trivial, joint_steady (c := .setsockopt _ _) (fun _ _ step => step) fun _ => ⟨rfl, ?_⟩⟩
      cases r with
      | ok reply => exact ⟨round, received⟩
      | error e => exact ⟨received.2, .inr ⟨round, received.1⟩⟩

/-- The second exchange, if there is one: the plugin says yes where it reads that the model was
saved and loaded. -/
theorem sendModelData_pushes :
    Plugin.sendModelData.wpc (joint D data) (fun _ => True) (fun r _ j' => ∃ ok, r = .ok ok ∧
      (ok = false ∧ j' = j ∨
        Round D [encodeJson (Plugin.dataHeader client.modelName), data] j j' ∧
          (ok = true ↔ verdict "model_saved" "model_loaded" j'.pending = some (true, true))))
      client j := by
  rw [Plugin.sendModelData, wpc_exceptException, Py.wpc_bind, Py.wpc_get, Py.either_ok, Py.wpc_bind,
    Py.wpc_ask]
  intro r j₁ step
  obtain ⟨rfl, tame⟩ := step
  refine ⟨trivial, ?_⟩
  cases r with
  | error e =>
      rw [Py.either_error, Py.either_error, if_pos (tame e rfl)]
      exact ⟨false, rfl, .inl ⟨rfl, rfl⟩⟩
  | ok present =>
      rw [Py.either_ok, Py.wpc_ite]
      split
      · exact ⟨false, rfl, .inl ⟨rfl, rfl⟩⟩
      rw [Py.wpc_bind, Py.wpc_ask]
      intro r j₂ step
      obtain ⟨rfl, read⟩ := step
      refine ⟨trivial, ?_⟩
      cases r with
      | error e =>
          have caught : e.IsException := read
          rw [Py.either_error, Py.either_error, if_pos caught]
          exact ⟨false, rfl, .inl ⟨rfl, rfl⟩⟩
      | ok content =>
          obtain rfl : content = data := read
          rw [Py.either_ok, Py.wpc_bind]
          refine Py.wpc_mono (fun _ _ => trivial) (fun r client' j' done => ?_)
            (exchange_round [encodeJson (Plugin.dataHeader client.modelName), content] 30000)
          obtain ⟨-, outcome⟩ := done
          cases r with
          | error e =>
              obtain ⟨caught, ⟨untouched, -⟩ | ⟨round, lost⟩⟩ := outcome
              · rw [Py.either_error, Py.either_error, if_pos caught]
                exact ⟨false, rfl, .inl ⟨rfl, untouched⟩⟩
              · rw [Py.either_error, Py.either_error, if_pos caught]
                refine ⟨false, rfl, .inr ⟨round, ?_⟩⟩
                rw [lost]
                exact ⟨by rintro ⟨⟩, by rintro ⟨⟩⟩
          | ok frames =>
              obtain ⟨round, arrived⟩ := outcome
              rw [Py.either_ok]
              rcases frames with - | ⟨frame, - | ⟨second, rest⟩⟩
              · refine ⟨false, rfl, .inr ⟨round, ?_⟩⟩
                rw [arrived]
                exact ⟨by rintro ⟨⟩, by rintro ⟨⟩⟩
              · dsimp only
                rw [Py.wpc_bind, Py.wpc_ofExcept]
                cases read : Plugin.readReply "model_saved" "model_loaded" frame with
                | error e =>
                    rw [Py.either_error, Py.either_error,
                      if_pos (Plugin.tame_readReply _ _ _ e read)]
                    refine ⟨false, rfl, .inr ⟨round, ?_⟩⟩
                    rw [arrived, verdict, read]
                    exact ⟨by rintro ⟨⟩, by rintro ⟨⟩⟩
                | ok reply =>
                    refine ⟨_, rfl, .inr ⟨round, ?_⟩⟩
                    rw [arrived, verdict, read]
                    rcases reply with - | ⟨saved, loaded⟩
                    · exact ⟨by rintro ⟨⟩, by rintro ⟨⟩⟩
                    · simp [Except.toOption]
              · refine ⟨false, rfl, .inr ⟨round, ?_⟩⟩
                rw [arrived]
                exact ⟨by rintro ⟨⟩, by rintro ⟨⟩⟩

/-! ## Agreement -/

/-- The plugin's answer and the server's state after a handshake. -/
structure Agreement (R : PyStr → Bool → β → β → Prop) (name : PyStr) (data : Bytes) (j : Joint β)
    (ok : Bool) (j' : Joint β) : Prop where
  exchanges : j'.exchanges ≤ j.exchanges + 2
  exited : j'.exited = true → ok = false
  performed : ok = true →
    R (pathJoin j.server.modelsDir name) true j.server.backend j'.server.backend
  unserved : ok = false → j'.exited = false →
    Unserved R (pathJoin j.server.modelsDir name) j.server.backend j'.server.backend
  serving : ok = true → Serving name j'.server
  transferred : ok = true → j'.exchanges = j.exchanges + 2 →
    j'.store.files (pathJoin j.server.modelsDir name) = some data

omit [NumPy] in
/-- The plugin says no, and no load succeeded. -/
theorem Agreement.refused {name : PyStr} {j j' : Joint β} (exchanges : j'.exchanges ≤ j.exchanges + 2)
    (unserved : j'.exited = false →
      Unserved R (pathJoin j.server.modelsDir name) j.server.backend j'.server.backend) :
    Agreement R name data j false j' where
  exchanges := exchanges
  exited _ := rfl
  performed yes := by cases yes
  unserved _ := unserved
  serving yes := by cases yes
  transferred yes := by cases yes

omit [NumPy] in
/-- The plugin repeats what the server says about a file that was there. -/
theorem Agreement.loaded {name : PyStr} {ok : Bool} {j j' : Joint β}
    (exchanges : j'.exchanges = j.exchanges + 1) (running : j'.exited = false)
    (attempt : Attempt R name j.server j.store ok j'.server j'.store) :
    Agreement R name data j ok j' where
  exchanges := by omega
  exited exit := by rw [running] at exit; cases exit
  performed := attempt.performed
  unserved no _ := attempt.unserved no
  serving := attempt.serving
  transferred _ two := absurd two (by omega)

omit [NumPy] in
/-- The plugin repeats what the server says about a file that was sent. -/
theorem Agreement.sent {name : PyStr} {ok : Bool} {j j₁ j' : Joint β}
    (dir : j₁.server.modelsDir = j.server.modelsDir)
    (same : j₁.server.backend = j.server.backend) (exchanges : j'.exchanges = j.exchanges + 2)
    {v : Option (Bool × Bool)} (heard : Heard (Pushed R name data j₁.server j'.server j'.store) v j')
    (answer : ok = true ↔ v = some (true, true)) : Agreement R name data j ok j' := by
  obtain ⟨pushed, silent⟩ := heard
  rw [Pushed.eq_def, dir, same] at pushed
  cases ok with
  | false =>
      refine .refused exchanges.le fun running => ?_
      have done := pushed running
      rcases v with - | ⟨saved, loaded⟩
      · exact done
      · cases saved with
        | false => exact done
        | true =>
            cases loaded with
            | false => exact done
            | true => cases answer.mpr rfl
  | true =>
      obtain rfl : v = some (true, true) := answer.mp rfl
      have running : j'.exited = false := by
        by_contra exit
        cases silent (by simpa using exit)
      obtain ⟨performed, serving, file⟩ := pushed running
      exact {
        exchanges := exchanges.le
        exited := fun exit => by rw [running] at exit; cases exit
        performed := fun _ => performed
        unserved := fun no => by cases no
        serving := fun _ => serving
        transferred := fun _ _ => file }

theorem checkAndTransferModel_agrees (sound : Sound D β) (loads : LoadsBy D R)
    (running : j.exited = false) :
    Plugin.checkAndTransferModel.wpc (joint D data) (fun _ => True) (fun r _ j' => ∃ ok,
      r = .ok ok ∧ Agreement R (joinSurrogates client.modelName) data j ok j') client j := by
  rw [Plugin.checkAndTransferModel, wpc_exceptException, Py.wpc_bind, Py.wpc_get, Py.either_ok,
    Py.wpc_bind]
  refine Py.wpc_mono (fun _ _ => trivial) (fun r client' j₁ done => ?_)
    (exchange_round [encodeJson (Plugin.requestHeader client.modelName)] 30000)
  obtain ⟨rfl, outcome⟩ := done
  cases r with
  | error e =>
      obtain ⟨caught, ⟨untouched, -⟩ | ⟨round, lost⟩⟩ := outcome
      · rw [Py.either_error, Py.either_error, if_pos caught, untouched]
        exact ⟨false, rfl, .refused (by omega) fun _ => .inl rfl⟩
      · have requested := (round.requested sound loads running).1
        rw [lost] at requested
        rw [Py.either_error, Py.either_error, if_pos caught]
        exact ⟨false, rfl, .refused (by rw [round.exchanges]; omega) requested⟩
  | ok frames =>
      obtain ⟨round, arrived⟩ := outcome
      have requested := round.requested sound loads running
      have exchanges : j₁.exchanges ≤ j.exchanges + 2 := by
        rw [round.exchanges]
        omega
      rw [arrived] at requested
      rw [Py.either_ok]
      rcases frames with - | ⟨frame, - | ⟨second, rest⟩⟩
      · exact ⟨false, rfl, .refused exchanges requested.1⟩
      · dsimp only
        rw [Py.wpc_bind, Py.wpc_ofExcept]
        rw [verdict] at requested
        cases read : Plugin.readReply "model_available" "model_loaded" frame with
        | error e =>
            rw [read] at requested
            rw [Py.either_error, Py.either_error, if_pos (Plugin.tame_readReply _ _ _ e read)]
            exact ⟨false, rfl, .refused exchanges requested.1⟩
        | ok reply =>
            rw [read] at requested
            rw [Py.either_ok]
            rcases reply with - | ⟨available, loaded⟩
            · exact ⟨false, rfl, .refused exchanges requested.1⟩
            · have running₁ : j₁.exited = false := by
                by_contra exit
                cases requested.2 (by simpa using exit)
              have requested := requested.1 running₁
              cases available with
              | true => exact ⟨loaded, rfl, .loaded round.exchanges running₁ requested⟩
              | false =>
                  obtain ⟨dir, same⟩ := requested
                  dsimp only
                  rw [if_neg Bool.false_ne_true]
                  refine Py.wpc_mono (fun _ _ => trivial) (fun r _ j' done => ?_)
                    sendModelData_pushes
                  obtain ⟨ok, rfl, ⟨rfl, rfl⟩ | ⟨next, answer⟩⟩ := done
                  · exact ⟨false, rfl, .refused exchanges fun _ => .inl same⟩
                  · refine ⟨ok, rfl, .sent dir same ?_ (next.pushed sound loads running₁) answer⟩
                    rw [next.exchanges, round.exchanges]
      · exact ⟨false, rfl, .refused exchanges requested.1⟩

end Plugin

/-! ## A record of the loads -/

/-- A backend with a record of its loads: the paths it was given, and whether the load returned. -/
structure Recorded (β : Type) : Type where
  backend : β
  record : List (PyStr × Bool)

namespace Recorded

variable {β α : Type} [InferenceBackend β]

def inside (p : HostM β α) : HostM (Recorded β) α :=
  Py.zoom Recorded.backend (fun backend self => { self with backend }) p

def enter (load : PyStr × Bool) : HostM (Recorded β) Unit :=
  modify fun self => { self with record := self.record ++ [load] }

def load (modelPath : PyStr) : HostM (Recorded β) Unit :=
  Py.catching (do
    inside (InferenceBackend.load modelPath)
    enter (modelPath, true)) fun e => do
      enter (modelPath, false)
      throw e

instance : InferenceBackend (Recorded β) where
  load := load
  infer feeds := inside (InferenceBackend.infer feeds)
  loaded self := InferenceBackend.loaded self.backend
  inputNames := inside InferenceBackend.inputNames
  close := inside InferenceBackend.close

/-- The backend does what it does without the record, and the load is entered. -/
theorem wpc_load {W : Type} {E : Env Host W} {p : PyStr}
    {Q : Except PyErr Unit → Recorded β → W → Prop} {self : Recorded β} {w : W}
    (inner : (InferenceBackend.load p : HostM β Unit).wpc E (fun _ => True) (fun r b w' =>
      Q r ⟨b, self.record ++ [(p, r.isOk)]⟩ w') self.backend w) :
    (InferenceBackend.load p : HostM (Recorded β) Unit).wpc E (fun _ => True) Q self w := by
  change (load p).wpc _ _ _ _ _
  rw [load, Py.wpc_catching, Py.wpc_bind, inside, Py.wpc_zoom]
  refine Py.wpc_mono (fun _ _ => trivial) (fun r b w' done => ?_) inner
  cases r with
  | ok _ =>
      rw [Py.either_ok, enter, Py.wpc_modify, Py.either_ok]
      exact done
  | error e =>
      rw [Py.either_error, Py.either_error, Py.wpc_bind, enter, Py.wpc_modify, Py.either_ok,
        Py.wpc_throw]
      exact done

/-- One more load was entered. -/
def Enters (p : PyStr) (ok : Bool) (b b' : Recorded β) : Prop := b'.record = b.record ++ [(p, ok)]

theorem loadsBy (D : Env Host Store) : LoadsBy D (Enters : PyStr → Bool → Recorded β → _ → Prop) :=
  fun _ _ _ => wpc_load (Py.wpc_mono (fun _ _ => trivial) (fun _ _ _ _ => rfl)
    (Py.wpc_invariant (fun _ _ _ _ _ _ => trivial) _ trivial))

theorem sound {D : Env Host Store} (sound : Sound D β) : Sound D (Recorded β) where
  files := sound.files
  load p self w := wpc_load (Py.wpc_mono (fun _ _ => trivial)
    (fun _ _ _ installs => ⟨installs.spares, installs.loaded⟩) (sound.load p self.backend w))

end Recorded

/-- The server with a record in which nothing has been entered. -/
def ZmqOnnxClient.recording {β : Type} (self : ZmqOnnxClient β) : ZmqOnnxClient (Recorded β) :=
  { self with backend := ⟨self.backend, []⟩ }

/-- The plugin's answer `ok` to a handshake for a model with this content, and the server after it. -/
structure Agreed [NumPy] (server : ZmqOnnxClient Backend) (name : PyStr) (data : Bytes) (ok : Bool)
    (j' : Joint (Recorded Backend)) : Prop where
  exchanges : j'.exchanges ≤ 2
  /-- The last load was of this model, and returned. -/
  outcome : j'.exited = false → (ok = true ↔
    j'.server.backend.record.getLast? = some (pathJoin server.modelsDir name, true))
  exited : j'.exited = true → ok = false
  serving : ok = true → Serving name j'.server
  transferred : ok = true → j'.exchanges = 2 →
    j'.store.files (pathJoin server.modelsDir name) = some data

/-- In every run of a handshake in which no message is lost, the plugin says yes if and only if the
last load that the server's backend performed was of this model and succeeded. The server then
serves the model under the name that arrives, and holds the plugin's own bytes where these were
sent. A server that is asked to exit in the middle of a round sends no reply, and the plugin says
no. -/
theorem handshake_agreement [NumPy] {store : Store} {server : ZmqOnnxClient Backend} {data : Bytes}
    {client client' : Plugin.ZmqIpcDetector} {r : Except PyErr Bool} {j' : Joint (Recorded Backend)}
    (run : Plugin.checkAndTransferModel.Exec (joint disk data) client (.start server.recording store)
      r client' j') :
    ∃ ok, r = .ok ok ∧ Agreed server (joinSurrogates client.modelName) data ok j' := by
  obtain ⟨ok, answered, agreement⟩ := Py.wpc_exec
    (checkAndTransferModel_agrees (Recorded.sound disk_sound) (Recorded.loadsBy disk) rfl) run
  have exchanges : j'.exchanges ≤ 2 := by simpa [Joint.start] using agreement.exchanges
  refine ⟨ok, answered, exchanges, fun running => ?_, agreement.exited, agreement.serving,
    fun yes two => agreement.transferred yes (by simpa [Joint.start] using two)⟩
  have begun : (Joint.start server.recording store).server.backend.record = [] := rfl
  cases ok with
  | true =>
      have entered := agreement.performed rfl
      rw [Recorded.Enters, begun] at entered
      exact iff_of_true rfl (by rw [entered]; rfl)
  | false =>
      refine iff_of_false Bool.false_ne_true ?_
      rcases agreement.unserved rfl running with same | entered
      · rw [same, begun]
        simp
      · rw [Recorded.Enters, begun] at entered
        rw [entered]
        simp

/-! ## Example runs -/

namespace DiskScript

/-- The server's surroundings on a disk. -/
def serve (script : DiskScript) (w : Wire) : (c : ServerCall) → Except PyErr c.Answer
  | .host c => script.answer w.store c
  | .recvMultipart _ => w.incoming.elim (.error Plugin.zmqAgain) .ok
  | .newSocket => .ok 1
  | .bind _ _ | .sendMultipart _ _ | .closeSocket _ | .newContext | .setsockopt _ _ | .termContext =>
    .ok ()

def noteWire (script : DiskScript) (w : Wire) (c : ServerCall) (r : Except PyErr c.Answer) : Wire :=
  match c with
  | .host c => w.over (script.note w.store c r)
  | .recvMultipart _ => { w with incoming := none }
  | .sendMultipart _ frames => { w with outgoing := w.outgoing ++ [frames] }
  | _ => w

/-- The script answers as `D` allows. -/
def Lawful (script : DiskScript) (D : Env Host Store) : Prop :=
  ∀ w c, D.step w c (script.answer w c) (script.note w c (script.answer w c))

theorem legal_serve {script : DiskScript} {D : Env Host Store} (lawful : script.Lawful D) (w : Wire)
    (c : ServerCall) :
    (wire D).step w c (script.serve w c) (script.noteWire w c (script.serve w c)) := by
  cases c with
  | host c => exact ⟨_, lawful w.store c, rfl⟩
  | recvMultipart socket => exact ⟨rfl, rfl⟩
  | sendMultipart socket frames => exact ⟨rfl, rfl⟩
  | _ => exact rfl

section

attribute [local instance] NumPy.reference

variable {β : Type} [InferenceBackend β]

/-- The round that answers a message. -/
def round (script : DiskScript) (frames : List Bytes) (server : ZmqOnnxClient β) (store : Store) :
    (Except PyErr Next × ZmqOnnxClient β) × Wire :=
  serveOnce.answering script.noteWire script.serve server ⟨store, some frames, []⟩

theorem exec_round {script : DiskScript} {D : Env Host Store} (lawful : script.Lawful D)
    (frames : List Bytes) (server : ZmqOnnxClient β) (store : Store) {r : Except PyErr Next}
    (outcome : (script.round frames server store).1.1 = r) :
    serveOnce.Exec (wire D) server ⟨store, some frames, []⟩ r (script.round frames server store).1.2
      (script.round frames server store).2 :=
  Py.exec_answering (legal_serve lawful) _ _ _ outcome

/-- The plugin's surroundings, with what its own model file holds if it is there. -/
def attend (there : Bool) (data : Bytes) (j : Joint β) : (c : Plugin.ClientCall) → Except PyErr c.Answer
  | .recvMultipart _ => j.pending.elim (.error Plugin.zmqAgain) .ok
  | .exists _ => .ok there
  | .readFile _ => if there then .ok data else .error (exception "No such file or directory")
  | .newSocket => .ok 1
  | .getRcvtimeo _ => .ok 5000
  | .monotonic => .ok 0
  | .closeSocket _ _ | .setsockopt _ _ | .connect _ _ | .sendMultipart _ _ | .log _ => .ok ()

def noteJoint (script : DiskScript) (j : Joint β) (c : Plugin.ClientCall)
    (_ : Except PyErr c.Answer) : Joint β :=
  match c with
  | .sendMultipart _ frames =>
    let served := script.round frames j.server j.store
    ⟨served.1.2, served.2.store, served.2.outgoing.head?, j.exchanges + 1,
      j.exited || !served.1.1.isOk⟩
  | _ => j

theorem legal_attend {script : DiskScript} {D : Env Host Store} (lawful : script.Lawful D)
    (there : Bool) (data : Bytes) (j : Joint β) (c : Plugin.ClientCall) :
    (joint D data).step j c (attend there data j c)
      (script.noteJoint j c (attend there data j c)) := by
  cases c with
  | sendMultipart socket frames =>
      have played := exec_round lawful frames j.server j.store rfl
      exact ⟨rfl, ⟨_, _, played, rfl, rfl, rfl⟩, rfl⟩
  | recvMultipart socket =>
      refine ⟨rfl, ?_⟩
      cases pending : j.pending with
      | none => simp [attend, pending, Plugin.zmqAgain, PyErr.IsException]
      | some reply => simp [attend, pending]
  | «exists» path => exact ⟨rfl, .ok _⟩
  | readFile path =>
      refine ⟨rfl, ?_⟩
      cases there with
      | false => exact isException_exception _
      | true => rfl
  | _ => exact ⟨rfl, _, rfl⟩

/-- A handshake. -/
def handshake (script : DiskScript) (there : Bool) (data : Bytes) (client : Plugin.ZmqIpcDetector) (j : Joint β) :
    (Except PyErr Bool × Plugin.ZmqIpcDetector) × Joint β :=
  Plugin.checkAndTransferModel.answering script.noteJoint (attend there data) client j

theorem exec_handshake {script : DiskScript} {D : Env Host Store} (lawful : script.Lawful D)
    (there : Bool) (data : Bytes) (client : Plugin.ZmqIpcDetector) (j : Joint β) :
    Plugin.checkAndTransferModel.Exec (joint D data) client j
      (script.handshake there data client j).1.1 (script.handshake there data client j).1.2
      (script.handshake there data client j).2 :=
  Py.exec_answering (legal_attend lawful there data) _ _ _ rfl

end

end DiskScript

section

attribute [local instance] NumPy.reference

/-- A server without a model, on the CPU. -/
def idle : ZmqOnnxClient Backend :=
  ⟨py "tcp://*:5555", py "models", none, false, true, some 1, .ort (cpuBackend none)⟩

def emptyStore : Store := ⟨fun _ => none, fun _ => 0, []⟩

def plugin (name : PyStr) : Plugin.ZmqIpcDetector :=
  ⟨⟨py "tcp://detector:5555", 200, 0, py "/config/" ++ name, py "yolo-generic"⟩, some 1, false, name,
    0⟩

/-- Every file that is not empty is a model. -/
def healthy : DiskScript := ⟨fun content => !content.isEmpty, none⟩

/-- A handshake for a model that the server does not have. -/
def transfer : (Except PyErr Bool × Plugin.ZmqIpcDetector) × Joint (Recorded Backend) :=
  healthy.handshake true [8, 9] (plugin (py "m.onnx")) (.start idle.recording emptyStore)

theorem handshake_agreement_ok : transfer.1.1 = .ok true ∧ transfer.2.exchanges = 2 ∧
    ∃ ok, transfer.1.1 = .ok ok ∧
      Agreed idle (joinSurrogates (plugin (py "m.onnx")).modelName) [8, 9] ok transfer.2 := by
  have answered : transfer.1.1 = .ok true := by decide +kernel
  have exchanges : transfer.2.exchanges = 2 := by decide +kernel
  have run : Plugin.checkAndTransferModel.Exec (joint disk [8, 9]) (plugin (py "m.onnx"))
      (.start idle.recording emptyStore) transfer.1.1 transfer.1.2 transfer.2 := by
    unfold transfer
    exact DiskScript.exec_handshake healthy.legal true [8, 9] (plugin (py "m.onnx"))
      (.start idle.recording emptyStore)
  exact ⟨answered, exchanges, handshake_agreement run⟩

/-- A name in which a character is written as two halves. -/
def splitName : PyStr := [0xD83D, 0xDE00]

/-- The models directory of a server that has a model with that character for a name. -/
def smileStore : Store :=
  { emptyStore with files := Function.update emptyStore.files (py "models/" ++ [0x1F600]) (some [8]) }

/-- A handshake of a plugin that has no file of that name, since no file can have it. -/
def adoption : (Except PyErr Bool × Plugin.ZmqIpcDetector) × Joint (Recorded Backend) :=
  healthy.handshake false [] (plugin splitName) (.start idle.recording smileStore)

theorem adoption_current : adoption.2.server.currentModel.any (fun model => match model with
    | .str s => decide (s = splitName)
    | _ => false) = false := by
  decide +kernel

/-- The server has the model, the handshake succeeds, and the server serves the model under another
name than the plugin's. -/
theorem handshake_renames : ∃ client' j',
    Plugin.checkAndTransferModel.Exec (joint disk []) (plugin splitName)
      (.start idle.recording smileStore) (.ok true) client' j' ∧
    j'.server.currentModel ≠ some (.str (plugin splitName).modelName) := by
  have answered : adoption.1.1 = .ok true := by decide +kernel
  have renamed := adoption_current
  have run : Plugin.checkAndTransferModel.Exec (joint disk []) (plugin splitName)
      (.start idle.recording smileStore) adoption.1.1 adoption.1.2 adoption.2 := by
    unfold adoption
    exact DiskScript.exec_handshake healthy.legal false [] (plugin splitName)
      (.start idle.recording smileStore)
  rw [answered] at run
  refine ⟨_, _, run, fun same => ?_⟩
  rw [same] at renamed
  cases renamed

end

end Detector
