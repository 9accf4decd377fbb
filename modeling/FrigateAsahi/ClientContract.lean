import FrigateAsahi.ZmqIpcDetector

/-!
# What a call of `detect_raw` returns

An observer of one call keeps three notes: whether a message was sent, whether making a socket
failed before that, and the last reply. `detectRaw_fulfilled_iff` says of every run from every state
that the call returns an array of shape `(20, 6)` and type `float32` exactly when no socket failed to
be made before the first message and the reply to the tensor, if one came, does not describe another
array.
-/

namespace Plugin

open Text Python Numpy Interaction

/-! ## Exceptions of the client -/

section Tame

variable {W : Type} {E : Env Client W}

/-- No call answers with an exit request. -/
def TameEnv (E : Env Client W) : Prop :=
  ∀ w c r w', E.step w c r w' → ∀ e, r = .error e → e.IsException

/-- Whatever leaves the method is an `Exception`. -/
abbrev Tame {α : Type} (E : Env Client W) (p : ClientM α) : Prop :=
  Py.Raises E PyErr.IsException p

/-- An outcome that is no exit request. -/
abbrev TameOutcome {α : Type} (r : Except PyErr α) : Prop := Py.ErrorIn PyErr.IsException r

theorem tame_call (env : TameEnv E) (c : ClientCall) : Tame E (call c) := by
  exact Py.Raises.ask fun w r w' step => env w c r w' step

theorem tame_theSocket : Tame E theSocket := by
  refine Py.Raises.bind Py.Raises.get fun self => ?_
  cases self.socket with
  | none => exact Py.Raises.throw (isException_exception _)
  | some socket => exact Py.Raises.pure socket

theorem tame_exchange (env : TameEnv E) (frames : List Bytes) (timeout : Int) :
    Tame E (exchange frames timeout) :=
  tame_theSocket.bind fun _ => (tame_call env _).bind fun _ => (tame_call env _).bind fun _ =>
    (tame_call env _).bind fun _ => Py.Raises.andFinally (tame_call env _) (tame_call env _)

theorem tame_members (v : Json) : TameOutcome (members v) := by
  cases v with
  | obj fields => exact .ok fields
  | _ => exact .error (isException_exception _)

theorem tame_readReply [Interpreter] (first second : String) (frame : Bytes) :
    TameOutcome (readReply first second frame) := by
  unfold readReply
  split
  · exact .ok none
  · exact .error (isException_decodeErr _)
  · exact .error (isException_decodeErr _)
  · exact (tame_members _).bind fun fields => .ok _

theorem tame_newSocket (env : TameEnv E) : Tame E newSocket :=
  Py.Raises.get.bind fun _ => (tame_call env _).bind fun _ => (Py.Raises.modify _).bind fun _ =>
    (tame_call env _).bind fun _ => (tame_call env _).bind fun _ => (tame_call env _).bind fun _ =>
      tame_call env _

theorem tame_createSocket (env : TameEnv E) : Tame E createSocket := by
  refine Py.Raises.get.bind fun self => ?_
  cases self.socket with
  | none => exact tame_newSocket env
  | some old =>
      exact (raises_exceptException (tame_call env _) fun _ => Py.Raises.pure ()).bind fun _ =>
        tame_newSocket env

theorem tame_sendModelData [Interpreter] (env : TameEnv E) : Tame E sendModelData := by
  refine raises_exceptException (Py.Raises.get.bind fun self => (tame_call env _).bind fun present => ?_)
    fun _ => Py.Raises.pure false
  refine Py.Raises.ite (Py.Raises.pure false) ((tame_call env _).bind fun modelData =>
    (tame_exchange env _ _).bind fun frames => ?_)
  split
  · exact (Py.Raises.ofExcept (tame_readReply _ _ _)).bind fun reply => Py.Raises.pure _
  · exact Py.Raises.pure false

theorem tame_checkAndTransferModel [Interpreter] (env : TameEnv E) : Tame E checkAndTransferModel := by
  refine raises_exceptException (Py.Raises.get.bind fun self => (tame_exchange env _ _).bind
    fun frames => ?_) fun _ => Py.Raises.pure false
  split
  · refine (Py.Raises.ofExcept (tame_readReply _ _ _)).bind fun reply => ?_
    cases reply with
    | none => exact Py.Raises.pure false
    | some answer => exact Py.Raises.ite (Py.Raises.pure _) (tame_sendModelData env)
  · exact Py.Raises.pure false

theorem tame_request [NumPy] (env : TameEnv E) (tensorInput : NdArray) :
    Tame E (request tensorInput) :=
  Py.Raises.get.bind fun _ => tame_theSocket.bind fun _ => (tame_call env _).bind fun _ =>
    (tame_call env _).bind fun _ => Py.Raises.pure _

end Tame

/-! ## The observer of one call -/

structure Watch : Type where
  sent : Bool
  /-- Making a socket raised before anything was sent. -/
  openingFailed : Bool
  /-- What the last call received. -/
  lastReply : Option (List Bytes)

def isSend : ClientCall → Bool
  | .sendMultipart _ _ => true
  | _ => false

/-- The calls that make a socket ready for use. -/
def isOpening : ClientCall → Bool
  | .newSocket | .setsockopt _ _ | .connect _ _ => true
  | _ => false

def isError {α : Type} : Except PyErr α → Bool
  | .ok _ => false
  | .error _ => true

@[simp] theorem isError_ok {α : Type} (a : α) : isError (.ok a) = false := rfl

@[simp] theorem isError_error {α : Type} (e : PyErr) : isError (.error e : Except PyErr α) = true :=
  rfl

def received : (c : ClientCall) → Except PyErr c.Answer → Option (List Bytes)
  | .recvMultipart _, .ok frames => some frames
  | _, _ => none

def Watch.note (w : Watch) (c : ClientCall) (r : Except PyErr c.Answer) : Watch where
  sent := w.sent || isSend c
  openingFailed := w.openingFailed || (!w.sent && isOpening c && isError r)
  lastReply := received c r

/-- Reading the clock and logging never fail; whatever else fails raises an `Exception`. -/
def Steady : (c : ClientCall) → Except PyErr c.Answer → Prop
  | .monotonic, r => isError r = false
  | .log _, r => isError r = false
  | _, .ok _ => True
  | _, .error e => e.IsException

/-- Anything may be answered. -/
def watching : Env Client Watch := .noting (fun _ c r => Steady c r) Watch.note

def Watch.start : Watch := ⟨false, false, none⟩

/-- A fixed answer to each kind of call. -/
structure Script : Type where
  newSocket : Except PyErr Nat
  recv : Except PyErr (List Bytes)
  clock : Int

def Script.answer (script : Script) : (c : ClientCall) → Except PyErr c.Answer
  | .newSocket => script.newSocket
  | .recvMultipart _ => script.recv
  | .monotonic => .ok script.clock
  | .getRcvtimeo _ => .ok 200
  | .exists _ => .ok true
  | .readFile _ => .ok [0]
  | .closeSocket _ _ | .setsockopt _ _ | .connect _ _ | .sendMultipart _ _ | .log _ => .ok ()

theorem Script.steady {script : Script} (newSocket : TameOutcome script.newSocket)
    (recv : TameOutcome script.recv) (c : ClientCall) : Steady c (script.answer c) := by
  rcases script with ⟨new, rec, clock⟩
  cases c <;> try trivial
  · cases new with
    | ok _ => trivial
    | error e => exact newSocket e rfl
  · cases rec with
    | ok _ => trivial
    | error e => exact recv e rfl

theorem watching_tame : TameEnv watching := by
  rintro w c r w' ⟨steady, -⟩ e rfl
  cases c <;> first | exact steady | simp [Steady] at steady

/-- Once a message is out, no failure to make a socket counts. -/
theorem watching_sent (b : Bool) (w : Watch) (c : ClientCall) (r : Except PyErr c.Answer)
    (w' : Watch) (step : watching.step w c r w') (before : w.sent = true ∧ w.openingFailed = b) :
    w'.sent = true ∧ w'.openingFailed = b := by
  obtain ⟨-, rfl⟩ := step
  simp [Watch.note, before.1, before.2]

/-- A method that makes a socket: it sends and receives nothing, and it is noted when it raises
before anything was sent. -/
def Opens {α : Type} (p : ClientM α) : Prop :=
  ∀ s w, w.lastReply = none → p.wpc watching (fun _ => True) (fun r _ w' => w'.lastReply = none ∧
    w'.sent = w.sent ∧ w'.openingFailed = (w.openingFailed || (!w.sent && isError r))) s w

namespace Opens

variable {α β : Type}

theorem pure (a : α) : Opens (pure a) := fun _ _ none => ⟨none, rfl, by simp⟩

theorem get : Opens get := fun _ _ none => ⟨none, rfl, by simp⟩

theorem modify (f : ZmqIpcDetector → ZmqIpcDetector) : Opens (modify f) :=
  fun _ _ none => ⟨none, rfl, by simp⟩

theorem bind {p : ClientM β} {f : β → ClientM α} (first : Opens p) (rest : ∀ b, Opens (f b)) :
    Opens (p >>= f) := by
  intro s w start
  rw [Py.wpc_bind]
  refine Py.wpc_mono (fun _ _ => trivial) (fun r s' w' noted => ?_) (first s w start)
  obtain ⟨none, sent, failed⟩ := noted
  cases r with
  | error e => exact ⟨none, sent, failed⟩
  | ok b =>
      rw [isError_ok, Bool.and_false, Bool.or_false] at failed
      rw [Py.either_ok, ← sent, ← failed]
      exact rest b s' w' none

theorem call {c : ClientCall} (opening : isOpening c = true) : Opens (call c) := by
  rintro s w none r w' ⟨-, rfl⟩
  cases c <;> simp_all [isOpening, Watch.note, isSend, received]

end Opens

theorem opens_newSocket : Opens newSocket :=
  Opens.get.bind fun _ => (Opens.call rfl).bind fun _ => (Opens.modify _).bind fun _ =>
    (Opens.call rfl).bind fun _ => (Opens.call rfl).bind fun _ => (Opens.call rfl).bind fun _ =>
      Opens.call rfl

theorem opens_createSocket : Opens createSocket := by
  refine Opens.get.bind fun self => ?_
  cases self.socket with
  | none => exact opens_newSocket
  | some old =>
      refine Opens.bind ?_ fun _ => opens_newSocket
      -- An exception of the close is swallowed, and closing is not opening.
      intro s w none
      rw [wpc_exceptException]
      rintro r w' ⟨steady, rfl⟩
      cases r with
      | ok _ => simp [Watch.note, isOpening, isSend, received]
      | error e =>
          have caught : e.IsException := steady
          simp [caught, Watch.note, isOpening, isSend, received]

/-! ## The handshake -/

/-- The first call of an exchange is a send. -/
theorem exchange_sends (frames : List Bytes) (timeout : Int) (s : ZmqIpcDetector) (w : Watch) :
    (exchange frames timeout).wpc watching (fun _ => True) (fun r _ w' =>
      w'.openingFailed = w.openingFailed ∧ (isError r = false → w'.sent = true)) s w := by
  rw [exchange, Py.wpc_bind, theSocket, Py.wpc_bind, Py.wpc_get, Py.either_ok]
  cases s.socket with
  | none => exact ⟨rfl, nofun⟩
  | some socket =>
      rw [Py.wpc_pure, Py.either_ok, Py.wpc_bind, Py.wpc_ask]
      rintro r w' ⟨-, rfl⟩
      have noted : (w.note (.sendMultipart socket frames) r).sent = true ∧
          (w.note (.sendMultipart socket frames) r).openingFailed = w.openingFailed := by
        simp [Watch.note, isSend, isOpening]
      cases r with
      | error e => exact ⟨trivial, noted.2, nofun⟩
      | ok _ =>
          refine ⟨trivial, ?_⟩
          rw [Py.either_ok]
          exact Py.wpc_mono (fun _ _ => trivial) (fun _ _ _ kept => ⟨kept.2, fun _ => kept.1⟩)
            (Py.wpc_invariant (watching_sent w.openingFailed) _ noted)

theorem checkAndTransferModel_opening [Interpreter] (s : ZmqIpcDetector) (w : Watch) :
    checkAndTransferModel.wpc watching (fun _ => True)
      (fun _ _ w' => w'.openingFailed = w.openingFailed) s w := by
  rw [checkAndTransferModel, wpc_exceptException, Py.wpc_bind, Py.wpc_get, Py.either_ok,
    Py.wpc_bind]
  refine Py.wpc_mono (fun _ _ => trivial) (fun r s' w' noted => ?_) (exchange_sends _ _ s w)
  obtain ⟨same, sent⟩ := noted
  cases r with
  | error e =>
      rw [Py.either_error, Py.either_error]
      split
      · exact same
      · exact same
  | ok frames =>
      rw [Py.either_ok]
      refine Py.wpc_mono (fun _ _ => trivial) (fun r s'' w'' kept => ?_)
        (Py.wpc_invariant (watching_sent w.openingFailed) _ ⟨sent rfl, same⟩)
      cases r with
      | ok _ => exact kept.2
      | error e =>
          rw [Py.either_error]
          split
          · exact kept.2
          · exact kept.2

theorem wpc_log {Q : Except PyErr Unit → ZmqIpcDetector → Watch → Prop} (line : LogLine)
    (s : ZmqIpcDetector) (w : Watch) :
    (call (.log line)).wpc watching (fun _ => True) Q s w ↔
      Q (.ok ()) s (w.note (.log line) (.ok ())) := by
  rw [Py.wpc_ask]
  constructor
  · exact fun all => (all (.ok ()) _ ⟨rfl, rfl⟩).2
  · rintro post r w' ⟨steady, rfl⟩
    cases r with
    | ok _ => exact ⟨trivial, post⟩
    | error e => cases steady

/-- A handshake never raises, and its last call is a log line. -/
theorem initializeModel_spec [Interpreter] (s : ZmqIpcDetector) (w : Watch) :
    initializeModel.wpc watching (fun _ => True) (fun r _ w' => r = .ok () ∧ w'.lastReply = none ∧
      w'.openingFailed = w.openingFailed ∧ (w.sent = true → w'.sent = true)) s w := by
  have sent : ∀ (u : Watch) c r u', watching.step u c r u' → (w.sent = true → u.sent = true) →
      (w.sent = true → u'.sent = true) := by
    rintro u c r u' ⟨-, rfl⟩ before start
    simp [Watch.note, before start]
  rw [initializeModel, wpc_exceptException, Py.wpc_bind]
  refine Py.wpc_mono (fun _ _ => trivial) (fun r s' w' noted => ?_)
    (Py.wpc_and (tame_checkAndTransferModel watching_tame s w)
      (Py.wpc_and (checkAndTransferModel_opening s w) (Py.wpc_invariant sent _ fun start => start)))
  obtain ⟨tame, same, kept⟩ := noted
  cases r with
  | error e =>
      have caught : e.IsException := tame
      rw [Py.either_error, Py.either_error, if_pos caught, wpc_log]
      simpa [Watch.note, isOpening, isSend, received] using ⟨same, kept⟩
  | ok ready =>
      rw [Py.either_ok, Py.wpc_ite]
      split
      · rw [Py.wpc_bind, wpc_log, Py.either_ok, Py.wpc_modify, Py.either_ok]
        simpa [Watch.note, isOpening, isSend, received] using ⟨same, kept⟩
      · rw [wpc_log, Py.either_ok]
        simpa [Watch.note, isOpening, isSend, received] using ⟨same, kept⟩

/-! ## Socket and handshake again -/

theorem recover_spec [Interpreter] (s : ZmqIpcDetector) (w : Watch) (sent : w.sent = true)
    (idle : w.lastReply = none) :
    recover.wpc watching (fun _ => True) (fun r _ w' =>
      r = .ok zeroResult ∧ w'.lastReply = none ∧ w'.openingFailed = w.openingFailed) s w := by
  rw [recover, Py.wpc_bind, wpc_exceptException, Py.wpc_bind]
  refine Py.wpc_mono (fun _ _ => trivial) (fun r s' w' noted => ?_)
    (Py.wpc_and (tame_createSocket watching_tame s w) (opens_createSocket s w idle))
  obtain ⟨tame, idle', sent', opening⟩ := noted
  rw [sent, Bool.not_true, Bool.false_and, Bool.or_false] at opening
  cases r with
  | error e =>
      have caught : e.IsException := tame
      rw [Py.either_error, Py.either_error, if_pos caught]
      exact ⟨rfl, idle', opening⟩
  | ok _ =>
      rw [Py.either_ok]
      refine Py.wpc_mono (fun _ _ => trivial) (fun r s'' w'' noted => ?_)
        (initializeModel_spec s' w')
      obtain ⟨rfl, idle'', opening', -⟩ := noted
      exact ⟨rfl, idle'', opening'.trans opening⟩

theorem ensureReady_spec [Interpreter] (s : ZmqIpcDetector) :
    ensureReady.wpc watching (fun _ => True) (fun r _ w' =>
      w'.lastReply = none ∧ w'.openingFailed = isError r) s .start := by
  rw [ensureReady, Py.wpc_bind, Py.wpc_get, Py.either_ok, Py.wpc_ite]
  split
  · exact ⟨rfl, rfl⟩
  · rw [Py.wpc_bind, Py.wpc_ask]
    rintro r w ⟨steady, rfl⟩
    cases r with
    | error e => cases steady
    | ok now =>
        refine ⟨trivial, ?_⟩
        rw [Py.either_ok, Py.wpc_ite]
        split
        · rw [Py.wpc_bind, Py.wpc_modify, Py.either_ok, Py.wpc_bind]
          refine Py.wpc_mono (fun _ _ => trivial) (fun r s' w' noted => ?_)
            (opens_createSocket _ _ rfl)
          obtain ⟨idle, -, opening⟩ := noted
          cases r with
          | error e => exact ⟨idle, opening⟩
          | ok _ =>
              rw [Py.either_ok, Py.wpc_bind]
              refine Py.wpc_mono (fun _ _ => trivial) (fun r s'' w'' noted => ?_)
                (initializeModel_spec s' w')
              obtain ⟨rfl, idle', opening', -⟩ := noted
              exact ⟨idle', opening'.trans opening⟩
        · exact ⟨rfl, rfl⟩

/-! ## Decoding a reply -/

/-- What a caller of the plugin expects. -/
def IsDetections (a : NdArray) : Prop := a.shape = [20, 6] ∧ a.dtype = .float32

instance (a : NdArray) : Decidable (IsDetections a) := inferInstanceAs (Decidable (_ ∧ _))

theorem isDetections_zeroResult : IsDetections zeroResult := ⟨rfl, rfl⟩

section Decoding

variable [NumPy]

/-- The reply has a header that the interpreter can read and whose type and shape its second frame
fills, and these are not the type and shape of detections. -/
def Misdescribed : List Bytes → Prop
  | headerBytes :: payload :: _ =>
    ∃ fields shape descr flat a, jsonLoads headerBytes = .ok (.obj fields) ∧
      tuple (getD fields "shape" (.arr [])) = .ok shape ∧
      NumPy.dtype (getD fields "dtype" (.str (py "float32"))) = some descr ∧
      frombuffer payload descr = .ok flat ∧ flat.reshape shape = .ok a ∧ ¬ IsDetections a
  | _ => False

theorem withShape_detections {buf : Bytes} (full : buf.length = 480) :
    ∃ flat a, frombuffer buf ⟨.float32, []⟩ = .ok flat ∧ flat.withShape [20, 6] = .ok a ∧
      IsDetections a := by
  have two := NumPy.two_le_maxdims
  have size : (⟨Dtype.float32, []⟩ : Descr).itemsize = 4 := rfl
  obtain ⟨flat, made, shape, dtype, -⟩ := @frombuffer_ok _ buf ⟨.float32, []⟩ rfl
    (by simp [size]) (by simp only [List.length_nil]; omega) (by rw [size, full])
  have resolved : resolve flat.size [20, 6] = some [20, 6] := by
    rw [NdArray.size, shape, size, full]
    decide
  have few : ([20, 6] : List Int).length ≤ NumPy.maxdims := two
  obtain ⟨a, shaped, shape', dtype', -⟩ := NdArray.withShape_ok few resolved
  exact ⟨flat, a, made, shaped, shape', dtype'.trans dtype⟩

theorem misdescribed_iff (headerBytes payload : Bytes) (rest : List Bytes) :
    Misdescribed (headerBytes :: payload :: rest) ↔
      ∃ a, tryDecodeResponse (headerBytes :: payload :: rest) = .ok a ∧ ¬ IsDetections a := by
  simp only [Misdescribed, tryDecodeResponse, bind_eq_ok, members_eq_ok, elim_eq_ok]
  constructor
  · rintro ⟨fields, shape, descr, flat, a, header, tupled, typed, made, shaped, other⟩
    exact ⟨a, ⟨_, header, fields, rfl, shape, tupled, descr, typed, flat, made, shaped⟩, other⟩
  · rintro ⟨a, ⟨_, header, fields, rfl, shape, tupled, descr, typed, flat, made, shaped⟩, other⟩
    exact ⟨fields, shape, descr, flat, a, header, tupled, typed, made, shaped, other⟩

/-- Decoding gives detections unless the reply describes another array. -/
theorem isDetections_decodeResponse_iff (frames : List Bytes) :
    IsDetections (decodeResponse frames) ↔ ¬ Misdescribed frames := by
  rcases frames with _ | ⟨buf, _ | ⟨payload, rest⟩⟩
  · exact iff_of_true isDetections_zeroResult not_false
  · refine iff_of_true ?_ not_false
    by_cases full : buf.length = 480
    · obtain ⟨flat, a, made, shaped, detections⟩ := withShape_detections full
      have decoded : tryDecodeResponse [buf] = .ok a := by
        simp only [tryDecodeResponse, full, ne_eq, not_true, if_false, made]
        exact shaped
      simpa only [decodeResponse, decoded] using detections
    · simpa only [decodeResponse, tryDecodeResponse, ne_eq, full, not_false_iff, if_true] using
        isDetections_zeroResult
  · rw [misdescribed_iff, decodeResponse]
    cases tryDecodeResponse (buf :: payload :: rest) with
    | error e => simpa using isDetections_zeroResult
    | ok a => simp

/-! ## The call -/

theorem request_spec (tensorInput : NdArray) (s : ZmqIpcDetector) (w : Watch)
    (idle : w.lastReply = none) :
    (request tensorInput).wpc watching (fun _ => True) (fun r _ w' =>
      w'.openingFailed = w.openingFailed ∧
        Py.either (fun a => ∃ frames, w'.lastReply = some frames ∧ a = decodeResponse frames)
          (fun e => w'.lastReply = none ∧ (e.IsZmqError → w'.sent = true)) r) s w := by
  rw [request, Py.wpc_bind, Py.wpc_get, Py.either_ok, Py.wpc_bind, theSocket, Py.wpc_bind,
    Py.wpc_get, Py.either_ok]
  cases s.socket with
  | none => exact ⟨rfl, idle, by simp [PyErr.IsZmqError, exception]⟩
  | some socket =>
      rw [Py.wpc_pure, Py.either_ok, Py.wpc_bind, Py.wpc_ask]
      rintro r w' ⟨-, rfl⟩
      refine ⟨trivial, ?_⟩
      cases r with
      | error e => simp [Watch.note, isSend, isOpening, received]
      | ok _ =>
          rw [Py.either_ok, Py.wpc_bind, Py.wpc_ask]
          rintro r w'' ⟨-, rfl⟩
          refine ⟨trivial, ?_⟩
          cases r with
          | error e => simp [Watch.note, isSend, isOpening, received]
          | ok frames => simp [Watch.note, isSend, isOpening, received]

/-- The contract of a call: it returns an array of the agreed shape and type, and this is the zero
array unless it was read from the reply. -/
def Fulfilled (r : Except PyErr NdArray) (w : Watch) : Prop :=
  ∃ a, r = .ok a ∧ IsDetections a ∧
    (a = zeroResult ∨ ∃ frames, w.lastReply = some frames ∧ tryDecodeResponse frames = .ok a)

theorem fulfilled_zero (w : Watch) : Fulfilled (.ok zeroResult) w :=
  ⟨zeroResult, rfl, isDetections_zeroResult, .inl rfl⟩

theorem not_fulfilled_error (e : PyErr) (w : Watch) : ¬ Fulfilled (.error e) w := by
  rintro ⟨a, ⟨⟩, -⟩

theorem fulfilled_decoded_iff {frames : List Bytes} {w : Watch}
    (replied : w.lastReply = some frames) :
    Fulfilled (.ok (decodeResponse frames)) w ↔ ¬ Misdescribed frames := by
  rw [← isDetections_decodeResponse_iff]
  constructor
  · rintro ⟨a, ⟨⟩, detections, -⟩
    exact detections
  · intro detections
    refine ⟨_, rfl, detections, ?_⟩
    cases decoded : tryDecodeResponse frames with
    | ok a => exact .inr ⟨frames, replied, by rw [decodeResponse, decoded]⟩
    | error e => exact .inl (by rw [decodeResponse, decoded])

theorem detectRaw_spec (tensorInput : NdArray) (s : ZmqIpcDetector) :
    (detectRaw tensorInput).wpc watching (fun _ => True) (fun r _ w' =>
      Fulfilled r w' ↔ w'.openingFailed = false ∧
        ∀ frames, w'.lastReply = some frames → ¬ Misdescribed frames) s .start := by
  rw [detectRaw, Py.wpc_bind]
  refine Py.wpc_mono (fun _ _ => trivial) (fun r s' w noted => ?_) (ensureReady_spec s)
  obtain ⟨idle, opening⟩ := noted
  cases r with
  | error e =>
      rw [isError_error] at opening
      simp [opening, not_fulfilled_error]
  | ok ready =>
      rw [isError_ok] at opening
      rw [Py.either_ok, Py.wpc_ite]
      split
      · simp [fulfilled_zero, opening, idle]
      · rw [Py.wpc_catching]
        refine Py.wpc_mono (fun _ _ => trivial) (fun r s'' w' noted => ?_)
          (Py.wpc_and (tame_request watching_tame tensorInput s' w)
            (request_spec tensorInput s' w idle))
        obtain ⟨tame, opening', outcome⟩ := noted
        rw [opening] at opening'
        cases r with
        | ok a =>
            obtain ⟨frames, replied, rfl⟩ := outcome
            simp [fulfilled_decoded_iff replied, opening', replied]
        | error e =>
            obtain ⟨idle', sent⟩ := outcome
            have caught : e.IsException := tame
            rw [Py.either_error]
            by_cases zmq : e.IsZmqError
            · rw [if_pos zmq]
              refine Py.wpc_mono (fun _ _ => trivial) (fun r _ w'' noted => ?_)
                (recover_spec s'' w' (sent zmq) idle')
              obtain ⟨rfl, idle'', opening''⟩ := noted
              simp [fulfilled_zero, opening'', opening', idle'']
            · rw [if_neg zmq, if_pos caught]
              simp [fulfilled_zero, opening', idle']

/-- The contract of a call holds exactly when no socket failed to be made before anything was sent,
and the reply to the tensor does not describe another array. -/
theorem detectRaw_fulfilled_iff (tensorInput : NdArray) {s s' : ZmqIpcDetector}
    {r : Except PyErr NdArray} {w : Watch}
    (run : (detectRaw tensorInput).Exec watching s .start r s' w) :
    Fulfilled r w ↔ w.openingFailed = false ∧
      ∀ frames, w.lastReply = some frames → ¬ Misdescribed frames :=
  Py.wpc_exec (detectRaw_spec tensorInput s) run

end Decoding

/-! ## Example runs -/

def zmqAgain : PyErr := ⟨.again, py "Resource temporarily unavailable"⟩

def tooManyFiles : PyErr := ⟨.zmqError, py "Too many open files"⟩

theorem tame_zmqAgain {α : Type} : TameOutcome (.error zmqAgain : Except PyErr α) :=
  .error (by simp [zmqAgain, PyErr.IsException])

theorem tame_tooManyFiles {α : Type} : TameOutcome (.error tooManyFiles : Except PyErr α) :=
  .error (by simp [tooManyFiles, PyErr.IsException])

def exampleConfig : Config :=
  ⟨py "ipc:///tmp/cache/zmq_detector", 200, 0, py "/config/m.onnx", py "yologeneric"⟩

def exampleTensor : NdArray := .zeros [1, 2, 2, 3] (.number "uint8" 1)

/-- Nobody answers. -/
def silent : Script := ⟨.ok 1, .error zmqAgain, 0⟩

/-- Later, no more sockets can be made. -/
def exhausted : Script := ⟨.error tooManyFiles, .error zmqAgain, 20000000000⟩

/-- A server that has the model and loads it. -/
def serving : Script :=
  ⟨.ok 1, .ok [encodeJson (.obj [(py "model_available", .bool true),
    (py "model_loaded", .bool true)])], 0⟩

/-- Twenty rows of six numbers, with the header that describes them. -/
def detectionsReply : List Bytes :=
  [encodeJson (.obj [(py "shape", jsonShape [20, 6]), (py "dtype", .str (py "float32"))]),
    (List.range 480).map UInt8.ofNat]

/-- A server that sends detections. -/
def detecting : Script := ⟨.ok 1, .ok detectionsReply, 0⟩

/-- Run a method under a script. -/
def Script.play {α : Type} (script : Script) (p : ClientM α) (s : ZmqIpcDetector) :
    (Except PyErr α × ZmqIpcDetector) × Watch :=
  p.answering Watch.note (fun _ => script.answer) s .start

theorem Script.exec_play {α : Type} (script : Script) (newSocket : TameOutcome script.newSocket)
    (recv : TameOutcome script.recv) (p : ClientM α) (s : ZmqIpcDetector) {r : Except PyErr α}
    (outcome : (script.play p s).1.1 = r) :
    p.Exec watching s .start r (script.play p s).1.2 (script.play p s).2 := by
  have sound : ∀ (w : Watch) (c : ClientCall),
      watching.step w c (script.answer c) (w.note c (script.answer c)) :=
    fun _ c => ⟨Script.steady newSocket recv c, rfl⟩
  exact Py.exec_answering sound p s Watch.start outcome

theorem tame_serving : TameOutcome serving.recv := .ok _

section Examples

attribute [local instance] NumPy.reference

/-- The plugin after its constructor found no server. -/
def unready : ZmqIpcDetector := (silent.play construct (.blank exampleConfig)).1.2

theorem construct_unready : construct.Exec watching (.blank exampleConfig) .start (.ok ()) unready
    (silent.play construct (.blank exampleConfig)).2 :=
  silent.exec_play (.ok 1) tame_zmqAgain construct _ rfl

/-- The plugin after its handshake succeeded. -/
def readied : ZmqIpcDetector := (serving.play construct (.blank exampleConfig)).1.2

example : readied.modelReady = true := by decide +kernel

/-- The detections of a server are returned. -/
theorem detectRaw_fulfilled_detecting :
    (detecting.play (detectRaw exampleTensor) readied).2.lastReply = some detectionsReply ∧
      Fulfilled (detecting.play (detectRaw exampleTensor) readied).1.1
        (detecting.play (detectRaw exampleTensor) readied).2 := by
  have replied : (detecting.play (detectRaw exampleTensor) readied).2.lastReply =
      some detectionsReply := by decide +kernel
  have run := detecting.exec_play (.ok 1) (.ok _) (detectRaw exampleTensor) readied rfl
  refine ⟨replied, (detectRaw_fulfilled_iff exampleTensor run).mpr ⟨by decide +kernel, ?_⟩⟩
  intro frames received
  cases replied.symm.trans received
  exact (isDetections_decodeResponse_iff detectionsReply).mp (by decide +kernel)

/-- A plugin whose constructor found no server and that cannot make a socket when it tries again:
the retry runs outside of every handler. -/
theorem detectRaw_breaks_contract : ¬ ∀ (tensorInput : NdArray) (s s' : ZmqIpcDetector)
    (r : Except PyErr NdArray) (w₀ w : Watch),
    construct.Exec watching (.blank exampleConfig) .start (.ok ()) s w₀ →
    (detectRaw tensorInput).Exec watching s .start r s' w → Fulfilled r w := by
  intro all
  have run : (detectRaw exampleTensor).Exec watching unready .start (.error tooManyFiles) _ _ :=
    exhausted.exec_play tame_tooManyFiles tame_zmqAgain (detectRaw exampleTensor) unready rfl
  exact not_fulfilled_error _ _ (all _ _ _ _ _ _ construct_unready run)

end Examples

end Plugin
