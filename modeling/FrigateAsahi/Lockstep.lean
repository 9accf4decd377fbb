import FrigateAsahi.RepSocket

/-!
# Lockstep of the server's loop

Every branch of a round leaves the REP socket in a state that the next round handles.
`serveRounds_lockstep` says that the account of messages and replies stays in order in every world
of every run, and that the loop ends only with an exit request or after a failed reset.
-/

namespace Detector

open Text Python Numpy Interaction

variable {β : Type}

/-! ## The start -/

/-- The server at the head of its loop: the constructor and the binding of the socket are done. -/
inductive Started [InferenceBackend β] (backend : β) : ZmqOnnxClient β → Rep → Prop
  | bound {endpoint modelsDir : PyStr} (pinned : Option PyStr) {s₀ s₁ s : ZmqOnnxClient β}
    {w₀ w₁ w : Rep} :
    initializeZmq.Exec rep ⟨endpoint, modelsDir, none, false, false, none, backend⟩ .start (.ok ())
      s₀ w₀ →
    (loadPinned pinned).Exec rep s₀ w₀ (.ok ()) s₁ w₁ →
    bind.Exec rep s₁ w₁ (.ok ()) s w →
    Started backend s w

section Loop

variable [NumPy]

/-! ## Between the rounds -/

/-- The server holds the open socket, which is bound, and the account is in order. -/
structure Afloat (s : ZmqOnnxClient β) (w : Rep) : Prop where
  context : s.context = true
  held : s.socket.isSome = true
  same : w.socket = s.socket
  bound : w.bound = true
  lockstep : w.Lockstep

/-- The server may receive, or it could not send what it owes and has yet to find out that it may
not receive. -/
structure AtHead (s : ZmqOnnxClient β) (w : Rep) : Prop extends Afloat s w where
  excused : w.Excused
  ready : w.refused = false

/-- The server holds a socket that was made after `w₀` and owes nothing; the message that waited
then was given up, and nothing was received or delivered since. -/
structure New (w₀ : Rep) (s : ZmqOnnxClient β) (w : Rep) : Prop where
  context : s.context = true
  held : s.socket.isSome = true
  same : w.socket = s.socket
  lockstep : w.Lockstep
  opened : w.opened = w₀.opened + 1
  free : w.owed = none
  ready : w.refused = false
  done : w.done = w₀.close.done
  received : w.received = w₀.received
  delivered : w.delivered = w₀.delivered

theorem New.atHead {w₀ w : Rep} {s : ZmqOnnxClient β} (new : New w₀ s w) (bound : w.bound = true) :
    AtHead s w := by
  have excused : w.Excused := fun owing => by simp [new.free] at owing
  exact ⟨⟨new.context, new.held, new.same, bound, new.lockstep⟩, excused, new.ready⟩

theorem Afloat.socket {s : ZmqOnnxClient β} {w : Rep} (afloat : Afloat s w) :
    ∃ socket, s.socket = some socket ∧ w.socket = some socket := by
  obtain ⟨socket, held⟩ := Option.isSome_iff_exists.mp afloat.held
  exact ⟨socket, held, afloat.same.trans held⟩

theorem Afloat.aside {s s' : ZmqOnnxClient β} {w w' : Rep} (afloat : Afloat s w)
    (step : Aside (s, w) (s', w')) : Afloat s' w' := by
  obtain ⟨context, socket, world⟩ := step
  obtain rfl : w' = w := world
  exact ⟨context.trans afloat.context, (congrArg _ socket).trans afloat.held,
    afloat.same.trans socket.symm, afloat.bound, afloat.lockstep⟩

theorem New.aside {w₀ w w' : Rep} {s s' : ZmqOnnxClient β} (new : New w₀ s w)
    (step : Aside (s, w) (s', w')) : New w₀ s' w' := by
  obtain ⟨context, socket, world⟩ := step
  obtain rfl : w' = w := world
  exact { new with
    context := context.trans new.context
    held := (congrArg _ socket).trans new.held
    same := new.same.trans socket.symm }

/-! ## Sending -/

/-- What a send does on the socket that is held: the reply goes out, or it does not. -/
theorem sendMultipart_spec {s : ZmqOnnxClient β} {w : Rep} (afloat : Afloat s w)
    (ready : w.refused = false) (payable : w.Payable) {frames : List Bytes}
    (proper : ∀ message, w.owed = some message →
      ¬ IsModelMessage message → IsDetectionsReply frames) :
    (sendMultipart frames).wpc rep Rep.Lockstep (fun r s' w' => AtHead s' w' ∧
      Py.either (fun _ => True) (fun _ => w'.failed ≤ w.failed + 1 ∧
        (w'.owed = none → w'.answered = false)) r) s w := by
  obtain ⟨socket, held, open_⟩ := afloat.socket
  rw [sendMultipart, Py.wpc_bind, Py.wpc_get, Py.either_ok, held, Py.wpc_ask]
  rintro r w' ⟨legal, noted⟩
  replace noted : w' = w.send frames r := noted
  cases owed : w.owed with
  | none =>
      -- A socket that owes nothing sends nothing.
      have silent : (w.repeated || w.answered) = false := by
        rw [afloat.lockstep.once, payable.2 owed]
        rfl
      obtain rfl : w' = { w with repeated := w.repeated || w.answered } := by
        rw [noted]
        exact if_neg (by simp [owed])
      have kept : Rep.Lockstep { w with repeated := w.repeated || w.answered } :=
        afloat.lockstep.of_eq rfl rfl rfl rfl rfl silent
      have head : AtHead s { w with repeated := w.repeated || w.answered } :=
        ⟨⟨afloat.context, afloat.held, afloat.same, afloat.bound, kept⟩,
          fun owing => by simp [owed] at owing, ready⟩
      cases r with
      | error e => exact ⟨kept, head, Nat.le_succ _, fun _ => payable.2 owed⟩
      | ok _ =>
          rcases legal open_ owed with refused | ⟨e, refused, -⟩
          · cases refused
          · cases refused
  | some message =>
      have owing : w.owed.isSome = true := by rw [owed]; rfl
      cases r with
      | error e =>
          obtain rfl : w' = { w with failed := w.failed + 1 } := by
            rw [noted, Rep.send, if_pos owing]
          have kept : Rep.Lockstep { w with failed := w.failed + 1 } :=
            { afloat.lockstep with
              few := Nat.succ_le_succ payable.1
              idle := fun free => by simp [owed] at free }
          exact ⟨kept, ⟨⟨afloat.context, afloat.held, afloat.same, afloat.bound, kept⟩,
            fun _ => Nat.succ_le_succ (Nat.zero_le _), ready⟩, le_rfl,
              fun free => by simp [owed] at free⟩
      | ok _ =>
          obtain rfl : w' = w.deliver frames := by rw [noted, Rep.send, if_pos owing]
          have kept := afloat.lockstep.deliver payable.1 owed (proper message owed)
          exact ⟨kept, ⟨⟨afloat.context, afloat.held, afloat.same, afloat.bound, kept⟩,
            fun owing => by simp [Rep.deliver] at owing, ready⟩, trivial⟩

theorem sendErrorResponse_spec {s : ZmqOnnxClient β} {w : Rep} (afloat : Afloat s w)
    (ready : w.refused = false) (payable : w.Payable) (msg : PyStr) :
    (sendErrorResponse msg).wpc rep Rep.Lockstep (fun r s' w' => AtHead s' w' ∧
      Py.either (fun _ => True) (fun e => ¬ e.IsException) r) s w := by
  rw [sendErrorResponse, wpc_exceptException]
  refine Py.wpc_mono (fun _ kept => kept) (fun r s' w' noted => ?_)
    (sendMultipart_spec afloat ready payable fun _ _ _ => isDetectionsReply_error msg)
  obtain ⟨head, -⟩ := noted
  cases r with
  | ok _ => exact ⟨head, trivial⟩
  | error e =>
      rw [Py.either_error]
      split
      · exact ⟨head, trivial⟩
      · next exit => exact ⟨head, exit⟩

/-! ## Replacing the socket -/

/-- A call that prepares a socket succeeds or leaves the server without a working one. -/
def Mended {α : Type} (N : ZmqOnnxClient β → Rep → Prop) (r : Except PyErr α)
    (s : ZmqOnnxClient β) (w : Rep) : Prop :=
  w.Lockstep ∧ Py.either (fun _ => N s w) (fun _ => w.broken = true) r

/-- Sequencing of such calls. -/
theorem Mended.bind {α γ : Type} {M N : ZmqOnnxClient β → Rep → Prop} {p : ServerM β γ}
    {f : γ → ServerM β α} {s : ZmqOnnxClient β} {w : Rep}
    (first : p.wpc rep Rep.Lockstep (fun r s' w' => Mended M r s' w') s w)
    (rest : ∀ b s' w', M s' w' →
      (f b).wpc rep Rep.Lockstep (fun r s'' w'' => Mended N r s'' w'') s' w') :
    (p >>= f).wpc rep Rep.Lockstep (fun r s' w' => Mended N r s' w') s w := by
  rw [Py.wpc_bind]
  refine Py.wpc_mono (fun _ kept => kept) (fun r s' w' mended => ?_) first
  cases r with
  | ok b => exact rest b s' w' mended.2
  | error e => exact mended

theorem Rep.Lockstep.broke {w : Rep} (kept : w.Lockstep) : Rep.Lockstep { w with broken := true } :=
  kept.of_eq rfl rfl rfl rfl rfl kept.once

theorem setsockopt_spec {w₀ w : Rep} {s : ZmqOnnxClient β} (new : New w₀ s w) (socket : Nat)
    (option : SocketOption) :
    (callServer (.setsockopt socket option)).wpc rep Rep.Lockstep
      (fun r s' w' => Mended (New w₀) r s' w') s w := by
  rw [Py.wpc_ask]
  rintro r w' ⟨-, rfl⟩
  cases r with
  | ok _ => exact ⟨new.lockstep, new.lockstep, new⟩
  | error e => exact ⟨new.lockstep.broke, new.lockstep.broke, rfl⟩

theorem openSocket_spec {s : ZmqOnnxClient β} {w : Rep} (context : s.context = true)
    (free : w.owed = none) (kept : w.Lockstep) :
    openSocket.wpc rep Rep.Lockstep (fun r s' w' => Mended (New w) r s' w') s w := by
  rw [openSocket, Py.wpc_bind, Py.wpc_get, Py.either_ok, if_pos context, Py.wpc_bind, Py.wpc_ask]
  rintro r w' ⟨-, rfl⟩
  cases r with
  | error e => exact ⟨kept.broke, kept.broke, rfl⟩
  | ok socket =>
      have closed : w.close.Lockstep := kept.close (by simp [Rep.Excused, free])
      have opened : Rep.Lockstep { w.close with socket := some socket, opened := w.opened + 1 } :=
        closed.of_eq rfl rfl rfl rfl rfl closed.once
      refine ⟨opened, ?_⟩
      rw [Py.either_ok, Py.wpc_bind, Py.wpc_modify, Py.either_ok]
      have new : New w { s with socket := some socket }
          { w.close with socket := some socket, opened := w.opened + 1 } :=
        ⟨context, rfl, rfl, opened, rfl, rfl, rfl, rfl, rfl, rfl⟩
      refine Mended.bind (setsockopt_spec new _ _) fun _ s₁ w₁ new => ?_
      refine Mended.bind (setsockopt_spec new _ _) fun _ s₂ w₂ new => ?_
      exact setsockopt_spec new _ _

/-- A new socket that is bound. -/
def Renewed (w₀ : Rep) (s : ZmqOnnxClient β) (w : Rep) : Prop := New w₀ s w ∧ w.bound = true

theorem bind_spec {w₀ w : Rep} {s : ZmqOnnxClient β} (new : New w₀ s w) :
    bind.wpc rep Rep.Lockstep (fun r s' w' => Mended (Renewed w₀) r s' w') s w := by
  obtain ⟨socket, held⟩ := Option.isSome_iff_exists.mp new.held
  rw [Detector.bind, Py.wpc_bind, Py.wpc_get, Py.either_ok, held, Py.wpc_ask]
  rintro r w' ⟨-, rfl⟩
  cases r with
  | error e => exact ⟨new.lockstep.broke, new.lockstep.broke, rfl⟩
  | ok _ =>
      have kept : Rep.Lockstep { w with bound := true } :=
        new.lockstep.of_eq rfl rfl rfl rfl rfl new.lockstep.once
      exact ⟨kept, kept, { new with lockstep := kept }, rfl⟩

/-- A socket may be replaced only when it owes nothing or could not pay. -/
theorem resetSocket_spec {s : ZmqOnnxClient β} {w : Rep} (afloat : Afloat s w)
    (excused : w.Excused) :
    resetSocket.wpc rep Rep.Lockstep (fun r s' w' => Mended (Renewed w) r s' w') s w := by
  obtain ⟨socket, held, -⟩ := afloat.socket
  rw [resetSocket, Py.wpc_bind, closeSocket, Py.wpc_bind, Py.wpc_get, Py.either_ok, held,
    Py.wpc_bind, Py.wpc_ask]
  rintro r w' ⟨-, rfl⟩
  cases r with
  | error e => exact ⟨afloat.lockstep.broke, afloat.lockstep.broke, rfl⟩
  | ok _ =>
      have closed := afloat.lockstep.close excused
      refine ⟨closed, ?_⟩
      rw [Py.either_ok, Py.wpc_modify, Py.either_ok]
      have opens : openSocket.wpc rep Rep.Lockstep
          (fun r s' w' => Mended (New w.close) r s' w') { s with socket := none } w.close :=
        openSocket_spec afloat.context rfl closed
      refine Mended.bind opens fun _ s' w' new => ?_
      have given : w.close.close.done = w.close.done := by simp [Rep.close]
      exact bind_spec { new with opened := new.opened, done := new.done.trans given }

/-! ## One round -/

/-- How a round may end: the server goes on and holds a bound socket that has not refused to
receive, or it stops because it has none; only an exit request leaves the loop. -/
def Survives (r : Except PyErr Next) (s : ZmqOnnxClient β) (w : Rep) : Prop :=
  Py.either (fun next => next = .again ∧ AtHead s w ∨ next = .stop ∧ w.broken = true)
    (fun e => ¬ e.IsException) r

/-- The server goes on with a new socket, or it does not go on. -/
def Replaces (w₀ : Rep) (r : Except PyErr Next) (s : ZmqOnnxClient β) (w : Rep) : Prop :=
  Py.either (fun next => next = .again ∧ Renewed w₀ s w ∨ next = .stop ∧ w.broken = true)
    (fun e => ¬ e.IsException) r

theorem Replaces.survives {w₀ w : Rep} {r : Except PyErr Next} {s : ZmqOnnxClient β}
    (replaces : Replaces w₀ r s w) : Survives r s w := by
  cases r with
  | error e => exact replaces
  | ok next =>
      rcases replaces with ⟨again, new, bound⟩ | stopped
      · exact .inl ⟨again, new.atHead bound⟩
      · exact .inr stopped

/-- What a refused receive notes does not matter for the socket that replaces the refusing one. -/
theorem Replaces.of_refused {w₀ w : Rep} {r : Except PyErr Next} {s : ZmqOnnxClient β}
    {answered refused : Bool}
    (replaces : Replaces { w₀ with answered := answered, refused := refused } r s w) :
    Replaces w₀ r s w := by
  cases r with
  | error e => exact replaces
  | ok next =>
      rcases replaces with ⟨again, new, bound⟩ | stopped
      · have same : New w₀ s w :=
          { new with
            opened := new.opened
            done := new.done
            received := new.received
            delivered := new.delivered }
        exact .inl ⟨again, same, bound⟩
      · exact .inr stopped

theorem reset_replaces {s : ZmqOnnxClient β} {w : Rep} (afloat : Afloat s w)
    (excused : w.Excused) :
    (exceptException (do
      resetSocket
      pure .again) fun _ => pure .stop : ServerM β Next).wpc rep Rep.Lockstep
        (fun r s' w' => w'.Lockstep ∧ Replaces w r s' w') s w := by
  rw [wpc_exceptException, Py.wpc_bind]
  refine Py.wpc_mono (fun _ kept => kept) (fun r s' w' mended => ?_)
    (resetSocket_spec afloat excused)
  obtain ⟨kept, mended⟩ := mended
  cases r with
  | ok _ => exact ⟨kept, .inl ⟨rfl, mended⟩⟩
  | error e =>
      rw [Py.either_error, Py.either_error]
      split
      · exact ⟨kept, .inr ⟨rfl, mended⟩⟩
      · next exit => exact ⟨kept, exit⟩

theorem handleZmqError_spec (e : PyErr) {s : ZmqOnnxClient β} {w : Rep} (head : AtHead s w)
    (payable : w.Payable) :
    (handleZmqError e).wpc rep Rep.Lockstep (fun r s' w' => w'.Lockstep ∧ Survives r s' w') s w := by
  rw [handleZmqError, Py.wpc_ite]
  split
  · exact ⟨head.lockstep, .inl ⟨rfl, head⟩⟩
  rw [Py.wpc_ite]
  split
  · refine Py.wpc_mono (fun _ kept => kept) (fun r s' w' reset => ?_)
      (reset_replaces head.toAfloat head.excused)
    exact ⟨reset.1, reset.2.survives⟩
  · rw [Py.wpc_bind]
    refine Py.wpc_mono (fun _ kept => kept) (fun r s' w' noted => ?_)
      (sendErrorResponse_spec head.toAfloat head.ready payable e.msg)
    obtain ⟨head, outcome⟩ := noted
    cases r with
    | ok _ => exact ⟨head.lockstep, .inl ⟨rfl, head⟩⟩
    | error e => exact ⟨head.lockstep, outcome⟩

omit [NumPy] in
theorem handleZmqError_wrongState : (handleZmqError wrongState : ServerM β Next) =
    exceptException (do
      resetSocket
      pure .again) fun _ => pure .stop := by
  rw [handleZmqError, if_neg (by decide +kernel), if_pos (by decide +kernel)]

variable [InferenceBackend β]

/-- A round at a socket that owes a reply: nothing is received, and the socket is replaced. -/
theorem serveOnce_owing {s : ZmqOnnxClient β} {w : Rep} (head : AtHead s w)
    (owing : w.owed.isSome = true) :
    serveOnce.wpc rep Rep.Lockstep (fun r s' w' => w'.Lockstep ∧ Replaces w r s' w') s w := by
  obtain ⟨socket, held, open_⟩ := head.toAfloat.socket
  rw [serveOnce, Py.wpc_catching, Py.wpc_bind, serveMessage, Py.wpc_bind, recvMultipart,
    Py.wpc_bind, Py.wpc_get, Py.either_ok, held, Py.wpc_ask]
  rintro r w₁ ⟨legal, rfl⟩
  have kept : Rep.Lockstep { w with answered := false, refused := w.refused || w.owed.isSome } :=
    head.lockstep.of_eq rfl rfl rfl rfl rfl head.lockstep.once
  have afloat : Afloat s { w with answered := false, refused := w.refused || w.owed.isSome } :=
    { head.toAfloat with lockstep := kept }
  rcases legal open_ owing with rfl | ⟨e, rfl, exit⟩
  · refine ⟨kept, ?_⟩
    have zmq : wrongState.IsZmqError := .inr rfl
    rw [Py.either_error, Py.either_error, Py.either_error, if_pos zmq, handleZmqError_wrongState]
    refine Py.wpc_mono (fun _ kept => kept) (fun r s' w' reset => ⟨reset.1, ?_⟩)
      (reset_replaces afloat head.excused)
    exact reset.2.of_refused
  · refine ⟨kept, ?_⟩
    have foreign : ¬ e.IsZmqError := fun zmq => exit zmq.isException
    rw [Py.either_error, Py.either_error, Py.either_error, if_neg foreign, if_neg exit]
    exact ⟨kept, exit⟩

/-- A message, from its receipt to its reply. Only where a reply failed, or nothing was received, does
an error of ZMQ leave the body of the loop. -/
theorem serveMessage_spec {s : ZmqOnnxClient β} {w : Rep} (head : AtHead s w)
    (free : w.owed = none) :
    serveMessage.wpc rep Rep.Lockstep (fun r s' w' => Afloat s' w' ∧ w'.refused = false ∧
      Py.either (fun _ => w'.Excused) (fun e => (e.IsZmqError → w'.Excused) ∧ w'.Payable) r)
      s w := by
  obtain ⟨socket, held, open_⟩ := head.toAfloat.socket
  rw [serveMessage, Py.wpc_bind, recvMultipart, Py.wpc_bind, Py.wpc_get, Py.either_ok, held,
    Py.wpc_ask]
  rintro r w₁ ⟨-, rfl⟩
  cases r with
  | error e =>
      have kept : Rep.Lockstep { w with answered := false, refused := w.refused || w.owed.isSome } :=
        head.lockstep.of_eq rfl rfl rfl rfl rfl head.lockstep.once
      have ready : (w.refused || w.owed.isSome) = false := by rw [head.ready, free]; rfl
      have few : w.failed ≤ 1 := by rw [head.lockstep.idle free]; exact Nat.zero_le 1
      exact ⟨kept, { head.toAfloat with lockstep := kept }, ready, fun _ => head.excused,
        few, fun _ => rfl⟩
  | ok message =>
      have kept := head.lockstep.receive free message
      have afloat : Afloat s (w.receive message) :=
        ⟨head.context, head.held, head.same, head.bound, kept⟩
      have payable : (w.receive message).Payable := ⟨Nat.zero_le 1, fun _ => rfl⟩
      refine ⟨kept, ?_⟩
      rw [Py.either_ok, Py.wpc_bind, Py.wpc_ofExcept]
      cases decoded : decodeRequest message with
      | error e =>
          have plain := plain_decodeRequest message e decoded
          exact ⟨afloat, head.ready, fun zmq => absurd zmq plain.not_isZmqError, payable⟩
      | ok request =>
          obtain ⟨headerBytes, rest, rfl, header⟩ := decodeRequest_ok decoded
          rw [Py.either_ok, Py.wpc_bind]
          refine Py.wpc_mono (fun w' crash => ?_) (fun r s' w' noted => ?_)
            (Py.wpc_and
              (aside_respond quiet_rep _ request.1 request.2 s (w.receive (headerBytes :: rest)))
              (Py.wpc_and (foreign_respond _ request.1 request.2 s _)
                (isDetectionsReply_respond header request.1 s _)))
          · obtain ⟨⟨s', -, -, world⟩, -⟩ := crash
            obtain rfl : w' = w.receive (headerBytes :: rest) := world
            exact kept
          · obtain ⟨step, foreign, good⟩ := noted
            have afloat' := afloat.aside step
            obtain rfl : w' = w.receive (headerBytes :: rest) := step.2.2
            cases r with
            | error e => exact ⟨afloat', head.ready, fun zmq => absurd zmq foreign, payable⟩
            | ok reply =>
                rw [Py.either_ok]
                refine Py.wpc_mono (fun _ kept => kept) (fun r s'' w'' sent => ?_)
                  (sendMultipart_spec afloat' head.ready payable fun message owed =>
                    Option.some.inj owed ▸ good)
                obtain ⟨head, tried⟩ := sent
                cases r with
                | ok _ => exact ⟨head.toAfloat, head.ready, head.excused⟩
                | error e => exact ⟨head.toAfloat, head.ready, fun _ => head.excused, tried⟩

theorem serveOnce_free {s : ZmqOnnxClient β} {w : Rep} (head : AtHead s w) (free : w.owed = none) :
    serveOnce.wpc rep Rep.Lockstep (fun r s' w' => w'.Lockstep ∧ Survives r s' w') s w := by
  rw [serveOnce, Py.wpc_catching, Py.wpc_bind]
  refine Py.wpc_mono (fun _ kept => kept) (fun r s' w' noted => ?_) (serveMessage_spec head free)
  obtain ⟨afloat, ready, outcome⟩ := noted
  cases r with
  | ok _ => exact ⟨afloat.lockstep, .inl ⟨rfl, afloat, outcome, ready⟩⟩
  | error e =>
      obtain ⟨excused, payable⟩ := outcome
      rw [Py.either_error, Py.either_error]
      by_cases zmq : e.IsZmqError
      · rw [if_pos zmq]
        exact handleZmqError_spec e ⟨afloat, excused zmq, ready⟩ payable
      by_cases raised : e.IsException
      · rw [if_neg zmq, if_pos raised, Py.wpc_bind]
        refine Py.wpc_mono (fun _ kept => kept) (fun r s'' w'' noted => ?_)
          (sendErrorResponse_spec afloat ready payable e.msg)
        obtain ⟨head, outcome⟩ := noted
        cases r with
        | ok _ => exact ⟨head.lockstep, .inl ⟨rfl, head⟩⟩
        | error e => exact ⟨head.lockstep, outcome⟩
      · rw [if_neg zmq, if_neg raised]
        exact ⟨afloat.lockstep, raised⟩

theorem serveOnce_spec {s : ZmqOnnxClient β} {w : Rep} (head : AtHead s w) :
    serveOnce.wpc rep Rep.Lockstep (fun r s' w' => w'.Lockstep ∧ Survives r s' w') s w := by
  by_cases owing : w.owed.isSome = true
  · refine Py.wpc_mono (fun _ kept => kept) (fun r s' w' ended => ?_) (serveOnce_owing head owing)
    exact ⟨ended.1, ended.2.survives⟩
  · exact serveOnce_free head (by simpa using owing)

/-! ## The loop -/

theorem serveRounds_spec (n : Nat) {s : ZmqOnnxClient β} {w : Rep} (head : AtHead s w) :
    (serveRounds n).wpc rep Rep.Lockstep (fun r s' w' => w'.Lockstep ∧ Survives r s' w') s w := by
  induction n generalizing s w with
  | zero => exact ⟨head.lockstep, .inl ⟨rfl, head⟩⟩
  | succ n ih =>
      rw [serveRounds, Py.wpc_bind]
      refine Py.wpc_mono (fun _ kept => kept) (fun r s' w' noted => ?_) (serveOnce_spec head)
      obtain ⟨kept, survives⟩ := noted
      cases r with
      | error e => exact ⟨kept, survives⟩
      | ok next =>
          rw [Py.either_ok]
          rcases survives with ⟨rfl, head⟩ | ⟨rfl, broken⟩
          · exact ih head
          · exact ⟨kept, .inr ⟨rfl, broken⟩⟩

omit [InferenceBackend β] in
theorem initializeZmq_spec (endpoint modelsDir : PyStr) (backend : β) :
    initializeZmq.wpc rep (fun _ => True) (fun r s w => r = .ok () → New .start s w)
      ⟨endpoint, modelsDir, none, false, false, none, backend⟩ .start := by
  rw [initializeZmq, wpc_exceptException, Py.wpc_bind, Py.wpc_ask]
  rintro r w' ⟨-, rfl⟩
  refine ⟨trivial, ?_⟩
  -- What is cleaned up after a failure does not matter: the exception goes on.
  have failing (e : PyErr) (s : ZmqOnnxClient β) (w : Rep) :
      (do exceptException releaseZmq fun _ => pure (); throw e : ServerM β Unit).wpc rep
        (fun _ => True) (fun r s w => r = .ok () → New .start s w) s w := by
    rw [Py.wpc_bind]
    refine Py.wpc_mono (fun _ kept => kept) (fun r s' w' _ => ?_)
      (Py.wpc_invariant (fun _ _ _ _ _ _ => trivial) _ trivial)
    cases r with
    | ok _ => rintro ⟨⟩
    | error e => rintro ⟨⟩
  cases r with
  | error e =>
      rw [Py.either_error, Py.either_error]
      split
      · exact failing e _ _
      · rintro ⟨⟩
  | ok _ =>
      rw [Py.either_ok, Py.wpc_bind, Py.wpc_modify, Py.either_ok]
      refine Py.wpc_mono (fun _ _ => trivial) (fun r s' w' mended => ?_)
        (openSocket_spec rfl rfl Rep.Lockstep.start)
      cases r with
      | ok _ => exact fun _ => mended.2
      | error e =>
          rw [Py.either_error]
          split
          · exact failing e _ _
          · rintro ⟨⟩

theorem atHead_of_started {backend : β} {s : ZmqOnnxClient β} {w : Rep}
    (started : Started backend s w) : AtHead s w := by
  rcases started with ⟨pinned, built, loaded, bound⟩
  have opened := Py.wpc_exec (initializeZmq_spec _ _ _) built rfl
  have step := Py.wpc_exec (aside_loadPinned quiet_rep pinned _ _) loaded
  obtain ⟨-, new, bound⟩ := Py.wpc_exec (bind_spec (opened.aside step)) bound
  exact new.atHead bound

/-- The server's loop against a REP socket, from the state in which the constructor leaves it and
for any number of rounds. In every world of every run, each message that was received was answered
exactly once, in the agreed form unless it is about models and by the first or the second reply that
was tried, or one or two replies to it could not be sent and it was given up with its socket, or it
is the one that waits; no other reply was delivered, and none was tried after the one that went out.
The loop goes on, on a bound socket that has not refused to receive, until an exit request or a
reset that fails. And where a reply is still owed when a round ends, the next round receives nothing
and leaves a new bound socket that owes nothing, unless the server ends. -/
theorem serveRounds_lockstep {backend : β} {s : ZmqOnnxClient β} {w : Rep}
    (started : Started backend s w) (n : Nat) :
    (∀ w', Prog.Reaches rep (serveRounds n s) w w' → w'.Lockstep) ∧
      ∀ r s' w', (serveRounds n).Exec rep s w r s' w' → Survives r s' w' ∧
        (r = .ok .again → w'.owed.isSome = true →
          ∀ next s'' w'', serveOnce.Exec rep s' w' next s'' w'' → Replaces w' next s'' w'') := by
  have head := atHead_of_started started
  refine ⟨fun w' run => Prog.wpc_reaches (serveRounds_spec n head) head.lockstep run,
    fun r s' w' run => ?_⟩
  obtain ⟨-, survives⟩ := Py.wpc_exec (serveRounds_spec n head) run
  refine ⟨survives, ?_⟩
  rintro rfl owing next s'' w'' round
  rcases survives with ⟨-, head'⟩ | ⟨stopped, -⟩
  · exact (Py.wpc_exec (serveOnce_owing head' owing) round).2
  · cases stopped

end Loop

/-! ## An example run -/

/-- Every receive brings the same message and no reply goes out before the time is up; nothing else
works. -/
def Rep.answer (message : List Bytes) (w : Rep) : (c : ServerCall) → Except PyErr c.Answer
  | .newSocket => .ok 1
  | .recvMultipart _ => if w.owed.isSome then .error wrongState else .ok message
  | .sendMultipart _ _ =>
    if w.owed.isSome then .error ⟨.zmqError, py "Resource temporarily unavailable"⟩
    else .error wrongState
  | .newContext | .termContext | .bind _ _ | .closeSocket _ | .setsockopt _ _ => .ok ()
  | .host _ => .error (exception "not available")

theorem Rep.legal_answer (message : List Bytes) (w : Rep) (c : ServerCall) :
    w.Legal c (Rep.answer message w c) := by
  cases c with
  | host c => cases c <;> first | trivial | exact (isPlain_exception _).not_isZmqError
  | recvMultipart _ =>
      intro _ owed
      exact .inl (if_pos owed)
  | sendMultipart _ _ =>
      intro _ owed
      exact .inl (if_neg (by simp [owed]))
  | _ => trivial

def Rep.play {α : Type} (message : List Bytes) (p : ServerM β α) (s : ZmqOnnxClient β) (w : Rep) :
    (Except PyErr α × ZmqOnnxClient β) × Rep :=
  p.answering Rep.note (Rep.answer message) s w

theorem Rep.exec_play {α : Type} (message : List Bytes) (p : ServerM β α) (s : ZmqOnnxClient β)
    (w : Rep) {r : Except PyErr α} (outcome : (Rep.play message p s w).1.1 = r) :
    p.Exec rep s w r (Rep.play message p s w).1.2 (Rep.play message p s w).2 := by
  have sound : ∀ (w : Rep) (c : ServerCall),
      rep.step w c (Rep.answer message w c) (w.note c (Rep.answer message w c)) :=
    fun w c => ⟨Rep.legal_answer message w c, rfl⟩
  exact Py.exec_answering sound p s w outcome

/-- A server that has just been started. -/
def fresh : ZmqOnnxClient OnnxRuntimeBackend :=
  ⟨py "tcp://*:5555", py "models", none, false, true, some 1, cpuBackend none⟩

def fresh.world : Rep := { Rep.start with socket := some 1, bound := true, opened := 1 }

theorem started_fresh : Started (cpuBackend none) fresh fresh.world := by
  have built := Rep.exec_play [] initializeZmq
    ⟨py "tcp://*:5555", py "models", none, false, false, none, cpuBackend none⟩ Rep.start rfl
  have loaded := Rep.exec_play [] (loadPinned none) fresh { fresh.world with bound := false } rfl
  have bound := Rep.exec_play [] bind fresh { fresh.world with bound := false } rfl
  exact .bound none built loaded bound

section Examples

attribute [local instance] NumPy.reference

/-- A round in which a message that is no JSON arrives and its reply cannot be sent. -/
def unanswered : (Except PyErr Next × ZmqOnnxClient OnnxRuntimeBackend) × Rep :=
  Rep.play [[0]] (serveRounds 1) fresh fresh.world

/-- The round after that. -/
def replaced : (Except PyErr Next × ZmqOnnxClient OnnxRuntimeBackend) × Rep :=
  Rep.play [[0]] serveOnce unanswered.1.2 unanswered.2

/-- The message waits, and the next round replaces the socket. -/
theorem serveRounds_lockstep_garbage : unanswered.2.owed = some [[0]] ∧
    Survives unanswered.1.1 unanswered.1.2 unanswered.2 ∧
    Replaces unanswered.2 replaced.1.1 replaced.1.2 replaced.2 := by
  have run := Rep.exec_play [[0]] (serveRounds 1) fresh fresh.world rfl
  have round := Rep.exec_play [[0]] serveOnce unanswered.1.2 unanswered.2 rfl
  obtain ⟨survives, replaces⟩ := (serveRounds_lockstep started_fresh 1).2 _ _ _ run
  exact ⟨by decide +kernel, survives, replaces (by decide +kernel) (by decide +kernel) _ _ _ round⟩

end Examples

end Detector
