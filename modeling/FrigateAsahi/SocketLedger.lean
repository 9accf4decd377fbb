import FrigateAsahi.RepSocket

/-!
# An account of the server's sockets

What the server process does to ZMQ from its constructor to the end of `main`, where any call may
fail and an exit request may come at any time: SIGTERM and Ctrl-C are raised out of a call that may
have taken effect. The server never has two sockets open, never uses one that is closed and never
terminates a context with a socket in it, for which ZMQ would wait. Whatever ends it after the
constructor, two clean-ups follow, and they release both unless a release failed or two exit requests
came into them (`main_releases`).
-/

namespace Detector

open Text Python Numpy Interaction

/-! ## The account -/

structure Sockets : Type where
  opened : List Nat
  context : Bool
  /-- A socket was used that is not open, or made without a context, or a second context made. -/
  misused : Bool
  /-- A context was terminated with a socket in it. -/
  blocked : Bool
  /-- Closing a socket or terminating a context failed. -/
  failed : Bool
  /-- How many exit requests came while a socket was being closed or a context terminated. -/
  interrupts : Nat

namespace Sockets

def start : Sockets := ⟨[], false, false, false, false, 0⟩

def use (w : Sockets) (socket : Nat) : Sockets :=
  { w with misused := w.misused || decide (socket ∉ w.opened) }

/-- A socket that is closed already may be closed again. -/
def close (w : Sockets) (socket : Nat) : Sockets :=
  { w with opened := w.opened.filter fun other => decide (other ≠ socket) }

/-- So may a context be terminated again. -/
def terminate (w : Sockets) : Sockets := { w with blocked := w.blocked || !w.opened.isEmpty }

/-- An exception says that a release failed, an exit request that it was interrupted. -/
def blame (w : Sockets) (e : PyErr) : Sockets :=
  if e.IsException then { w with failed := true } else { w with interrupts := w.interrupts + 1 }

def note (w : Sockets) : (c : ServerCall) → Except PyErr c.Answer → Sockets
  | .newContext, .ok _ => { w with context := true, misused := w.misused || w.context }
  | .newSocket, .ok socket =>
    { w with opened := socket :: w.opened, misused := w.misused || !w.context }
  | .setsockopt socket _, _ | .bind socket _, _ | .sendMultipart socket _, _
  | .recvMultipart socket, _ => w.use socket
  | .closeSocket socket, .ok _ => w.close socket
  | .closeSocket _, .error e => w.blame e
  | .termContext, .ok _ => { w.terminate with context := false }
  | .termContext, .error e => w.terminate.blame e
  | _, _ => w

/-- What a call does that takes effect and raises all the same. A socket or context that was only
just made has no owner then and is closed with the frame that made it. -/
def took (w : Sockets) : ServerCall → Sockets
  | .closeSocket socket => w.close socket
  | .termContext => { w with context := false }
  | _ => w

/-- Any call may fail or succeed. -/
def step (w : Sockets) (c : ServerCall) (r : Except PyErr c.Answer) (w' : Sockets) : Prop :=
  w' = w.note c r ∨ (∃ e, r = .error e) ∧ w' = (w.note c r).took c

structure Safe (w : Sockets) : Prop where
  single : w.opened.length ≤ 1
  misused : w.misused = false
  blocked : w.blocked = false

def Released (w : Sockets) : Prop := w.opened = [] ∧ w.context = false

end Sockets

def sockets : Env Server Sockets := ⟨Sockets.step⟩

variable {β α : Type}

/-- The server holds what is open, and possibly a socket or context that is released already. -/
structure Keeps (s : ZmqOnnxClient β) (w : Sockets) : Prop where
  opened : w.opened = [] ∨ w.opened = s.socket.toList
  context : w.context = true → s.context = true
  misused : w.misused = false
  blocked : w.blocked = false

/-- The server holds what is open. -/
structure Owns (s : ZmqOnnxClient β) (w : Sockets) : Prop where
  opened : w.opened = s.socket.toList
  context : w.context = s.context
  misused : w.misused = false
  blocked : w.blocked = false

section Holding

variable {s : ZmqOnnxClient β} {w : Sockets}

theorem Owns.keeps (holding : Owns s w) : Keeps s w :=
  ⟨.inr holding.opened, fun present => holding.context ▸ present, holding.misused, holding.blocked⟩

theorem Keeps.single (kept : Keeps s w) : w.opened.length ≤ 1 := by
  rcases kept.opened with opened | opened
  · rw [opened]
    exact Nat.zero_le 1
  · rw [opened]
    cases s.socket with
    | none => exact Nat.zero_le 1
    | some socket => exact Nat.le_refl 1

theorem Keeps.safe (kept : Keeps s w) : w.Safe := ⟨kept.single, kept.misused, kept.blocked⟩

theorem Owns.safe (holding : Owns s w) : w.Safe := holding.keeps.safe

theorem Owns.use (holding : Owns s w) {socket : Nat} (held : s.socket = some socket) :
    w.use socket = w := by
  have opened : socket ∈ w.opened := by
    rw [holding.opened, held]
    exact List.mem_singleton_self socket
  simp [Sockets.use, opened]

/-- Once the socket is gone, the context can be terminated. -/
theorem Keeps.terminate (kept : Keeps s w) (none : s.socket = none) : w.terminate = w := by
  obtain ⟨opened, present, misused, blocked, failed, interrupts⟩ := w
  have empty : opened = [] := by
    rcases kept.opened with empty | all
    · exact empty
    · rw [none] at all
      exact all
  subst empty
  simp [Sockets.terminate]

theorem Sockets.blame_opened (w : Sockets) (e : PyErr) :
    (w.blame e).opened = w.opened ∧ (w.blame e).context = w.context ∧
      (w.blame e).misused = w.misused ∧ (w.blame e).blocked = w.blocked := by
  unfold Sockets.blame
  split
  · exact ⟨rfl, rfl, rfl, rfl⟩
  · exact ⟨rfl, rfl, rfl, rfl⟩

theorem Keeps.blame (kept : Keeps s w) (e : PyErr) : Keeps s (w.blame e) := by
  obtain ⟨opened, context, misused, blocked⟩ := w.blame_opened e
  exact ⟨opened ▸ kept.opened, context ▸ kept.context, misused.trans kept.misused,
    blocked.trans kept.blocked⟩

/-- A call that does not release anything is noted, whether it raises or not. -/
theorem noted_of_step {c : ServerCall} (other : ∀ v : Sockets, v.took c = v)
    {r : Except PyErr c.Answer} {w' : Sockets} (step : sockets.step w c r w') : w' = w.note c r := by
  rcases step with noted | ⟨-, took⟩
  · exact noted
  · rw [took, other]

end Holding

/-! ## What a release comes to -/

/-- What was released or had failed stays so, and no exit request is forgotten. -/
structure Sockets.Onward (w w' : Sockets) : Prop where
  interrupts : w.interrupts ≤ w'.interrupts
  failed : w.failed = true → w'.failed = true
  released : w.Released → w'.Released

/-- The exception that a release raises is in the account. -/
structure Sockets.Blamed (w : Sockets) (e : PyErr) (w' : Sockets) : Prop where
  failed : e.IsException → w'.failed = true
  interrupted : ¬ e.IsException → w.interrupts < w'.interrupts

namespace Sockets

variable {w w₁ w₂ : Sockets}

theorem Onward.refl (w : Sockets) : Onward w w := ⟨Nat.le_refl _, id, id⟩

theorem Onward.trans (first : Onward w w₁) (next : Onward w₁ w₂) : Onward w w₂ where
  interrupts := first.interrupts.trans next.interrupts
  failed before := next.failed (first.failed before)
  released before := next.released (first.released before)

theorem Blamed.imp {e : PyErr} (blamed : Blamed w₁ e w₂) (before : Onward w w₁) : Blamed w e w₂ where
  failed := blamed.failed
  interrupted exit := Nat.lt_of_le_of_lt before.interrupts (blamed.interrupted exit)

theorem blamed_blame (w : Sockets) (e : PyErr) : Blamed w e (w.blame e) := by
  unfold blame
  split
  · next exc => exact ⟨fun _ => rfl, fun exit => absurd exc exit⟩
  · next exit => exact ⟨fun exc => absurd exc exit, fun _ => Nat.lt_succ_self _⟩

theorem onward_blame (w : Sockets) (e : PyErr) : Onward w (w.blame e) := by
  unfold blame
  split
  · exact ⟨Nat.le_refl _, fun _ => rfl, id⟩
  · exact ⟨Nat.le_succ _, id, id⟩

end Sockets

/-! ## Sockets -/

section Sockets

variable {s : ZmqOnnxClient β} {w : Sockets}

/-- A call on the socket that is held. -/
theorem use_owns {c : ServerCall} {socket : Nat} (held : s.socket = some socket)
    (other : ∀ v : Sockets, v.took c = v) (noted : ∀ r, w.note c r = w.use socket)
    (holding : Owns s w) :
    (callServer c).wpc sockets Sockets.Safe (fun _ s' w' => Owns s' w') s w := by
  rw [Py.wpc_ask]
  intro r w' step
  obtain rfl := noted_of_step other step
  rw [noted r, holding.use held]
  exact ⟨holding.safe, holding⟩

theorem sendMultipart_owns (holding : Owns s w) (frames : List Bytes) :
    (sendMultipart frames).wpc sockets Sockets.Safe (fun _ s' w' => Owns s' w') s w := by
  rw [sendMultipart, Py.wpc_bind, Py.wpc_get, Py.either_ok]
  cases held : s.socket with
  | none => exact holding
  | some socket => exact use_owns held (fun _ => rfl) (fun _ => rfl) holding

theorem recvMultipart_owns (holding : Owns s w) :
    recvMultipart.wpc sockets Sockets.Safe (fun _ s' w' => Owns s' w') s w := by
  rw [recvMultipart, Py.wpc_bind, Py.wpc_get, Py.either_ok]
  cases held : s.socket with
  | none => exact holding
  | some socket => exact use_owns held (fun _ => rfl) (fun _ => rfl) holding

theorem bind_owns (holding : Owns s w) :
    (bind : ServerM β Unit).wpc sockets Sockets.Safe (fun _ s' w' => Owns s' w') s w := by
  rw [Detector.bind, Py.wpc_bind, Py.wpc_get, Py.either_ok]
  cases held : s.socket with
  | none => exact holding
  | some socket => exact use_owns held (fun _ => rfl) (fun _ => rfl) holding

/-- A close that raises may have closed the socket or not; the server goes on holding it. -/
theorem closeSocket_spec (kept : Keeps s w) :
    (closeSocket : ServerM β Unit).wpc sockets Sockets.Safe (fun r s' w' => Py.either
      (fun _ => s' = { s with socket := none } ∧ w' = { w with opened := [] })
      (fun e => s' = s ∧ Keeps s w' ∧ w.Onward w' ∧ w.Blamed e w') r) s w := by
  rw [closeSocket, Py.wpc_bind, Py.wpc_get, Py.either_ok]
  cases held : s.socket with
  | none =>
      have empty : w.opened = [] := by
        rcases kept.opened with empty | all
        · exact empty
        · rw [all, held]
          rfl
      refine ⟨?_, ?_⟩
      · rw [← held]
      · rw [← empty]
  | some socket =>
      have gone : ∀ v : Sockets, v.opened = w.opened → v.close socket = { v with opened := [] } := by
        intro v same
        have filtered : v.opened.filter (fun other => decide (other ≠ socket)) = [] := by
          rw [same]
          rcases kept.opened with empty | all
          · rw [empty]
            rfl
          · rw [all, held]
            simp
        rw [Sockets.close, filtered]
      have shut {v : Sockets} (still : Keeps s v) : Keeps s { v with opened := [] } :=
        ⟨.inl rfl, still.context, still.misused, still.blocked⟩
      rw [Py.wpc_bind, Py.wpc_ask]
      intro r w' step
      cases r with
      | error e =>
          have blamed := w.blamed_blame e
          have onward := w.onward_blame e
          rcases step with rfl | ⟨-, rfl⟩
          · exact ⟨(kept.blame e).safe, rfl, kept.blame e, onward, blamed⟩
          · have taken : (w.note (.closeSocket socket) (.error e)).took (.closeSocket socket) =
                { w.blame e with opened := [] } := gone _ (w.blame_opened e).1
            rw [taken]
            have further : w.Onward { w.blame e with opened := [] } :=
              ⟨onward.interrupts, onward.failed, fun before => ⟨rfl, (onward.released before).2⟩⟩
            exact ⟨(shut (kept.blame e)).safe, rfl, shut (kept.blame e), further,
              blamed.failed, blamed.interrupted⟩
      | ok _ =>
          obtain rfl : w' = w.close socket := by
            rcases step with noted | ⟨⟨e, failed⟩, -⟩
            · exact noted
            · cases failed
          rw [gone w rfl]
          exact ⟨(shut kept).safe, rfl, rfl⟩

theorem openSocket_owns (holding : Owns s w) (none : s.socket = none) :
    (openSocket : ServerM β Unit).wpc sockets Sockets.Safe (fun _ s' w' => Owns s' w') s w := by
  rw [openSocket, Py.wpc_bind, Py.wpc_get, Py.either_ok, Py.wpc_ite]
  split
  · next context =>
      rw [Py.wpc_bind, Py.wpc_ask]
      intro r w' step
      obtain rfl := noted_of_step (fun _ => rfl) step
      cases r with
      | error e => exact ⟨holding.safe, holding⟩
      | ok socket =>
          have opened : Owns { s with socket := some socket } (w.note .newSocket (.ok socket)) := by
            refine ⟨?_, holding.context, ?_, holding.blocked⟩
            · rw [Sockets.note, holding.opened, none]
              rfl
            · rw [Sockets.note, holding.misused, holding.context, context]
              rfl
          have option {p : ServerM β Unit} (o : SocketOption) {s' : ZmqOnnxClient β} {w' : Sockets}
              (held : s'.socket = some socket) (here : Owns s' w')
              (rest : ∀ w'', Owns s' w'' →
                p.wpc sockets Sockets.Safe (fun _ s' w' => Owns s' w') s' w'') :
              (callServer (.setsockopt socket o) >>= fun _ => p).wpc sockets Sockets.Safe
                (fun _ s' w' => Owns s' w') s' w' := by
            rw [Py.wpc_bind, Py.wpc_ask]
            intro r w'' step
            obtain rfl := noted_of_step (fun _ => rfl) step
            rw [Sockets.note, here.use held]
            refine ⟨here.safe, ?_⟩
            cases r with
            | error e => exact here
            | ok _ => exact rest w' here
          refine ⟨opened.safe, ?_⟩
          rw [Py.either_ok, Py.wpc_bind, Py.wpc_modify, Py.either_ok]
          refine option _ rfl opened fun w₁ first => option _ rfl first fun w₂ second => ?_
          exact use_owns rfl (fun _ => rfl) (fun _ => rfl) second
  · exact holding

/-- A reset that raises may leave a closed socket behind. -/
theorem resetSocket_keeps (holding : Owns s w) :
    (resetSocket : ServerM β Unit).wpc sockets Sockets.Safe (fun r s' w' => Keeps s' w' ∧
      (r = .ok () → Owns s' w')) s w := by
  rw [resetSocket, Py.wpc_bind]
  refine Py.wpc_mono (fun _ safe => safe) (fun r s₁ w₁ closed => ?_)
    (closeSocket_spec holding.keeps)
  cases r with
  | error e =>
      obtain ⟨rfl, kept, -⟩ := closed
      exact ⟨kept, by simp⟩
  | ok _ =>
      obtain ⟨rfl, rfl⟩ := closed
      have empty : Owns { s with socket := none } { w with opened := [] } :=
        ⟨rfl, holding.context, holding.misused, holding.blocked⟩
      rw [Py.either_ok, Py.wpc_bind]
      refine Py.wpc_mono (fun _ safe => safe) (fun r s₂ w₂ opened => ?_) (openSocket_owns empty rfl)
      cases r with
      | error e => exact ⟨opened.keeps, fun _ => opened⟩
      | ok _ =>
          rw [Py.either_ok]
          exact Py.wpc_mono (fun _ safe => safe) (fun _ _ _ bound => ⟨bound.keeps, fun _ => bound⟩)
            (bind_owns opened)

/-- Everything is released, or an exception says why not. -/
theorem releaseZmq_spec (kept : Keeps s w) :
    (releaseZmq : ServerM β Unit).wpc sockets Sockets.Safe (fun r s' w' => Keeps s' w' ∧
      w.Onward w' ∧ Py.either (fun _ => w'.Released) (fun e => w.Blamed e w') r) s w := by
  rw [releaseZmq, Py.wpc_bind]
  refine Py.wpc_mono (fun _ safe => safe) (fun r s₁ w₁ closed => ?_) (closeSocket_spec kept)
  cases r with
  | error e =>
      obtain ⟨rfl, still, onward, blamed⟩ := closed
      exact ⟨still, onward, blamed⟩
  | ok _ =>
      obtain ⟨rfl, rfl⟩ := closed
      have empty : Keeps { s with socket := none } { w with opened := [] } :=
        ⟨.inl rfl, kept.context, kept.misused, kept.blocked⟩
      have closed : w.Onward { w with opened := [] } :=
        ⟨Nat.le_refl _, id, fun before => ⟨rfl, before.2⟩⟩
      rw [Py.either_ok, Py.wpc_bind, Py.wpc_get, Py.either_ok, Py.wpc_ite]
      split
      · rw [Py.wpc_bind, Py.wpc_ask]
        intro r w' step
        have terminated := empty.terminate rfl
        cases r with
        | error e =>
            have blamed := (Sockets.blamed_blame { w with opened := [] } e).imp closed
            have onward := closed.trans (Sockets.onward_blame { w with opened := [] } e)
            have still := empty.blame e
            rcases step with rfl | ⟨-, rfl⟩
            · rw [Sockets.note, terminated]
              exact ⟨still.safe, still, onward, blamed⟩
            · have gone : Keeps { s with socket := none }
                  { Sockets.blame { w with opened := [] } e with context := false } :=
                ⟨still.opened, by simp, still.misused, still.blocked⟩
              rw [Sockets.took, Sockets.note, terminated]
              refine ⟨gone.safe, gone, ⟨onward.interrupts, onward.failed, fun before => ?_⟩,
                blamed.failed, blamed.interrupted⟩
              exact ⟨(onward.released before).1, rfl⟩
        | ok _ =>
            obtain rfl : w' = { Sockets.terminate { w with opened := [] } with context := false } := by
              rcases step with noted | ⟨⟨e, failed⟩, -⟩
              · exact noted
              · cases failed
            rw [terminated]
            have gone : Keeps { s with socket := none, context := false }
                { w with opened := [], context := false } :=
              ⟨.inl rfl, by simp, kept.misused, kept.blocked⟩
            exact ⟨gone.safe, gone, ⟨Nat.le_refl _, id, fun _ => ⟨rfl, rfl⟩⟩, rfl, rfl⟩
      · next absent =>
          refine ⟨empty, closed, rfl, ?_⟩
          cases present : w.context with
          | false => rfl
          | true => exact absurd (kept.context present) absent

end Sockets

/-! ## The process -/

section Process

variable {s s' : ZmqOnnxClient β} {w w' : Sockets}

theorem quiet_sockets : Quiet sockets := by
  intro w c r w' step
  exact noted_of_step (fun _ => rfl) step

theorem Owns.aside (holding : Owns s w) (step : Aside (s, w) (s', w')) : Owns s' w' := by
  obtain ⟨context, socket, world⟩ := step
  obtain rfl : w' = w := world
  exact ⟨holding.opened.trans (congrArg Option.toList socket.symm),
    holding.context.trans context.symm, holding.misused, holding.blocked⟩

theorem Keeps.aside (kept : Keeps s w) (step : Aside (s, w) (s', w')) : Keeps s' w' := by
  obtain ⟨context, socket, world⟩ := step
  obtain rfl : w' = w := world
  refine ⟨?_, fun present => context.trans (kept.context present), kept.misused, kept.blocked⟩
  exact kept.opened.imp_right fun all => all.trans (congrArg Option.toList socket.symm)

/-- What the server knows it holds, it goes on knowing. -/
def Held (x y : ZmqOnnxClient β × Sockets) : Prop := Owns x.1 x.2 → Owns y.1 y.2

instance : IsPreorder (ZmqOnnxClient β × Sockets) Held where
  refl _ holding := holding
  trans _ _ _ first next holding := next (first holding)

/-- A state that holds what is open. -/
theorem Sockets.Safe.owns (safe : w.Safe) (s : ZmqOnnxClient β) :
    Owns { s with socket := w.opened.head?, context := w.context } w := by
  refine ⟨?_, rfl, safe.misused, safe.blocked⟩
  have single := safe.single
  match opened : w.opened with
  | [] => rfl
  | [socket] => rfl
  | _ :: _ :: _ =>
      rw [opened] at single
      simp at single

theorem held_of_spec {p : ServerM β α} (spec : ∀ {s w}, Owns s w →
    p.wpc sockets Sockets.Safe (fun _ s' w' => Owns s' w') s w) : Py.Within sockets Held p := by
  intro s w
  by_cases holding : Owns s w
  · exact Py.wpc_mono (fun w' safe => ⟨_, fun _ => safe.owns s⟩) (fun _ _ _ kept _ => kept)
      (spec holding)
  · exact Py.wpc_mono (fun w' _ => ⟨s, fun here => absurd here holding⟩)
      (fun _ _ _ _ here => absurd here holding)
      (Py.wpc_invariant (fun _ _ _ _ _ _ => trivial) p trivial)

theorem spec_of_held {p : ServerM β α} (held : Py.Within sockets Held p) (holding : Owns s w) :
    p.wpc sockets Sockets.Safe (fun _ s' w' => Owns s' w') s w := by
  refine Py.wpc_mono (fun w' crash => ?_) (fun _ _ _ kept => kept holding) (held s w)
  obtain ⟨s', kept⟩ := crash
  exact (kept holding).safe

theorem held_of_aside {p : ServerM β α} (aside : Py.Within sockets Aside p) :
    Py.Within sockets Held p := by
  intro s w
  refine Py.wpc_mono (fun w' crash => ?_) (fun _ _ _ step holding => holding.aside step) (aside s w)
  obtain ⟨s', step⟩ := crash
  exact ⟨s', fun holding => holding.aside step⟩

theorem held_sendMultipart (frames : List Bytes) :
    Py.Within sockets Held (sendMultipart frames : ServerM β Unit) :=
  held_of_spec fun holding => sendMultipart_owns holding frames

theorem held_sendErrorResponse (msg : PyStr) :
    Py.Within sockets Held (sendErrorResponse msg : ServerM β Unit) :=
  within_exceptException (held_sendMultipart _) fun _ => .pure ()

/-- The server serves on with what is open, or it ends with what may be closed already. -/
def ServesOn (r : Except PyErr Next) (s : ZmqOnnxClient β) (w : Sockets) : Prop :=
  Keeps s w ∧ (r = .ok .again → Owns s w)

theorem Owns.servesOn (holding : Owns s w) (r : Except PyErr Next) : ServesOn r s w :=
  ⟨holding.keeps, fun _ => holding⟩

theorem handleZmqError_servesOn (holding : Owns s w) (e : PyErr) :
    (handleZmqError e : ServerM β Next).wpc sockets Sockets.Safe ServesOn s w := by
  rw [handleZmqError, Py.wpc_ite]
  split
  · exact holding.servesOn _
  · rw [Py.wpc_ite]
    split
    · rw [wpc_exceptException, Py.wpc_bind]
      refine Py.wpc_mono (fun _ safe => safe) (fun r s' w' reset => ?_) (resetSocket_keeps holding)
      cases r with
      | ok _ => exact (reset.2 rfl).servesOn _
      | error e' =>
          have ended : ∀ r : Except PyErr Next, r ≠ .ok .again → ServesOn r s' w' :=
            fun r other => ⟨reset.1, fun again => absurd again other⟩
          rw [Py.either_error, Py.either_error]
          split
          · exact ended _ (by simp)
          · exact ended _ (by simp)
    · have answered := spec_of_held (β := β) (held_sendErrorResponse e.msg) holding
      rw [Py.wpc_bind]
      refine Py.wpc_mono (fun _ safe => safe) (fun r s' w' still => ?_) answered
      cases r with
      | ok _ => exact still.servesOn _
      | error _ => exact still.servesOn _

variable [NumPy] [InferenceBackend β]

theorem held_serveMessage : Py.Within sockets Held (serveMessage : ServerM β Unit) :=
  (held_of_spec recvMultipart_owns).bind fun frames => (Py.Within.ofExcept _).bind fun request =>
    (held_of_aside (aside_respond quiet_sockets frames request.1 request.2)).bind fun response =>
      held_sendMultipart response

theorem serveOnce_servesOn (holding : Owns s w) :
    (serveOnce : ServerM β Next).wpc sockets Sockets.Safe ServesOn s w := by
  rw [serveOnce, Py.wpc_catching, Py.wpc_bind]
  refine Py.wpc_mono (fun _ safe => safe) (fun r s₁ w₁ still => ?_)
    (spec_of_held held_serveMessage holding)
  cases r with
  | ok _ => exact still.servesOn _
  | error e =>
      rw [Py.either_error, Py.either_error, Py.wpc_ite]
      split
      · exact handleZmqError_servesOn still e
      · rw [Py.wpc_ite]
        split
        · rw [Py.wpc_bind]
          refine Py.wpc_mono (fun _ safe => safe) (fun r s₂ w₂ still => ?_)
            (spec_of_held (held_sendErrorResponse e.msg) still)
          cases r with
          | ok _ => exact still.servesOn _
          | error _ => exact still.servesOn _
        · exact still.servesOn _

theorem serveRounds_servesOn (n : Nat) (holding : Owns s w) :
    (serveRounds n : ServerM β Next).wpc sockets Sockets.Safe ServesOn s w := by
  induction n generalizing s w with
  | zero => exact holding.servesOn _
  | succ n ih =>
      rw [serveRounds, Py.wpc_bind]
      refine Py.wpc_mono (fun _ safe => safe) (fun r s₁ w₁ served => ?_)
        (serveOnce_servesOn holding)
      rcases r with e | - | -
      · exact ⟨served.1, by simp⟩
      · exact ih (served.2 rfl)
      · exact ⟨served.1, by simp⟩

/-! ## Clean-ups -/

omit [NumPy] in
/-- A clean-up releases everything, unless a release failed or an exit request came into one. -/
theorem cleanup_spec (kept : Keeps s w) :
    (cleanup : ServerM β Unit).wpc sockets Sockets.Safe (fun _ s' w' => Keeps s' w' ∧ w.Onward w' ∧
      (w'.failed = false → w'.Released ∨ w.interrupts < w'.interrupts)) s w := by
  have blamed {e : PyErr} {w' : Sockets} (blamed : w.Blamed e w') (intact : w'.failed = false) :
      w'.Released ∨ w.interrupts < w'.interrupts := by
    refine .inr (blamed.interrupted fun exc => ?_)
    exact absurd (intact.symm.trans (blamed.failed exc)) (by decide)
  rw [cleanup, wpc_exceptException, Py.wpc_bind]
  refine Py.wpc_mono (fun _ safe => safe) (fun r s₁ w₁ released => ?_) (releaseZmq_spec kept)
  obtain ⟨still, onward, outcome⟩ := released
  cases r with
  | error e =>
      rw [Py.either_error, Py.either_error]
      split
      · exact ⟨still, onward, blamed outcome⟩
      · exact ⟨still, onward, blamed outcome⟩
  | ok _ =>
      rw [Py.either_ok]
      refine Py.wpc_mono (fun w' crash => ?_) (fun r s₂ w₂ step => ?_)
        (aside_onBackend quiet_sockets InferenceBackend.close s₁ w₁)
      · obtain ⟨s', step⟩ := crash
        exact (still.aside step).safe
      · have closed := still.aside step
        obtain ⟨-, -, world⟩ := step
        obtain rfl : w₂ = w₁ := world
        cases r with
        | ok _ => exact ⟨closed, onward, fun _ => .inl outcome⟩
        | error e =>
            rw [Py.either_error]
            split
            · exact ⟨closed, onward, fun _ => .inl outcome⟩
            · exact ⟨closed, onward, fun _ => .inl outcome⟩

/-- Where the server has ended, one clean-up has come to its end. -/
theorem startServer_spec (rounds : Nat) (holding : Owns s w) :
    (startServer rounds : ServerM β Next).wpc sockets Sockets.Safe (fun r s' w' => Keeps s' w' ∧
      (r ≠ .ok .again → w'.failed = false → w'.Released ∨ 0 < w'.interrupts)) s w := by
  have once {s : ZmqOnnxClient β} {w : Sockets} (kept : Keeps s w) :
      (cleanup >>= fun _ => pure .stop : ServerM β Next).wpc sockets Sockets.Safe (fun r s' w' =>
        Keeps s' w' ∧ (r ≠ .ok .again → w'.failed = false → w'.Released ∨ 0 < w'.interrupts)) s w := by
    rw [Py.wpc_bind]
    refine Py.wpc_mono (fun _ safe => safe) (fun r s₁ w₁ cleaned => ?_) (cleanup_spec kept)
    have done : w₁.failed = false → w₁.Released ∨ 0 < w₁.interrupts :=
      fun intact => (cleaned.2.2 intact).imp_right Nat.zero_lt_of_lt
    cases r with
    | error e => exact ⟨cleaned.1, fun _ => done⟩
    | ok _ => exact ⟨cleaned.1, fun _ => done⟩
  rw [startServer, Py.wpc_bind, Py.wpc_catching, Py.wpc_bind]
  refine Py.wpc_mono (fun _ safe => safe) (fun r s₁ w₁ bound => ?_) (bind_owns holding)
  cases r with
  | error e => exact once bound.keeps
  | ok _ =>
      rw [Py.either_ok]
      refine Py.wpc_mono (fun _ safe => safe) (fun r s₂ w₂ served => ?_)
        (serveRounds_servesOn rounds bound)
      rcases r with e | - | -
      · exact once served.1
      · exact ⟨served.1, fun ended => absurd rfl ended⟩
      · exact once served.1

/-- The `try` statement of `main`. An interrupt and an exit request differ only in what is reported
afterwards. -/
def serveAndCleanup (rounds : Nat) : ServerM β Next := do
  let next ← Py.catching (startServer rounds) fun e => do
    cleanup
    throw e
  match next with
  | .again => pure .again
  | .stop => do
    cleanup
    pure .stop

/-- The constructor, with a backend that could be created. -/
def construct (pinned : Option PyStr) : ServerM β Unit := do
  initializeZmq
  loadPinned pinned

/-- The program from the constructor on, for at most so many rounds of the loop. -/
def main (pinned : Option PyStr) (rounds : Nat) : ServerM β Next := do
  construct pinned
  serveAndCleanup rounds

/-- Of two clean-ups one is not interrupted, where there is one exit request. -/
theorem serveAndCleanup_spec (rounds : Nat) (holding : Owns s w) :
    (serveAndCleanup rounds : ServerM β Next).wpc sockets Sockets.Safe (fun r _ w' =>
      r ≠ .ok .again → w'.failed = false → w'.interrupts ≤ 1 → w'.Released) s w := by
  have again {s : ZmqOnnxClient β} {w : Sockets} {r : Except PyErr Unit} {w' : Sockets}
      (first : w.failed = false → w.Released ∨ 0 < w.interrupts)
      (cleaned : Keeps s w' ∧ w.Onward w' ∧
        (w'.failed = false → w'.Released ∨ w.interrupts < w'.interrupts))
      (intact : w'.failed = false) (single : w'.interrupts ≤ 1) : w'.Released := by
    obtain ⟨-, onward, second⟩ := cleaned
    have before : w.failed = false := by
      cases failed : w.failed with
      | false => rfl
      | true => exact absurd (intact.symm.trans (onward.failed failed)) (by decide)
    rcases first before with released | interrupted
    · exact onward.released released
    · rcases second intact with released | more
      · exact released
      · omega
  rw [serveAndCleanup, Py.wpc_bind, Py.wpc_catching]
  refine Py.wpc_mono (fun _ safe => safe) (fun r s₁ w₁ served => ?_)
    (startServer_spec rounds holding)
  obtain ⟨kept, first⟩ := served
  rcases r with e | - | -
  · -- The exception is raised again, unless the clean-up raises one of its own.
    rw [Py.either_error, Py.wpc_bind]
    refine Py.wpc_mono (fun _ safe => safe) (fun r s₂ w₂ cleaned => ?_) (cleanup_spec kept)
    cases r with
    | error e' => exact fun _ => again (r := .error e') (first (by simp)) cleaned
    | ok _ => exact fun _ => again (r := .ok ()) (first (by simp)) cleaned
  · exact fun ended => absurd rfl ended
  · rw [Py.either_ok, Py.either_ok, Py.wpc_bind]
    refine Py.wpc_mono (fun _ safe => safe) (fun r s₂ w₂ cleaned => ?_) (cleanup_spec kept)
    cases r with
    | error e' => exact fun _ => again (r := .error e') (first (by simp)) cleaned
    | ok _ => exact fun _ => again (r := .ok ()) (first (by simp)) cleaned

omit [NumPy] [InferenceBackend β] in
/-- Setting up ZMQ cleans up after an exception, but not after an exit request. -/
theorem initializeZmq_releases (holding : Owns s w) (context : s.context = false)
    (none : s.socket = none) :
    (initializeZmq : ServerM β Unit).wpc sockets Sockets.Safe (fun r s' w' => Py.either
      (fun _ => Owns s' w') (fun e => e.IsException → w'.failed = false → w'.Released) r) s w := by
  -- What a failure leaves behind, whether it is handled or not.
  have failing (e : PyErr) {s : ZmqOnnxClient β} {w : Sockets} (holding : Owns s w) :
      (if e.IsException then (do exceptException releaseZmq fun _ => pure (); throw e : ServerM β
          Unit).wpc sockets Sockets.Safe (fun r s' w' => Py.either (fun _ => Owns s' w')
            (fun e => e.IsException → w'.failed = false → w'.Released) r) s w
        else e.IsException → w.failed = false → w.Released) := by
    split
    · rw [Py.wpc_bind, wpc_exceptException]
      refine Py.wpc_mono (fun _ safe => safe) (fun r s₁ w₁ left => ?_)
        (releaseZmq_spec holding.keeps)
      obtain ⟨-, -, outcome⟩ := left
      cases r with
      | ok _ => exact fun _ _ => outcome
      | error e' =>
          rw [Py.either_error]
          split
          · next exc =>
              intro _ intact
              exact absurd (intact.symm.trans (outcome.failed exc)) (by decide)
          · next exit => exact fun exc => absurd exc exit
    · next exit => exact fun exc => absurd exc exit
  rw [initializeZmq, wpc_exceptException, Py.wpc_bind, Py.wpc_ask]
  intro r w' step
  obtain rfl := noted_of_step (fun _ => rfl) step
  cases r with
  | error e => exact ⟨holding.safe, failing e holding⟩
  | ok _ =>
      have made : Owns { s with context := true } (w.note .newContext (.ok ())) := by
        refine ⟨holding.opened, rfl, ?_, holding.blocked⟩
        rw [Sockets.note, holding.misused, holding.context, context]
        rfl
      refine ⟨made.safe, ?_⟩
      rw [Py.either_ok, Py.wpc_bind, Py.wpc_modify, Py.either_ok]
      refine Py.wpc_mono (fun _ safe => safe) (fun r s₁ w₁ kept => ?_) (openSocket_owns made none)
      cases r with
      | ok _ => exact kept
      | error e => exact failing e kept

omit [NumPy] in
theorem exits_loadPinned (pinned : Option PyStr) :
    Py.Raises sockets (fun e => ¬ e.IsException) (loadPinned pinned : ServerM β Unit) := by
  cases pinned with
  | none => exact .pure ()
  | some modelPath =>
      exact Py.Raises.bind (raises_guarded (fun _ exit => exit) fun _ => .pure false) fun _ =>
        .ite (.modify _) (.pure ())

omit [NumPy] in
theorem construct_spec (endpoint modelsDir : PyStr) (backend : β) (pinned : Option PyStr) :
    (construct pinned).wpc sockets Sockets.Safe (fun r s w => Py.either (fun _ => Owns s w)
      (fun e => e.IsException → w.failed = false → w.Released) r)
      ⟨endpoint, modelsDir, none, false, false, none, backend⟩ .start := by
  rw [construct, Py.wpc_bind]
  refine Py.wpc_mono (fun _ safe => safe) (fun r s w built => ?_)
    (initializeZmq_releases ⟨rfl, rfl, rfl, rfl⟩ rfl rfl)
  cases r with
  | error e => exact built
  | ok _ =>
      rw [Py.either_ok]
      refine Py.wpc_mono (fun w' crash => ?_) (fun r s₁ w₁ loaded => ?_)
        (Py.wpc_and (aside_loadPinned quiet_sockets pinned s w) (exits_loadPinned pinned s w))
      · obtain ⟨⟨s', step⟩, -⟩ := crash
        exact (built.aside step).safe
      · obtain ⟨step, exits⟩ := loaded
        cases r with
        | error e => exact fun exc => absurd exc exits
        | ok _ => exact built.aside step

/-- In every run, whatever fails and whenever an exit request comes, there is at most one socket,
every use is of a socket that is open, and no context is terminated with a socket in it. An exception
out of the constructor leaves nothing open unless a release failed. Once the constructor has returned,
neither does the end of `main`, unless a release failed or two exit requests came into the releases:
there are two clean-ups, and one exit request interrupts only one of them. -/
theorem main_releases (endpoint modelsDir : PyStr) (backend : β) (pinned : Option PyStr)
    (rounds : Nat) :
    (∀ w, Prog.Reaches sockets
        (main pinned rounds ⟨endpoint, modelsDir, none, false, false, none, backend⟩) .start w →
      w.Safe) ∧
    (∀ e s w, (construct pinned).Exec sockets
        ⟨endpoint, modelsDir, none, false, false, none, backend⟩ .start (.error e) s w →
      e.IsException → w.failed = false → w.Released) ∧
    ∀ s w r s' w', (construct pinned).Exec sockets
        ⟨endpoint, modelsDir, none, false, false, none, backend⟩ .start (.ok ()) s w →
      (serveAndCleanup rounds).Exec sockets s w r s' w' → r ≠ .ok .again → w'.failed = false →
        w'.interrupts ≤ 1 → w'.Released := by
  have built := construct_spec endpoint modelsDir backend pinned
  refine ⟨fun w run => ?_, fun e s w run => Py.wpc_exec built run, fun s w r s' w' made run => ?_⟩
  · have whole : (main pinned rounds).wpc sockets Sockets.Safe (fun _ _ _ => True)
        ⟨endpoint, modelsDir, none, false, false, none, backend⟩ .start := by
      rw [main, Py.wpc_bind]
      refine Py.wpc_mono (fun _ safe => safe) (fun r s₁ w₁ made => ?_) built
      cases r with
      | error e => trivial
      | ok _ =>
          exact Py.wpc_mono (fun _ safe => safe) (fun _ _ _ _ => trivial)
            (serveAndCleanup_spec rounds made)
    exact Prog.wpc_reaches whole ⟨Nat.zero_le 1, rfl, rfl⟩ run
  · exact Py.wpc_exec (serveAndCleanup_spec rounds (Py.wpc_exec built made)) run

end Process

/-! ## An example run -/

/-- An exit request comes while the server waits for a message. -/
def Sockets.answer (_ : Sockets) : (c : ServerCall) → Except PyErr c.Answer
  | .newSocket => .ok 1
  | .recvMultipart _ => .error ⟨.systemExit, py "0"⟩
  | .host _ => .error (exception "not available")
  | .newContext | .termContext | .bind _ _ | .closeSocket _ | .setsockopt _ _
  | .sendMultipart _ _ => .ok ()

/-- The server once the constructor has returned. -/
def constructed : (Except PyErr Unit × ZmqOnnxClient OnnxRuntimeBackend) × Sockets :=
  (construct none).answering Sockets.note Sockets.answer
    ⟨py "tcp://*:5555", py "models", none, false, false, none, cpuBackend none⟩ .start

/-- How `main` ends after it. -/
def stopped : (Except PyErr Next × ZmqOnnxClient OnnxRuntimeBackend) × Sockets :=
  (@serveAndCleanup _ .reference _ 1).answering Sockets.note Sockets.answer constructed.1.2
    constructed.2

/-- The service is stopped. -/
theorem main_releases_stopped : stopped.1.1 ≠ .ok .again ∧ stopped.2.Released := by
  have sound (w : Sockets) (c : ServerCall) :
      sockets.step w c (w.answer c) (w.note c (w.answer c)) := .inl rfl
  have made := Py.exec_answering sound (construct none)
    ⟨py "tcp://*:5555", py "models", none, false, false, none, cpuBackend none⟩ .start rfl
  have run := Py.exec_answering sound (@serveAndCleanup _ .reference _ 1) constructed.1.2
    constructed.2 rfl
  have ended : stopped.1.1 ≠ .ok .again := by
    have stop : stopped.1.1 = .ok .stop := rfl
    rw [stop]
    simp
  exact ⟨ended, (@main_releases _ .reference _ _ _ _ none 1).2.2 _ _ _ _ _ made run ended rfl
    (by decide)⟩

end Detector
