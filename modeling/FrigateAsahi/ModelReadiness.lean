import FrigateAsahi.Backends.Calls
import FrigateAsahi.Handshake

/-!
# Whether the server has a model ready

A round of the server's loop changes `model_ready` and `backend.loaded` only by a load. A load that
succeeds raises both; one that fails leaves `model_ready` as it was, whatever becomes of the engine
(`moving_serveOnce`). Every call may fail, those of the socket included.
-/

namespace Detector

open Text Python Numpy Interaction

/-! ## A round -/

def Wire.Flaky (D : Env Host Store) (w : Wire) :
    (c : ServerCall) → Except PyErr c.Answer → Wire → Prop
  | .host c, r, w' => ∃ store, D.step w.store c r store ∧ w' = w.over store
  | .recvMultipart _, .ok frames, w' => w.incoming = some frames ∧ w' = { w with incoming := none }
  | .sendMultipart _ frames, .ok _, w' => w' = { w with outgoing := w.outgoing ++ [frames] }
  | _, _, w' => w' = w

/-- The server's surroundings, where receiving and sending may fail. -/
def flaky (D : Env Host Store) : Env Server Wire := ⟨Wire.Flaky D⟩

section Rounds

variable [NumPy]

/-- No load was tried, and a model is ready or not as before. -/
structure Unmoved (x y : ZmqOnnxClient Backend × Wire) : Prop where
  ready : y.1.modelReady = x.1.modelReady
  loaded : InferenceBackend.loaded y.1.backend = InferenceBackend.loaded x.1.backend
  loads : y.2.store.loads = x.2.store.loads

/-- One load was tried. -/
structure Tried (ok : Bool) (x y : ZmqOnnxClient Backend × Wire) : Prop where
  loads : ∃ p, y.2.store.loads = x.2.store.loads ++ [(p, ok)]
  ready : y.1.modelReady = (x.1.modelReady || ok)
  loaded : ok = true → InferenceBackend.loaded y.1.backend = true

inductive Moves (x y : ZmqOnnxClient Backend × Wire) : Prop
  | unmoved (same : Unmoved x y)
  | tried {ok : Bool} (load : Tried ok x y)

instance : IsPreorder (ZmqOnnxClient Backend × Wire) Unmoved where
  refl _ := ⟨rfl, rfl, rfl⟩
  trans _ _ _ first next :=
    ⟨next.ready.trans first.ready, next.loaded.trans first.loaded, next.loads.trans first.loads⟩

theorem Tried.after {ok : Bool} {x y z : ZmqOnnxClient Backend × Wire} (load : Tried ok y z)
    (before : Unmoved x y) : Tried ok x z := by
  rcases load.loads with ⟨p, loads⟩
  refine ⟨⟨p, ?_⟩, ?_, load.loaded⟩
  · rw [loads, before.loads]
  · rw [load.ready, before.ready]

theorem Moves.after {x y z : ZmqOnnxClient Backend × Wire} (moves : Moves y z)
    (before : Unmoved x y) : Moves x z := by
  cases moves with
  | unmoved same => exact .unmoved (IsTrans.trans _ _ _ before same)
  | tried load => exact .tried (load.after before)

theorem Moves.before {x y z : ZmqOnnxClient Backend × Wire} (moves : Moves x y)
    (after : Unmoved y z) : Moves x z := by
  cases moves with
  | unmoved same => exact .unmoved (IsTrans.trans _ _ _ same after)
  | tried load =>
      rcases load.loads with ⟨p, loads⟩
      refine .tried ⟨⟨p, after.loads.trans loads⟩, after.ready.trans load.ready, fun ok => ?_⟩
      exact after.loaded.trans (load.loaded ok)

/-! ## Parts that try no load -/

variable {α : Type}

theorem unmoved_callHost {c : HostCall} (unnoted : ∀ w r, Store.noted w c r = w.loads) :
    Py.Within (flaky disk) Unmoved (callHost c : ServerM Backend c.Answer) := by
  refine .ask fun s w r w' step => ?_
  obtain ⟨store, step, rfl⟩ := step
  exact ⟨rfl, rfl, step.loads.trans (unnoted w.store r)⟩

theorem unmoved_callServer {c : ServerCall}
    (steps : ∀ w r w', (flaky disk).step w c r w' → w'.store = w.store) :
    Py.Within (flaky disk) Unmoved (callServer c : ServerM Backend c.Answer) := by
  refine .ask fun s w r w' step => ?_
  exact ⟨rfl, rfl, congrArg Store.loads (steps w r w' step)⟩

theorem unmoved_setSocket (socket : Option Nat) : Py.Within (flaky disk) Unmoved
    (modify fun self : ZmqOnnxClient Backend => { self with socket } : ServerM Backend PUnit) :=
  .modify fun _ _ => ⟨rfl, rfl, rfl⟩

omit [NumPy] in
theorem noted_idle {c : HostCall} (idle : Idle c) (w : Store) (r : Except PyErr c.Answer) :
    w.noted c r = w.loads := by
  cases c with
  | log line =>
      cases line with
      | loadingModel p => exact idle.elim
      | loaded engine => rfl
      | warmUpOk engine => rfl
  | sleep => exact idle.elim
  | _ => rfl

theorem unmoved_onBackend {p : HostM Backend α} (only : Py.Only Idle p) :
    Py.Within (flaky disk) Unmoved (onBackend p) := by
  intro s w
  rw [wpc_onBackend]
  have kept : Py.Within (hostEnv (flaky disk))
      (fun x y => y.1 = x.1 ∧ y.2.store.loads = x.2.store.loads) p := by
    have order : IsPreorder (Backend × Wire)
        (fun x y => y.1 = x.1 ∧ y.2.store.loads = x.2.store.loads) :=
      { refl := fun _ => ⟨rfl, rfl⟩
        trans := fun _ _ _ first next => ⟨next.1.trans first.1, next.2.trans first.2⟩ }
    refine only.within fun c idle b v r v' step => ⟨rfl, ?_⟩
    obtain ⟨r, rfl, store, step, rfl⟩ := step
    exact step.loads.trans (noted_idle idle v.store r)
  refine Py.wpc_mono (fun w' crash => ?_) (fun r b w' same => ?_) (kept s.backend w)
  · obtain ⟨_, -, loads⟩ := crash
    exact ⟨s, rfl, rfl, loads⟩
  · obtain ⟨rfl, loads⟩ := same
    exact ⟨rfl, rfl, loads⟩

theorem unmoved_sendMultipart (frames : List Bytes) :
    Py.Within (flaky disk) Unmoved (sendMultipart frames : ServerM Backend Unit) := by
  refine Py.Within.get.bind fun self => ?_
  cases self.socket with
  | none => exact .throw _
  | some socket =>
      refine unmoved_callServer fun w r w' step => ?_
      cases r with
      | error e =>
          obtain rfl : w' = w := step
          rfl
      | ok _ =>
          obtain rfl : w' = { w with outgoing := w.outgoing ++ [frames] } := step
          rfl

theorem unmoved_recvMultipart :
    Py.Within (flaky disk) Unmoved (recvMultipart : ServerM Backend (List Bytes)) := by
  refine Py.Within.get.bind fun self => ?_
  cases self.socket with
  | none => exact .throw _
  | some socket =>
      refine unmoved_callServer fun w r w' step => ?_
      cases r with
      | error e =>
          obtain rfl : w' = w := step
          rfl
      | ok frames =>
          obtain ⟨-, rfl⟩ := step
          rfl

/-- A call that does nothing but with the socket. -/
theorem unmoved_socket {c : ServerCall} (idle : ∀ w r w', (flaky disk).step w c r w' → w' = w) :
    Py.Within (flaky disk) Unmoved (callServer c : ServerM Backend c.Answer) :=
  unmoved_callServer fun w r w' step => congrArg Wire.store (idle w r w' step)

theorem unmoved_resetSocket : Py.Within (flaky disk) Unmoved (resetSocket : ServerM Backend Unit) := by
  have closes : Py.Within (flaky disk) Unmoved (closeSocket : ServerM Backend Unit) := by
    refine Py.Within.get.bind fun self => ?_
    cases self.socket with
    | none => exact .pure ()
    | some socket =>
        exact (unmoved_socket (by exact fun _ _ _ => id)).bind fun _ =>
          unmoved_setSocket none
  have opens : Py.Within (flaky disk) Unmoved (openSocket : ServerM Backend Unit) := by
    refine Py.Within.get.bind fun self => .ite ?_ (.throw _)
    exact (unmoved_socket (by exact fun _ _ _ => id)).bind fun _ =>
      (unmoved_setSocket _).bind fun _ =>
        (unmoved_socket (by exact fun _ _ _ => id)).bind fun _ =>
          (unmoved_socket (by exact fun _ _ _ => id)).bind fun _ =>
            unmoved_socket (by exact fun _ _ _ => id)
  have binds : Py.Within (flaky disk) Unmoved (bind : ServerM Backend Unit) := by
    refine Py.Within.get.bind fun self => ?_
    cases self.socket with
    | none => exact .throw _
    | some socket => exact unmoved_socket (by exact fun _ _ _ => id)
  exact closes.bind fun _ => opens.bind fun _ => binds

theorem unmoved_sendErrorResponse (msg : PyStr) :
    Py.Within (flaky disk) Unmoved (sendErrorResponse msg : ServerM Backend Unit) :=
  within_exceptException (unmoved_sendMultipart _) fun _ => .pure ()

theorem unmoved_handleZmqError (e : PyErr) :
    Py.Within (flaky disk) Unmoved (handleZmqError e : ServerM Backend Next) := by
  refine .ite (.pure _) (.ite ?_ ?_)
  · exact within_exceptException (unmoved_resetSocket.bind fun _ => .pure _) fun _ => .pure _
  · exact (unmoved_sendErrorResponse _).bind fun _ => .pure _

theorem unmoved_checkModelExists (name : Json) :
    Py.Within (flaky disk) Unmoved (checkModelExists name : ServerM Backend Bool) :=
  Py.Within.get.bind fun _ => (Py.Within.ofExcept _).bind fun _ => unmoved_callHost fun _ _ => rfl

theorem unmoved_saveModel (name : Json) (data : Bytes) :
    Py.Within (flaky disk) Unmoved (saveModel name data : ServerM Backend Bool) :=
  within_exceptException (Py.Within.get.bind fun _ => (unmoved_callHost fun _ _ => rfl).bind fun _ =>
    (Py.Within.ofExcept _).bind fun _ => (unmoved_callHost fun _ _ => rfl).bind fun _ =>
      (Py.Within.andFinally (unmoved_callHost fun _ _ => rfl) (unmoved_callHost fun _ _ => rfl)).bind
        fun _ => .pure true) fun _ => .pure false

theorem unmoved_buildResponse (result : NdArray) :
    Py.Within (flaky disk) Unmoved (buildResponse result : ServerM Backend (List Bytes)) :=
  within_exceptException ((unmoved_callHost fun _ _ => rfl).bind fun _ => .pure _) fun _ => .pure _

theorem unmoved_feedsOf (tensor : NdArray) (modelType : Json) (width height : Int) :
    Py.Within (flaky disk) Unmoved (feedsOf tensor modelType width height : ServerM Backend Feeds) := by
  refine .ite ?_ ?_
  · exact (Py.Within.ofExcept _).bind fun _ => (Py.Within.ofExcept _).bind fun _ => .pure _
  · refine (unmoved_onBackend (only_idle Backend.only_inputNames)).bind fun names => ?_
    cases names with
    | nil => exact .throw _
    | cons name rest => exact .pure _

theorem unmoved_resultFor (tensor : NdArray) (header : Json) :
    Py.Within (flaky disk) Unmoved (resultFor tensor header : ServerM Backend NdArray) := by
  have inferred : Py.Within (flaky disk) Unmoved (runInference tensor header : ServerM Backend NdArray) :=
    Py.Within.get.bind fun _ => .ite (.pure _) <| within_exceptException
      ((Py.Within.ofExcept _).bind fun _ => (unmoved_feedsOf _ _ _ _).bind fun _ =>
        (unmoved_onBackend (only_idle (Backend.only_infer _))).bind fun _ => (Py.Within.ofExcept _).bind fun _ =>
          (unmoved_callHost fun _ _ => rfl).bind fun _ => .ofExcept _) fun _ => .pure _
  exact Py.Within.get.bind fun _ => .ite inferred (.pure _)

/-! ## A load -/

omit [NumPy] in
theorem flaky_host {s : ZmqOnnxClient Backend} {w : Wire} {c : HostCall}
    {Q : Except PyErr c.Answer → ZmqOnnxClient Backend → Wire → Prop}
    (each : ∀ r store, w.store.Step c r store → Q r s (w.over store)) :
    (callHost c : ServerM Backend c.Answer).wpc (flaky disk) (fun _ => True) Q s w := by
  rw [Py.wpc_ask]
  intro r w' step
  obtain ⟨store, step, rfl⟩ := step
  exact ⟨trivial, each r store step⟩

theorem flaky_load {s : ZmqOnnxClient Backend} {w : Wire} (p : PyStr) :
    (onBackend (InferenceBackend.load p) : ServerM Backend Unit).wpc (flaky disk) (fun _ => True)
      (fun r s' w' => ∃ b store, s' = { s with backend := b } ∧ w' = w.over store ∧
        Installs p w.store r b store) s w := by
  rw [wpc_onBackend]
  have steps : ∀ v c r v', (hostEnv (flaky disk)).step v c r v' → v = w.over v.store →
      disk.step v.store c r v'.store ∧ v' = w.over v'.store := by
    intro v c r v' step frame
    obtain ⟨r, rfl, store, step, rfl⟩ := step
    rw [frame]
    exact ⟨step, rfl⟩
  refine Py.wpc_mono (fun _ _ => trivial) (fun r b v post => ?_)
    (Py.wpc_project (v := Wire.store) (F := fun v => v = w.over v.store) steps rfl
      (Backend.load_keeps p s.backend w.store))
  exact ⟨b, v.store, rfl, post.2, post.1⟩

/-- The loop goes on after a value and after an exception, and ends with an exit request. -/
def Proceeds {α : Type} (r : Except PyErr α) : Prop := ∀ e, r = .error e → e.IsException

omit [NumPy] in
theorem proceeds_ok {α : Type} (a : α) : Proceeds (.ok a : Except PyErr α) := nofun

/-- At most one load is tried, unless the loop ends. -/
def Moving {α : Type} (p : ServerM Backend α) : Prop :=
  ∀ s w, p.wpc (flaky disk) (fun _ => True) (fun r s' w' => Proceeds r → Moves (s, w) (s', w')) s w

theorem moving_loadModel (name : Json) : Moving (loadModel name : ServerM Backend Bool) := by
  intro s w
  -- An exception is caught, and an exit request ends the loop.
  have failed {e : PyErr} {s' : ZmqOnnxClient Backend} {w' : Wire}
      (moves : Moves (s, w) (s', w')) :
      Py.either (fun a => Proceeds (.ok a) → Moves (s, w) (s', w'))
        (fun e => if e.IsException then
            (pure false : ServerM Backend Bool).wpc (flaky disk) (fun _ => True)
              (fun r s' w' => Proceeds r → Moves (s, w) (s', w')) s' w'
          else Proceeds (.error e : Except PyErr Bool) → Moves (s, w) (s', w'))
        (.error e : Except PyErr Bool) := by
    rw [Py.either_error]
    split
    · exact fun _ => moves
    · exact fun _ => moves
  rw [loadModel, wpc_exceptException, Py.wpc_bind, Py.wpc_get, Py.either_ok, Py.wpc_bind,
    Py.wpc_ofExcept]
  cases file : modelFile s.modelsDir name with
  | error e => exact failed (.unmoved (refl _))
  | ok p =>
      rw [Py.either_ok, Py.wpc_bind]
      refine flaky_host fun r store₁ step => ?_
      have begun : store₁.loads = w.store.loads ++ [(p, false)] := step.loads
      cases r with
      | error e => exact failed (.tried ⟨⟨p, begun⟩, (Bool.or_false _).symm, by simp⟩)
      | ok _ =>
          rw [Py.either_ok, Py.wpc_bind, loadModelFile, wpc_exceptException, Py.wpc_bind]
          refine Py.wpc_mono (fun _ _ => trivial) (fun r s₂ w₂ installs => ?_) (flaky_load p)
          obtain ⟨b, store₂, rfl, rfl, installs⟩ := installs
          have loads := installs.spares.loads.trans begun
          have unloaded : Tried false (s, w) ({ s with backend := b }, (w.over store₁).over store₂) :=
            ⟨⟨p, loads⟩, (Bool.or_false _).symm, by simp⟩
          cases r with
          | error e =>
              rw [Py.either_error, Py.either_error]
              split
              · exact fun _ => .tried unloaded
              · exact failed (.tried unloaded)
          | ok _ =>
              rw [Py.either_ok, Py.wpc_pure, Py.either_ok, Py.either_ok, if_pos rfl, Py.wpc_bind,
                Py.wpc_modify, Py.either_ok, Py.wpc_bind]
              refine flaky_host fun r store₃ step => ?_
              cases r with
              | error e =>
                  have exit : ¬ e.IsException := step.answers
                  rw [Py.either_error, Py.either_error, if_neg exit]
                  exact fun proceeds => absurd (proceeds e rfl) exit
              | ok _ =>
                  rw [Py.either_ok, Py.wpc_pure, Py.either_ok]
                  refine fun _ => .tried ⟨⟨p, ?_⟩, (Bool.or_true _).symm, fun _ => installs.loaded rfl⟩
                  have noted : store₃.loads = succeed store₂.loads := step.loads
                  exact noted.trans ((congrArg succeed loads).trans (succeed_append _ _))

/-! ## The round -/

section Moving

variable {β : Type}

theorem Moving.of_unmoved {p : ServerM Backend α} (same : Py.Within (flaky disk) Unmoved p) :
    Moving p := by
  intro s w
  exact Py.wpc_mono (fun _ _ => trivial) (fun _ _ _ unmoved _ => .unmoved unmoved) (same s w)

theorem Moving.ite {c : Prop} [Decidable c] {p q : ServerM Backend α} (yes : Moving p)
    (no : Moving q) : Moving (if c then p else q) := by
  split
  · exact yes
  · exact no

/-- A load after parts that try none. -/
theorem Moving.after {p : ServerM Backend β} {f : β → ServerM Backend α}
    (same : Py.Within (flaky disk) Unmoved p) (rest : ∀ b, Moving (f b)) : Moving (p >>= f) := by
  intro s w
  rw [Py.wpc_bind]
  refine Py.wpc_mono (fun _ _ => trivial) (fun r s' w' unmoved => ?_) (same s w)
  cases r with
  | error e => exact fun _ => .unmoved unmoved
  | ok b =>
      rw [Py.either_ok]
      refine Py.wpc_mono (fun _ _ => trivial) (fun r s'' w'' moves proceeds => ?_) (rest b s' w')
      exact (moves proceeds).after unmoved

/-- A load before parts that try none. -/
theorem Moving.before {p : ServerM Backend β} {f : β → ServerM Backend α} (moving : Moving p)
    (same : ∀ b, Py.Within (flaky disk) Unmoved (f b)) : Moving (p >>= f) := by
  intro s w
  rw [Py.wpc_bind]
  refine Py.wpc_mono (fun _ _ => trivial) (fun r s' w' moves => ?_) (moving s w)
  cases r with
  | error e => exact fun proceeds => moves fun e' same => proceeds e' (by cases same; rfl)
  | ok b =>
      rw [Py.either_ok]
      refine Py.wpc_mono (fun _ _ => trivial) (fun r s'' w'' unmoved _ => ?_) (same b s' w')
      exact (moves (proceeds_ok b)).before unmoved

end Moving

theorem moving_handleModelRequest (header : Json) :
    Moving (handleModelRequest header : ServerM Backend (List Bytes)) :=
  .after (.ofExcept _) fun _ => .ite (.of_unmoved (.pure _)) <|
    .after (unmoved_checkModelExists _) fun _ => .ite
      ((moving_loadModel _).before fun _ => .ite (.pure _) (.pure _)) (.of_unmoved (.pure _))

theorem moving_handleModelData (header : Json) (data : Bytes) :
    Moving (handleModelData header data : ServerM Backend (List Bytes)) :=
  .after (.ofExcept _) fun _ => .ite (.of_unmoved (.pure _)) <|
    .after (unmoved_saveModel _ _) fun _ => .ite
      ((moving_loadModel _).before fun _ => .ite (.pure _) (.pure _)) (.of_unmoved (.pure _))

theorem moving_respond (frames : List Bytes) (tensor : Option NdArray) (header : Json) :
    Moving (respond frames tensor header : ServerM Backend (List Bytes)) := by
  refine .after (.ofExcept _) fun _ => .after (within_andAlso _ (.ofExcept _)) fun _ =>
    .ite (moving_handleModelRequest _) (.ite (moving_handleModelData _ _) (.of_unmoved ?_))
  cases tensor with
  | none => exact unmoved_buildResponse _
  | some tensor => exact (unmoved_resultFor _ _).bind fun _ => unmoved_buildResponse _

/-- One round of the loop, whatever the message is. -/
theorem moving_serveOnce : Moving (serveOnce : ServerM Backend Next) := by
  intro s w
  have served : Moving (do
      serveMessage
      pure .again : ServerM Backend Next) := by
    refine Moving.before ?_ fun _ => .pure _
    exact .after unmoved_recvMultipart fun _ => .after (.ofExcept _) fun _ =>
      (moving_respond _ _ _).before fun _ => unmoved_sendMultipart _
  rw [serveOnce, Py.wpc_catching]
  refine Py.wpc_mono (fun _ _ => trivial) (fun r s' w' moves => ?_) (served s w)
  cases r with
  | ok next => exact moves
  | error e =>
      rw [Py.either_error]
      by_cases exit : e.IsException
      · have moves : Moves (s, w) (s', w') := moves fun e' same => by cases same; exact exit
        have handled : Py.Within (flaky disk) Unmoved
            (if e.IsZmqError then handleZmqError e
              else if e.IsException then (do
                sendErrorResponse e.msg
                pure .again)
              else throw e : ServerM Backend Next) :=
          .ite (unmoved_handleZmqError e)
            (.ite ((unmoved_sendErrorResponse _).bind fun _ => .pure _) (.throw e))
        refine Py.wpc_mono (fun _ _ => trivial) (fun r s'' w'' unmoved _ => ?_) (handled s' w')
        exact moves.before unmoved
      · have other : ¬ e.IsZmqError := fun zmq => exit zmq.isException
        rw [if_neg other, if_neg exit]
        exact fun proceeds => absurd (proceeds e rfl) exit

end Rounds

end Detector
