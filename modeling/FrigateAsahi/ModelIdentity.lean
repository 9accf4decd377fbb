import FrigateAsahi.EngineLedger
import FrigateAsahi.Service
import FrigateAsahi.Backends.Dispatch

/-!
# Which model is served

A round of the server leaves the model that is served alone, or puts another one in its place and
reports that, or fails to load one. `rounds_faithful` says that the object every call of an inference
goes to was loaded from the file of the model that was last reported as loaded, as long as no failed
load brings its own model into service; `failed_switch_iff` says exactly when a failed load leaves the
service as it was.
-/

namespace Detector

open Text Python Numpy Interaction

/-! ## One round -/

/-- The model and the account are as they were; the socket may be another one. -/
structure Aloof (x y : ZmqOnnxClient Backend × Service) : Prop where
  object : y.1 = { x.1 with context := y.1.context, socket := y.1.socket }
  world : y.2 = x.2

instance : IsPreorder (ZmqOnnxClient Backend × Service) Aloof where
  refl _ := ⟨rfl, rfl⟩
  trans _ _ _ first next := by
    refine ⟨?_, next.world.trans first.world⟩
    rw [next.object, first.object]

theorem aloof_callServer {c : ServerCall} (same : ∀ w r, Service.note w c r = w) :
    Py.Within service Aloof (callServer c : ServerM Backend c.Answer) :=
  .of_still (still_callServer same)

theorem aloof_bind : Py.Within service Aloof (bind : ServerM Backend Unit) := by
  refine Py.Within.get.bind fun self => ?_
  cases self.socket with
  | none => exact .throw _
  | some socket => exact aloof_callServer fun _ _ => rfl

theorem aloof_resetSocket : Py.Within service Aloof (resetSocket : ServerM Backend Unit) := by
  have closed : Py.Within service Aloof (closeSocket : ServerM Backend Unit) := by
    refine Py.Within.get.bind fun self => ?_
    cases self.socket with
    | none => exact .pure ()
    | some socket => exact (aloof_callServer fun _ _ => rfl).bind fun _ => .modify fun _ _ => ⟨rfl, rfl⟩
  have opened : Py.Within service Aloof (openSocket : ServerM Backend Unit) :=
    Py.Within.get.bind fun self => .ite ((aloof_callServer fun _ _ => rfl).bind fun _ =>
      (Py.Within.modify fun _ _ => ⟨rfl, rfl⟩).bind fun _ => (aloof_callServer fun _ _ => rfl).bind
        fun _ => (aloof_callServer fun _ _ => rfl).bind fun _ => aloof_callServer fun _ _ => rfl)
      (.throw _)
  exact closed.bind fun _ => opened.bind fun _ => aloof_bind

/-- A socket that is there stays there. -/
def Holding (x y : ZmqOnnxClient Backend × Service) : Prop :=
  x.1.socket.isSome = true → y.1.socket.isSome = true

instance : IsPreorder (ZmqOnnxClient Backend × Service) Holding where
  refl _ := id
  trans _ _ _ first next := next ∘ first

theorem holding_bind : Py.Within service Holding (bind : ServerM Backend Unit) := by
  refine Py.Within.get.bind fun self => ?_
  cases self.socket with
  | none => exact .throw _
  | some socket => exact .of_still (still_callServer fun _ _ => rfl)

/-- A socket that was replaced is there. -/
theorem resetSocket_holds {s : ZmqOnnxClient Backend} {w : Service} :
    (resetSocket : ServerM Backend Unit).wpc service (fun _ => True)
      (fun r s' _ => r = .ok () → s'.socket.isSome = true) s w := by
  have option (socket : Nat) (o : SocketOption) :
      Py.Within service Holding (callServer (.setsockopt socket o) : ServerM Backend Unit) :=
    .of_still (still_callServer fun _ _ => rfl)
  rw [resetSocket, Py.wpc_bind]
  refine Py.wpc_mono (fun _ _ => trivial) (fun r s₁ w₁ _ => ?_)
    (Py.wpc_invariant (fun _ _ _ _ _ _ => trivial) closeSocket trivial)
  cases r with
  | error e => exact nofun
  | ok _ =>
      rw [Py.either_ok, Py.wpc_bind, openSocket, Py.wpc_bind, Py.wpc_get, Py.either_ok, Py.wpc_ite]
      split
      · rw [Py.wpc_bind, Py.wpc_ask]
        intro r w₂ _
        cases r with
        | error e => exact ⟨trivial, nofun⟩
        | ok socket =>
            refine ⟨trivial, ?_⟩
            rw [Py.either_ok, Py.wpc_bind, Py.wpc_modify, Py.either_ok]
            have prepared := (option socket (.rcvtimeo 5000)).bind fun _ =>
              (option socket (.sndtimeo 5000)).bind fun _ => option socket (.linger 0)
            refine Py.wpc_mono (fun _ _ => trivial) (fun r s₃ w₃ holding => ?_)
              (prepared { s₁ with socket := some socket } w₂)
            cases r with
            | error e => exact nofun
            | ok _ =>
                rw [Py.either_ok]
                refine Py.wpc_mono (fun _ _ => trivial) (fun r s₄ w₄ kept _ => ?_) (holding_bind s₃ w₃)
                exact kept (holding rfl)
      · exact nofun

/-- A round that goes on after an error of ZMQ has a socket. -/
theorem handleZmqError_holds (e : PyErr) {s : ZmqOnnxClient Backend} {w : Service}
    (held : s.socket.isSome = true) :
    (handleZmqError e : ServerM Backend Next).wpc service (fun _ => True)
      (fun r s' _ => r = .ok .again → s'.socket.isSome = true) s w := by
  rw [handleZmqError, Py.wpc_ite]
  split
  · exact fun _ => held
  rw [Py.wpc_ite]
  split
  · rw [wpc_exceptException, Py.wpc_bind]
    refine Py.wpc_mono (fun _ _ => trivial) (fun r s' w' holds => ?_) resetSocket_holds
    cases r with
    | ok _ => exact fun _ => holds rfl
    | error e =>
        rw [Py.either_error, Py.either_error]
        split
        · exact nofun
        · exact nofun
  · rw [Py.wpc_bind]
    refine Py.wpc_mono (fun _ _ => trivial) (fun r s' w' same => ?_) (still_sendErrorResponse e.msg s w)
    cases same
    cases r with
    | ok _ => exact fun _ => held
    | error e => exact nofun

theorem aloof_handleZmqError (e : PyErr) :
    Py.Within service Aloof (handleZmqError e : ServerM Backend Next) :=
  .ite (.pure _) (.ite (within_exceptException (aloof_resetSocket.bind fun _ => .pure _) fun _ => .pure _)
    ((Py.Within.of_still (still_sendErrorResponse _)).bind fun _ => .pure _))

section Rounds

variable [NumPy] {s s' : ZmqOnnxClient Backend} {w w' : Service}

/-- What a round does to the model that is served. -/
structure Effect (s : ZmqOnnxClient Backend) (w : Service) (s' : ZmqOnnxClient Backend)
    (w' : Service) : Prop where
  safe : s'.backend.Safe w'.engines
  grown : w.engines.Grown w'.engines
  modelsDir : s'.modelsDir = s.modelsDir
  outcome :
    (∃ name, Served s name s' w'.engines) ∧ w'.reported = some w'.engines.reading ∨
    (s'.backend = s.backend ∧ s'.currentModel = s.currentModel ∧ s'.modelReady = s.modelReady ∨
      Failed s s' w'.engines) ∧ w'.reported = w.reported

theorem Effect.kept (safe : s.backend.Safe w.engines) (kept : Kept s w s' w') : Effect s w s' w' := by
  have steady := kept.steady safe
  refine ⟨steady.safe, steady.grown, steady.modelsDir, .inr ⟨.inl ?_, steady.reported⟩⟩
  rw [kept.object]
  exact ⟨rfl, rfl, rfl⟩

theorem Effect.aloof {s'' : ZmqOnnxClient Backend} {w'' : Service} (effect : Effect s w s' w')
    (aloof : Aloof (s', w') (s'', w'')) : Effect s w s'' w'' := by
  have object : s'' = { s' with context := s''.context, socket := s''.socket } := aloof.object
  obtain rfl : w'' = w' := aloof.world
  rw [object]
  refine ⟨effect.safe, effect.grown, effect.modelsDir, ?_⟩
  rcases effect.outcome with ⟨⟨name, served⟩, reported⟩ | ⟨unchanged | failed, reported⟩
  · exact .inl ⟨⟨name, served.current, served.ready, served.file, served.made⟩, reported⟩
  · exact .inr ⟨.inl unchanged, reported⟩
  · exact .inr ⟨.inr ⟨failed.current, failed.ready, failed.fails, failed.loading⟩, reported⟩

/-- Sending the reply that tells what came of a message. -/
theorem sendMultipart_effect {reply : List Bytes} (held : s'.socket.isSome = true)
    (steady : Steady s w s' w') (told : Told s w reply s' w') :
    (sendMultipart reply).wpc service (fun _ => True) (fun _ s'' w'' => s'' = s' ∧ Effect s w s'' w'')
      s' w' := by
  obtain ⟨socket, open_⟩ := Option.isSome_iff_exists.mp held
  rw [sendMultipart, Py.wpc_bind, Py.wpc_get, Py.either_ok, open_, Py.wpc_ask]
  rintro r w'' ⟨-, rfl⟩
  have noted : w'.note (.sendMultipart socket reply) r =
    if reportsLoaded reply then { w' with reported := some w'.engines.reading } else w' := rfl
  rw [Told] at told
  refine ⟨trivial, rfl, ?_⟩
  rw [noted]
  split
  · next loaded =>
      rw [if_pos loaded] at told
      exact ⟨steady.safe, steady.grown, steady.modelsDir, .inl ⟨told, rfl⟩⟩
  · next silent =>
      rw [if_neg silent] at told
      refine ⟨steady.safe, steady.grown, steady.modelsDir, .inr ⟨?_, steady.reported⟩⟩
      rcases told with kept | failed
      · rw [kept.object]
        exact .inl ⟨rfl, rfl, rfl⟩
      · exact .inr failed

theorem serveMessage_effect (safe : s.backend.Safe w.engines) (ready : w.engines.halfway = false)
    (held : s.socket.isSome = true) :
    serveMessage.wpc service (fun _ => True) (fun r s' w' => s'.socket = s.socket ∧
      Py.either (fun _ => Effect s w s' w') (fun e => e.IsException → Effect s w s' w') r) s w := by
  have unchanged : Effect s w s w := .kept safe (.refl s w)
  rw [serveMessage, Py.wpc_bind]
  refine Py.wpc_mono (fun _ _ => trivial) (fun r s₁ w₁ same => ?_) (still_recvMultipart s w)
  cases same
  cases r with
  | error e => exact ⟨rfl, fun _ => unchanged⟩
  | ok frames =>
      rw [Py.either_ok, Py.wpc_bind, Py.wpc_ofExcept]
      cases decodeRequest frames with
      | error e => exact ⟨rfl, fun _ => unchanged⟩
      | ok request =>
          rw [Py.either_ok, Py.wpc_bind]
          refine Py.wpc_mono (fun _ _ => trivial) (fun r s₂ w₂ answers => ?_)
            (answers_respond safe ready frames request.1 request.2)
          obtain ⟨steady, outcome⟩ := answers
          cases r with
          | error e => exact ⟨steady.socket, fun raised => .kept safe (outcome raised)⟩
          | ok reply =>
              rw [Py.either_ok]
              refine Py.wpc_mono (fun _ _ => trivial) (fun r s₃ w₃ sent => ?_)
                (sendMultipart_effect (by rw [steady.socket]; exact held) steady outcome)
              obtain ⟨rfl, effect⟩ := sent
              cases r with
              | ok _ => exact ⟨steady.socket, effect⟩
              | error e => exact ⟨steady.socket, fun _ => effect⟩

/-- A round after which the server goes on. -/
theorem serveOnce_effect (safe : s.backend.Safe w.engines) (ready : w.engines.halfway = false)
    (held : s.socket.isSome = true) :
    serveOnce.wpc service (fun _ => True) (fun r s' w' => r = .ok .again →
      Effect s w s' w' ∧ s'.socket.isSome = true) s w := by
  rw [serveOnce, Py.wpc_catching, Py.wpc_bind]
  refine Py.wpc_mono (fun _ _ => trivial) (fun r s₁ w₁ done => ?_) (serveMessage_effect safe ready held)
  obtain ⟨socket, effect⟩ := done
  have held₁ : s₁.socket.isSome = true := by rwa [socket]
  cases r with
  | ok _ => exact fun _ => ⟨effect, held₁⟩
  | error e =>
      rw [Py.either_error, Py.either_error]
      by_cases zmq : e.IsZmqError
      · rw [if_pos zmq]
        refine Py.wpc_mono (fun _ _ => trivial) (fun r s₂ w₂ done again => ?_)
          (Py.wpc_and (aloof_handleZmqError e s₁ w₁) (handleZmqError_holds e held₁))
        exact ⟨(effect zmq.isException).aloof done.1, done.2 again⟩
      by_cases raised : e.IsException
      · rw [if_neg zmq, if_pos raised, Py.wpc_bind]
        refine Py.wpc_mono (fun _ _ => trivial) (fun r s₂ w₂ same => ?_)
          (still_sendErrorResponse e.msg s₁ w₁)
        cases same
        cases r with
        | ok _ => exact fun _ => ⟨effect raised, held₁⟩
        | error e => exact nofun
      · rw [if_neg zmq, if_neg raised]
        exact nofun

/-! ## Any number of rounds -/

/-- The server at the head of its loop after any number of rounds, each of which met a condition on
the backend before it and on what was noted during it. Where the model is pinned, it is loaded first,
and its being served counts as its report. -/
inductive Rounds (φ : Backend → Engines → Prop) (pinned : Option PyStr) :
    ZmqOnnxClient Backend → Service → Prop
  | start {endpoint modelsDir : PyStr} {socket : Nat} {backend : Backend}
    {s : ZmqOnnxClient Backend} {w : Service} :
    backend.Fresh →
    (loadPinned pinned).Exec service ⟨endpoint, modelsDir, none, false, true, some socket, backend⟩
      .start (.ok ()) s w →
    Rounds φ pinned s { w with reported := if s.modelReady then pinned else none }
  | round {s s' : ZmqOnnxClient Backend} {w w' : Service} :
    Rounds φ pinned s w → serveOnce.Exec service s w.forget (.ok .again) s' w' →
    φ s.backend w'.engines → Rounds φ pinned s' w'

variable {φ : Backend → Engines → Prop} {pinned : Option PyStr}

/-- The file that the name of the current model stands for. -/
def NamedFile (pinned : Option PyStr) (s : ZmqOnnxClient Backend) (path : PyStr) : Prop :=
  ∃ name, s.currentModel = some (.str name) ∧
    (path = pathJoin s.modelsDir name ∨ pinned = some path ∧ name = basename path)

/-- What is served was loaded from the file of the model that was last reported, and the current model
names it. -/
def Faithful (pinned : Option PyStr) (s : ZmqOnnxClient Backend) (w : Service) : Prop :=
  s.modelReady = true → ∀ h, s.backend.engaged = some h →
    ∃ path, w.reported = some path ∧ w.engines.MadeFrom h path ∧ NamedFile pinned s path

theorem loadPinned_spec {endpoint modelsDir : PyStr} {socket : Nat} {b : Backend} (fresh : b.Fresh) :
    (loadPinned pinned).wpc service (fun _ => True) (fun r s w => r = .ok () →
      s.backend.Safe w.engines ∧ s.socket.isSome = true ∧
        (s.modelReady = true → ∃ path h, pinned = some path ∧
          s.currentModel = some (.str (basename path)) ∧ s.backend.engaged = some h ∧
          w.engines.MadeFrom h path))
      ⟨endpoint, modelsDir, none, false, true, some socket, b⟩ .start := by
  have safe : b.Safe Service.start.engines := by
    refine ⟨rfl, fun h held => ?_, nofun⟩
    rw [fresh.held] at held
    cases held
  cases pinned with
  | none => exact fun _ => ⟨safe, rfl, nofun⟩
  | some modelPath =>
      rw [loadPinned, Py.wpc_bind]
      refine Py.wpc_mono (fun _ _ => trivial) (fun r s w loads => ?_)
        (loadModelFile_spec (s := ⟨endpoint, modelsDir, none, false, true, some socket, b⟩)
          (w := .start) safe rfl modelPath)
      obtain ⟨steady, object, -, outcome⟩ := loads
      have held : s.socket.isSome = true := by rw [steady.socket]; rfl
      cases r with
      | error e => exact nofun
      | ok ok =>
          rw [Py.either_ok] at outcome
          rw [Py.either_ok, Py.wpc_ite]
          split
          · next loaded =>
              rw [if_pos loaded] at outcome
              obtain ⟨reading, h, serves, made⟩ := outcome
              exact fun _ => ⟨steady.safe, held, fun _ => ⟨modelPath, h, rfl, rfl, serves, made⟩⟩
          · refine fun _ => ⟨steady.safe, held, fun ready => ?_⟩
            rw [object] at ready
            cases ready

theorem Rounds.safe (run : Rounds φ pinned s w) :
    s.backend.Safe w.engines ∧ s.socket.isSome = true := by
  induction run with
  | start fresh exec =>
      obtain ⟨safe, held, -⟩ := Py.wpc_exec (loadPinned_spec fresh) exec rfl
      exact ⟨safe, held⟩
  | @round s s' w w' _ exec _ ih =>
      have safe : s.backend.Safe w.forget.engines := ⟨ih.1.unmisused, ih.1.held, ih.1.known⟩
      obtain ⟨effect, held⟩ := Py.wpc_exec (serveOnce_effect safe rfl ih.2) exec rfl
      exact ⟨effect.safe, held⟩

/-- One round keeps the model that is served and the model that was reported together. -/
theorem Faithful.round (before : Faithful pinned s w) (effect : Effect s w.forget s' w')
    (sound : s.backend.Sound w'.engines) : Faithful pinned s' w' := by
  intro ready h serves
  rcases effect.outcome with ⟨⟨name, served⟩, reported⟩ | ⟨unchanged | failed, reported⟩
  · obtain ⟨text, rfl, reading⟩ := served.file
    obtain ⟨h', serves', made⟩ := served.made
    obtain rfl : h = h' := Option.some.inj (serves.symm.trans serves')
    refine ⟨w'.engines.reading, reported, made, text, served.current, .inl ?_⟩
    rw [effect.modelsDir]
    exact reading
  · obtain ⟨backend, current, modelReady⟩ := unchanged
    rw [backend] at serves
    obtain ⟨path, report, made, name, currently, file⟩ := before (modelReady ▸ ready) h serves
    refine ⟨path, reported.trans report, made.grown effect.grown, name, current.trans currently, ?_⟩
    rw [effect.modelsDir]
    exact file
  · have serves' := failed.fails.sound sound h serves
    obtain ⟨path, report, made, name, currently, file⟩ := before (failed.ready ▸ ready) h serves'
    refine ⟨path, reported.trans report, made.grown effect.grown, name,
      failed.current.trans currently, ?_⟩
    rw [effect.modelsDir]
    exact file

/-- As long as no failed load brings its own model into service: whenever a tensor would be run
through the backend, every call of the inference on an engine goes to one object, which was loaded from
the file of the model that was last reported as loaded, or from what the converter makes of this file;
and the current model names it. -/
theorem rounds_faithful (run : Rounds Backend.Sound pinned s w) (ready : s.modelReady = true)
    (loaded : InferenceBackend.loaded s.backend = true) :
    ∃ h path, s.backend.engaged = some h ∧ s.backend.RunsOn h ∧ w.engines.MadeFrom h path ∧
      w.reported = some path ∧ NamedFile pinned s path := by
  have faithful : Faithful pinned s w := by
    clear ready loaded
    induction run with
    | start fresh exec =>
        intro ready h serves
        obtain ⟨-, -, pinnedModel⟩ := Py.wpc_exec (loadPinned_spec fresh) exec rfl
        obtain ⟨path, h', rfl, current, serves', made⟩ := pinnedModel ready
        obtain rfl : h = h' := Option.some.inj (serves.symm.trans serves')
        exact ⟨path, if_pos ready, made, basename path, current, .inr ⟨rfl, rfl⟩⟩
    | @round s s' w w' run exec met ih =>
        have before := run.safe
        have safe : s.backend.Safe w.forget.engines :=
          ⟨before.1.unmisused, before.1.held, before.1.known⟩
        obtain ⟨effect, -⟩ := Py.wpc_exec (serveOnce_effect safe rfl before.2) exec rfl
        exact ih.round effect met
  rw [Backend.loaded_eq] at loaded
  obtain ⟨h, serves⟩ := Option.isSome_iff_exists.mp loaded
  obtain ⟨path, reported, made, named⟩ := faithful ready h serves
  exact ⟨h, path, serves, Backend.runsOn_engaged serves, made, reported, named⟩

/-! ## Failed switches -/

/-- A message about another model, the load of which fails: the service is as it was before exactly
if the failed load leaves the object that serves in service. -/
theorem failed_switch_iff (run : Rounds φ pinned s w) (ready : s.modelReady = true)
    (loaded : InferenceBackend.loaded s.backend = true) {frames reply : List Bytes}
    {tensor : Option NdArray} {header : Json}
    (exec : (respond frames tensor header).Exec service s w.forget (.ok reply) s' w')
    (tried : w'.engines.loading = true)
    (failed : replyField "model_loaded" reply = some (.bool false)) :
    (s'.modelReady = true ∧ InferenceBackend.loaded s'.backend = true ∧
      s'.backend.engaged = s.backend.engaged ∧ s'.currentModel = s.currentModel) ↔
        s.backend.Keeps w'.engines := by
  have before := run.safe.1
  have safe : s.backend.Safe w.forget.engines := ⟨before.unmisused, before.held, before.known⟩
  obtain ⟨-, told⟩ := Py.wpc_exec (answers_respond safe rfl frames tensor header) exec
  have silent : ¬ reportsLoaded reply = true := by
    rw [reportsLoaded, failed]
    exact Bool.false_ne_true
  rw [Py.either_ok, Told, if_neg silent] at told
  rcases told with kept | failed
  · -- Nothing was tried.
    rw [kept.world] at tried
    cases tried
  rw [Backend.loaded_eq] at loaded ⊢
  constructor
  · rintro ⟨-, -, same, -⟩
    by_contra lost
    refine failed.fails.loses lost (fun none => ?_) same
    rw [none] at loaded
    cases loaded
  · intro keeps
    have same := failed.fails.keeps keeps
    exact ⟨failed.ready.trans ready, by rwa [same], same, failed.current⟩

end Rounds

/-! ## Example runs -/

/-- The server gets this message, and its surroundings answer by the script. -/
def HostScript.serve (script : HostScript) (message : List Bytes) (w : Service) :
    (c : ServerCall) → Except PyErr c.Answer
  | .host c => script.answer w.engines c
  | .recvMultipart _ => .ok message
  | .newSocket => .ok 1
  | .bind _ _ | .sendMultipart _ _ | .closeSocket _ | .newContext | .setsockopt _ _ | .termContext =>
    .ok ()

theorem HostScript.serve_legal (script : HostScript) (message : List Bytes) (w : Service)
    (c : ServerCall) :
    service.step w c (script.serve message w c) (w.note c (script.serve message w c)) := by
  refine ⟨?_, rfl⟩
  cases c with
  | host c => exact script.legal w.engines c
  | _ => trivial

section

attribute [local instance] NumPy.reference

/-- The server with ncnn in front of the CPU, with its socket and no model. -/
def waiting : ZmqOnnxClient Backend × Service :=
  (⟨py "tcp://*:5555", py "models", none, false, true, some 1,
    .ncnnFallback ⟨.init false false none none, cpuBackend none, none⟩⟩, .start)

/-- A round in which a model is asked for. -/
def HostScript.ask (script : HostScript) (name : PyStr) (x : ZmqOnnxClient Backend × Service) :
    (Except PyErr Next × ZmqOnnxClient Backend) × Service :=
  serveOnce.answering Service.note (script.serve [encodeJson (Plugin.requestHeader name)]) x.1
    x.2.forget

/-- The state after it. -/
def HostScript.after (script : HostScript) (name : PyStr) (x : ZmqOnnxClient Backend × Service) :
    ZmqOnnxClient Backend × Service :=
  ((script.ask name x).1.2, (script.ask name x).2)

theorem rounds_waiting (φ : Backend → Engines → Prop) : Rounds φ none waiting.1 waiting.2 := by
  have loaded : (loadPinned none).Exec service waiting.1 .start (.ok ()) waiting.1 .start :=
    Prog.Exec.ret
  exact .start (.built (.ncnn false false none none)) loaded

theorem Rounds.after {φ : Backend → Engines → Prop} {pinned : Option PyStr}
    {x : ZmqOnnxClient Backend × Service} (run : Rounds φ pinned x.1 x.2) (script : HostScript)
    (name : PyStr) (goes : (script.ask name x).1.1 = .ok .again)
    (met : φ x.1.backend (script.after name x).2.engines) :
    Rounds φ pinned (script.after name x).1 (script.after name x).2 :=
  .round run (Py.exec_answering (script.serve_legal _) _ _ _ goes) met

/-- Nets cannot be made. -/
def noNets (number : Nat) : HostScript :=
  ⟨number, 1, fun c => match c with | .ncnnNet => true | _ => false⟩

/-- Nets can be made but not used, and sessions cannot be made. -/
def noInference (number : Nat) : HostScript :=
  ⟨number, 1, fun c => match c with | .ncnnExtractor _ | .ortSession _ _ _ => true | _ => false⟩

/-- Neither nets nor sessions can be made. -/
def nothing (number : Nat) : HostScript :=
  ⟨number, 1, fun c => match c with | .ncnnNet | .ortSession _ _ _ => true | _ => false⟩

/-- A model is served by the primary. -/
def servedByPrimary : ZmqOnnxClient Backend × Service := (sound 1).after (py "a.onnx") waiting

/-- A model is served by the CPU engine, and the attempt on the primary has closed it. -/
def servedByCpu : ZmqOnnxClient Backend × Service := (noNets 1).after (py "a.onnx") waiting

theorem rounds_servedByPrimary {φ : Backend → Engines → Prop}
    (met : φ waiting.1.backend servedByPrimary.2.engines) :
    Rounds φ none servedByPrimary.1 servedByPrimary.2 := by
  unfold servedByPrimary at met ⊢
  exact (rounds_waiting φ).after (sound 1) (py "a.onnx") (by decide +kernel) met

theorem rounds_servedByCpu : Rounds (fun _ _ => True) none servedByCpu.1 servedByCpu.2 := by
  unfold servedByCpu
  exact (rounds_waiting _).after (noNets 1) (py "a.onnx") (by decide +kernel) trivial

theorem rounds_faithful_loaded :
    ∃ h path, servedByPrimary.1.backend.engaged = some h ∧ servedByPrimary.1.backend.RunsOn h ∧
      servedByPrimary.2.engines.MadeFrom h path ∧ servedByPrimary.2.reported = some path ∧
      NamedFile none servedByPrimary.1 path := by
  have run : Rounds Backend.Sound none servedByPrimary.1 servedByPrimary.2 :=
    rounds_servedByPrimary (by decide +kernel)
  exact rounds_faithful run (by decide +kernel) (by decide +kernel)

/-- After the CPU engine, the closed primary serves a second model; a third one is installed there,
and then everything fails. -/
def intruded : ZmqOnnxClient Backend × Service :=
  (noInference 3).after (py "c.onnx") ((sound 2).after (py "b.onnx") servedByCpu)

/-- The third model is served, and the last report of success was about the second one. -/
theorem rounds_unfaithful : ¬ ∀ (s : ZmqOnnxClient Backend) (w : Service),
    Rounds (fun _ _ => True) none s w → s.modelReady = true →
    InferenceBackend.loaded s.backend = true →
    ∃ h path, s.backend.engaged = some h ∧ s.backend.RunsOn h ∧ w.engines.MadeFrom h path ∧
      w.reported = some path ∧ NamedFile none s path := by
  intro all
  have second := rounds_servedByCpu.after (sound 2) (py "b.onnx") (by decide +kernel) trivial
  have third : Rounds (fun _ _ => True) none intruded.1 intruded.2 := by
    unfold intruded
    exact second.after (noInference 3) (py "c.onnx") (by decide +kernel) trivial
  obtain ⟨h, path, serves, -, ⟨o, made, isOf⟩, reported, -⟩ :=
    all _ _ third (by decide +kernel) (by decide +kernel)
  have engaged : intruded.1.backend.engaged = some 3 := by decide +kernel
  have origin : intruded.2.engines.made 3 = some (.net (py "models/c.onnx")
      [py "models/c.ncnn.param", py "models/c.ncnn.bin"]) := by decide +kernel
  have report : intruded.2.reported = some (py "models/b.onnx") := by decide +kernel
  obtain rfl : 3 = h := Option.some.inj (engaged.symm.trans serves)
  obtain rfl := Option.some.inj (origin.symm.trans made)
  obtain rfl := Option.some.inj (reported.symm.trans report)
  exact absurd isOf.1 (by decide +kernel)

/-- The handling of a request for a model. -/
def HostScript.respond (script : HostScript) (name : PyStr) (x : ZmqOnnxClient Backend × Service) :
    (Except PyErr (List Bytes) × ZmqOnnxClient Backend) × Service :=
  (Detector.respond [encodeJson (Plugin.requestHeader name)] none
    (Plugin.requestHeader name)).answering Service.note (script.serve []) x.1 x.2.forget

/-- The reply to a request for a model that cannot be loaded. -/
def failedReply (name : PyStr) : List Bytes :=
  [encodeJson (requestReply true (some false) (.str name) "Model " " exists but failed to load")]

theorem HostScript.exec_respond (script : HostScript) (name : PyStr)
    (x : ZmqOnnxClient Backend × Service)
    (outcome : (script.respond name x).1.1 = .ok (failedReply name)) :
    (Detector.respond [encodeJson (Plugin.requestHeader name)] none
      (Plugin.requestHeader name)).Exec service x.1 x.2.forget (.ok (failedReply name))
        (script.respond name x).1.2 (script.respond name x).2 :=
  Py.exec_answering (script.serve_legal []) _ _ _ outcome

theorem replyField_failedReply (name : PyStr) :
    replyField "model_loaded" (failedReply name) = some (.bool false) :=
  replyField_requestReply true (some false) (.str name) _ _

theorem failed_switch_iff_cpu :
    ((nothing 2).respond (py "b.onnx") servedByCpu).1.2.modelReady = true ∧
      InferenceBackend.loaded ((nothing 2).respond (py "b.onnx") servedByCpu).1.2.backend = true ∧
      ((nothing 2).respond (py "b.onnx") servedByCpu).1.2.backend.engaged =
        servedByCpu.1.backend.engaged ∧
      ((nothing 2).respond (py "b.onnx") servedByCpu).1.2.currentModel =
        servedByCpu.1.currentModel := by
  have exec := (nothing 2).exec_respond (py "b.onnx") servedByCpu (by decide +kernel)
  exact (failed_switch_iff rounds_servedByCpu (by decide +kernel) (by decide +kernel) exec
    (by decide +kernel) (replyField_failedReply _)).mpr (by decide +kernel)

/-- The attempt on the primary closes it, and with it the model that was served. -/
theorem failed_switch_breaks : ¬ ∀ (s s' : ZmqOnnxClient Backend) (w w' : Service)
    (frames reply : List Bytes) (tensor : Option NdArray) (header : Json),
    Rounds (fun _ _ => True) none s w → s.modelReady = true →
    InferenceBackend.loaded s.backend = true →
    (respond frames tensor header).Exec service s w.forget (.ok reply) s' w' →
    w'.engines.loading = true → replyField "model_loaded" reply = some (.bool false) →
    s'.modelReady = true ∧ InferenceBackend.loaded s'.backend = true ∧
      s'.backend.engaged = s.backend.engaged ∧ s'.currentModel = s.currentModel := by
  intro all
  have run : Rounds (fun _ _ => True) none servedByPrimary.1 servedByPrimary.2 :=
    rounds_servedByPrimary trivial
  have exec := (nothing 2).exec_respond (py "b.onnx") servedByPrimary
    (by decide +kernel)
  have kept := all _ _ _ _ _ _ _ _ run (by decide +kernel) (by decide +kernel) exec
    (by decide +kernel) (replyField_failedReply _)
  exact absurd kept.2.1 (by decide +kernel)

end

end Detector
