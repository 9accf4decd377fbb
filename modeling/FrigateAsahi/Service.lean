import FrigateAsahi.Backends.Contract
import FrigateAsahi.Replies

/-!
# What a message does to the model that is served

`Service` is the account of engine objects together with the model that was last reported as loaded.
A round of the server either leaves the model that is served alone, or loads another one and reports
it, or fails to load one (`serveOnce_effect`).
-/

namespace Detector

open Text Python Numpy Interaction

/-! ## Replies -/

/-- A member of the header of a reply that is one frame of JSON. -/
def replyField (name : String) : List Bytes → Option Json
  | [frame] =>
    match decodeJson .none frame with
    | .ok (.obj fields) => lookup (py name) fields
    | _ => none
  | _ => none

theorem replyField_keys {name : String} (fields : List (PyStr × Json))
    (keys : ((normMembers fields).map Prod.fst).Nodup) :
    replyField name [encodeJson (.obj fields)] = lookup (py name) (normMembers fields) := by
  simp only [replyField, decodeJson_encodeJson_obj (within_none 0 _) keys]

theorem replyField_requestReply (available : Bool) (loaded : Option Bool) (name : Json)
    (before after : String) :
    replyField "model_loaded" [encodeJson (requestReply available loaded name before after)] =
      loaded.map Json.bool := by
  cases loaded with
  | some loaded =>
      have keys : [joinSurrogates (py "model_available"), joinSurrogates (py "model_loaded"),
          joinSurrogates (py "model_name"), joinSurrogates (py "message")].Nodup := by
        decide +kernel
      exact (replyField_keys [(py "model_available", .bool available),
        (py "model_loaded", .bool loaded), (py "model_name", name), (py "message", _)] keys).trans rfl
  | none =>
      have keys : [joinSurrogates (py "model_available"), joinSurrogates (py "model_name"),
          joinSurrogates (py "message")].Nodup := by
        decide +kernel
      exact (replyField_keys [(py "model_available", .bool available),
        (py "model_name", name), (py "message", _)] keys).trans rfl

theorem replyField_dataReply (saved loaded : Bool) (name : Json) (before after : String) :
    replyField "model_loaded" [encodeJson (dataReply saved loaded name before after)] =
      some (.bool loaded) := by
  have keys : [joinSurrogates (py "model_saved"), joinSurrogates (py "model_loaded"),
      joinSurrogates (py "model_name"), joinSurrogates (py "message")].Nodup := by
    decide +kernel
  exact (replyField_keys [(py "model_saved", .bool saved), (py "model_loaded", .bool loaded),
    (py "model_name", name), (py "message", _)] keys).trans rfl

theorem replyField_buildErrorResponse (msg : PyStr) :
    replyField "model_loaded" (buildErrorResponse msg) = none := by
  have keys : [joinSurrogates (py "error")].Nodup := List.nodup_singleton _
  exact (replyField_keys [(py "error", .str msg)] keys).trans rfl

/-- Whether a reply says that a model was loaded. -/
def reportsLoaded (frames : List Bytes) : Bool :=
  match replyField "model_loaded" frames with
  | some (.bool b) => b
  | _ => false

/-! ## The world of the server -/

structure Service : Type where
  engines : Engines
  /-- The model of the last load that a reply said had succeeded. -/
  reported : Option PyStr

namespace Service

def start : Service := ⟨.start, none⟩

/-- Forget what belongs to one message. -/
def forget (w : Service) : Service := { w with engines := w.engines.forget }

def Legal (w : Service) : (c : ServerCall) → Except PyErr c.Answer → Prop
  | .host c, r => w.engines.Legal c r
  | _, _ => True

/-- A report counts whether or not it arrives. -/
def note (w : Service) : (c : ServerCall) → Except PyErr c.Answer → Service
  | .host c, r => { w with engines := w.engines.note c r }
  | .sendMultipart _ frames, _ =>
    if reportsLoaded frames then { w with reported := some w.engines.reading } else w
  | _, _ => w

end Service

def service : Env Server Service := .noting Service.Legal Service.note

section Frame

variable {α : Type}

/-! ## Calls that do not concern the model -/

theorem still_callServer {c : ServerCall} (same : ∀ w r, Service.note w c r = w) :
    Py.Within service Py.Still (callServer c : ServerM Backend c.Answer) := by
  refine Py.Within.ask fun s w r w' step => ?_
  obtain ⟨-, rfl⟩ := step
  exact Prod.ext rfl (same w r)

theorem still_callHost {c : HostCall} (same : ∀ w r, Engines.note w c r = w) :
    Py.Within service Py.Still (callHost c : ServerM Backend c.Answer) := by
  refine Py.Within.ask fun s w r w' step => ?_
  obtain ⟨-, rfl⟩ := step
  have noted : w.note (.host c) r = { w with engines := w.engines.note c r } := rfl
  rw [noted, same w.engines r]
  rfl

theorem still_sendMultipart {frames : List Bytes} (silent : reportsLoaded frames = false) :
    Py.Within service Py.Still (sendMultipart frames : ServerM Backend Unit) := by
  refine Py.Within.get.bind fun self => ?_
  cases self.socket with
  | none => exact .throw _
  | some socket =>
      refine still_callServer fun w r => ?_
      have noted : w.note (.sendMultipart socket frames) r =
        if reportsLoaded frames then { w with reported := some w.engines.reading } else w := rfl
      rw [noted, if_neg (by rw [silent]; exact Bool.false_ne_true)]

theorem still_recvMultipart :
    Py.Within service Py.Still (recvMultipart : ServerM Backend (List Bytes)) := by
  refine Py.Within.get.bind fun self => ?_
  cases self.socket with
  | none => exact .throw _
  | some socket => exact still_callServer fun _ _ => rfl

theorem still_sendErrorResponse (msg : PyStr) :
    Py.Within service Py.Still (sendErrorResponse msg : ServerM Backend Unit) :=
  within_exceptException (still_sendMultipart rfl) fun _ => .pure ()

theorem still_saveModel (modelName : Json) (modelData : Bytes) :
    Py.Within service Py.Still (saveModel modelName modelData : ServerM Backend Bool) :=
  within_exceptException (Py.Within.get.bind fun _ => (still_callHost fun _ _ => rfl).bind fun _ =>
    (Py.Within.ofExcept _).bind fun _ => (still_callHost fun _ _ => rfl).bind fun _ =>
      (Py.Within.andFinally (still_callHost fun _ _ => rfl) (still_callHost fun _ _ => rfl)).bind
        fun _ => .pure true) fun _ => .pure false

theorem still_checkModelExists (modelName : Json) :
    Py.Within service Py.Still (checkModelExists modelName : ServerM Backend Bool) :=
  Py.Within.get.bind fun _ => (Py.Within.ofExcept _).bind fun _ => still_callHost fun _ _ => rfl

theorem still_buildResponse (result : NdArray) :
    Py.Within service Py.Still (buildResponse result : ServerM Backend (List Bytes)) :=
  within_exceptException ((still_callHost fun _ _ => rfl).bind fun _ => .pure _) fun _ => .pure _

/-! ## Calls of the backend -/

variable {s : ZmqOnnxClient Backend} {w : Service}

/-- A method of the backend, inside the server. -/
theorem wpc_onBackend_service {p : HostM Backend α} {Q : Except PyErr α → Backend → Engines → Prop}
    (pre : p.wpc engines (fun _ => True) Q s.backend w.engines) :
    (onBackend p).wpc service (fun _ => True) (fun r s' w' => s' = { s with backend := s'.backend } ∧
      w' = { w with engines := w'.engines } ∧ Q r s'.backend w'.engines) s w := by
  have steps : ∀ u c r u', (hostEnv service).step u c r u' → u.reported = w.reported →
      engines.step u.engines c r u'.engines ∧ u'.reported = w.reported := by
    rintro u c r u' ⟨r', rfl, legal, rfl⟩ same
    exact ⟨⟨legal, rfl⟩, same⟩
  rw [wpc_onBackend]
  refine Py.wpc_mono (fun _ _ => trivial) (fun r b w' done => ?_)
    (Py.wpc_project (v := Service.engines) steps rfl pre)
  obtain ⟨post, reported⟩ := done
  refine ⟨rfl, ?_, post⟩
  rw [← reported]

/-- What is left of the state when no model was loaded. -/
structure Kept (s : ZmqOnnxClient Backend) (w : Service) (s' : ZmqOnnxClient Backend) (w' : Service) :
    Prop where
  object : s' = s
  world : w' = { w with engines := { w.engines with cpuFailed := w'.engines.cpuFailed } }

theorem Kept.refl (s : ZmqOnnxClient Backend) (w : Service) : Kept s w s w := ⟨rfl, rfl⟩

theorem Kept.trans {s' s'' : ZmqOnnxClient Backend} {w' w'' : Service} (first : Kept s w s' w')
    (next : Kept s' w' s'' w'') : Kept s w s'' w'' := by
  refine ⟨next.object.trans first.object, ?_⟩
  rw [next.world, first.world]

theorem Kept.of_asked {s' : ZmqOnnxClient Backend} {w' : Service}
    (object : s' = { s with backend := s'.backend }) (world : w' = { w with engines := w'.engines })
    (asked : Asked s.backend w.engines s'.backend w'.engines) : Kept s w s' w' := by
  refine ⟨?_, ?_⟩
  · rw [object, asked.1]
  · rw [world, ← asked.2]

theorem Kept.safe {s' : ZmqOnnxClient Backend} {w' : Service} (kept : Kept s w s' w')
    (safe : s.backend.Safe w.engines) : s'.backend.Safe w'.engines := by
  rw [kept.object, kept.world]
  exact ⟨safe.unmisused, safe.held, safe.known⟩

/-- Sequencing of steps that keep the model. -/
theorem kept_bind {γ : Type} {p : ServerM Backend γ} {f : γ → ServerM Backend α}
    (first : p.wpc service (fun _ => True) (fun _ s' w' => Kept s w s' w') s w)
    (rest : ∀ b s' w', Kept s w s' w' →
      (f b).wpc service (fun _ => True) (fun _ s'' w'' => Kept s' w' s'' w'') s' w') :
    (p >>= f).wpc service (fun _ => True) (fun _ s' w' => Kept s w s' w') s w := by
  rw [Py.wpc_bind]
  refine Py.wpc_mono (fun _ _ => trivial) (fun r s' w' kept => ?_) first
  cases r with
  | error e => exact kept
  | ok b => exact Py.wpc_mono (fun _ _ => trivial) (fun _ _ _ => kept.trans) (rest b s' w' kept)

theorem kept_of_still {p : ServerM Backend α} (still : Py.Within service Py.Still p) :
    p.wpc service (fun _ => True) (fun _ s' w' => Kept s w s' w') s w := by
  refine Py.wpc_mono (fun _ _ => trivial) (fun r s' w' same => ?_) (still s w)
  cases same
  exact .refl s w

section Tensors

variable [NumPy]

theorem kept_feedsOf (safe : s.backend.Safe w.engines) (tensor : NdArray) (modelType : Json)
    (width height : Int) :
    (feedsOf tensor modelType width height).wpc service (fun _ => True)
      (fun _ s' w' => Kept s w s' w') s w := by
  rw [feedsOf, Py.wpc_ite]
  split
  · exact kept_of_still ((Py.Within.ofExcept _).bind fun _ => (Py.Within.ofExcept _).bind fun _ => .pure _)
  · refine kept_bind (Py.wpc_mono (fun _ _ => trivial) (fun _ s' w' asked => ?_)
      (wpc_onBackend_service (Backend.inputNames_spec safe))) fun names s' w' _ => kept_of_still ?_
    · exact .of_asked asked.1 asked.2.1 asked.2.2
    · cases names with
      | nil => exact .throw _
      | cons name _ => exact .pure _

theorem kept_resultFor (safe : s.backend.Safe w.engines) (tensor : NdArray) (header : Json) :
    (resultFor tensor header).wpc service (fun _ => True) (fun _ s' w' => Kept s w s' w') s w := by
  rw [resultFor, Py.wpc_bind, Py.wpc_get, Py.either_ok, Py.wpc_ite]
  split
  · rw [runInference, Py.wpc_bind, Py.wpc_get, Py.either_ok, Py.wpc_ite]
    split
    · exact .refl s w
    · rw [wpc_exceptException]
      refine Py.wpc_mono (fun _ _ => trivial) (fun r s' w' kept => ?_) <|
        kept_bind (kept_of_still (.ofExcept _)) fun fields s₁ w₁ kept => ?_
      · cases r with
        | ok _ => exact kept
        | error e =>
            rw [Py.either_error]
            split
            · exact kept
            · exact kept
      · have safe₁ := kept.safe safe
        refine kept_bind (kept_feedsOf safe₁ _ _ _ _) fun feeds s₂ w₂ kept => ?_
        have safe₂ := kept.safe safe₁
        refine kept_bind (Py.wpc_mono (fun _ _ => trivial) (fun _ s' w' asked => ?_)
          (wpc_onBackend_service (Backend.infer_spec feeds safe₂))) fun outputs s₃ w₃ _ => ?_
        · exact .of_asked asked.1 asked.2.1 asked.2.2
        · exact kept_of_still ((Py.Within.ofExcept _).bind fun _ =>
            (still_callHost fun _ _ => rfl).bind fun _ => .ofExcept _)
  · exact .refl s w

/-! ## Loads -/

/-- A model was loaded from its file in the directory and is served. -/
structure Served (s : ZmqOnnxClient Backend) (name : Json) (s' : ZmqOnnxClient Backend)
    (w' : Engines) : Prop where
  current : s'.currentModel = some name
  ready : s'.modelReady = true
  file : ∃ text, name = .str text ∧ w'.reading = pathJoin s.modelsDir text
  made : ∃ h, s'.backend.engaged = some h ∧ w'.MadeFrom h w'.reading

/-- A load was tried and failed. -/
structure Failed (s : ZmqOnnxClient Backend) (s' : ZmqOnnxClient Backend) (w' : Engines) : Prop where
  current : s'.currentModel = s.currentModel
  ready : s'.modelReady = s.modelReady
  fails : s.backend.Fails s'.backend w'
  loading : w'.loading = true

/-- What a message does, whatever comes of it. -/
structure Steady (s : ZmqOnnxClient Backend) (w : Service) (s' : ZmqOnnxClient Backend)
    (w' : Service) : Prop where
  safe : s'.backend.Safe w'.engines
  grown : w.engines.Grown w'.engines
  modelsDir : s'.modelsDir = s.modelsDir
  socket : s'.socket = s.socket
  reported : w'.reported = w.reported

omit [NumPy] in
theorem Kept.steady {s' : ZmqOnnxClient Backend} {w' : Service} (kept : Kept s w s' w')
    (safe : s.backend.Safe w.engines) : Steady s w s' w' := by
  refine ⟨kept.safe safe, ?_, ?_, ?_, ?_⟩
  · rw [kept.world]
    exact fun _ _ made => made
  · rw [kept.object]
  · rw [kept.object]
  · rw [kept.world]

theorem loadModelFile_spec (safe : s.backend.Safe w.engines) (ready : w.engines.halfway = false)
    (modelPath : PyStr) :
    (loadModelFile modelPath).wpc service (fun _ => True) (fun r s' w' => Steady s w s' w' ∧
      s' = { s with backend := s'.backend } ∧ w'.engines.loading = w.engines.loading ∧
      Py.either (fun ok => if ok then w'.engines.reading = modelPath ∧
          ∃ h, s'.backend.engaged = some h ∧ w'.engines.MadeFrom h modelPath
        else s.backend.Fails s'.backend w'.engines) (fun e => ¬ e.IsException) r) s w := by
  rw [loadModelFile, wpc_exceptException, Py.wpc_bind]
  refine Py.wpc_mono (fun _ _ => trivial) (fun r s' w' done => ?_)
    (wpc_onBackend_service (Backend.load_spec modelPath safe ready))
  obtain ⟨object, world, loads⟩ := done
  have steady : Steady s w s' w' := by
    refine ⟨loads.safe, loads.grown, ?_, ?_, ?_⟩
    · rw [object]
    · rw [object]
    · rw [world]
  cases r with
  | ok _ =>
      obtain ⟨reading, h, serves, -, made⟩ := loads.outcome
      exact ⟨steady, object, loads.loading, reading, h, serves, made⟩
  | error e =>
      rw [Py.either_error, Py.either_error]
      split
      · next raised => exact ⟨steady, object, loads.loading, loads.outcome raised⟩
      · next exit => exact ⟨steady, object, loads.loading, exit⟩

omit [NumPy] in
theorem modelFile_eq_ok {modelsDir modelPath : PyStr} {name : Json} :
    modelFile modelsDir name = .ok modelPath ↔
      ∃ text, name = .str text ∧ modelPath = pathJoin modelsDir text := by
  cases name with
  | str text => simp [modelFile, eq_comm]
  | _ => simp [modelFile]

theorem loadModel_spec (safe : s.backend.Safe w.engines) (ready : w.engines.halfway = false)
    (name : Json) :
    (loadModel name).wpc service (fun _ => True) (fun r s' w' => Steady s w s' w' ∧
      Py.either (fun ok => if ok then Served s name s' w'.engines
        else Kept s w s' w' ∨ Failed s s' w'.engines) (fun e => ¬ e.IsException) r) s w := by
  rw [loadModel, wpc_exceptException, Py.wpc_bind, Py.wpc_get, Py.either_ok, Py.wpc_bind,
    Py.wpc_ofExcept]
  cases file : modelFile s.modelsDir name with
  | error e =>
      rw [Py.either_error, Py.either_error]
      split
      · exact ⟨(Kept.refl s w).steady safe, .inl (.refl s w)⟩
      · next exit => exact ⟨(Kept.refl s w).steady safe, exit⟩
  | ok modelPath =>
      obtain ⟨text, rfl, rfl⟩ := modelFile_eq_ok.mp file
      rw [Py.either_ok, Py.wpc_bind, Py.wpc_ask]
      rintro r w₁ ⟨legal, rfl⟩
      obtain rfl : r = .ok () := legal
      refine ⟨trivial, ?_⟩
      have safe₁ : s.backend.Safe (w.note (.host (.log (.loadingModel (pathJoin s.modelsDir text))))
          (.ok ())).engines := ⟨safe.unmisused, safe.held, safe.known⟩
      rw [Py.either_ok, Py.wpc_bind]
      refine Py.wpc_mono (fun _ _ => trivial) (fun r s' w' loads => ?_)
        (loadModelFile_spec safe₁ ready (pathJoin s.modelsDir text))
      obtain ⟨steady, object, loading, outcome⟩ := loads
      have steady' : Steady s w s' w' :=
        ⟨steady.safe, steady.grown, steady.modelsDir, steady.socket, steady.reported⟩
      cases r with
      | error e =>
          have exit : ¬ e.IsException := outcome
          rw [Py.either_error, Py.either_error, if_neg exit]
          exact ⟨steady', exit⟩
      | ok ok =>
          rw [Py.either_ok, Py.wpc_ite]
          rw [Py.either_ok] at outcome
          split
          · next loaded =>
              rw [if_pos loaded] at outcome
              obtain ⟨reading, h, serves, made⟩ := outcome
              rw [Py.wpc_bind, Py.wpc_modify, Py.either_ok, Py.wpc_bind, Py.wpc_ask]
              rintro r w₂ ⟨legal, rfl⟩
              refine ⟨trivial, ?_⟩
              have steady'' : Steady s w { s' with currentModel := some (.str text), modelReady := true }
                  w' := ⟨steady'.safe, steady'.grown, steady'.modelsDir,
                  steady'.socket, steady'.reported⟩
              cases r with
              | ok _ =>
                  have made : w'.engines.MadeFrom h w'.engines.reading := by rwa [reading]
                  exact ⟨steady'', rfl, rfl, ⟨text, rfl, reading⟩, h, serves, made⟩
              | error e =>
                  -- Only an exit request interrupts the delay.
                  have exit : ¬ e.IsException := legal
                  rw [Py.either_error, Py.either_error, if_neg exit]
                  exact ⟨steady'', exit⟩
          · next unloaded =>
              rw [if_neg unloaded] at outcome
              exact ⟨steady', .inr ⟨by rw [object], by rw [object], outcome, loading⟩⟩

/-! ## Messages -/

/-- What a reply tells: that a model was loaded, or nothing that matters, or that a load failed. -/
def Told (s : ZmqOnnxClient Backend) (w : Service) (reply : List Bytes)
    (s' : ZmqOnnxClient Backend) (w' : Service) : Prop :=
  if reportsLoaded reply then ∃ name, Served s name s' w'.engines
  else Kept s w s' w' ∨ Failed s s' w'.engines

/-- What the handling of a message does. -/
def Answers (s : ZmqOnnxClient Backend) (w : Service) (r : Except PyErr (List Bytes))
    (s' : ZmqOnnxClient Backend) (w' : Service) : Prop :=
  Steady s w s' w' ∧
    Py.either (fun reply => Told s w reply s' w') (fun e => e.IsException → Kept s w s' w') r

theorem Answers.kept {s' : ZmqOnnxClient Backend} {w' : Service} {reply : List Bytes}
    (safe : s.backend.Safe w.engines) (kept : Kept s w s' w') (silent : reportsLoaded reply = false) :
    Answers s w (.ok reply) s' w' := by
  refine ⟨kept.steady safe, ?_⟩
  rw [Py.either_ok, Told, if_neg (by rw [silent]; exact Bool.false_ne_true)]
  exact .inl kept

theorem Answers.raised {s' : ZmqOnnxClient Backend} {w' : Service} (e : PyErr)
    (safe : s.backend.Safe w.engines) (kept : Kept s w s' w') : Answers s w (.error e) s' w' :=
  ⟨kept.steady safe, fun _ => kept⟩

/-- A load, and the reply that says what came of it. -/
theorem answers_load (safe : s.backend.Safe w.engines) (ready : w.engines.halfway = false)
    {name : Json} {yes no : List Bytes} (loads : reportsLoaded yes = true)
    (fails : reportsLoaded no = false) :
    (do
      let loaded ← loadModel name
      if loaded then pure yes else pure no : ServerM Backend (List Bytes)).wpc service (fun _ => True)
        (Answers s w) s w := by
  rw [Py.wpc_bind]
  refine Py.wpc_mono (fun _ _ => trivial) (fun r s' w' done => ?_) (loadModel_spec safe ready name)
  obtain ⟨steady, outcome⟩ := done
  cases r with
  | error e =>
      have exit : ¬ e.IsException := outcome
      exact ⟨steady, fun raised => absurd raised exit⟩
  | ok loaded =>
      rw [Py.either_ok] at outcome
      rw [Py.either_ok, Py.wpc_ite]
      split
      · next done =>
          rw [if_pos done] at outcome
          refine ⟨steady, ?_⟩
          rw [Py.either_ok, Told, if_pos loads]
          exact ⟨name, outcome⟩
      · next undone =>
          rw [if_neg undone] at outcome
          refine ⟨steady, ?_⟩
          rw [Py.either_ok, Told, if_neg (by rw [fails]; exact Bool.false_ne_true)]
          exact outcome

/-- What follows steps that move nothing. -/
theorem answers_bind {γ : Type} {p : ServerM Backend γ} {f : γ → ServerM Backend (List Bytes)}
    (safe : s.backend.Safe w.engines) (still : Py.Within service Py.Still p)
    (rest : ∀ b, (f b).wpc service (fun _ => True) (Answers s w) s w) :
    (p >>= f).wpc service (fun _ => True) (Answers s w) s w := by
  rw [Py.wpc_bind]
  refine Py.wpc_mono (fun _ _ => trivial) (fun r s' w' same => ?_) (still s w)
  cases same
  cases r with
  | error e => exact .raised e safe (.refl s w)
  | ok b => exact rest b

theorem answers_handleModelRequest (safe : s.backend.Safe w.engines)
    (ready : w.engines.halfway = false) (header : Json) :
    (handleModelRequest header).wpc service (fun _ => True) (Answers s w) s w := by
  refine answers_bind safe (.ofExcept _) fun fields => ?_
  rw [Py.wpc_ite]
  split
  · exact .kept safe (.refl s w)
      (by rw [reportsLoaded, replyField_buildErrorResponse])
  · refine answers_bind safe (still_checkModelExists _) fun available => ?_
    rw [Py.wpc_ite]
    split
    · exact answers_load safe ready (by rw [reportsLoaded, replyField_requestReply]; rfl)
        (by rw [reportsLoaded, replyField_requestReply]; rfl)
    · exact .kept safe (.refl s w)
        (by rw [reportsLoaded, replyField_requestReply]; rfl)

theorem answers_handleModelData (safe : s.backend.Safe w.engines)
    (ready : w.engines.halfway = false) (header : Json) (modelData : Bytes) :
    (handleModelData header modelData).wpc service (fun _ => True) (Answers s w) s w := by
  refine answers_bind safe (.ofExcept _) fun fields => ?_
  rw [Py.wpc_ite]
  split
  · exact .kept safe (.refl s w)
      (by rw [reportsLoaded, replyField_buildErrorResponse])
  · refine answers_bind safe (still_saveModel _ _) fun saved => ?_
    rw [Py.wpc_ite]
    split
    · exact answers_load safe ready (by rw [reportsLoaded, replyField_dataReply])
        (by rw [reportsLoaded, replyField_dataReply])
    · exact .kept safe (.refl s w)
        (by rw [reportsLoaded, replyField_dataReply])

theorem answers_respond (safe : s.backend.Safe w.engines) (ready : w.engines.halfway = false)
    (frames : List Bytes) (tensor : Option NdArray) (header : Json) :
    (respond frames tensor header).wpc service (fun _ => True) (Answers s w) s w := by
  have built (result : NdArray) {s s₁ : ZmqOnnxClient Backend} {w w₁ : Service}
      (safe : s.backend.Safe w.engines) (kept : Kept s w s₁ w₁) :
      (buildResponse result).wpc service (fun _ => True) (Answers s w) s₁ w₁ := by
    have silent : Py.Returns service (fun reply => reportsLoaded reply = false)
        (buildResponse result : ServerM Backend (List Bytes)) :=
      returns_exceptException ((Py.Returns.any _).bind fun _ _ => .pure rfl) fun _ => .pure rfl
    refine Py.wpc_mono (fun _ _ => trivial) (fun r s' w' done => ?_)
      (Py.wpc_and (still_buildResponse result s₁ w₁) (silent s₁ w₁))
    obtain ⟨same, silent⟩ := done
    cases same
    cases r with
    | error e => exact .raised e safe kept
    | ok reply => exact .kept safe kept silent
  refine answers_bind safe (.ofExcept _) fun request =>
    answers_bind safe (within_andAlso _ (.ofExcept _)) fun data => ?_
  rw [Py.wpc_ite]
  split
  · exact answers_handleModelRequest safe ready header
  · rw [Py.wpc_ite]
    split
    · exact answers_handleModelData safe ready header _
    · cases tensor with
      | none => exact built zeroResult safe (.refl s w)
      | some tensor =>
          rw [Py.wpc_bind]
          refine Py.wpc_mono (fun _ _ => trivial) (fun r s₃ w₃ kept => ?_)
            (kept_resultFor safe tensor header)
          cases r with
          | error e => exact .raised e safe kept
          | ok result => exact built result safe kept

end Tensors

end Frame

end Detector
