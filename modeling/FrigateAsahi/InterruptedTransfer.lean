import FrigateAsahi.Handshake

/-!
# After an interrupted transfer

A transfer that is cut short may leave any prefix of the model in the server's file, and nothing
undoes it. The next handshake finds the file and tries to load it; only where there is none does the
plugin send its model again. So the handshakes that follow succeed if and only if the file is absent
or loads (`handshakes_repaired_iff`), however often they are repeated.
-/

namespace Detector

open Text Python Numpy Interaction

/-! ## A host in order -/

/-- The calls of the two handlers that succeed once the disk is in order. -/
def Working (w : Store) : (c : HostCall) → Except PyErr c.Answer → Prop
  | .exists (.at p), r => r = .ok (w.files p).isSome
  | .makedirs _, r => r = .ok ()
  | .openWb _, r => r = .ok ()
  | .write _ _, r => r = .ok ()
  | .closeFile _, r => r = .ok ()
  | .log _, r => r = .ok ()
  | .sleep, r => r = .ok ()
  | _, _ => True

/-- The cause of an interruption is gone, and the backend loads the contents that are valid. -/
structure Repaired (D : Env Host Store) (β : Type) [InferenceBackend β] (valid : Bytes → Prop) :
    Prop extends Sound D β where
  works : ∀ w c r w', D.step w c r w' → Working w c r
  discerns : ∀ (p : PyStr) (b : β) (w : Store) (content : Bytes), w.files p = some content →
    (InferenceBackend.load p : HostM β Unit).wpc D (fun _ => True) (fun r _ _ =>
      Py.either (fun _ => valid content) (fun e => e.IsException ∧ ¬ valid content) r) b w

/-- The file is absent, or it can be loaded. -/
def Usable (valid : Bytes → Prop) (file : Option Bytes) : Prop := ∀ content ∈ file, valid content

section Server

variable {D : Env Host Store} {β : Type} [InferenceBackend β] {valid : Bytes → Prop}
  {s : ZmqOnnxClient β} {w : Wire} {name : PyStr}

theorem wire_works {c : HostCall} (repaired : Repaired D β valid) {a : c.Answer}
    (works : ∀ r, Working w.store c r → r = .ok a)
    {Q : Except PyErr c.Answer → ZmqOnnxClient β → Wire → Prop}
    (each : ∀ store, w.store.Step c (.ok a) store → Q (.ok a) s (w.over store)) :
    (callHost c : ServerM β c.Answer).wpc (wire D) (fun _ => True) Q s w := by
  refine wire_host fun r store step => ?_
  obtain rfl := works r (repaired.works _ _ _ _ step)
  exact each store (repaired.files _ _ _ _ step)

theorem loadModel_works (repaired : Repaired D β valid) {content : Bytes}
    (held : w.store.files (pathJoin s.modelsDir name) = some content) :
    (loadModel (.str name)).wpc (wire D) (fun _ => True) (fun r _ _ =>
      ∃ ok, r = .ok ok ∧ (ok = true ↔ valid content)) s w := by
  rw [loadModel, wpc_exceptException, Py.wpc_bind, Py.wpc_get, Py.either_ok, Py.wpc_bind,
    Py.wpc_ofExcept, modelFile, Py.either_ok, Py.wpc_bind]
  refine wire_works repaired (a := ()) (by exact fun _ => id) fun store₁ step => ?_
  have held₁ := (step.frame _ List.not_mem_nil).trans held
  rw [Py.either_ok, Py.wpc_bind, loadModelFile, wpc_exceptException, Py.wpc_bind]
  refine wire_backend ?_
  refine Py.wpc_mono (fun _ _ => trivial) (fun r b store₂ outcome => ?_)
    (repaired.discerns _ s.backend _ content held₁)
  cases r with
  | error e =>
      obtain ⟨caught, invalid⟩ := outcome
      rw [Py.either_error, Py.either_error, if_pos caught]
      exact ⟨false, rfl, by simpa using invalid⟩
  | ok _ =>
      rw [Py.either_ok, Py.wpc_pure, Py.either_ok, Py.either_ok, if_pos rfl, Py.wpc_bind,
        Py.wpc_modify, Py.either_ok, Py.wpc_bind]
      refine wire_works repaired (a := ()) (by exact fun _ => id) fun store₃ step => ?_
      exact ⟨true, rfl, iff_of_true rfl outcome⟩

theorem saveModel_works (repaired : Repaired D β valid) (data : Bytes) :
    (saveModel (.str name) data : ServerM β Bool).wpc (wire D) (fun _ => True)
      (fun r _ _ => r = .ok true) s w := by
  rw [saveModel, wpc_exceptException, Py.wpc_bind, Py.wpc_get, Py.either_ok, Py.wpc_bind]
  refine wire_works repaired (a := ()) (by exact fun _ => id) fun store₁ step => ?_
  rw [Py.either_ok, Py.wpc_bind, Py.wpc_ofExcept, modelFile, Py.either_ok, Py.wpc_bind]
  refine wire_works repaired (a := ()) (by exact fun _ => id) fun store₂ step => ?_
  rw [Py.either_ok, Py.wpc_bind, Py.wpc_andFinally]
  refine wire_works repaired (a := ()) (by exact fun _ => id) fun store₃ step => ?_
  exact wire_works repaired (a := ()) (by exact fun _ => id) fun store₄ step => rfl

/-- The reply to a model request: whether the file is there, and whether it loads. -/
def Tells (valid : Bytes → Prop) (file : Option Bytes) (v : Option (Bool × Bool)) : Prop :=
  match file with
  | none => v = some (false, false)
  | some content => ∃ ok, v = some (true, ok) ∧ (ok = true ↔ valid content)

theorem not_tells_none {file : Option Bytes} : ¬ Tells valid file none := by
  intro tells
  cases file with
  | none => cases tells
  | some content =>
      obtain ⟨ok, told, -⟩ := tells
      cases told

theorem Tells.arrived [Interpreter] {file : Option Bytes} {first second : String}
    {reply : Option (List Bytes)} (tells : Tells valid file (verdict first second reply)) :
    reply ≠ none := by
  rintro rfl
  exact not_tells_none tells

theorem handleModelRequest_works [Interpreter] (repaired : Repaired D β valid) {fields : List (PyStr × Json)}
    (named : getD fields "model_name" .null = .str name) (nonempty : name ≠ []) :
    (handleModelRequest (.obj fields) : ServerM β (List Bytes)).wpc (wire D) (fun _ => True)
      (fun r _ _ => ∃ reply, r = .ok reply ∧
        Tells valid (w.store.files (pathJoin s.modelsDir name))
          (verdict "model_available" "model_loaded" (some reply))) s w := by
  have truthy : (Json.str name).truthy = true := by
    cases name with
    | nil => exact absurd rfl nonempty
    | cons c rest => rfl
  rw [handleModelRequest, Py.wpc_bind, Py.wpc_ofExcept, members, Py.either_ok, named,
    if_neg (not_not_intro truthy), Py.wpc_bind, checkModelExists, Py.wpc_bind, Py.wpc_get,
    Py.either_ok, Py.wpc_bind, Py.wpc_ofExcept, modelFile, Py.either_ok]
  refine wire_works repaired (by exact fun _ => id) fun store₁ step => ?_
  rw [Py.either_ok]
  cases held : w.store.files (pathJoin s.modelsDir name) with
  | none =>
      refine ⟨_, rfl, ?_⟩
      rw [verdict, readReply_requestReply]
      rfl
  | some content =>
      have held₁ := (step.frame _ List.not_mem_nil).trans held
      rw [Option.isSome_some, if_pos rfl, Py.wpc_bind]
      refine Py.wpc_mono (fun _ _ => trivial) (fun r s' w' loaded => ?_)
        (loadModel_works repaired held₁)
      obtain ⟨ok, rfl, valid⟩ := loaded
      rw [Py.either_ok, Py.wpc_ite]
      cases ok with
      | true =>
          refine ⟨_, rfl, true, ?_, valid⟩
          rw [verdict, readReply_requestReply]
          rfl
      | false =>
          refine ⟨_, rfl, false, ?_, valid⟩
          rw [verdict, readReply_requestReply]
          rfl

theorem handleModelData_works [Interpreter] (repaired : Repaired D β valid) {fields : List (PyStr × Json)}
    (named : getD fields "model_name" .null = .str name) (nonempty : name ≠ []) {data : Bytes}
    (loadable : valid data) :
    (handleModelData (.obj fields) data : ServerM β (List Bytes)).wpc (wire D) (fun _ => True)
      (fun r _ _ => ∃ reply, r = .ok reply ∧
        verdict "model_saved" "model_loaded" (some reply) = some (true, true)) s w := by
  have truthy : (Json.str name).truthy = true := by
    cases name with
    | nil => exact absurd rfl nonempty
    | cons c rest => rfl
  rw [handleModelData, Py.wpc_bind, Py.wpc_ofExcept, members, Py.either_ok, named,
    if_neg (not_not_intro truthy), Py.wpc_bind]
  refine Py.wpc_mono (fun _ _ => trivial) (fun r s₁ w₁ both => ?_)
    (Py.wpc_and (saveModel_works repaired data) (saveModel_save repaired.toSound data))
  obtain ⟨rfl, -, save⟩ := both
  obtain rfl := save.object
  rw [Py.either_ok, if_pos rfl, Py.wpc_bind]
  refine Py.wpc_mono (fun _ _ => trivial) (fun r s' w' loaded => ?_)
    (loadModel_works repaired (save.saved rfl))
  obtain ⟨ok, rfl, valid⟩ := loaded
  obtain rfl := valid.mpr loadable
  refine ⟨_, rfl, ?_⟩
  rw [verdict, readReply_dataReply]
  rfl

end Server

/-! ## The rounds of a handshake -/

section Rounds

variable [NumPy] {D : Env Host Store} {β : Type} [InferenceBackend β] {valid : Bytes → Prop}
  {j j' : Joint β} {name : PyStr}

omit [NumPy] in
theorem joinSurrogates_ne_nil (nonempty : name ≠ []) : joinSurrogates name ≠ [] := by
  rcases name with - | ⟨c, - | ⟨d, s⟩⟩
  · exact absurd rfl nonempty
  · rw [joinSurrogates]
    exact List.cons_ne_nil _ _
  · rw [joinSurrogates]
    split
    · exact List.cons_ne_nil _ _
    · exact List.cons_ne_nil _ _

/-- A reply on which the plugin has a verdict is one frame that it can read. -/
theorem verdict_eq_some {first second : String} {reply : Option (List Bytes)} {v : Bool × Bool}
    (told : verdict first second reply = some v) :
    ∃ frame, reply = some [frame] ∧ Plugin.readReply first second frame = .ok (some v) := by
  rcases reply with - | ⟨- | ⟨frame, - | ⟨second, rest⟩⟩⟩
  · cases told
  · cases told
  · refine ⟨frame, rfl, ?_⟩
    rw [verdict] at told
    cases read : Plugin.readReply first second frame with
    | error e =>
        rw [read] at told
        cases told
    | ok reply =>
        rw [read] at told
        exact congrArg Except.ok told
  · cases told

theorem Round.tells (repaired : Repaired D β valid) (nonempty : name ≠ [])
    (held : j.server.socket.isSome = true)
    (round : Round D [encodeJson (Plugin.requestHeader name)] j j') :
    j'.server.socket = j.server.socket ∧
      Tells valid (j.store.files (pathJoin j.server.modelsDir (joinSurrogates name)))
        (verdict "model_available" "model_loaded" j'.pending) := by
  obtain ⟨⟨r, w', run, store, pending, -⟩, -⟩ := round
  rw [pending]
  refine Py.wpc_exec (serveOnce_modelRequest (O := fun _ s' _ v => s'.socket = j.server.socket ∧
    Tells valid (j.store.files (pathJoin j.server.modelsDir (joinSurrogates name))) v) rfl rfl
    (fun deaf => ?_) fun fields named => ?_) run
  · rw [deaf] at held
    cases held
  · refine Py.wpc_mono (fun _ _ => trivial) (fun r s' w' both => ?_)
      (Py.wpc_and (handleModelRequest_works repaired named (joinSurrogates_ne_nil nonempty))
        (handleModelRequest_requested repaired.toSound loadsBy_any named))
    obtain ⟨⟨reply, rfl, tells⟩, unsent, -⟩ := both
    exact ⟨unsent, unsent.socket, tells⟩

theorem Round.stores (repaired : Repaired D β valid) (nonempty : name ≠ [])
    (held : j.server.socket.isSome = true) {data : Bytes} (loadable : valid data)
    (round : Round D [encodeJson (Plugin.dataHeader name), data] j j') :
    verdict "model_saved" "model_loaded" j'.pending = some (true, true) := by
  obtain ⟨⟨r, w', run, store, pending, -⟩, -⟩ := round
  rw [pending]
  refine Py.wpc_exec (serveOnce_modelData (O := fun _ _ _ v => v = some (true, true)) rfl rfl
    (fun deaf => ?_) fun fields named => ?_) run
  · rw [deaf] at held
    cases held
  · refine Py.wpc_mono (fun _ _ => trivial) (fun r s' w' both => ?_)
      (Py.wpc_and (handleModelData_works repaired named (joinSurrogates_ne_nil nonempty) loadable)
        (handleModelData_pushed repaired.toSound loadsBy_any named data))
    obtain ⟨⟨reply, rfl, told⟩, unsent, -⟩ := both
    exact ⟨unsent, told⟩

/-! ## The handshake -/

/-- The plugin's own file is there and is read. -/
def Attending (data : Bytes) : (c : Plugin.ClientCall) → Except PyErr c.Answer → Prop
  | .exists _, r => r = .ok true
  | .readFile _, r => r = .ok data
  | _, _ => True

def attended (D : Env Host Store) (data : Bytes) : Env Plugin.Client (Joint β) :=
  ⟨fun j c r j' => (joint D data).step j c r j' ∧ Attending data c r⟩

variable {data : Bytes} {client : Plugin.ZmqIpcDetector}

theorem attended_joint {α : Type} {p : Plugin.ClientM α}
    {Q : Except PyErr α → Plugin.ZmqIpcDetector → Joint β → Prop}
    (pre : p.wpc (joint D data) (fun _ => True) Q client j) :
    p.wpc (attended D data) (fun _ => True) Q client j := by
  refine Py.wpc_mono (fun _ _ => trivial) (fun _ _ _ post => post.1)
    (Py.wpc_project (E := attended D data) (v := id) (F := fun _ => True) ?_ trivial pre)
  exact fun _ _ _ _ step _ => ⟨step.1, trivial⟩

theorem sendModelData_works (repaired : Repaired D β valid) (nonempty : client.modelName ≠ [])
    (connected : client.socket.isSome = true) (held : j.server.socket.isSome = true)
    (loadable : valid data) :
    Plugin.sendModelData.wpc (attended D data) (fun _ => True) (fun r _ j' => r = .ok true ∧
      Round D [encodeJson (Plugin.dataHeader client.modelName), data] j j') client j := by
  rw [Plugin.sendModelData, wpc_exceptException, Py.wpc_bind, Py.wpc_get, Py.either_ok, Py.wpc_bind,
    Py.wpc_ask]
  intro r j₁ step
  obtain ⟨⟨rfl, -⟩, there⟩ := step
  obtain rfl : r = .ok true := there
  refine ⟨trivial, ?_⟩
  rw [Py.either_ok, if_neg (not_not_intro rfl), Py.wpc_bind, Py.wpc_ask]
  intro r j₂ step
  obtain ⟨⟨rfl, -⟩, read⟩ := step
  obtain rfl : r = .ok data := read
  refine ⟨trivial, ?_⟩
  rw [Py.either_ok, Py.wpc_bind]
  refine Py.wpc_mono (fun _ _ => trivial) (fun r client' j' done => ?_)
    (attended_joint (exchange_round
      [encodeJson (Plugin.dataHeader client.modelName), data] 30000))
  obtain ⟨-, outcome⟩ := done
  cases r with
  | error e =>
      obtain ⟨-, ⟨-, none⟩ | ⟨round, lost⟩⟩ := outcome
      · rw [none] at connected
        cases connected
      · have told := round.stores repaired nonempty held loadable
        rw [lost] at told
        cases told
  | ok frames =>
      obtain ⟨round, arrived⟩ := outcome
      obtain ⟨frame, same, read⟩ := verdict_eq_some (round.stores repaired nonempty held loadable)
      rw [arrived] at same
      cases same
      rw [Py.either_ok]
      dsimp only
      rw [Py.wpc_bind, Py.wpc_ofExcept, read]
      exact ⟨rfl, round⟩

/-- The outcome of a handshake, and what it leaves for the next one. -/
structure Repair (valid : Bytes → Prop) (name : PyStr) (j : Joint β) (ok : Bool) (j' : Joint β) :
    Prop where
  answer : ok = true ↔ Usable valid (j.store.files (pathJoin j.server.modelsDir name))
  serving : ok = true → Serving name j'.server
  left : Usable valid (j'.store.files (pathJoin j.server.modelsDir name)) ↔
    Usable valid (j.store.files (pathJoin j.server.modelsDir name))

theorem checkAndTransferModel_repairs (repaired : Repaired D β valid)
    (nonempty : client.modelName ≠ []) (connected : client.socket.isSome = true)
    (held : j.server.socket.isSome = true) (running : j.exited = false) (loadable : valid data) :
    Plugin.checkAndTransferModel.wpc (attended D data) (fun _ => True) (fun r _ j' => ∃ ok,
      r = .ok ok ∧ Repair valid (joinSurrogates client.modelName) j ok j') client j := by
  rw [Plugin.checkAndTransferModel, wpc_exceptException, Py.wpc_bind, Py.wpc_get, Py.either_ok,
    Py.wpc_bind]
  refine Py.wpc_mono (fun _ _ => trivial) (fun r client' j₁ done => ?_)
    (attended_joint (exchange_round [encodeJson (Plugin.requestHeader client.modelName)] 30000))
  obtain ⟨rfl, outcome⟩ := done
  cases r with
  | error e =>
      obtain ⟨-, ⟨-, none⟩ | ⟨round, lost⟩⟩ := outcome
      · rw [none] at connected
        cases connected
      · obtain ⟨-, tells⟩ := round.tells repaired nonempty held
        exact absurd lost tells.arrived
  | ok frames =>
      obtain ⟨round, arrived⟩ := outcome
      obtain ⟨socket, tells⟩ := round.tells repaired nonempty held
      obtain ⟨requested, silent⟩ := round.requested repaired.toSound loadsBy_any running
      have running₁ : j₁.exited = false := by
        by_contra exit
        rw [silent (by simpa using exit)] at tells
        exact not_tells_none tells
      replace requested := requested running₁
      cases file : j.store.files (pathJoin j.server.modelsDir (joinSurrogates client'.modelName)) with
      | some content =>
          rw [file] at tells
          obtain ⟨ok, told, loads⟩ := tells
          rw [told] at requested
          obtain ⟨frame, same, read⟩ := verdict_eq_some told
          rw [arrived] at same
          cases same
          rw [Py.either_ok]
          dsimp only
          rw [Py.wpc_bind, Py.wpc_ofExcept, read]
          have usable : Usable valid (some content) ↔ valid content := by simp [Usable]
          refine ⟨ok, rfl, ?_, requested.serving, ?_⟩
          · rw [file, usable, loads]
          · rw [file, requested.file content file]
      | none =>
          rw [file] at tells
          have told : verdict "model_available" "model_loaded" j₁.pending = some (false, false) := tells
          rw [told] at requested
          obtain ⟨dir, -⟩ := requested
          obtain ⟨frame, same, read⟩ := verdict_eq_some told
          rw [arrived] at same
          cases same
          rw [Py.either_ok]
          dsimp only
          rw [Py.wpc_bind, Py.wpc_ofExcept, read, Py.either_ok]
          dsimp only
          rw [if_neg Bool.false_ne_true]
          have held₁ : j₁.server.socket.isSome = true := by rw [socket, held]
          refine Py.wpc_mono (fun _ _ => trivial) (fun r _ j' done => ?_)
            (sendModelData_works repaired nonempty connected held₁ loadable)
          obtain ⟨rfl, next⟩ := done
          obtain ⟨pushed, silent⟩ := next.pushed repaired.toSound loadsBy_any running₁
          rw [next.stores repaired nonempty held₁ loadable] at pushed silent
          have running₂ : j'.exited = false := by
            by_contra exit
            cases silent (by simpa using exit)
          obtain ⟨-, serving, written⟩ := pushed running₂
          rw [dir] at written
          have absent : Usable valid none := by
            intro content held
            cases held
          have sent : Usable valid (some data) := by
            intro content held
            cases held
            exact loadable
          refine ⟨true, rfl, ?_, fun _ => serving, ?_⟩
          · rw [file]
            exact iff_of_true rfl absent
          · rw [file, written]
            exact iff_of_true sent absent

/-! ## Repeated handshakes -/

/-- Handshakes for one model, one after the other. Before each the server may have been restarted,
and what is kept of it is the directory. Each is listed with its answer and the server after it. -/
inductive Handshakes (D : Env Host Store) (data : Bytes) (name dir : PyStr) :
    Store → List (Bool × ZmqOnnxClient β) → Prop
  | done {store : Store} : Handshakes D data name dir store []
  | next {store : Store} {client client' : Plugin.ZmqIpcDetector} {server : ZmqOnnxClient β}
    {ok : Bool} {j' : Joint β} {rest : List (Bool × ZmqOnnxClient β)} :
    client.modelName = name → client.socket.isSome = true → server.modelsDir = dir →
    server.socket.isSome = true →
    Plugin.checkAndTransferModel.Exec (attended D data) client (.start server store) (.ok ok) client'
      j' →
    Handshakes D data name dir j'.store rest →
    Handshakes D data name dir store ((ok, j'.server) :: rest)

/-- Whatever an interrupted transfer has left of the models directory: every handshake that follows
ends with the model loaded, or none does, and which one it is depends on the file alone. -/
theorem handshakes_repaired_iff (repaired : Repaired D β valid) (loadable : valid data)
    {dir : PyStr} (nonempty : name ≠ []) {store : Store} {results : List (Bool × ZmqOnnxClient β)}
    (run : Handshakes D data name dir store results) :
    ∀ x ∈ results, (x.1 = true ∧ Serving (joinSurrogates name) x.2) ↔
      Usable valid (store.files (pathJoin dir (joinSurrogates name))) := by
  induction run with
  | done => exact nofun
  | next same connected place held exec _ ih =>
      subst same place
      have outcome := Py.wpc_exec
        (checkAndTransferModel_repairs repaired nonempty connected held rfl loadable) exec
      obtain ⟨ok, answered, repair⟩ := outcome
      cases answered
      intro x mem
      rcases List.mem_cons.mp mem with rfl | later
      · refine ⟨fun both => repair.answer.mp both.1, fun usable => ?_⟩
        have yes := repair.answer.mpr usable
        exact ⟨yes, repair.serving yes⟩
      · exact (ih x later).trans repair.left

end Rounds

/-! ## A disk in order -/

/-- ONNX Runtime loads the contents that are valid. -/
def Discerning (valid : Bytes → Prop) (w : Store) :
    (c : HostCall) → Except PyErr c.Answer → Prop
  | .ortSession p _ _, r => ∀ content, w.files p = some content →
    Py.either (fun _ => valid content) (fun e => e.IsException ∧ ¬ valid content) r
  | .ortInputs _, r => ∃ name names, r = .ok (name :: names)
  | .ortOutputs _, r => ∃ name names, r = .ok (name :: names)
  | _, _ => True

def mended (valid : Bytes → Prop) : Env Host Store :=
  ⟨fun w c r w' => disk.step w c r w' ∧ Working w c r ∧ Discerning valid w c r⟩

theorem mended_repaired (valid : Bytes → Prop) :
    Repaired (mended valid) OnnxRuntimeBackend valid where
  files _ _ _ _ step := step.1
  works _ _ _ _ step := step.2.1
  load p b w := by
    refine Py.wpc_mono (fun _ _ => trivial) (fun _ _ _ post => post.1)
      (Py.wpc_project (E := mended valid) (v := id) (F := fun _ => True) ?_ trivial
        (OnnxRuntimeBackend.load_keeps p b w))
    exact fun _ _ _ _ step _ => ⟨step.1, trivial⟩
  discerns p b w content held := by
    change (OnnxRuntimeBackend.load p).wpc _ _ _ _ _
    rw [OnnxRuntimeBackend.load, Py.wpc_bind, Py.wpc_get, Py.either_ok, Py.wpc_bind, Py.wpc_ask]
    intro r w₁ step
    have loaded := step.2.2 content held
    refine ⟨trivial, ?_⟩
    cases r with
    | error e => exact loaded
    | ok session =>
        rw [Py.either_ok, Py.wpc_bind, Py.wpc_ask]
        intro r w₂ step
        obtain ⟨-, -, input, inputs, rfl⟩ := step
        refine ⟨trivial, ?_⟩
        rw [Py.either_ok, Py.wpc_bind, require, Py.wpc_ofExcept, List.head?_cons, Option.elim_some,
          Py.either_ok, Py.wpc_bind, Py.wpc_ask]
        intro r w₃ step
        obtain ⟨-, -, output, outputs, rfl⟩ := step
        refine ⟨trivial, ?_⟩
        rw [Py.either_ok, Py.wpc_bind, require, Py.wpc_ofExcept, List.head?_cons, Option.elim_some,
          Py.either_ok, Py.wpc_modify]
        exact loaded

/-! ## Example runs -/

theorem DiskScript.lawful_mended {script : DiskScript} (room : script.room = none) :
    script.Lawful (mended fun content => script.loadable content = true) := by
  refine fun w c => ⟨script.legal w c, ?_, ?_⟩
  · cases c with
    | «exists» source =>
        cases source with
        | «at» p => rfl
        | temp dir name => trivial
    | write p data => simp [Working, answer, room]
    | _ => trivial
  · cases c with
    | ortSession p providers threads =>
        intro content held
        rw [answer, held, Option.any_some]
        split
        · next loads => exact loads
        · next fails => exact ⟨isException_exception _, fails⟩
    | ortInputs session => exact ⟨_, _, rfl⟩
    | ortOutputs session => exact ⟨_, _, rfl⟩
    | _ => trivial

section

attribute [local instance] NumPy.reference

/-- A server without a model, on the CPU. -/
def waitingCpu : ZmqOnnxClient OnnxRuntimeBackend :=
  ⟨py "tcp://*:5555", py "models", none, false, true, some 1, cpuBackend none⟩

/-- One model loads. A disk that is full after one octet of a file, and one that is not full. -/
def fullDisk : DiskScript := ⟨fun content => decide (content = [8, 9]), some 1⟩

def roomyDisk : DiskScript := ⟨fun content => decide (content = [8, 9]), none⟩

theorem exec_attended (data : Bytes) (client : Plugin.ZmqIpcDetector)
    (j : Joint OnnxRuntimeBackend) {r : Except PyErr Bool}
    (outcome : (roomyDisk.handshake true data client j).1.1 = r) :
    Plugin.checkAndTransferModel.Exec
      (attended (mended fun content => roomyDisk.loadable content = true) data) client j r
      (roomyDisk.handshake true data client j).1.2 (roomyDisk.handshake true data client j).2 := by
  have sound : ∀ (j : Joint OnnxRuntimeBackend) (c : Plugin.ClientCall),
      (attended (mended fun content => roomyDisk.loadable content = true) data).step j c
        (DiskScript.attend true data j c) (roomyDisk.noteJoint j c (DiskScript.attend true data j c)) := by
    intro j c
    refine ⟨DiskScript.legal_attend (DiskScript.lawful_mended rfl) true data j c, ?_⟩
    cases c with
    | «exists» path => exact rfl
    | readFile path => exact rfl
    | _ => trivial
  exact Py.exec_answering sound _ _ _ outcome

/-- The message with the model. -/
def modelMessage : List Bytes := [encodeJson (Plugin.dataHeader (py "m.onnx")), [8, 9]]

theorem cut_ok : (fullDisk.round modelMessage waitingCpu emptyStore).1.1 = .ok .again := by
  decide +kernel

theorem cut_file : (fullDisk.round modelMessage waitingCpu emptyStore).2.store.files
    (pathJoin (py "models") (py "m.onnx")) = some [8] := by
  decide +kernel

theorem cut_refused : (roomyDisk.handshake true [8, 9] (plugin (py "m.onnx"))
    (.start (fullDisk.round modelMessage waitingCpu emptyStore).1.2
      (fullDisk.round modelMessage waitingCpu emptyStore).2.store)).1.1 = .ok false := by
  decide +kernel

/-- The disk was full and is not any more, the plugin's model loads, and the handshake fails. -/
theorem interrupted_transfer_stuck : ∃ s' w' client' j',
    serveOnce.Exec (wire disk) waitingCpu ⟨emptyStore, some modelMessage, []⟩ (.ok .again) s' w' ∧
    w'.store.files (pathJoin (py "models") (py "m.onnx")) = some [8] ∧
    Plugin.checkAndTransferModel.Exec
      (attended (mended fun content => roomyDisk.loadable content = true) [8, 9])
      (plugin (py "m.onnx")) (.start s' w'.store) (.ok false) client' j' := by
  have cut := DiskScript.exec_round fullDisk.legal modelMessage waitingCpu emptyStore cut_ok
  have next := exec_attended [8, 9] (plugin (py "m.onnx"))
    (.start (fullDisk.round modelMessage waitingCpu emptyStore).1.2
      (fullDisk.round modelMessage waitingCpu emptyStore).2.store) cut_refused
  exact ⟨_, _, _, _, cut, cut_file, next⟩

theorem first_ok : (roomyDisk.handshake true [8, 9] (plugin (py "m.onnx"))
    (.start waitingCpu emptyStore)).1.1 = .ok true := by
  decide +kernel

theorem handshakes_repaired_iff_first :
    (true = true ∧ Serving (joinSurrogates (py "m.onnx")) (roomyDisk.handshake true [8, 9]
        (plugin (py "m.onnx")) (.start waitingCpu emptyStore)).2.server) ↔
      Usable (fun content => roomyDisk.loadable content = true)
        (emptyStore.files (pathJoin (py "models") (joinSurrogates (py "m.onnx")))) := by
  have nonempty : py "m.onnx" ≠ [] := by decide
  have loads : roomyDisk.loadable [8, 9] = true := rfl
  have first : ∀ server, Handshakes (mended fun content => roomyDisk.loadable content = true) [8, 9]
      (py "m.onnx") (py "models") emptyStore [(true, server)] →
      ((true = true ∧ Serving (joinSurrogates (py "m.onnx")) server) ↔
        Usable (fun content => roomyDisk.loadable content = true)
          (emptyStore.files (pathJoin (py "models") (joinSurrogates (py "m.onnx"))))) :=
    fun server run => handshakes_repaired_iff (mended_repaired _) loads nonempty run (true, server)
      List.mem_cons_self
  have exec := exec_attended [8, 9] (plugin (py "m.onnx")) (.start waitingCpu emptyStore) first_ok
  refine first _ (.next ?_ ?_ ?_ ?_ exec .done)
  · rfl
  · rfl
  · rfl
  · rfl

end

end Detector
