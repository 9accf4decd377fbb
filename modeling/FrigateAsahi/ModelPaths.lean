import FrigateAsahi.Lib.Paths
import FrigateAsahi.ZmqOnnxClient

/-!
# Which files a model name reaches

The server joins the name in a header to its models directory and looks no further: the handlers
keep to files below the directory exactly when the name leads there.
-/

namespace Detector

open Text Python Interaction Paths

/-- The name in a header, where it is one that is joined to a directory. -/
def nameOf : Json → Option PyStr
  | .obj fields =>
    match getD fields "model_name" .null with
    | .str [] => none
    | .str name => some name
    | _ => none
  | _ => none

/-- The name, walked from the models directory, ends strictly below it. -/
def Inside (cwd : Place) (modelsDir name : PyStr) : Prop :=
  Below (place cwd modelsDir) (walk (if absolute name then [] else place cwd modelsDir) name)

instance (cwd : Place) (modelsDir name : PyStr) : Decidable (Inside cwd modelsDir name) :=
  inferInstanceAs (Decidable (Below _ _))

/-- A file below the models directory. -/
def IsModelFile (cwd : Place) (modelsDir p : PyStr) : Prop :=
  Below (place cwd modelsDir) (place cwd p)

section Handlers

variable {β : Type} [InferenceBackend β]

/-- What a handler may ask for: to test, write or load a file below the models directory, and to
have the directory itself. -/
inductive Permitted (cwd : Place) (self : ZmqOnnxClient β) : ServerCall → Prop
  | tested {p : PyStr} : IsModelFile cwd self.modelsDir p →
    Permitted cwd self (.host (.exists (.at p)))
  | opened {p : PyStr} : IsModelFile cwd self.modelsDir p → Permitted cwd self (.host (.openWb p))
  | written {p : PyStr} {data : Bytes} : IsModelFile cwd self.modelsDir p →
    Permitted cwd self (.host (.write p data))
  | closed {p : PyStr} : IsModelFile cwd self.modelsDir p →
    Permitted cwd self (.host (.closeFile p))
  | logged {p : PyStr} : IsModelFile cwd self.modelsDir p →
    Permitted cwd self (.host (.log (.loadingModel p)))
  | loaded {p : PyStr} {c : HostCall} : IsModelFile cwd self.modelsDir p →
    (InferenceBackend.load p : HostM β Unit).Makes c self.backend → Permitted cwd self (.host c)
  | directory : Permitted cwd self (.host (.makedirs self.modelsDir))
  | slept : Permitted cwd self (.host .sleep)

/-- A call that changes the file system. -/
inductive Writes : ServerCall → Prop
  | makedirs (p : PyStr) : Writes (.host (.makedirs p))
  | openWb (p : PyStr) : Writes (.host (.openWb p))
  | write (p : PyStr) (data : Bytes) : Writes (.host (.write p data))

/-- An outcome that tells the client of a failure; the loop answers an exception with an error. -/
inductive Refusal : Except PyErr (List Bytes) → Prop
  | raised (e : PyErr) : Refusal (.error e)
  | error (msg : PyStr) : Refusal (.ok (buildErrorResponse msg))
  | unsaved (name : Json) (before after : String) :
    Refusal (.ok [encodeJson (dataReply false false name before after)])

/-- Whatever is answered to its calls, the handler refuses and changes no file. -/
def Refuses (p : ServerM β (List Bytes)) (self : ZmqOnnxClient β) : Prop :=
  p.wpc (Prog.checked fun c => ¬ Writes c) (fun kept => kept) (fun r _ _ => Refusal r) self True

end Handlers

/-- Both handlers keep to the models directory, and refuse a name that leads elsewhere. -/
def Contained (cwd : Place) (modelsDir : PyStr) (header : Json) : Prop :=
  ∀ (β : Type) [InferenceBackend β] (self : ZmqOnnxClient β) (data : Bytes),
    self.modelsDir = modelsDir →
      (∀ c, (handleModelRequest header).Makes c self → Permitted cwd self c) ∧
      (∀ c, (handleModelData header data).Makes c self → Permitted cwd self c) ∧
      ∀ name, nameOf header = some name → ¬ Inside cwd modelsDir name →
        Refuses (handleModelRequest header) self ∧ Refuses (handleModelData header data) self

section Handlers

variable {β : Type} [InferenceBackend β] {cwd : Place} {self : ZmqOnnxClient β} {name : Json}

/-- Every file that the name is joined to is a model file. -/
def LeadsInside (cwd : Place) (modelsDir : PyStr) (name : Json) : Prop :=
  ∀ p, modelFile modelsDir name = .ok p → IsModelFile cwd modelsDir p

theorem checkModelExists_permitted (inside : LeadsInside cwd self.modelsDir name) {w : Prop} :
    (checkModelExists name).wpc (Prog.checked (Permitted cwd self)) (fun w' => w')
      (fun _ s' _ => s' = self) self w := by
  rw [checkModelExists, Py.wpc_bind, Py.wpc_get, Py.either_ok, Py.wpc_bind, Py.wpc_ofExcept]
  cases file : modelFile self.modelsDir name with
  | error e => rfl
  | ok p =>
      rw [Py.either_ok, Py.wpc_ask]
      rintro r w' rfl
      exact ⟨.tested (inside p file), rfl⟩

omit [InferenceBackend β] in
/-- What is handled leaves no exception to follow but an exit request. -/
theorem wpc_guarded {E : Env Server Prop} {C : Prop → Prop} {α : Type} {p : ServerM β α} {a : α}
    {R : ZmqOnnxClient β → Prop} {w : Prop} (body : p.wpc E C (fun _ s' _ => R s') self w) :
    (exceptException p fun _ => pure a).wpc E C (fun _ s' _ => R s') self w := by
  rw [wpc_exceptException]
  refine Py.wpc_mono (fun _ kept => kept) (fun r s' w' kept => ?_) body
  cases r with
  | ok a => exact kept
  | error e =>
      rw [Py.either_error]
      split <;> exact kept

theorem saveModel_permitted (inside : LeadsInside cwd self.modelsDir name) (data : Bytes)
    {w : Prop} :
    (saveModel name data).wpc (Prog.checked (Permitted cwd self)) (fun w' => w')
      (fun _ s' _ => s' = self) self w := by
  refine wpc_guarded ?_
  rw [Py.wpc_bind, Py.wpc_get, Py.either_ok, Py.wpc_bind, Py.wpc_ask]
  rintro r w' rfl
  refine ⟨.directory, ?_⟩
  cases r with
  | error e => rfl
  | ok _ =>
      rw [Py.either_ok, Py.wpc_bind, Py.wpc_ofExcept]
      cases file : modelFile self.modelsDir name with
      | error e => rfl
      | ok p =>
          have below := inside p file
          rw [Py.either_ok, Py.wpc_bind, Py.wpc_ask]
          rintro r w' rfl
          refine ⟨.opened below, ?_⟩
          cases r with
          | error e => rfl
          | ok _ =>
              rw [Py.either_ok, Py.wpc_bind, Py.wpc_andFinally, Py.wpc_ask]
              rintro r w' rfl
              refine ⟨.written below, ?_⟩
              rw [Py.wpc_ask]
              rintro r' w' rfl
              refine ⟨.closed below, ?_⟩
              cases r' with
              | error e => rfl
              | ok _ => cases r <;> rfl

theorem loadModelFile_permitted {p : PyStr} (below : IsModelFile cwd self.modelsDir p) {w : Prop}
    (kept : w) :
    (loadModelFile p).wpc (Prog.checked (Permitted cwd self)) (fun w' => w')
      (fun _ _ _ => True) self w := by
  refine wpc_guarded (R := fun _ => True) ?_
  rw [Py.wpc_bind, wpc_onBackend]
  refine Py.wpc_mono (fun _ kept => kept) (fun r _ _ _ => ?_)
    (Py.wpc_makes (I := fun w' => w') (fun w c r w' made step _ => ?_) kept)
  · cases r <;> trivial
  · obtain ⟨-, -, rfl⟩ := step
    exact .loaded below made

theorem loadModel_permitted (inside : LeadsInside cwd self.modelsDir name) {w : Prop} :
    (loadModel name).wpc (Prog.checked (Permitted cwd self)) (fun w' => w')
      (fun _ _ _ => True) self w := by
  refine wpc_guarded (R := fun _ => True) ?_
  rw [Py.wpc_bind, Py.wpc_get, Py.either_ok, Py.wpc_bind, Py.wpc_ofExcept]
  cases file : modelFile self.modelsDir name with
  | error e => trivial
  | ok p =>
      have below := inside p file
      rw [Py.either_ok, Py.wpc_bind, Py.wpc_ask]
      rintro r w' rfl
      refine ⟨.logged below, ?_⟩
      cases r with
      | error e => trivial
      | ok _ =>
          rw [Py.either_ok, Py.wpc_bind]
          refine Py.wpc_mono (fun _ kept => kept) (fun r s' w' _ => ?_)
            (loadModelFile_permitted below (.logged below))
          cases r with
          | error e => trivial
          | ok loaded =>
              rw [Py.either_ok]
              cases loaded with
              | false => trivial
              | true =>
                  rw [if_pos rfl, Py.wpc_bind, Py.wpc_modify, Py.either_ok, Py.wpc_bind, Py.wpc_ask]
                  rintro r w' rfl
                  refine ⟨.slept, ?_⟩
                  cases r <;> trivial

/-- Both handlers: a first step that leaves the object alone, and a load where it succeeds. -/
theorem thenLoad_permitted (inside : LeadsInside cwd self.modelsDir name) {first : ServerM β Bool}
    {loaded failed other : List Bytes}
    (kept : first.wpc (Prog.checked (Permitted cwd self)) (fun w' => w')
      (fun _ s' _ => s' = self) self True) :
    (do
      let done ← first
      if done then do
        let ok ← loadModel name
        if ok then pure loaded else pure failed
      else pure other : ServerM β (List Bytes)).wpc (Prog.checked (Permitted cwd self))
        (fun w' => w') (fun _ _ _ => True) self True := by
  rw [Py.wpc_bind]
  refine Py.wpc_mono (fun _ kept => kept) (fun r s' w' same => ?_) kept
  subst same
  cases r with
  | error e => trivial
  | ok done =>
      rw [Py.either_ok]
      cases done with
      | false => trivial
      | true =>
          rw [if_pos rfl, Py.wpc_bind]
          refine Py.wpc_mono (fun _ kept => kept) (fun r s' w' _ => ?_)
            (loadModel_permitted inside)
          cases r with
          | error e => trivial
          | ok ok => cases ok <;> trivial

theorem handleModelRequest_permitted {fields : List (PyStr × Json)}
    (inside : (getD fields "model_name" .null).truthy = true →
      LeadsInside cwd self.modelsDir (getD fields "model_name" .null)) :
    (handleModelRequest (.obj fields)).wpc (Prog.checked (Permitted cwd self)) (fun w' => w')
      (fun _ _ _ => True) self True := by
  rw [handleModelRequest, Py.wpc_bind, Py.wpc_ofExcept, members, Py.either_ok]
  dsimp only
  split
  · trivial
  · next named =>
      have leads := inside (by simpa using named)
      exact thenLoad_permitted leads (checkModelExists_permitted leads)

theorem handleModelData_permitted {fields : List (PyStr × Json)}
    (inside : (getD fields "model_name" .null).truthy = true →
      LeadsInside cwd self.modelsDir (getD fields "model_name" .null)) (data : Bytes) :
    (handleModelData (.obj fields) data).wpc (Prog.checked (Permitted cwd self)) (fun w' => w')
      (fun _ _ _ => True) self True := by
  rw [handleModelData, Py.wpc_bind, Py.wpc_ofExcept, members, Py.either_ok]
  dsimp only
  split
  · trivial
  · next named =>
      have leads := inside (by simpa using named)
      exact thenLoad_permitted leads (saveModel_permitted leads data)

end Handlers

/-! ## Names that lead elsewhere -/

/-- A backend that does nothing. -/
instance : InferenceBackend Unit :=
  ⟨fun _ => pure (), fun _ => pure [], fun _ => false, pure [], pure ()⟩

theorem isModelFile_iff {cwd : Place} {modelsDir name : PyStr} :
    IsModelFile cwd modelsDir (pathJoin modelsDir name) ↔ Inside cwd modelsDir name := by
  unfold IsModelFile Inside
  rw [place_pathJoin]

theorem nameOf_eq_some {header : Json} {name : PyStr} :
    nameOf header = some name ↔
      ∃ fields, header = .obj fields ∧ getD fields "model_name" .null = .str name ∧ name ≠ [] := by
  constructor
  · intro named
    cases header with
    | obj fields =>
        simp only [nameOf] at named
        split at named
        · cases named
        · next text nonempty shape =>
            cases named
            exact ⟨fields, rfl, shape, nonempty⟩
        · cases named
    | _ => cases named
  · rintro ⟨fields, rfl, shape, nonempty⟩
    obtain ⟨c, rest, rfl⟩ := List.exists_cons_of_ne_nil nonempty
    rw [nameOf, shape]

/-- Names that are no text are joined to nothing. -/
theorem leadsInside {cwd : Place} {modelsDir : PyStr} {fields : List (PyStr × Json)}
    (inside : ∀ name, nameOf (.obj fields) = some name → Inside cwd modelsDir name)
    (truthy : (getD fields "model_name" .null).truthy = true) :
    LeadsInside cwd modelsDir (getD fields "model_name" .null) := by
  intro p file
  cases shape : getD fields "model_name" .null with
  | str name =>
      rw [shape] at file truthy
      cases file
      have nonempty : name ≠ [] := by simpa [Json.truthy] using truthy
      exact isModelFile_iff.mpr
        (inside name (nameOf_eq_some.mpr ⟨fields, rfl, shape, nonempty⟩))
  | _ =>
      rw [shape] at file
      cases file

/-- What a method would have to avoid, it makes. -/
theorem makes_of_not_avoided {β α : Type} {p : ServerM β α} {self : ZmqOnnxClient β}
    {c : ServerCall}
    (caught : p.wpc (Prog.checked fun c' => c' ≠ c) (fun kept => kept) (fun _ _ kept => kept) self
      True → False) : p.Makes c self := by
  by_contra absent
  exact caught (Py.wpc_makes (I := fun kept => kept)
    (fun w c' r w' made step _ => step ▸ fun same => absent (same ▸ made)) trivial)

/-- The request handler tests the file that the name is joined to. -/
theorem handleModelRequest_tests {header : Json} {name : PyStr} (named : nameOf header = some name)
    {β : Type} [InferenceBackend β] (self : ZmqOnnxClient β) :
    (handleModelRequest header).Makes
      (ServerCall.host (.exists (.at (pathJoin self.modelsDir name)))) self := by
  obtain ⟨fields, rfl, shape, nonempty⟩ := nameOf_eq_some.mp named
  have truthy : (Json.str name).truthy = true := by simpa [Json.truthy] using nonempty
  refine makes_of_not_avoided fun others => ?_
  rw [handleModelRequest, Py.wpc_bind, Py.wpc_ofExcept, members, Py.either_ok] at others
  dsimp only at others
  rw [shape, if_neg (not_not.mpr truthy), Py.wpc_bind, checkModelExists, Py.wpc_bind,
    Py.wpc_get, Py.either_ok, Py.wpc_bind, modelFile, Py.wpc_ofExcept, Py.either_ok,
    Py.wpc_ask] at others
  exact (others (.ok true) _ rfl).1 rfl

/-- The data handler writes the file that the name is joined to. -/
theorem handleModelData_opens {header : Json} {name : PyStr} (named : nameOf header = some name)
    {β : Type} [InferenceBackend β] (self : ZmqOnnxClient β) (data : Bytes) :
    (handleModelData header data).Makes
      (ServerCall.host (.openWb (pathJoin self.modelsDir name))) self := by
  obtain ⟨fields, rfl, shape, nonempty⟩ := nameOf_eq_some.mp named
  have truthy : (Json.str name).truthy = true := by simpa [Json.truthy] using nonempty
  refine makes_of_not_avoided fun others => ?_
  rw [handleModelData, Py.wpc_bind, Py.wpc_ofExcept, members, Py.either_ok] at others
  dsimp only at others
  rw [shape, if_neg (not_not.mpr truthy), Py.wpc_bind, saveModel, wpc_exceptException,
    Py.wpc_bind, Py.wpc_get, Py.either_ok, Py.wpc_bind, Py.wpc_ask] at others
  have opened := (others (.ok ()) _ rfl).2
  rw [Py.either_ok, Py.wpc_bind, modelFile, Py.wpc_ofExcept, Py.either_ok, Py.wpc_bind,
    Py.wpc_ask] at opened
  exact (opened (.ok ()) _ rfl).1 rfl

theorem Contained.inside {cwd : Place} {modelsDir : PyStr} {header : Json}
    (contained : Contained cwd modelsDir header) {name : PyStr}
    (named : nameOf header = some name) : Inside cwd modelsDir name := by
  let self : ZmqOnnxClient Unit := ⟨[], modelsDir, none, false, false, none, ()⟩
  obtain ⟨request, -, -⟩ := contained Unit self [] rfl
  have permitted := request _ (handleModelRequest_tests named self)
  cases permitted with
  | tested below => exact isModelFile_iff.mp below
  | loaded below made => exact made.elim

/-- The handlers keep to the models directory exactly when the name leads into it. -/
theorem contained_iff (cwd : Place) (modelsDir : PyStr) (header : Json) :
    Contained cwd modelsDir header ↔
      ∀ name, nameOf header = some name → Inside cwd modelsDir name := by
  constructor
  · exact fun contained name named => contained.inside named
  · rintro inside β _ self data rfl
    refine ⟨fun c made => ?_, fun c made => ?_, fun name named outside =>
      absurd (inside name named) outside⟩
    · cases header with
      | obj fields =>
          exact Py.makes_of_checked (handleModelRequest_permitted (leadsInside inside)) made
      | _ =>
          refine Py.makes_of_checked (Q := fun _ _ _ => True) (w := True) ?_ made
          rw [handleModelRequest, Py.wpc_bind, Py.wpc_ofExcept]
          trivial
    · cases header with
      | obj fields =>
          exact Py.makes_of_checked (handleModelData_permitted (leadsInside inside) data) made
      | _ =>
          refine Py.makes_of_checked (Q := fun _ _ _ => True) (w := True) ?_ made
          rw [handleModelData, Py.wpc_bind, Py.wpc_ofExcept]
          trivial

/-- A header that asks for a file beside the models directory. -/
def climbing : Json :=
  .obj [(py "model_data", .bool true), (py "model_name", .str (py "../victim"))]

/-- A server with its models in `/srv/models`. -/
def exposed : ZmqOnnxClient Unit := ⟨[], py "/srv/models", none, false, true, some 0, ()⟩

/-- The data sent under `../victim` is written to `/srv/victim`. -/
theorem climbing_not_contained :
    ¬ Contained [] (py "/srv/models") climbing ∧
      (handleModelData climbing []).Makes
        (ServerCall.host (.openWb (py "/srv/models/../victim"))) exposed ∧
      place [] (py "/srv/models/../victim") = [py "victim", py "srv"] := by
  have named : nameOf climbing = some (py "../victim") := by decide +kernel
  have joined : pathJoin exposed.modelsDir (py "../victim") = py "/srv/models/../victim" := by
    decide +kernel
  have outside : ¬ Inside [] (py "/srv/models") (py "../victim") := by decide +kernel
  refine ⟨fun contained => outside (contained.inside named), ?_,
    by decide +kernel⟩
  rw [← joined]
  exact handleModelData_opens named exposed []

end Detector
