import FrigateAsahi.Backends.Calls
import FrigateAsahi.ZmqOnnxClient

/-!
# The files of the server and the loads it performs

`disk` is the environment in which every call may succeed or fail, and moves no file but those it is
about. In it a load of a model leaves the model's own file alone, although the engines that convert
write their caches beside it, and an engine is loaded when its load has succeeded
(`Backend.load_keeps`).
-/

namespace Detector

open Text Python Numpy Interaction

/-! ## Files -/

structure Store : Type where
  files : PyStr → Option Bytes
  mtime : PyStr → Nat
  /-- The calls of `_load_model`, each with its file and whether it returned true. -/
  loads : List (PyStr × Bool)

def FilePath.path? : FilePath → Option PyStr
  | .at p => some p
  | .temp _ _ => none

def Command.outputs : Command → List FilePath
  | .onnx2ncnn _ _ rawParam rawBin => [rawParam, rawBin]
  | .ncnnoptimize _ _ _ optParam optBin => [optParam, optBin]
  | .mnnconvert _ _ mnn => [mnn]

/-- The paths whose files a call may change, also when it fails. -/
def touched : HostCall → List PyStr
  | .openWb p => [p]
  | .write p _ => [p]
  | .closeFile p => [p]
  | .replace source target => [source, target].filterMap FilePath.path?
  | .run command => command.outputs.filterMap FilePath.path?
  | _ => []

/-- What is known of an answer: what became of a file that was written, the times and sizes of
files, and that neither a missing nor an empty file holds a graph. -/
def Store.Answers (w : Store) (w' : Store) : (c : HostCall) → Except PyErr c.Answer → Prop
  | .exists (.at p), .ok present => (w.files p).isSome = true → present = true
  | .exists _, .error e => ¬ e.IsZmqError
  | .openWb p, .ok _ => w'.files p = some []
  | .write p data, .ok _ => w'.files p = (w.files p).map (· ++ data)
  | .closeFile p, .ok _ => w'.files p = w.files p
  | .getmtime (.at p), .ok time => (w.files p).isSome = true → time = w.mtime p
  | .getmtime (.at p), .error _ => w.files p = none
  | .getsize (.at p), .ok size => ∀ content, w.files p = some content → size = content.length
  | .getsize (.at p), .error _ => w.files p = none
  | .onnxIoMeta p, .ok _ => ∃ content, w.files p = some content ∧ content ≠ []
  | .sleep, .error e => ¬ e.IsException
  | _, _ => True

/-- The last load has returned true. -/
def succeed (loads : List (PyStr × Bool)) : List (PyStr × Bool) :=
  loads.dropLast ++ loads.getLast?.toList.map fun load => (load.1, true)

/-- `_load_model` begins with a log line and sleeps when it has succeeded. -/
def Store.noted (w : Store) : (c : HostCall) → Except PyErr c.Answer → List (PyStr × Bool)
  | .log (.loadingModel p), _ => w.loads ++ [(p, false)]
  | .sleep, .ok _ => succeed w.loads
  | _, _ => w.loads

structure Store.Step (w : Store) (c : HostCall) (r : Except PyErr c.Answer) (w' : Store) : Prop where
  frame : ∀ p ∉ touched c, w'.files p = w.files p
  times : ∀ p ∉ touched c, w'.mtime p = w.mtime p
  answers : w.Answers w' c r
  loads : w'.loads = w.noted c r

def disk : Env Host Store := ⟨Store.Step⟩

/-! ## Calls that spare a file -/

/-- A call that is not about the file, and begins and ends no load. -/
structure Sparing (p : PyStr) (c : HostCall) : Prop where
  untouched : p ∉ touched c
  unnoted : ∀ w r, Store.noted w c r = w.loads

/-- The file, if it is there, is what it was, and so are the loads. -/
structure Spares (p : PyStr) (w w' : Store) : Prop where
  file : ∀ content, w.files p = some content → w'.files p = some content
  loads : w'.loads = w.loads

theorem Spares.refl (p : PyStr) (w : Store) : Spares p w w := ⟨fun _ held => held, rfl⟩

theorem Spares.trans {p : PyStr} {w w' w'' : Store} (first : Spares p w w')
    (next : Spares p w' w'') : Spares p w w'' :=
  ⟨fun content held => next.file content (first.file content held),
    next.loads.trans first.loads⟩

/-- The relation of a method that leaves its object and the file alone. -/
def Calm {σ : Type} (p : PyStr) (x y : σ × Store) : Prop := y.1 = x.1 ∧ Spares p x.2 y.2

instance {σ : Type} (p : PyStr) : IsPreorder (σ × Store) (Calm p) where
  refl x := ⟨rfl, .refl p x.2⟩
  trans _ _ _ first next := ⟨next.1.trans first.1, first.2.trans next.2⟩

section Methods

variable {σ α β : Type} {p : PyStr}

theorem Sparing.spares {c : HostCall} (sparing : Sparing p c) {w w' : Store}
    {r : Except PyErr c.Answer} (step : disk.step w c r w') : Spares p w w' :=
  ⟨fun _ held => (step.frame p sparing.untouched).trans held,
    step.loads.trans (sparing.unnoted w r)⟩

theorem calm_ask {c : HostCall} (sparing : Sparing p c) :
    Py.Within disk (Calm p) (ask c : HostM σ c.Answer) :=
  Py.Within.ask fun _ _ _ _ step => ⟨rfl, sparing.spares step⟩

theorem calm_free {q : HostM Unit α} (calm : Py.Within disk (Calm p) q) :
    Py.Within disk (Calm p) (free q : HostM σ α) := by
  intro s w
  rw [wpc_free]
  refine Py.wpc_mono (fun w' crash => ?_) (fun _ _ _ kept => ⟨rfl, kept.2⟩) (calm () w)
  obtain ⟨_, kept⟩ := crash
  exact ⟨s, rfl, kept.2⟩

/-- The relation of a method that leaves the file alone, whatever it does to its object. -/
def Spared {σ : Type} (p : PyStr) (x y : σ × Store) : Prop := Spares p x.2 y.2

instance {σ : Type} (p : PyStr) : IsPreorder (σ × Store) (Spared p) where
  refl x := .refl p x.2
  trans _ _ _ first next := first.trans next

/-- A call that is about no file at all. -/
theorem calm_other {c : HostCall} (none : touched c = [])
    (unnoted : ∀ w r, Store.noted w c r = w.loads) :
    Py.Within disk (Calm p) (ask c : HostM σ c.Answer) :=
  calm_ask ⟨by rw [none]; exact List.not_mem_nil, unnoted⟩

theorem Spared.of_calm {q : HostM σ α} (calm : Py.Within disk (Calm p) q) :
    Py.Within disk (Spared p) q := by
  intro s w
  refine Py.wpc_mono (fun w' crash => ?_) (fun _ _ _ kept => kept.2) (calm s w)
  obtain ⟨s', kept⟩ := crash
  exact ⟨s', kept.2⟩

theorem Spared.modify (f : σ → σ) : Py.Within disk (Spared p) (modify f : HostM σ PUnit) :=
  .modify fun _ w => .refl p w

/-! ## Converters -/

theorem calm_isExecutable (tool : PyStr) : Py.Within disk (Calm p) (isExecutable tool) :=
  (within_andAlso _ (calm_other rfl fun _ _ => rfl)).bind fun _ =>
    within_andAlso _ (calm_other rfl fun _ _ => rfl)

theorem calm_findTool (name env : String) : Py.Within disk (Calm p) (findTool name env) :=
  (calm_other rfl fun _ _ => rfl).bind fun _ => (calm_isExecutable _).bind fun _ =>
    .ite (.pure _) (calm_other rfl fun _ _ => rfl)

theorem calm_bothExist (first second : FilePath) :
    Py.Within disk (Calm p) (bothExist first second) :=
  (calm_other rfl fun _ _ => rfl).bind fun _ => within_andAlso _ (calm_other rfl fun _ _ => rfl)

theorem calm_optimize (ncnnoptimize : Option PyStr) (tmpdir : Nat) :
    Py.Within disk (Calm p) (optimize ncnnoptimize tmpdir) := by
  unfold optimize
  cases ncnnoptimize with
  | none => exact .pure _
  | some tool =>
      exact (calm_other rfl fun _ _ => rfl).bind fun _ =>
        (within_andAlso _ (calm_bothExist _ _)).bind fun _ => .pure _

/-- The files to move come from the temporary directory. -/
theorem returns_optimize (ncnnoptimize : Option PyStr) (tmpdir : Nat) :
    Py.Returns disk (fun final => final.1.path? = none ∧ final.2.path? = none)
      (optimize ncnnoptimize tmpdir) := by
  unfold optimize
  cases ncnnoptimize with
  | none => exact .pure ⟨rfl, rfl⟩
  | some tool =>
      refine (Py.Returns.any _).bind fun _ _ => (Py.Returns.any _).bind fun optimized _ => .pure ?_
      split
      · exact ⟨rfl, rfl⟩
      · exact ⟨rfl, rfl⟩

theorem calm_replace {source : FilePath} {target : PyStr} (temp : source.path? = none)
    (other : p ≠ target) :
    Py.Within disk (Calm p) (ask (.replace source (.at target)) : HostM σ Unit) := by
  refine calm_ask ⟨?_, fun _ _ => rfl⟩
  have only : touched (.replace source (.at target)) = [target] := by
    cases source with
    | «at» path => cases temp
    | temp dir name => rfl
  rw [only, List.mem_singleton]
  exact other

theorem calm_convertInside {paramPath binPath : PyStr} (param : p ≠ paramPath) (bin : p ≠ binPath)
    (onnx2ncnn : PyStr) (ncnnoptimize : Option PyStr) (tmpdir : Nat) (onnxPath : PyStr) :
    Py.Within disk (Calm p)
      (convertInside onnx2ncnn ncnnoptimize tmpdir onnxPath paramPath binPath) :=
  (calm_other rfl fun _ _ => rfl).bind fun _ => (within_andAlso _ (calm_bothExist _ _)).bind fun _ =>
    .ite (.throw _) <| .ite (.throw _) <|
      (calm_optimize _ _).bind_returns (returns_optimize _ _) fun _ temp =>
        (calm_replace temp.1 param).bind fun _ => calm_replace temp.2 bin

theorem calm_convertOnnxToNcnn {paramPath binPath : PyStr} (param : p ≠ paramPath)
    (bin : p ≠ binPath) (onnxPath : PyStr) :
    Py.Within disk (Calm p) (convertOnnxToNcnn onnxPath paramPath binPath) :=
  (calm_findTool _ _).bind fun _ => (Py.Within.ofExcept _).bind fun _ =>
    (calm_findTool _ _).bind fun _ => (calm_other rfl fun _ _ => rfl).bind fun _ =>
      (calm_convertInside param bin _ _ _ _).andFinally (calm_other rfl fun _ _ => rfl)

theorem calm_isWritten (path : FilePath) : Py.Within disk (Calm p) (isWritten path) :=
  (calm_other rfl fun _ _ => rfl).bind fun _ =>
    within_andAlso _ ((calm_other rfl fun _ _ => rfl).bind fun _ => .pure _)

theorem calm_convertOnnxToMnn {mnnPath : PyStr} (target : p ≠ mnnPath)
    (temp : p ≠ mnnPath ++ py ".tmp") (onnxPath : PyStr) :
    Py.Within disk (Calm p) (convertOnnxToMnn onnxPath mnnPath) := by
  refine (calm_findTool _ _).bind fun tool => ?_
  refine (calm_ask ⟨?_, fun _ _ => rfl⟩).bind fun _ =>
    (within_andAlso _ (calm_isWritten _)).bind fun _ => .ite (.throw _) (calm_ask ⟨?_, fun _ _ => rfl⟩)
  · have only : touched (.run (.mnnconvert tool onnxPath (.at (mnnPath ++ py ".tmp")))) =
        [mnnPath ++ py ".tmp"] := rfl
    rw [only, List.mem_singleton]
    exact temp
  · have both : touched (.replace (.at (mnnPath ++ py ".tmp")) (.at mnnPath)) =
        [mnnPath ++ py ".tmp", mnnPath] := rfl
    rw [both, List.mem_cons, List.mem_singleton]
    exact fun either => either.elim temp target

end Methods

/-! ## Loads -/

/-- What a load leaves: the model's file and the account of loads, and where it succeeds an engine
that is loaded. -/
structure Installs {β : Type} [InferenceBackend β] (p : PyStr) (w : Store) (r : Except PyErr Unit)
    (b' : β) (w' : Store) : Prop where
  spares : Spares p w w'
  loaded : r = .ok () → InferenceBackend.loaded b' = true

/-- What a backend promises about the files of the server. -/
structure KeepsFiles (β : Type) [InferenceBackend β] : Prop where
  load : ∀ (p : PyStr) (b : β) (w : Store),
    (InferenceBackend.load p : HostM β Unit).wpc disk (fun _ => True) (Installs p w) b w
  close : ∀ (p : PyStr) (b : β) (w : Store),
    (InferenceBackend.close : HostM β Unit).wpc disk (fun _ => True) (fun _ _ w' => Spares p w w') b w

section Rules

variable {β α : Type} [InferenceBackend β] {p : PyStr} {b : β} {w₀ w : Store}

/-- A step of a load that may fail, and leaves the object alone. -/
theorem loads_bind {q : HostM β α} {f : α → HostM β Unit} (before : Spares p w₀ w)
    (calm : Py.Within disk (Calm p) q)
    (rest : ∀ a w', Spares p w₀ w' → (f a).wpc disk (fun _ => True) (Installs p w₀) b w') :
    (q >>= f).wpc disk (fun _ => True) (Installs p w₀) b w := by
  rw [Py.wpc_bind]
  refine Py.wpc_mono (fun _ _ => trivial) (fun r s' w' kept => ?_) (calm b w)
  obtain ⟨same, spares⟩ := kept
  dsimp only at same
  subst same
  cases r with
  | error e => exact ⟨before.trans spares, fun ok => nomatch ok⟩
  | ok a => exact rest a w' (before.trans spares)

/-- What is left of a load when the engine has been installed. -/
theorem loads_finish {q : HostM β Unit} (before : Spares p w₀ w)
    (calm : Py.Within disk (Calm p) q) (loaded : InferenceBackend.loaded b = true) :
    q.wpc disk (fun _ => True) (Installs p w₀) b w := by
  refine Py.wpc_mono (fun _ _ => trivial) (fun r s' w' kept => ?_) (calm b w)
  obtain ⟨same, spares⟩ := kept
  dsimp only at same
  subst same
  exact ⟨before.trans spares, fun _ => loaded⟩

end Rules

variable [NumPy] {p : PyStr}

namespace OnnxRuntimeBackend

omit [NumPy] in
theorem load_keeps (p : PyStr) (self : OnnxRuntimeBackend) (w : Store) :
    (load p).wpc disk (fun _ => True) (Installs p w) self w := by
  rw [load, Py.wpc_bind, Py.wpc_get, Py.either_ok]
  refine loads_bind (.refl p w) (calm_other rfl fun _ _ => rfl) fun session w₁ spares => ?_
  refine loads_bind spares (calm_other rfl fun _ _ => rfl) fun inputs w₂ spares => ?_
  refine loads_bind spares (.ofExcept _) fun _ w₃ spares => ?_
  refine loads_bind spares (calm_other rfl fun _ _ => rfl) fun outputs w₄ spares => ?_
  refine loads_bind spares (.ofExcept _) fun _ w₅ spares => ?_
  rw [Py.wpc_modify]
  exact ⟨spares, fun _ => rfl⟩

end OnnxRuntimeBackend

namespace NcnnBackend

omit [NumPy] in
theorem calm_isFresh (modelPath : PyStr) : Py.Within disk (Calm p) (isFresh modelPath) :=
  (calm_other rfl fun _ _ => rfl).bind fun _ => (calm_other rfl fun _ _ => rfl).bind fun _ =>
    .ite (.pure _) <| (calm_other rfl fun _ _ => rfl).bind fun _ =>
      (calm_other rfl fun _ _ => rfl).bind fun _ => .ite (.pure _) <|
        (calm_other rfl fun _ _ => rfl).bind fun _ => .pure _

omit [NumPy] in
/-- The names of the cache have two dots in their suffix. -/
theorem ne_cachePaths (p : PyStr) : p ≠ (cachePaths p).1 ∧ p ≠ (cachePaths p).2 :=
  ⟨ne_splitext_append (by decide), ne_splitext_append (by decide)⟩

omit [NumPy] in
theorem calm_convert (p onnxPath : PyStr) :
    Py.Within disk (Calm p) (convertOnnxToNcnn onnxPath (cachePaths p).1 (cachePaths p).2) :=
  calm_convertOnnxToNcnn (ne_cachePaths p).1 (ne_cachePaths p).2 onnxPath

omit [NumPy] in
theorem calm_ensureConverted (p : PyStr) : Py.Within disk (Calm p) (ensureConverted p) :=
  ((calm_isFresh p).catching fun _ => .ite (.pure _) (.throw _)).bind fun _ =>
    .ite (.pure _) ((calm_convert p p).bind fun _ => .pure _)

omit [NumPy] in
theorem returns_files (self : NcnnBackend) (w : Store) :
    (free (ensureConverted p) : HostM NcnnBackend _).wpc disk (fun _ => True)
      (fun r _ _ => Py.either (fun files => files = cachePaths p) (fun _ => True) r) self w := by
  rw [wpc_free]
  exact returns_ensureConverted disk p () w

omit [NumPy] in
theorem calm_owning {σ α : Type} (net : Nat) {q : HostM σ α} (inner : Py.Within disk (Calm p) q) :
    Py.Within disk (Calm p) (owning net q) :=
  inner.catching fun _ => (calm_other rfl fun _ _ => rfl).bind fun _ =>
    (calm_other rfl fun _ _ => rfl).bind fun _ => .throw _

omit [NumPy] in
theorem calm_netThreads : Py.Within disk (Calm p) netThreads :=
  Py.Within.get.bind fun _ =>
    .ite ((calm_other rfl fun _ _ => rfl).bind fun _ => .ofExcept _) (.pure _)

omit [NumPy] in
theorem calm_buildNet (param binf : PyStr) : Py.Within disk (Calm p) (buildNet param binf) :=
  Py.Within.get.bind fun _ => (calm_other rfl fun _ _ => rfl).bind fun net =>
    calm_owning net <| calm_netThreads.bind fun _ => (calm_other rfl fun _ _ => rfl).bind fun _ =>
      (calm_other rfl fun _ _ => rfl).bind fun _ => .ite (.throw _) <|
        (calm_other rfl fun _ _ => rfl).bind fun _ => .ite (.throw _) (.pure _)

omit [NumPy] in
theorem calm_openNet (p : PyStr) : Py.Within disk (Calm p) (openNet p (cachePaths p)) :=
  within_exceptException (calm_buildNet _ _) fun _ =>
    (calm_free (calm_convert p p)).bind fun _ => (calm_buildNet _ _).bind fun _ =>
      (within_dropException (calm_other rfl fun _ _ => rfl)).bind fun _ => .pure _

omit [NumPy] in
theorem calm_checkNames (net : Nat) (ins outs : IoMeta) :
    Py.Within disk (Calm p) (checkNames net ins outs) :=
  (calm_other rfl fun _ _ => rfl).bind fun _ => (calm_other rfl fun _ _ => rfl).bind fun _ =>
    .ite (.pure _) (.throw _)

theorem calm_infer (feeds : Feeds) : Py.Within disk (Calm p) (infer feeds) :=
  Py.Within.get.bind fun _ => (Py.Within.ofExcept _).bind fun _ =>
    (calm_other rfl fun _ _ => rfl).bind fun _ =>
      (Py.Within.forEach (fun _ => (Py.Within.ofExcept _).bind fun _ =>
        (Py.Within.ofExcept _).bind fun _ => calm_other rfl fun _ _ => rfl) _).bind fun _ =>
          .traverse (fun _ => (calm_other rfl fun _ _ => rfl).bind fun _ => .ite (.throw _) <|
            (Py.Within.ofExcept _).bind fun _ => .ofExcept _) _

theorem calm_finishLoad (net : Nat) (ins : IoMeta) :
    Py.Within disk (Calm p) (finishLoad net ins) :=
  Py.Within.catching ((calm_other rfl fun _ _ => rfl).bind fun _ =>
    (Py.Within.traverse (fun _ => .ofExcept _) _).bind fun _ => (calm_infer _).bind fun _ =>
      calm_other rfl fun _ _ => rfl) fun _ => (calm_other rfl fun _ _ => rfl).bind fun _ => .throw _

theorem load_keeps (p : PyStr) (self : NcnnBackend) (w : Store) :
    (load p).wpc disk (fun _ => True) (Installs p w) self w := by
  rw [load]
  refine loads_bind (.refl p w) (calm_other rfl fun _ _ => rfl) fun io w₁ spares => ?_
  rw [Py.wpc_bind]
  refine Py.wpc_mono (fun _ _ => trivial) (fun r s' w₂ both => ?_)
    (Py.wpc_and (calm_free (calm_ensureConverted p) self w₁) (returns_files self w₁))
  obtain ⟨⟨same, next⟩, files⟩ := both
  dsimp only at same next
  subst same
  have spares := spares.trans next
  cases r with
  | error e => exact ⟨spares, fun ok => nomatch ok⟩
  | ok files' =>
      obtain rfl : files' = cachePaths p := files
      refine loads_bind spares (calm_openNet p) fun net w₃ spares => ?_
      refine loads_bind spares (calm_owning _ (calm_checkNames _ _ _)) fun _ w₄ spares => ?_
      rw [Py.wpc_bind, Py.wpc_get, Py.either_ok, Py.wpc_bind, Py.wpc_modify, Py.either_ok]
      refine loads_finish spares ?_ rfl
      cases s'.net with
      | none => exact calm_finishLoad _ _
      | some old =>
          exact (calm_owning _ (calm_finishLoad _ _)).bind fun _ => calm_other rfl fun _ _ => rfl

end NcnnBackend

namespace MnnBackend

omit [NumPy] in
/-- Where the model is its own cache, and not empty, it is fresh. -/
theorem isFresh_self {p : PyStr} {content : Bytes} {w : Store} (self : cachePath p = p)
    (held : w.files p = some content) (filled : content ≠ []) :
    (isFresh p).wpc disk (fun _ => True) (fun r _ w' => r = .ok true ∧ Spares p w w') () w := by
  have sparing : ∀ c, touched c = [] → (∀ w r, Store.noted w c r = w.loads) → Sparing p c :=
    fun c none unnoted => ⟨by rw [none]; exact List.not_mem_nil, unnoted⟩
  rw [isFresh, self, Py.wpc_bind, Py.wpc_ask]
  intro r w₁ step
  have first := (sparing _ rfl fun _ _ => rfl).spares step
  refine ⟨trivial, ?_⟩
  cases r with
  | error e => exact absurd step.answers (by rw [Store.Answers, held]; nofun)
  | ok mnnTime =>
      have mnnTime_eq : mnnTime = w.mtime p := step.answers (by rw [held]; rfl)
      have time : w₁.mtime p = w.mtime p := step.times p List.not_mem_nil
      have held₁ := first.file content held
      rw [Py.either_ok, Py.wpc_bind, Py.wpc_ask]
      intro r w₂ step
      have second := (sparing _ rfl fun _ _ => rfl).spares step
      refine ⟨trivial, ?_⟩
      cases r with
      | error e => exact absurd step.answers (by rw [Store.Answers, held₁]; nofun)
      | ok modelTime =>
          have modelTime_eq : modelTime = w₁.mtime p := step.answers (by rw [held₁]; rfl)
          have fresh : ¬ mnnTime < modelTime := by
            rw [mnnTime_eq, modelTime_eq, time]
            exact lt_irrefl _
          have held₂ := second.file content held₁
          rw [Py.either_ok, if_neg fresh, Py.wpc_bind, Py.wpc_ask]
          intro r w₃ step
          have third := (sparing _ rfl fun _ _ => rfl).spares step
          refine ⟨trivial, ?_⟩
          cases r with
          | error e => exact absurd step.answers (by rw [Store.Answers, held₂]; nofun)
          | ok size =>
              have size_eq : size = content.length := step.answers content held₂
              have pos : 0 < size := by
                rw [size_eq]
                exact List.length_pos_iff.mpr filled
              rw [Py.either_ok, Py.wpc_pure, decide_eq_true pos]
              exact ⟨rfl, (first.trans second).trans third⟩

omit [NumPy] in
theorem calm_isFresh (modelPath : PyStr) : Py.Within disk (Calm p) (isFresh modelPath) :=
  (calm_other rfl fun _ _ => rfl).bind fun _ => (calm_other rfl fun _ _ => rfl).bind fun _ =>
    .ite (.pure _) <| (calm_other rfl fun _ _ => rfl).bind fun _ => .pure _

omit [NumPy] in
/-- A file that is there and not empty is never converted into itself. -/
theorem ensureConverted_spares {p : PyStr} {content : Bytes} {w : Store}
    (held : w.files p = some content) (filled : content ≠ []) :
    (ensureConverted p).wpc disk (fun _ => True) (fun _ _ w' => Spares p w w') () w := by
  by_cases self : cachePath p = p
  · rw [ensureConverted, Py.wpc_bind, Py.wpc_catching]
    refine Py.wpc_mono (fun _ _ => trivial) (fun r s' w' done => ?_) (isFresh_self self held filled)
    obtain ⟨rfl, spares⟩ := done
    exact spares
  · have temp : p ≠ cachePath p ++ py ".tmp" := by
      unfold cachePath
      rw [List.append_assoc]
      exact ne_splitext_append (by decide)
    have calm : Py.Within disk (Calm p) (ensureConverted p) :=
      ((calm_isFresh p).catching fun _ => .ite (.pure _) (.throw _)).bind fun _ =>
        .ite (.pure _) ((calm_convertOnnxToMnn (Ne.symm self) temp p).bind fun _ => .pure _)
    exact Py.wpc_mono (fun _ _ => trivial) (fun _ _ _ kept => kept.2) (calm () w)

omit [NumPy] in
theorem calm_create (mnn : PyStr) : Py.Within disk (Calm p) (create mnn) :=
  Py.Within.get.bind fun _ => .ite (.throw _) <|
    (calm_other rfl fun _ _ => rfl).bind fun _ => .ofExcept _

omit [NumPy] in
theorem calm_io (h which : Nat) (n : Int) : Py.Within disk (Calm p) (io h which n) :=
  .traverse (fun _ => (calm_other rfl fun _ _ => rfl).bind fun _ => .ofExcept _) _

omit [NumPy] in
theorem calm_describe (h : Nat) : Py.Within disk (Calm p) (describe h) :=
  (calm_other rfl fun _ _ => rfl).bind fun _ => (calm_io _ _ _).bind fun _ =>
    (calm_other rfl fun _ _ => rfl).bind fun _ => (calm_io _ _ _).bind fun _ => .pure _

theorem calm_infer (feeds : Feeds) : Py.Within disk (Calm p) (infer feeds) :=
  Py.Within.get.bind fun _ => (Py.Within.ofExcept _).bind fun _ => (Py.Within.ofExcept _).bind fun _ =>
    (Py.Within.ofExcept _).bind fun _ => (Py.Within.ofExcept _).bind fun _ =>
      (calm_other rfl fun _ _ => rfl).bind fun _ => .ite (.throw _) (.pure _)

theorem calm_finishLoad (ins : List (PyStr × List Int)) :
    Py.Within disk (Calm p) (finishLoad ins) :=
  (calm_other rfl fun _ _ => rfl).bind fun _ =>
    (Py.Within.traverse (fun _ => .ofExcept _) _).bind fun _ => (calm_infer _).bind fun _ =>
      calm_other rfl fun _ _ => rfl

omit [NumPy] in
theorem calm_drop (old : Option Nat) : Py.Within disk (Calm p) (drop old) := by
  cases old with
  | none => exact .pure ()
  | some h => exact calm_other rfl fun _ _ => rfl

theorem load_keeps (p : PyStr) (self : MnnBackend) (w : Store) :
    (load p).wpc disk (fun _ => True) (Installs p w) self w := by
  rw [load, Py.wpc_bind, Py.wpc_ask]
  intro r w₁ step
  refine ⟨trivial, ?_⟩
  have spares : Spares p w w₁ :=
    Sparing.spares ⟨List.not_mem_nil, fun _ _ => rfl⟩ step
  cases r with
  | error e => exact ⟨spares, fun ok => nomatch ok⟩
  | ok onnx =>
      obtain ⟨content, held, filled⟩ := step.answers
      have held₁ := spares.file content held
      rw [Py.either_ok, Py.wpc_bind, wpc_free]
      refine Py.wpc_mono (fun _ _ => trivial) (fun r _ w₂ next => ?_)
        (ensureConverted_spares held₁ filled)
      have spares := spares.trans next
      cases r with
      | error e => exact ⟨spares, fun ok => nomatch ok⟩
      | ok mnn =>
          refine loads_bind spares (calm_create mnn) fun h w₃ spares => ?_
          refine loads_bind spares (calm_describe h) fun shim w₄ spares => ?_
          rw [Py.wpc_ite]
          split
          · refine loads_bind spares (calm_other rfl fun _ _ => rfl) fun _ w₅ spares => ?_
            exact ⟨spares, fun ok => nomatch ok⟩
          · rw [Py.wpc_bind, Py.wpc_get, Py.either_ok, Py.wpc_bind, Py.wpc_modify, Py.either_ok]
            exact loads_finish spares ((calm_finishLoad _).bind fun _ => calm_drop _) rfl

end MnnBackend

namespace FallbackBackend

variable {α β : Type} [InferenceBackend α] [InferenceBackend β]

omit [NumPy] [InferenceBackend β] in
theorem closePrimary_spares (primary : KeepsFiles α) (p : PyStr) (self : FallbackBackend α β)
    (w : Store) :
    (closePrimary : HostM (FallbackBackend α β) Unit).wpc disk (fun _ => True)
      (fun _ _ w' => Spares p w w') self w := by
  rw [closePrimary, wpc_exceptException, onPrimary, Py.wpc_zoom]
  refine Py.wpc_mono (fun _ _ => trivial) (fun r _ w' spares => ?_) (primary.close p self.primary w)
  cases r with
  | ok _ => exact spares
  | error e =>
      rw [Py.either_error]
      split
      · exact spares
      · exact spares

omit [NumPy] in
theorem tryPrimary_spares (primary : KeepsFiles α) (p : PyStr) (self : FallbackBackend α β)
    (w : Store) :
    (tryPrimary p : HostM (FallbackBackend α β) Bool).wpc disk (fun _ => True)
      (fun r self' w' => Spares p w w' ∧ (r = .ok true → loaded self' = true)) self w := by
  rw [tryPrimary, wpc_exceptException, Py.wpc_bind, onPrimary, Py.wpc_zoom]
  refine Py.wpc_mono (fun _ _ => trivial) (fun r b w' loads => ?_) (primary.load p self.primary w)
  cases r with
  | ok _ => exact ⟨loads.spares, fun _ => loads.loaded rfl⟩
  | error e =>
      rw [Py.either_error, Py.either_error]
      split
      · rw [Py.wpc_bind]
        refine Py.wpc_mono (fun _ _ => trivial) (fun r _ w'' next => ?_)
          (closePrimary_spares primary p _ w')
        have spares := loads.spares.trans next
        cases r with
        | ok _ => exact ⟨spares, nofun⟩
        | error e => exact ⟨spares, nofun⟩
      · exact ⟨loads.spares, nofun⟩

omit [NumPy] in
theorem load_keeps (primary : KeepsFiles α) (fallback : KeepsFiles β) (p : PyStr)
    (self : FallbackBackend α β) (w : Store) :
    (load p).wpc disk (fun _ => True) (Installs p w) self w := by
  rw [load, Py.wpc_bind]
  refine Py.wpc_mono (fun _ _ => trivial) (fun r self' w' tried => ?_)
    (tryPrimary_spares primary p self w)
  obtain ⟨spares, served⟩ := tried
  cases r with
  | error e => exact ⟨spares, nofun⟩
  | ok done =>
      rw [Py.either_ok]
      cases done with
      | true => exact ⟨spares, fun _ => served rfl⟩
      | false =>
          rw [if_neg Bool.false_ne_true]
          refine loads_bind spares (within_dropException (calm_other rfl fun _ _ => rfl))
            fun _ w₂ spares => ?_
          rw [Py.wpc_bind, onFallback, Py.wpc_zoom]
          refine Py.wpc_mono (fun _ _ => trivial) (fun r b w'' loads => ?_)
            (fallback.load p self'.fallback w₂)
          cases r with
          | error e => exact ⟨spares.trans loads.spares, nofun⟩
          | ok _ => exact ⟨spares.trans loads.spares, fun _ => loads.loaded rfl⟩

omit [NumPy] in
theorem keeps (primary : KeepsFiles α) (fallback : KeepsFiles β) :
    KeepsFiles (FallbackBackend α β) := by
  refine ⟨load_keeps primary fallback, fun p self w => ?_⟩
  change (close : HostM (FallbackBackend α β) Unit).wpc _ _ _ _ _
  rw [close, Py.wpc_bind]
  refine Py.wpc_mono (fun _ _ => trivial) (fun r self' w' spares => ?_)
    (closePrimary_spares primary p self w)
  cases r with
  | error e => exact spares
  | ok _ =>
      rw [Py.either_ok, closeFallback, wpc_exceptException, onFallback, Py.wpc_zoom]
      refine Py.wpc_mono (fun _ _ => trivial) (fun r _ w'' next => ?_)
        (fallback.close p self'.fallback w')
      cases r with
      | ok _ => exact spares.trans next
      | error e =>
          rw [Py.either_error]
          split
          · exact spares.trans next
          · exact spares.trans next

end FallbackBackend

/-! ## All of them -/

omit [NumPy] in
theorem OnnxRuntimeBackend.keeps : KeepsFiles OnnxRuntimeBackend :=
  ⟨load_keeps, fun p _ w => .refl p w⟩

theorem NcnnBackend.keeps : KeepsFiles NcnnBackend := by
  refine ⟨load_keeps, fun p self w => ?_⟩
  have drop : ∀ net, Py.Within disk (Spared p) (NcnnBackend.drop net) := by
    intro net
    cases net with
    | none => exact .pure ()
    | some net => exact Spared.of_calm (calm_other rfl fun _ _ => rfl)
  have close : Py.Within disk (Spared p) NcnnBackend.close :=
    Py.Within.get.bind fun self => .ite (.pure ()) <| (Spared.modify _).bind fun _ =>
      within_exceptException ((Spared.modify _).bind fun _ => (drop _).bind fun _ =>
        .ite (Spared.of_calm (calm_other rfl fun _ _ => rfl)) (.pure ())) fun _ => .pure ()
  exact Py.wpc_mono (fun _ _ => trivial) (fun _ _ _ spares => spares) (close self w)

theorem MnnBackend.keeps : KeepsFiles MnnBackend := by
  refine ⟨load_keeps, fun p self w => ?_⟩
  have close : Py.Within disk (Spared p) MnnBackend.close :=
    Py.Within.get.bind fun self => .ite (.pure ()) <| (Spared.modify _).bind fun _ =>
      within_exceptException (Spared.of_calm (MnnBackend.calm_drop _)) fun _ => .pure ()
  exact Py.wpc_mono (fun _ _ => trivial) (fun _ _ _ spares => spares) (close self w)

/-- A load of any backend leaves the model's own file alone. -/
theorem Backend.load_keeps (p : PyStr) (self : Backend) (w : Store) :
    (InferenceBackend.load p : HostM Backend Unit).wpc disk (fun _ => True) (Installs p w) self w := by
  have within {β : Type} [InferenceBackend β] (keeps : KeepsFiles β) {wrap : β → Backend} {b : β}
      (loaded : ∀ b, InferenceBackend.loaded (wrap b) = InferenceBackend.loaded b) :
      (Backend.within wrap b (InferenceBackend.load p)).wpc disk (fun _ => True) (Installs p w)
        (wrap b) w := by
    rw [Backend.within, Py.wpc_zoom]
    refine Py.wpc_mono (fun _ _ => trivial) (fun r b' w' loads => ?_) (keeps.load p b w)
    exact ⟨loads.spares, fun ok => (loaded b').trans (loads.loaded ok)⟩
  have keeps := OnnxRuntimeBackend.keeps
  change (Backend.dispatch _).wpc _ _ _ _ _
  rw [Backend.dispatch, Py.wpc_bind, Py.wpc_get, Py.either_ok]
  cases self with
  | ort b => exact within keeps fun _ => rfl
  | ncnn b => exact within NcnnBackend.keeps fun _ => rfl
  | mnn b => exact within MnnBackend.keeps fun _ => rfl
  | ncnnFallback b => exact within (FallbackBackend.keeps NcnnBackend.keeps keeps) fun _ => rfl
  | mnnFallback b => exact within (FallbackBackend.keeps MnnBackend.keeps keeps) fun _ => rfl

/-! ## Example runs -/

/-- A disk on which files are where they were written. ONNX Runtime loads what is loadable, the other
engines are not there, and where the disk is full a write leaves so many octets and fails. -/
structure DiskScript : Type where
  loadable : Bytes → Bool
  room : Option Nat

namespace DiskScript

def answer (script : DiskScript) (w : Store) : (c : HostCall) → Except PyErr c.Answer
  | .exists (.at p) => .ok (w.files p).isSome
  | .getmtime (.at p) =>
    if (w.files p).isSome then .ok (w.mtime p) else .error (exception "No such file")
  | .getsize (.at p) => (w.files p).elim (.error (exception "No such file")) fun content =>
    .ok content.length
  | .write _ _ => if script.room.isSome then .error (exception "No space left on device") else .ok ()
  | .ortSession p _ _ =>
    if (w.files p).any script.loadable then .ok 1 else .error (exception "Load model failed")
  | .ortInputs _ => .ok [py "images"]
  | .ortOutputs _ => .ok [py "output0"]
  | .makedirs _ | .openWb _ | .closeFile _ | .log _ | .sleep => .ok ()
  | _ => .error (exception "not available")

def note (script : DiskScript) (w : Store) (c : HostCall) (r : Except PyErr c.Answer) : Store where
  files := match c with
    | .openWb p => Function.update w.files p (some [])
    | .write p data => Function.update w.files p ((w.files p).map (· ++ data.take
        (script.room.getD data.length)))
    | _ => w.files
  mtime := w.mtime
  loads := w.noted c r

omit [NumPy] in
theorem legal (script : DiskScript) (w : Store) (c : HostCall) :
    disk.step w c (script.answer w c) (script.note w c (script.answer w c)) := by
  refine ⟨fun p other => ?_, fun p other => rfl, ?_, rfl⟩
  · cases c with
    | openWb q => exact Function.update_of_ne (List.ne_of_not_mem_cons other) _ _
    | write q data => exact Function.update_of_ne (List.ne_of_not_mem_cons other) _ _
    | _ => rfl
  · cases c with
    | «exists» source =>
        cases source with
        | «at» p => exact id
        | temp dir name => exact (isPlain_exception _).not_isZmqError
    | getmtime source =>
        cases source with
        | «at» p =>
            rw [answer]
            split
            · exact fun _ => rfl
            · next missing => simpa [Store.Answers] using missing
        | temp dir name => trivial
    | getsize source =>
        cases source with
        | «at» p =>
            rw [answer]
            cases held : w.files p with
            | none => exact held
            | some content =>
                intro content' held'
                rw [held] at held'
                cases held'
                rfl
        | temp dir name => trivial
    | openWb p => exact Function.update_self _ _ _
    | write p data =>
        cases room : script.room with
        | none => simp [answer, room, Store.Answers, note]
        | some n => simp [answer, room, Store.Answers]
    | _ => trivial

end DiskScript

end Detector
