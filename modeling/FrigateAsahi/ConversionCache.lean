import FrigateAsahi.Backends.Calls
import FrigateAsahi.ModelStore
import Mathlib.Logic.Function.Basic

/-!
# The files next to the models

`shelf` is the environment of the converters: every file has a time and, where a converter has
written it, an origin. A file is moved as a whole and keeps its time, and a write is stamped by a
clock that does not go back. `convertOnnxToNcnn_stage` says what a conversion leaves wherever it
ends.
-/

namespace Detector

open Text Python Numpy Interaction

/-! ## Files -/

/-- The conversion that wrote a file, and the content of the model it read. -/
structure Origin : Type where
  conversion : Nat
  model : Option Bytes
  deriving DecidableEq

structure Entry : Type where
  time : Nat
  octets : Bytes
  /-- None if no converter wrote it. -/
  origin : Option Origin
  deriving DecidableEq

structure Shelf : Type where
  files : FilePath → Option Entry
  clock : Nat
  /-- How many conversions for ncnn have begun. -/
  conversions : Nat
  /-- Which conversion's file was moved to which path, in order. -/
  placed : List (Nat × PyStr)
  /-- What the graph and the weights of each net, and each session, were loaded from. -/
  params : Nat → Option Origin
  weights : Nat → Option Origin
  sessions : Nat → Option Origin

namespace Shelf

def octets (w : Shelf) (p : PyStr) : Bytes := ((w.files (.at p)).map Entry.octets).getD []

def origin (w : Shelf) (p : FilePath) : Option Origin := (w.files p).bind Entry.origin

/-- What a converter makes of its input. -/
def source (w : Shelf) : Command → Option Origin
  | .onnx2ncnn _ onnx _ _ | .mnnconvert _ onnx _ =>
    some ⟨w.conversions, (w.files (.at onnx)).map Entry.octets⟩
  | .ncnnoptimize _ rawParam rawBin _ _ =>
    if w.origin rawParam = w.origin rawBin then w.origin rawParam else none

/-- A run of a converter writes, leaves or removes each of its outputs, and leaves none of them as
it was when it has succeeded. -/
structure Converts (w : Shelf) (command : Command) (success : Prop) (w' : Shelf) : Prop where
  rest : w' = { w with files := w'.files, clock := w'.clock }
  clock : w.clock ≤ w'.clock
  frame : ∀ p ∉ command.outputs, w'.files p = w.files p
  output : ∀ p ∈ command.outputs, (w'.files p = w.files p ∧ ¬ success) ∨ w'.files p = none ∨
    ∃ e, w'.files p = some e ∧ e.origin = w.source command ∧ w.clock ≤ e.time ∧ e.time ≤ w'.clock

/-- The file has this content from now on. -/
def Writes (w : Shelf) (p : PyStr) (octets : Bytes) (w' : Shelf) : Prop :=
  ∃ time, w.clock ≤ time ∧ w' = { w with
    files := Function.update w.files (.at p) (some ⟨time, octets, none⟩), clock := time }

/-- The conversion of a file that is moved to a path. -/
def arrival (e : Entry) : FilePath → List (Nat × PyStr)
  | .at p => (e.origin.map fun o => (o.conversion, p)).toList
  | .temp _ _ => []

/-- The file at its new path. -/
def move (w : Shelf) (source target : FilePath) (e : Entry) : Shelf :=
  { w with
    files := Function.update (Function.update w.files source none) target (some e)
    placed := w.placed ++ arrival e target }

/-- The files where a directory has just been made. -/
def emptied (w : Shelf) (dir : Nat) : FilePath → Option Entry
  | .temp d name => if d = dir then none else w.files (.temp d name)
  | .at p => w.files (.at p)

def Step (w : Shelf) : (c : HostCall) → Except PyErr c.Answer → Shelf → Prop
  | .exists p, r, w' => w' = w ∧ ∀ present, r = .ok present → present = (w.files p).isSome
  | .getmtime p, r, w' =>
    w' = w ∧ ∀ time, r = .ok time → ∃ e, w.files p = some e ∧ time = e.time
  | .getsize p, r, w' =>
    w' = w ∧ ∀ size, r = .ok size → ∃ e, w.files p = some e ∧ size = e.octets.length
  | .onnxIoMeta p, r, w' => w' = w ∧ ∀ io, r = .ok io → (w.files (.at p)).isSome = true
  | .openWb p, .ok _, w' => w.Writes p [] w'
  | .write p data, .ok _, w' => w.Writes p (w.octets p ++ data) w'
  | .write p data, .error _, w' => ∃ front, front <+: data ∧ w.Writes p (w.octets p ++ front) w'
  | .closeFile p, _, w' => w.Writes p (w.octets p) w'
  | .replace source target, .ok _, w' =>
    ∃ e, w.files source = some e ∧ w' = w.move source target e
  | .mkdtemp _, .ok dir, w' =>
    w' = { w with files := w.emptied dir, conversions := w.conversions + 1 }
  | .rmtree _, _, w' =>
    w' = { w with files := w'.files } ∧ ∀ p, w'.files (.at p) = w.files (.at p)
  | .run command, r, w' => w.Converts command (∃ result, r = .ok result ∧ result.returncode = 0) w'
  | .ncnnLoadParam net p, _, w' =>
    w' = { w with params := Function.update w.params net (w.origin (.at p)) }
  | .ncnnLoadModel net p, _, w' =>
    w' = { w with weights := Function.update w.weights net (w.origin (.at p)) }
  | .mnnCreate p _ _ _, .ok (some h), w' =>
    w' = { w with sessions := Function.update w.sessions h (w.origin (.at p)) }
  | _, _, w' => w' = w

end Shelf

def shelf : Env Host Shelf := ⟨Shelf.Step⟩

/-! ## Calls that change nothing -/

section Rules

variable {σ α : Type} {s : σ} {w w' : Shelf} {C : Shelf → Prop}

theorem shelf_idle {c : HostCall} (idle : Idle c) {r : Except PyErr c.Answer}
    (step : shelf.step w c r w') : w' = w := by
  cases c with
  | «exists» p => exact step.1
  | getmtime p => exact step.1
  | getsize p => exact step.1
  | onnxIoMeta p => exact step.1
  | log line => exact step
  | makedirs | openWb | write | closeFile | replace | mkdtemp | rmtree | run | ncnnLoadParam
  | ncnnLoadModel | mnnCreate | sleep => exact idle.elim
  | _ => exact step

/-- A part that only asks, where its answers do not matter. -/
theorem wpc_only {p : HostM σ α} (only : Py.Only Idle p) {Q : Except PyErr α → σ → Shelf → Prop}
    (here : C w) (post : ∀ r, Q r s w) : p.wpc shelf C Q s w := by
  have still : Py.Within shelf Py.Still p := only.within fun c idle s w r w' step => by
    rw [shelf_idle idle step]
    rfl
  refine Py.wpc_mono (fun w' kept => ?_) (fun r s' w' same => ?_) (still s w)
  · obtain ⟨s', same⟩ := kept
    cases same
    exact here
  · cases same
    exact post r

/-- A single call that changes nothing. -/
theorem wpc_idle {c : HostCall} (idle : Idle c) {Q : Except PyErr c.Answer → σ → Shelf → Prop}
    (here : C w) (post : ∀ r, shelf.step w c r w → Q r s w) :
    (ask c : HostM σ c.Answer).wpc shelf C Q s w := by
  intro r w' step
  obtain rfl := shelf_idle idle step
  exact ⟨here, post r step⟩

/-- The end of a handler changes nothing. -/
theorem wpc_handled_shelf {Q : Except PyErr Unit → σ → Shelf → Prop} (here : C w)
    (post : Q (.ok ()) s w) : (dropException : HostM σ Unit).wpc shelf C Q s w := by
  rw [wpc_dropException]
  intro r w' step
  have idle : Idle .dropTraceback := trivial
  obtain rfl := shelf_idle idle step
  exact ⟨here, post⟩

end Rules

/-- The files are the same, whatever has been loaded. -/
def Filed (w w' : Shelf) : Prop :=
  w' = { w with params := w'.params, weights := w'.weights, sessions := w'.sessions }

theorem shelf_filing {w w' : Shelf} {c : HostCall} (filing : Filing c) {r : Except PyErr c.Answer}
    (step : shelf.step w c r w') : Filed w w' := by
  have of_idle : Idle c → Filed w w' := by
    intro idle
    rw [shelf_idle idle step]
    rfl
  cases c with
  | ncnnLoadParam net p =>
      obtain rfl := step
      rfl
  | ncnnLoadModel net p =>
      obtain rfl := step
      rfl
  | mnnCreate p forwardType precision threads =>
      rcases r with e | - | h
      · obtain rfl := step
        rfl
      · obtain rfl := step
        rfl
      · obtain rfl := step
        rfl
  | _ => exact of_idle filing

/-- The relation of a method that may load files and leaves its object alone. -/
def Loading {σ : Type} (x y : σ × Shelf) : Prop := y.1 = x.1 ∧ Filed x.2 y.2

instance {σ : Type} : IsPreorder (σ × Shelf) (Loading (σ := σ)) where
  refl _ := ⟨rfl, rfl⟩
  trans x y z first next := by
    refine ⟨next.1.trans first.1, ?_⟩
    obtain ⟨-, first⟩ := first
    obtain ⟨-, next⟩ := next
    unfold Filed at first next ⊢
    rw [next, first]

theorem loading_of_only {σ α : Type} {q : HostM σ α} (only : Py.Only Filing q) :
    Py.Within shelf Loading q :=
  only.within fun _ filing _ _ _ _ step => ⟨rfl, shelf_filing filing step⟩

/-- What is written is there, and no older than anything else. -/
theorem Shelf.Writes.spec {w w' : Shelf} {p : PyStr} {octets : Bytes} (writes : w.Writes p octets w') :
    ∃ e, w'.files (.at p) = some e ∧ e.octets = octets ∧ w.clock ≤ e.time ∧ e.time ≤ w'.clock ∧
      (∀ q, q ≠ .at p → w'.files q = w.files q) ∧
        w' = { w with files := w'.files, clock := w'.clock } := by
  obtain ⟨time, later, rfl⟩ := writes
  refine ⟨⟨time, octets, none⟩, ?_, rfl, later, le_rfl, fun q other => ?_, rfl⟩
  · simp only [Function.update_self]
  · simp only [Function.update_of_ne other]

/-! ## A conversion for ncnn -/

/-- The origin of what the next conversion writes. -/
def Shelf.next (w : Shelf) (onnxPath : PyStr) : Origin :=
  ⟨w.conversions + 1, (w.files (.at onnxPath)).map Entry.octets⟩

/-- Only these two files may have changed. -/
structure Beside (paramPath binPath : PyStr) (w w' : Shelf) : Prop where
  files : ∀ p, p ≠ paramPath → p ≠ binPath → w'.files (.at p) = w.files (.at p)
  clock : w.clock ≤ w'.clock
  params : w'.params = w.params
  weights : w'.weights = w.weights
  sessions : w'.sessions = w.sessions

/-- Neither file has been moved. -/
structure Begun (paramPath binPath : PyStr) (w w' : Shelf) : Prop extends
    Beside paramPath binPath w w' where
  param : w'.files (.at paramPath) = w.files (.at paramPath)
  bin : w'.files (.at binPath) = w.files (.at binPath)
  placed : w'.placed = w.placed
  conversions : w.conversions ≤ w'.conversions

/-- The first file has been moved. -/
structure Halved (onnxPath paramPath binPath : PyStr) (w w' : Shelf) : Prop extends
    Beside paramPath binPath w w' where
  param : w'.origin (.at paramPath) = some (w.next onnxPath)
  bin : w'.files (.at binPath) = w.files (.at binPath)
  placed : w'.placed = w.placed ++ [(w.conversions + 1, paramPath)]
  conversions : w'.conversions = w.conversions + 1

/-- Both files have been moved. -/
structure Done (onnxPath paramPath binPath : PyStr) (w w' : Shelf) : Prop extends
    Beside paramPath binPath w w' where
  param : w'.origin (.at paramPath) = some (w.next onnxPath)
  bin : w'.origin (.at binPath) = some (w.next onnxPath)
  placed : w'.placed = w.placed ++ [(w.conversions + 1, paramPath), (w.conversions + 1, binPath)]
  conversions : w'.conversions = w.conversions + 1

/-- How far a conversion has come. -/
inductive Stage (onnxPath paramPath binPath : PyStr) (w w' : Shelf) : Prop
  | begun (at' : Begun paramPath binPath w w')
  | halved (at' : Halved onnxPath paramPath binPath w w')
  | done (at' : Done onnxPath paramPath binPath w w')

/-- At work in the temporary directory: all that is there comes from this conversion. -/
structure AtWork (onnxPath paramPath binPath : PyStr) (tmpdir : Nat) (w w' : Shelf) : Prop extends
    Begun paramPath binPath w w' where
  fresh : w'.conversions = w.conversions + 1
  made : ∀ name e, w'.files (.temp tmpdir name) = some e → e.origin = some (w.next onnxPath)

section Ncnn

variable {onnxPath paramPath binPath : PyStr} {tmpdir : Nat} {w w₁ w₂ : Shelf}

theorem Beside.refl : Beside paramPath binPath w w := ⟨fun _ _ _ => rfl, le_rfl, rfl, rfl, rfl⟩

theorem Begun.refl : Begun paramPath binPath w w := ⟨.refl, rfl, rfl, rfl, le_rfl⟩

/-- A converter that writes into the temporary directory only. -/
theorem AtWork.converts (work : AtWork onnxPath paramPath binPath tmpdir w w₁) {command : Command}
    {success : Prop} (converts : w₁.Converts command success w₂)
    (inside : ∀ p ∈ command.outputs, ∃ name, p = .temp tmpdir name)
    (source : w₁.source command = some (w.next onnxPath)) :
    AtWork onnxPath paramPath binPath tmpdir w w₂ := by
  have named : ∀ p, w₂.files (.at p) = w₁.files (.at p) := by
    intro p
    refine converts.frame _ fun output => ?_
    obtain ⟨name, same⟩ := inside _ output
    cases same
  have rest := converts.rest
  refine ⟨⟨⟨fun p param bin => ?_, ?_, ?_, ?_, ?_⟩, ?_, ?_, ?_, ?_⟩, ?_, fun name e held => ?_⟩
  · exact (named p).trans (work.files p param bin)
  · exact work.clock.trans converts.clock
  · rw [rest]
    exact work.params
  · rw [rest]
    exact work.weights
  · rw [rest]
    exact work.sessions
  · exact (named _).trans work.param
  · exact (named _).trans work.bin
  · rw [rest]
    exact work.placed
  · rw [rest]
    exact work.conversions
  · rw [rest]
    exact work.fresh
  · by_cases output : .temp tmpdir name ∈ command.outputs
    · rcases converts.output _ output with left | gone | written
      · exact work.made name e (left.1.symm.trans held)
      · rw [gone] at held
        cases held
      · obtain ⟨e', there, origin, -⟩ := written
        rw [held] at there
        cases there
        exact origin.trans source
    · exact work.made name e ((converts.frame _ output).symm.trans held)

theorem AtWork.start : AtWork onnxPath paramPath binPath tmpdir w
    { w with files := w.emptied tmpdir, conversions := w.conversions + 1 } := by
  refine ⟨⟨⟨fun _ _ _ => rfl, le_rfl, rfl, rfl, rfl⟩, rfl, rfl, rfl, Nat.le_succ _⟩, rfl, ?_⟩
  intro name e held
  have empty : w.emptied tmpdir (.temp tmpdir name) = none := if_pos rfl
  cases empty.symm.trans held

theorem wpc_bothExist {C : Shelf → Prop} (first second : FilePath) (here : C w) :
    (bothExist first second).wpc shelf C (fun r _ w' => w' = w ∧
      (r = .ok true → (w.files first).isSome = true ∧ (w.files second).isSome = true)) () w := by
  rw [bothExist, Py.wpc_bind]
  refine wpc_idle (by exact trivial) here fun r step => ?_
  cases r with
  | error e => exact ⟨rfl, nofun⟩
  | ok present =>
      have first' := step.2 present rfl
      rw [Py.either_ok, andAlso, Py.wpc_ite]
      split
      · next there =>
          refine wpc_idle (by exact trivial) here fun r step => ⟨rfl, fun both => ?_⟩
          exact ⟨first'.symm.trans there, (step.2 true both).symm⟩
      · exact ⟨rfl, nofun⟩

/-- The two files that are to be moved are in the temporary directory. -/
theorem wpc_optimize (work : AtWork onnxPath paramPath binPath tmpdir w w₁)
    (raw : (w₁.files (rawParam tmpdir)).isSome = true ∧ (w₁.files (rawBin tmpdir)).isSome = true)
    (ncnnoptimize : Option PyStr) :
    (optimize ncnnoptimize tmpdir).wpc shelf (Stage onnxPath paramPath binPath w)
      (fun r _ w' => AtWork onnxPath paramPath binPath tmpdir w w' ∧
        ∀ final, r = .ok final → ∃ first second, final = (.temp tmpdir first, .temp tmpdir second))
      () w₁ := by
  unfold optimize
  cases ncnnoptimize with
  | none =>
      refine ⟨work, fun final same => ?_⟩
      cases same
      exact ⟨_, _, rfl⟩
  | some tool =>
      obtain ⟨param, paramHeld⟩ := Option.isSome_iff_exists.mp raw.1
      obtain ⟨bin, binHeld⟩ := Option.isSome_iff_exists.mp raw.2
      have paramOrigin : w₁.origin (rawParam tmpdir) = some (w.next onnxPath) := by
        rw [Shelf.origin, paramHeld]
        exact work.made _ param paramHeld
      have binOrigin : w₁.origin (rawBin tmpdir) = some (w.next onnxPath) := by
        rw [Shelf.origin, binHeld]
        exact work.made _ bin binHeld
      dsimp only
      rw [Py.wpc_bind, Py.wpc_ask]
      intro r w₂ converts
      have work : AtWork onnxPath paramPath binPath tmpdir w w₂ := by
        refine work.converts converts (fun p output => ?_) ?_
        · rcases List.mem_pair.mp output with rfl | rfl
          · exact ⟨_, rfl⟩
          · exact ⟨_, rfl⟩
        · rw [Shelf.source, paramOrigin, binOrigin, if_pos rfl]
      refine ⟨.begun work.toBegun, ?_⟩
      cases r with
      | error e => exact ⟨work, nofun⟩
      | ok result =>
          rw [Py.either_ok, Py.wpc_bind]
          refine wpc_only (within_andAlso _ (only_idle (only_bothExist _ _))) (.begun work.toBegun) fun r => ?_
          cases r with
          | error e => exact ⟨work, nofun⟩
          | ok optimized =>
              refine ⟨work, fun final same => ?_⟩
              cases same
              cases optimized with
              | true => exact ⟨_, _, rfl⟩
              | false => exact ⟨_, _, rfl⟩

theorem Shelf.files_move_self {source target : FilePath} {e : Entry} :
    (w.move source target e).files target = some e := by
  simp only [move, Function.update_self]

theorem Shelf.files_move_source {source target : FilePath} {e : Entry} (differ : source ≠ target) :
    (w.move source target e).files source = none := by
  simp only [move, Function.update_of_ne differ, Function.update_self]

theorem Shelf.files_move_of_ne {source target p : FilePath} {e : Entry} (left : p ≠ source)
    (right : p ≠ target) : (w.move source target e).files p = w.files p := by
  simp only [move, Function.update_of_ne right, Function.update_of_ne left]

theorem AtWork.halved (work : AtWork onnxPath paramPath binPath tmpdir w w₁)
    (differ : paramPath ≠ binPath) {name : PyStr} {e : Entry}
    (held : w₁.files (.temp tmpdir name) = some e) :
    Halved onnxPath paramPath binPath w
        (w₁.move (.temp tmpdir name) (.at paramPath) e) ∧
      ∀ name' e', (w₁.move (.temp tmpdir name) (.at paramPath) e).files (.temp tmpdir name') =
        some e' → e'.origin = some (w.next onnxPath) := by
  have origin : e.origin = some (w.next onnxPath) := work.made name e held
  have elsewhere : ∀ p, p ≠ paramPath →
      (w₁.move (.temp tmpdir name) (.at paramPath) e).files (.at p) = w₁.files (.at p) := by
    intro p other
    exact Shelf.files_move_of_ne nofun fun same => other (FilePath.at.inj same)
  refine ⟨⟨⟨fun p param bin => ?_, work.clock, work.params, work.weights, work.sessions⟩, ?_, ?_,
    ?_, work.fresh⟩, fun name' e' there => ?_⟩
  · exact (elsewhere p param).trans (work.files p param bin)
  · rw [Shelf.origin, Shelf.files_move_self]
    exact origin
  · exact (elsewhere _ differ.symm).trans work.bin
  · change w₁.placed ++ Shelf.arrival e (.at paramPath) = _
    rw [work.placed, Shelf.arrival, origin]
    rfl
  · by_cases same : name' = name
    · subst same
      have gone : (w₁.move (.temp tmpdir name') (.at paramPath) e).files (.temp tmpdir name') =
          none := Shelf.files_move_source nofun
      cases gone.symm.trans there
    · have kept : (w₁.move (.temp tmpdir name) (.at paramPath) e).files (.temp tmpdir name') =
          w₁.files (.temp tmpdir name') :=
        Shelf.files_move_of_ne (fun other => same (FilePath.temp.inj other).2) nofun
      exact work.made name' e' (kept.symm.trans there)

theorem Halved.done (half : Halved onnxPath paramPath binPath w w₁) (differ : paramPath ≠ binPath)
    {name : PyStr} {e : Entry} (origin : e.origin = some (w.next onnxPath)) :
    Done onnxPath paramPath binPath w (w₁.move (.temp tmpdir name) (.at binPath) e) := by
  have elsewhere : ∀ p, p ≠ binPath →
      (w₁.move (.temp tmpdir name) (.at binPath) e).files (.at p) = w₁.files (.at p) := by
    intro p other
    exact Shelf.files_move_of_ne nofun fun same => other (FilePath.at.inj same)
  refine ⟨⟨fun p param bin => ?_, half.clock, half.params, half.weights, half.sessions⟩, ?_, ?_, ?_,
    half.conversions⟩
  · exact (elsewhere p bin).trans (half.files p param bin)
  · have same := half.param
    rw [Shelf.origin, ← elsewhere paramPath differ] at same
    exact same
  · rw [Shelf.origin, Shelf.files_move_self]
    exact origin
  · change w₁.placed ++ Shelf.arrival e (.at binPath) = _
    rw [half.placed, Shelf.arrival, origin, List.append_assoc]
    rfl

/-- What a conversion leaves when it ends: both files if nothing was raised. -/
def Outcome (onnxPath paramPath binPath : PyStr) (w : Shelf) (r : Except PyErr Unit) (w' : Shelf) :
    Prop :=
  Stage onnxPath paramPath binPath w w' ∧ (r = .ok () → Done onnxPath paramPath binPath w w')

/-- The two moves at the end. -/
theorem replace_stage (differ : paramPath ≠ binPath)
    (work : AtWork onnxPath paramPath binPath tmpdir w w₁) (first second : PyStr) :
    (do
      ask (.replace (.temp tmpdir first) (.at paramPath))
      ask (.replace (.temp tmpdir second) (.at binPath)) : HostM Unit Unit).wpc shelf
      (Stage onnxPath paramPath binPath w)
      (fun r _ w' => Outcome onnxPath paramPath binPath w r w') () w₁ := by
  rw [Py.wpc_bind, Py.wpc_ask]
  intro r w₂ step
  cases r with
  | error e =>
      obtain rfl : w₂ = w₁ := step
      exact ⟨.begun work.toBegun, .begun work.toBegun, nofun⟩
  | ok _ =>
      obtain ⟨e, held, rfl⟩ := step
      obtain ⟨half, made⟩ := work.halved differ held
      refine ⟨.halved half, ?_⟩
      rw [Py.either_ok, Py.wpc_ask]
      intro r w₃ step
      cases r with
      | error e =>
          obtain rfl := step
          exact ⟨.halved half, .halved half, nofun⟩
      | ok _ =>
          obtain ⟨e', held, rfl⟩ := step
          have done : Done onnxPath paramPath binPath w (Shelf.move _ (.temp tmpdir second) _ e') :=
            half.done differ (made second e' held)
          exact ⟨.done done, .done done, fun _ => done⟩

theorem convertInside_stage (other : onnxPath ≠ paramPath ∧ onnxPath ≠ binPath)
    (differ : paramPath ≠ binPath) (work : AtWork onnxPath paramPath binPath tmpdir w w₁)
    (onnx2ncnn : PyStr) (ncnnoptimize : Option PyStr) :
    (convertInside onnx2ncnn ncnnoptimize tmpdir onnxPath paramPath binPath).wpc shelf
      (Stage onnxPath paramPath binPath w)
      (fun r _ w' => Outcome onnxPath paramPath binPath w r w') () w₁ := by
  rw [convertInside, Py.wpc_bind, Py.wpc_ask]
  intro r w₂ converts
  have work : AtWork onnxPath paramPath binPath tmpdir w w₂ := by
    refine work.converts converts (fun p output => ?_) ?_
    · rcases List.mem_pair.mp output with rfl | rfl
      · exact ⟨_, rfl⟩
      · exact ⟨_, rfl⟩
    · rw [Shelf.source, work.fresh, work.files _ other.1 other.2]
      rfl
  refine ⟨.begun work.toBegun, ?_⟩
  cases r with
  | error e => exact ⟨.begun work.toBegun, nofun⟩
  | ok result =>
      rw [Py.either_ok, Py.wpc_bind, andAlso, Py.wpc_ite]
      split
      · refine Py.wpc_mono (fun _ crash => crash) (fun r _ w₃ present => ?_)
          (wpc_bothExist _ _ (.begun work.toBegun))
        obtain ⟨rfl, raw⟩ := present
        cases r with
        | error e => exact ⟨.begun work.toBegun, nofun⟩
        | ok converted =>
            rw [Py.either_ok, Py.wpc_ite]
            split
            · exact ⟨.begun work.toBegun, nofun⟩
            · next both =>
                rw [Py.wpc_ite]
                split
                · exact ⟨.begun work.toBegun, nofun⟩
                · rw [Py.wpc_bind]
                  refine Py.wpc_mono (fun _ crash => crash) (fun r _ w₄ moved => ?_)
                    (wpc_optimize work (raw (congrArg Except.ok (not_not.mp both))) ncnnoptimize)
                  cases r with
                  | error e => exact ⟨.begun moved.1.toBegun, nofun⟩
                  | ok final =>
                      obtain ⟨first, second, rfl⟩ := moved.2 final rfl
                      exact replace_stage differ moved.1 first second
      · exact ⟨.begun work.toBegun, nofun⟩

section Removed

variable {files : FilePath → Option Entry}

theorem Beside.removed (beside : Beside paramPath binPath w w₁)
    (named : ∀ p, files (.at p) = w₁.files (.at p)) :
    Beside paramPath binPath w { w₁ with files } :=
  ⟨fun p param bin => (named p).trans (beside.files p param bin), beside.clock, beside.params,
    beside.weights, beside.sessions⟩

theorem origin_removed (named : ∀ p, files (.at p) = w₁.files (.at p)) (p : PyStr) :
    { w₁ with files }.origin (.at p) = w₁.origin (.at p) :=
  congrArg (fun e : Option Entry => e.bind Entry.origin) (named p)

theorem Done.removed (done : Done onnxPath paramPath binPath w w₁)
    (named : ∀ p, files (.at p) = w₁.files (.at p)) :
    Done onnxPath paramPath binPath w { w₁ with files } :=
  ⟨done.toBeside.removed named, (origin_removed named _).trans done.param,
    (origin_removed named _).trans done.bin, done.placed, done.conversions⟩

/-- Removing the temporary directory changes nothing else. -/
theorem Stage.removed (stage : Stage onnxPath paramPath binPath w w₁)
    (named : ∀ p, files (.at p) = w₁.files (.at p)) :
    Stage onnxPath paramPath binPath w { w₁ with files } := by
  cases stage with
  | begun begun =>
      exact .begun ⟨begun.toBeside.removed named, (named _).trans begun.param,
        (named _).trans begun.bin, begun.placed, begun.conversions⟩
  | halved half =>
      exact .halved ⟨half.toBeside.removed named, (origin_removed named _).trans half.param,
        (named _).trans half.bin, half.placed, half.conversions⟩
  | done done => exact .done (done.removed named)

end Removed

/-- A conversion, wherever it ends. -/
theorem convertOnnxToNcnn_stage (other : onnxPath ≠ paramPath ∧ onnxPath ≠ binPath)
    (differ : paramPath ≠ binPath) :
    (convertOnnxToNcnn onnxPath paramPath binPath).wpc shelf (Stage onnxPath paramPath binPath w)
      (fun r _ w' => Outcome onnxPath paramPath binPath w r w') () w := by
  have begun : Stage onnxPath paramPath binPath w w := .begun .refl
  rw [convertOnnxToNcnn, Py.wpc_bind]
  refine wpc_only (only_idle (only_findTool _ _)) begun fun r => ?_
  cases r with
  | error e => exact ⟨begun, nofun⟩
  | ok onnx2ncnn =>
      rw [Py.either_ok, Py.wpc_bind, wpc_require]
      refine ⟨fun tool _ => ?_, fun _ => ⟨begun, nofun⟩⟩
      rw [Py.either_ok, Py.wpc_bind]
      refine wpc_only (only_idle (only_findTool _ _)) begun fun r => ?_
      cases r with
      | error e => exact ⟨begun, nofun⟩
      | ok ncnnoptimize =>
          rw [Py.either_ok, Py.wpc_bind, Py.wpc_ask]
          intro r w₁ step
          cases r with
          | error e =>
              obtain rfl := step
              exact ⟨begun, begun, nofun⟩
          | ok tmpdir =>
              obtain rfl := step
              have work : AtWork onnxPath paramPath binPath tmpdir w _ := .start
              refine ⟨.begun work.toBegun, ?_⟩
              rw [Py.either_ok, Py.wpc_andFinally]
              refine Py.wpc_mono (fun _ crash => crash) (fun r _ w₂ outcome => ?_)
                (convertInside_stage other differ work tool ncnnoptimize)
              rw [Py.wpc_ask]
              intro r' w₃ step
              obtain ⟨rest, named⟩ := step
              obtain ⟨stage, done⟩ := outcome
              rw [rest]
              refine ⟨stage.removed named, ?_⟩
              cases r' with
              | error e => exact ⟨stage.removed named, nofun⟩
              | ok _ => exact ⟨stage.removed named, fun ok => (done ok).removed named⟩

end Ncnn

theorem NcnnBackend.cachePaths_ne (p : PyStr) : (cachePaths p).1 ≠ (cachePaths p).2 := by
  intro same
  exact absurd (List.append_cancel_left same) (by decide)

/-! ## Whether a cache is fresh -/

/-- The file is there and no older than the model. -/
def NoOlder (p cache : PyStr) (w : Shelf) (e : Entry) : Prop :=
  w.files (.at cache) = some e ∧ ∃ m, w.files (.at p) = some m ∧ m.time ≤ e.time

section Fresh

variable {p : PyStr} {w : Shelf} {C : Shelf → Prop}

/-- Two files compared by their times. -/
theorem wpc_newer {cache : PyStr} {α : Type} {no : α} {rest : HostM Unit α}
    {Q : Except PyErr α → Unit → Shelf → Prop} (here : C w)
    (raised : ∀ e, Q (.error e) () w) (older : Q (.ok no) () w)
    (newer : ∀ e, NoOlder p cache w e → rest.wpc shelf C Q () w) :
    (do
      let cacheTime ← ask (.getmtime (.at cache))
      let modelTime ← ask (.getmtime (.at p))
      if cacheTime < modelTime then pure no else rest).wpc shelf C Q () w := by
  rw [Py.wpc_bind]
  refine wpc_idle (by exact trivial) here fun r step => ?_
  cases r with
  | error e => exact raised e
  | ok cacheTime =>
      obtain ⟨e, held, rfl⟩ := step.2 cacheTime rfl
      rw [Py.either_ok, Py.wpc_bind]
      refine wpc_idle (by exact trivial) here fun r step => ?_
      cases r with
      | error e => exact raised e
      | ok modelTime =>
          obtain ⟨m, model, rfl⟩ := step.2 modelTime rfl
          rw [Py.either_ok, Py.wpc_ite]
          split
          · exact older
          · next late => exact newer e ⟨held, m, model, not_lt.mp late⟩

/-- A file of some size is not empty. -/
theorem wpc_filled {cache : PyStr} {Q : Except PyErr Bool → Unit → Shelf → Prop} (here : C w)
    {e : Entry} (held : w.files (.at cache) = some e) (raised : ∀ err, Q (.error err) () w)
    (judged : ∀ filled, (filled = true → e.octets ≠ []) → Q (.ok filled) () w) :
    (do
      let size ← ask (.getsize (.at cache))
      pure (decide (0 < size)) : HostM Unit Bool).wpc shelf C Q () w := by
  rw [Py.wpc_bind]
  refine wpc_idle (by exact trivial) here fun r step => ?_
  cases r with
  | error e => exact raised e
  | ok size =>
      obtain ⟨e', held', rfl⟩ := step.2 size rfl
      obtain rfl : e = e' := Option.some.inj (held.symm.trans held')
      exact judged _ fun filled => List.length_pos_iff.mp (of_decide_eq_true filled)

/-- The cache that is judged fresh. -/
theorem NcnnBackend.wpc_isFresh (here : C w) : (isFresh p).wpc shelf C (fun r _ w' => w' = w ∧
    (r = .ok true → ∃ param bin, NoOlder p (cachePaths p).1 w param ∧
      NoOlder p (cachePaths p).2 w bin ∧ bin.octets ≠ [])) () w := by
  refine wpc_newer here (fun _ => ⟨rfl, nofun⟩) ⟨rfl, nofun⟩ fun param first => ?_
  refine wpc_newer here (fun _ => ⟨rfl, nofun⟩) ⟨rfl, nofun⟩ fun bin second => ?_
  refine wpc_filled here second.1 (fun _ => ⟨rfl, nofun⟩) fun filled content => ⟨rfl, fun fresh => ?_⟩
  exact ⟨param, bin, first, second, content (Except.ok.inj fresh)⟩

theorem MnnBackend.wpc_isFresh (here : C w) : (isFresh p).wpc shelf C (fun r _ w' => w' = w ∧
    (r = .ok true → ∃ mnn, NoOlder p (cachePath p) w mnn ∧ mnn.octets ≠ [])) () w := by
  refine wpc_newer here (fun _ => ⟨rfl, nofun⟩) ⟨rfl, nofun⟩ fun mnn first => ?_
  refine wpc_filled here first.1 (fun _ => ⟨rfl, nofun⟩) fun filled content => ⟨rfl, fun fresh => ?_⟩
  exact ⟨mnn, first, content (Except.ok.inj fresh)⟩

end Fresh

/-! ## A host on which everything works -/

namespace Shelf

def missing : PyErr := ⟨.osError, py "No such file or directory"⟩

/-- All outputs are written at the next tick. -/
def convert (w : Shelf) (command : Command) : Shelf :=
  { w with
    files := fun p => if p ∈ command.outputs then some ⟨w.clock + 1, [0], w.source command⟩
      else w.files p
    clock := w.clock + 1 }

/-- The file is written at the present tick. -/
def put (w : Shelf) (p : PyStr) (octets : Bytes) : Shelf :=
  { w with files := Function.update w.files (.at p) (some ⟨w.clock, octets, none⟩) }

def scribe (w : Shelf) : (c : HostCall) → Except PyErr c.Answer × Shelf
  | .exists p => (.ok (w.files p).isSome, w)
  | .getmtime p => ((w.files p).elim (.error missing) fun e => .ok e.time, w)
  | .getsize p => ((w.files p).elim (.error missing) fun e => .ok e.octets.length, w)
  | .makedirs _ => (.ok (), w)
  | .openWb p => (.ok (), w.put p [])
  | .write p data => (.ok (), w.put p (w.octets p ++ data))
  | .closeFile p => (.ok (), w.put p (w.octets p))
  | .getenv _ => (.ok none, w)
  | .which _ => (.ok (some (py "converter")), w)
  | .mkdtemp _ =>
    (.ok w.conversions,
      { w with files := w.emptied w.conversions, conversions := w.conversions + 1 })
  | .rmtree dir => (.ok (), { w with files := w.emptied dir })
  | .run command => (.ok ⟨0, false⟩, w.convert command)
  | .replace source target =>
    match w.files source with
    | some e => (.ok (), w.move source target e)
    | none => (.error missing, w)
  | .onnxIoMeta p => ((w.files (.at p)).elim (.error missing) fun _ => .ok ([], []), w)
  | .ncnnLoadParam net p =>
    (.ok 0, { w with params := Function.update w.params net (w.origin (.at p)) })
  | .ncnnLoadModel net p =>
    (.ok 0, { w with weights := Function.update w.weights net (w.origin (.at p)) })
  | .mnnCreate p _ _ _ =>
    (.ok (some 0), { w with sessions := Function.update w.sessions 0 (w.origin (.at p)) })
  | .mnnNumInputs _ | .mnnNumOutputs _ => (.ok 0, w)
  | .mnnInfer _ _ _ => (.ok (0, .untouched), w)
  | .log _ => (.ok (), w)
  | _ => (.error missing, w)

theorem converts_convert (w : Shelf) (command : Command) {success : Prop} :
    w.Converts command success (w.convert command) where
  rest := rfl
  clock := Nat.le_succ w.clock
  frame _ apart := if_neg apart
  output _ output := .inr (.inr ⟨_, if_pos output, rfl, Nat.le_succ _, le_rfl⟩)

theorem step_scribe (w : Shelf) (c : HostCall) : shelf.step w c (w.scribe c).1 (w.scribe c).2 := by
  cases c with
  | «exists» p => exact ⟨rfl, fun present same => (Except.ok.inj same).symm⟩
  | getmtime p =>
      refine ⟨rfl, fun time same => ?_⟩
      cases held : w.files p with
      | none => simp [scribe, held] at same
      | some e => exact ⟨e, rfl, by simpa [scribe, held] using same.symm⟩
  | getsize p =>
      refine ⟨rfl, fun size same => ?_⟩
      cases held : w.files p with
      | none => simp [scribe, held] at same
      | some e => exact ⟨e, rfl, by simpa [scribe, held] using same.symm⟩
  | onnxIoMeta p =>
      refine ⟨rfl, fun io same => ?_⟩
      cases held : w.files (.at p) with
      | none => simp [scribe, held] at same
      | some e => rfl
  | openWb p => exact ⟨w.clock, le_rfl, rfl⟩
  | write p data => exact ⟨w.clock, le_rfl, rfl⟩
  | closeFile p => exact ⟨w.clock, le_rfl, rfl⟩
  | rmtree dir => exact ⟨rfl, fun _ => rfl⟩
  | run command => exact w.converts_convert command
  | replace source target =>
      cases held : w.files source with
      | none =>
          have answer : w.scribe (.replace source target) = (.error missing, w) := by
            simp only [scribe, held]
          rw [answer]
          rfl
      | some e =>
          have answer : w.scribe (.replace source target) = (.ok (), w.move source target e) := by
            simp only [scribe, held]
          rw [answer]
          exact ⟨e, held, rfl⟩
  | _ => rfl

end Shelf

end Detector
