import FrigateAsahi.Lib.Shell
import FrigateAsahi.Lib.Text

/-!
# The ffmpeg wrapper

The shell script Frigate runs as `ffmpeg`. Pass 1 walks over the arguments and classifies the
command; pass 2, taken when the command is to be rewritten, rotates the positional parameters once
round and puts the replacements in; then the real binary is executed, under the host's loader when
that is there. Strings are octets and the patterns are those of the script. The line logged to
stderr is left out.
-/

namespace Wrapper

open Shell

abbrev Str : Type := Text.Bytes

/-- A word of the script. -/
def sh (s : String) : Str := s.toList.map fun c => UInt8.ofNat c.toNat

/-- What the script reads of its surroundings. -/
structure Surroundings : Type where
  getenv : Str → Option Str
  executable : Str → Bool
  directory : Str → Bool

/-- `${name:-default}` -/
def Surroundings.orDefault (env : Surroundings) (name default : Str) : Str :=
  match env.getenv name with
  | some value => if value = [] then default else value
  | none => default

def Surroundings.real (env : Surroundings) : Str :=
  env.orDefault (sh "AVD_VK_FFMPEG") (sh "/opt/ffmpeg-vk/bin/ffmpeg")

def Surroundings.loader (env : Surroundings) : Str :=
  let loader := env.orDefault (sh "AVD_VK_LOADER") (sh "/opt/ffmpeg-avd-vk/libexec/ffmpeg")
  if env.executable loader then loader else sh "/host-lib64-ld.so"

def Surroundings.libdir (env : Surroundings) : Str :=
  env.orDefault (sh "AVD_VK_LIBDIR") (sh "/host-lib64")

def Surroundings.mode (env : Surroundings) : Str :=
  env.orDefault (sh "AVD_VK_SCALE") (sh "2stage")

/-! ## The parts of a filter -/

/-- `fps=*,scale=*:*` -/
def scalerGlob : Pattern UInt8 :=
  lit (sh "fps=") ++ (.star :: (lit (sh ",scale=") ++ (.star :: (lit (sh ":") ++ [.star]))))

/-- `n=${a#fps=}; n=${n%%,*}` -/
def n (a : Str) : Str :=
  dropLongestSuffix (lit (sh ",") ++ [.star]) (dropShortestPrefix (lit (sh "fps=")) a)

/-- `wh=${a##*,scale=}` -/
def wh (a : Str) : Str := dropLongestPrefix (.star :: lit (sh ",scale=")) a

/-- `w=${wh%%:*}` -/
def w (a : Str) : Str := dropLongestSuffix (lit (sh ":") ++ [.star]) (wh a)

/-- `h=${wh#*:}` -/
def h (a : Str) : Str := dropShortestPrefix (.star :: lit (sh ":")) (wh a)

/-- `[0-9.]` -/
def digitOrDot (c : UInt8) : Bool := (0x30 ≤ c && c ≤ 0x39) || c == 0x2E

/-- `*[!0-9.]*` -/
def foreignGlob : Pattern UInt8 := [.star, .one fun c => !digitOrDot c, .star]

/-! ## Pass 1: classify the command -/

structure Classified : Type where
  hw : Bool
  rawvideo : Bool
  vfOk : Nat
  vfBad : Nat
  explicit : Bool
  prev : Str

def explicitOptions : List Str :=
  [sh "-hwaccel_output_format", sh "-init_hw_device", sh "-filter_hw_device",
    sh "-filter_complex", sh "-lavfi"]

/-- The arm of the value of a `-vf`. -/
def classifyFilter (c : Classified) (a : Str) : Classified :=
  if scalerGlob.matches a then
    let parts := n a ++ w a ++ h a
    if foreignGlob.matches parts || parts == [] then { c with vfBad := c.vfBad + 1 }
    else { c with vfOk := c.vfOk + 1 }
  else { c with vfBad := c.vfBad + 1 }

/-- `case "$prev" in` -/
def classifyValue (c : Classified) (a : Str) : Classified :=
  if c.prev = sh "-hwaccel" then (if a = sh "v4l2request" then { c with hw := true } else c)
  else if c.prev = sh "-f" then (if a = sh "rawvideo" then { c with rawvideo := true } else c)
  else if c.prev = sh "-vf" then classifyFilter c a
  else c

/-- The body of the loop. -/
def classifyArg (c : Classified) (a : Str) : Classified :=
  let c := classifyValue c a
  let c := if a ∈ explicitOptions then { c with explicit := true } else c
  { c with prev := a }

def classify (args : List Str) : Classified :=
  args.foldl classifyArg
    { hw := false, rawvideo := false, vfOk := 0, vfBad := 0, explicit := false, prev := [] }

def rewrite (env : Surroundings) (args : List Str) : Bool :=
  let c := classify args
  env.orDefault (sh "AVD_VK_REWRITE") (sh "1") != sh "0" && c.hw && c.rawvideo &&
    decide (1 ≤ c.vfOk) && c.vfBad == 0 && !c.explicit

/-! ## Pass 2: rebuild argv -/

def hwTokens : List Str :=
  [sh "-init_hw_device", sh "vulkan=vk", sh "-filter_hw_device", sh "vk",
    sh "-hwaccel_output_format", sh "drm_prime"]

/-- The filter put in place of a scaler. -/
def replacement (mode number width height : Str) : Str :=
  if mode = sh "single" then
    sh "fps=" ++ number ++ sh ",hwmap,scale_vulkan=" ++ width ++ sh ":" ++ height ++
      sh ",hwdownload,format=nv12,format=yuv420p"
  else
    sh "fps=" ++ number ++ sh ",hwmap,scale_vulkan=w=max(iw/2\\," ++ width ++
      sh "):h=max(ih/2\\," ++ height ++ sh "),scale_vulkan=" ++ width ++ sh ":" ++ height ++
      sh ",hwdownload,format=nv12,format=yuv420p"

/-- What one round of the loop appends to the positional parameters. -/
def emitted (mode prev a : Str) : List Str :=
  if prev = sh "-hwaccel" ∧ a = sh "v4l2request" then a :: hwTokens
  else if prev = sh "-vf" then [replacement mode (n a) (w a) (h a)]
  else [a]

/-- `while [ $i -lt $count ]`: the first argument is the rounds that are left, the last the
positional parameters. `$1` is unset when there are none, which ends the script. -/
def rotate (mode : Str) : Nat → Str → List Str → List Str
  | 0, _, params => params
  | _ + 1, _, [] => []
  | left + 1, prev, a :: rest => rotate mode left a (rest ++ emitted mode prev a)

/-- The positional parameters when `exec` is reached. -/
def rebuilt (env : Surroundings) (args : List Str) : List Str :=
  if rewrite env args then rotate env.mode args.length [] args else args

/-! ## exec -/

/-- What stands before the arguments of the real binary. -/
def launcher (env : Surroundings) : List Str :=
  if env.executable env.loader && env.directory env.libdir then
    [env.loader, sh "--library-path", env.libdir, env.real]
  else [env.real]

/-- The command the script becomes. -/
def exec (env : Surroundings) (args : List Str) : List Str := launcher env ++ rebuilt env args

/-! ## What pass 1 finds

`[x, y] <:+: args` says that `y` stands directly after `x`. -/

/-- A filter the script takes for a scaler. -/
def Accepted (a : Str) : Prop :=
  scalerGlob.matches a = true ∧ n a ++ w a ++ h a ≠ [] ∧
    ∀ c ∈ n a ++ w a ++ h a, digitOrDot c = true

theorem foreignGlob_iff {s : Str} :
    foreignGlob.matches s = true ↔ ∃ c ∈ s, digitOrDot c = false := by
  unfold foreignGlob
  rw [matches_star]
  constructor
  · rintro ⟨u, v, rfl, inner⟩
    obtain ⟨c, rest, rfl, foreign, -⟩ := matches_one.mp inner
    exact ⟨c, by simp, by simpa using foreign⟩
  · rintro ⟨c, inside, foreign⟩
    obtain ⟨u, v, rfl⟩ := List.append_of_mem inside
    exact ⟨u, c :: v, rfl, matches_one.mpr ⟨c, v, rfl, by simp [foreign], matches_star_nil⟩⟩

theorem classifyFilter_eq (c : Classified) (a : Str) [Decidable (Accepted a)] :
    classifyFilter c a =
      if Accepted a then { c with vfOk := c.vfOk + 1 } else { c with vfBad := c.vfBad + 1 } := by
  unfold classifyFilter
  by_cases shape : scalerGlob.matches a = true
  · rw [if_pos shape]
    have numeric : (foreignGlob.matches (n a ++ w a ++ h a) || (n a ++ w a ++ h a) == []) = true ↔
        ¬ Accepted a := by
      rw [Bool.or_eq_true, foreignGlob_iff, beq_iff_eq]
      unfold Accepted
      constructor
      · rintro (⟨c, inside, foreign⟩ | none) ⟨-, some, all⟩
        · rw [all c inside] at foreign
          cases foreign
        · exact some none
      · intro rejected
        by_contra kept
        rw [not_or] at kept
        refine rejected ⟨shape, kept.2, fun c inside => ?_⟩
        by_contra foreign
        exact kept.1 ⟨c, inside, by simpa using foreign⟩
    by_cases accepted : Accepted a
    · rw [if_pos accepted, if_neg (fun hit => numeric.mp hit accepted)]
    · rw [if_neg accepted, if_pos (numeric.mpr accepted)]
  · rw [if_neg shape, if_neg fun accepted => shape accepted.1]

@[simp] theorem classifyFilter_hw (c : Classified) (a : Str) : (classifyFilter c a).hw = c.hw := by
  unfold classifyFilter
  dsimp only
  split_ifs <;> rfl

@[simp] theorem classifyFilter_rawvideo (c : Classified) (a : Str) :
    (classifyFilter c a).rawvideo = c.rawvideo := by
  unfold classifyFilter
  dsimp only
  split_ifs <;> rfl

@[simp] theorem classifyFilter_explicit (c : Classified) (a : Str) :
    (classifyFilter c a).explicit = c.explicit := by
  unfold classifyFilter
  dsimp only
  split_ifs <;> rfl

@[simp] theorem classifyArg_prev (c : Classified) (a : Str) : (classifyArg c a).prev = a := rfl

theorem classifyArg_hw (c : Classified) (a : Str) :
    (classifyArg c a).hw = true ↔
      c.hw = true ∨ (c.prev = sh "-hwaccel" ∧ a = sh "v4l2request") := by
  unfold classifyArg classifyValue
  split_ifs <;> simp_all

theorem classifyArg_rawvideo (c : Classified) (a : Str) :
    (classifyArg c a).rawvideo = true ↔
      c.rawvideo = true ∨ (c.prev = sh "-f" ∧ a = sh "rawvideo") := by
  have apart : sh "-hwaccel" ≠ sh "-f" := by decide
  unfold classifyArg classifyValue
  split_ifs <;> simp_all

theorem classifyArg_explicit (c : Classified) (a : Str) :
    (classifyArg c a).explicit = true ↔ c.explicit = true ∨ a ∈ explicitOptions := by
  unfold classifyArg classifyValue
  split_ifs <;> simp_all

/-- Only the value of a `-vf` counts as a filter. -/
theorem classifyValue_filter (c : Classified) (a : Str) :
    ((classifyValue c a).vfOk, (classifyValue c a).vfBad) =
      if c.prev = sh "-vf" then ((classifyFilter c a).vfOk, (classifyFilter c a).vfBad)
      else (c.vfOk, c.vfBad) := by
  have hwaccel : sh "-hwaccel" ≠ sh "-vf" := by decide
  have format : sh "-f" ≠ sh "-vf" := by decide
  unfold classifyValue
  split_ifs <;> simp_all

theorem classifyArg_vfOk (c : Classified) (a : Str) :
    (classifyArg c a).vfOk ≠ 0 ↔ c.vfOk ≠ 0 ∨ (c.prev = sh "-vf" ∧ Accepted a) := by
  classical
  have counted := classifyValue_filter c a
  have same : (classifyArg c a).vfOk = (classifyValue c a).vfOk := by
    unfold classifyArg
    split_ifs <;> rfl
  rw [classifyFilter_eq] at counted
  rw [same]
  split_ifs at counted <;> simp_all

theorem classifyArg_vfBad (c : Classified) (a : Str) :
    (classifyArg c a).vfBad ≠ 0 ↔ c.vfBad ≠ 0 ∨ (c.prev = sh "-vf" ∧ ¬ Accepted a) := by
  classical
  have counted := classifyValue_filter c a
  have same : (classifyArg c a).vfBad = (classifyValue c a).vfBad := by
    unfold classifyArg
    split_ifs <;> rfl
  rw [classifyFilter_eq] at counted
  rw [same]
  split_ifs at counted <;> simp_all

theorem pair_infix_cons {x y p a : Str} {rest : List Str} :
    [x, y] <:+: p :: a :: rest ↔ (p = x ∧ a = y) ∨ [x, y] <:+: a :: rest := by
  rw [List.infix_cons_iff, List.cons_prefix_cons, List.cons_prefix_cons]
  constructor
  · rintro (⟨rfl, rfl, -⟩ | later)
    · exact .inl ⟨rfl, rfl⟩
    · exact .inr later
  · rintro (⟨rfl, rfl⟩ | later)
    · exact .inl ⟨rfl, rfl, List.nil_prefix⟩
    · exact .inr later

/-- A mark that one round sets at a value `P` of the option `x` is set in the end when such a
value stands directly after the option. -/
theorem marked_foldl {mark : Classified → Prop} {x : Str} {P : Str → Prop}
    (round : ∀ c a, mark (classifyArg c a) ↔ mark c ∨ (c.prev = x ∧ P a))
    (c : Classified) (args : List Str) :
    mark (args.foldl classifyArg c) ↔ mark c ∨ ∃ y, [x, y] <:+: c.prev :: args ∧ P y := by
  induction args generalizing c with
  | nil =>
      have none : ¬ ∃ y, [x, y] <:+: [c.prev] ∧ P y := by
        rintro ⟨y, inside, -⟩
        have short := inside.length_le
        simp at short
      simp only [List.foldl_nil, none, or_false]
  | cons a rest ih =>
      rw [List.foldl_cons, ih, round, classifyArg_prev, or_assoc]
      refine or_congr_right ⟨?_, ?_⟩
      · rintro (⟨option, value⟩ | ⟨y, later, value⟩)
        · exact ⟨a, pair_infix_cons.mpr (.inl ⟨option, rfl⟩), value⟩
        · exact ⟨y, pair_infix_cons.mpr (.inr later), value⟩
      · rintro ⟨y, inside, value⟩
        rcases pair_infix_cons.mp inside with ⟨option, rfl⟩ | later
        · exact .inl ⟨option, value⟩
        · exact .inr ⟨y, later, value⟩

theorem explicit_foldl (c : Classified) (args : List Str) :
    (args.foldl classifyArg c).explicit = true ↔
      c.explicit = true ∨ ∃ a ∈ args, a ∈ explicitOptions := by
  induction args generalizing c with
  | nil => simp
  | cons a rest ih =>
      rw [List.foldl_cons, ih, classifyArg_explicit, or_assoc, List.exists_mem_cons_iff]

/-- Nothing but the empty word stands before the first argument. -/
theorem pair_infix_start {x y : Str} {args : List Str} (word : x ≠ []) :
    [x, y] <:+: [] :: args ↔ [x, y] <:+: args := by
  cases args with
  | nil =>
      constructor <;> intro inside <;>
      · have short := inside.length_le
        simp at short
  | cons a rest =>
      rw [pair_infix_cons]
      exact or_iff_right fun hit => word hit.1.symm

theorem marked_classify (mark : Classified → Prop) {x : Str} {P : Str → Prop}
    (round : ∀ c a, mark (classifyArg c a) ↔ mark c ∨ (c.prev = x ∧ P a)) (word : x ≠ [])
    (unmarked : ¬ mark { hw := false, rawvideo := false, vfOk := 0, vfBad := 0,
                         explicit := false, prev := [] })
    (args : List Str) : mark (classify args) ↔ ∃ y, [x, y] <:+: args ∧ P y := by
  unfold classify
  rw [marked_foldl round, or_iff_right unmarked]
  exact exists_congr fun y => and_congr_left fun _ => pair_infix_start word

/-- Everything a rewrite asks for besides the filters being scalers. -/
def Eligible (env : Surroundings) (args : List Str) : Prop :=
  env.orDefault (sh "AVD_VK_REWRITE") (sh "1") ≠ sh "0" ∧
    [sh "-hwaccel", sh "v4l2request"] <:+: args ∧ [sh "-f", sh "rawvideo"] <:+: args ∧
    (∃ v, [sh "-vf", v] <:+: args) ∧ ∀ a ∈ args, a ∉ explicitOptions

/-- The decision of pass 1. -/
theorem rewrite_iff {env : Surroundings} {args : List Str} :
    rewrite env args = true ↔
      Eligible env args ∧ ∀ v, [sh "-vf", v] <:+: args → Accepted v := by
  have hw := marked_classify (fun c => c.hw = true) classifyArg_hw (by decide) (by simp) args
  have rawvideo :=
    marked_classify (fun c => c.rawvideo = true) classifyArg_rawvideo (by decide) (by simp) args
  have vfOk := marked_classify (fun c => c.vfOk ≠ 0) classifyArg_vfOk (by decide) (by simp) args
  have vfBad := marked_classify (fun c => c.vfBad ≠ 0) classifyArg_vfBad (by decide) (by simp) args
  have explicit : (classify args).explicit = false ↔ ∀ a ∈ args, a ∉ explicitOptions := by
    rw [← Bool.not_eq_true]
    unfold classify
    rw [explicit_foldl]
    simp
  simp only [exists_eq_right] at hw rawvideo
  have allOk : (classify args).vfBad = 0 ↔ ∀ v, [sh "-vf", v] <:+: args → Accepted v := by
    rw [← not_iff_not, ← ne_eq, vfBad]
    simp only [not_forall, exists_prop]
  unfold rewrite Eligible
  dsimp only
  rw [Bool.and_eq_true, Bool.and_eq_true, Bool.and_eq_true, Bool.and_eq_true, Bool.and_eq_true,
    bne_iff_ne, hw, rawvideo, decide_eq_true_eq, Nat.one_le_iff_ne_zero, vfOk, beq_iff_eq, allOk,
    Bool.not_eq_true', explicit]
  constructor
  · rintro ⟨⟨⟨⟨⟨switch, device⟩, output⟩, ⟨v, value, -⟩⟩, all⟩, plain⟩
    exact ⟨⟨switch, device, output, ⟨v, value⟩, plain⟩, all⟩
  · rintro ⟨⟨switch, device, output, ⟨v, value⟩, plain⟩, all⟩
    exact ⟨⟨⟨⟨⟨switch, device⟩, output⟩, ⟨v, value, all v value⟩⟩, all⟩, plain⟩

end Wrapper
