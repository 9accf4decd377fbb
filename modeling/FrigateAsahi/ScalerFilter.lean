import FrigateAsahi.FfmpegWrapper

/-!
# Which filters the wrapper takes for Frigate's scaler

The test on a `-vf` is a glob, three expansions and a check of the parts put together. It accepts
the scalers `fps=N,scale=W:H` and, besides them, filters with a missing number, filters that have
more in front of the last `scale`, and filters whose last `scale` has one number only.
-/

namespace Wrapper

open Shell

def Numeric (s : Str) : Prop := ∀ c ∈ s, digitOrDot c = true

/-- A non-empty string of digits and dots. -/
def Number (s : Str) : Prop := s ≠ [] ∧ Numeric s

instance (s : Str) : Decidable (Numeric s) :=
  List.decidableBAll (fun c => digitOrDot c = true) s

instance (s : Str) : Decidable (Number s) := inferInstanceAs (Decidable (_ ∧ _))

def scaler (number width height : Str) : Str :=
  sh "fps=" ++ number ++ sh ",scale=" ++ width ++ sh ":" ++ height

/-- The filter graph is Frigate's detect scaler and nothing else. -/
def IsScaler (a : Str) : Prop :=
  ∃ number width height, Number number ∧ Number width ∧ Number height ∧
    a = scaler number width height

/-- What else the script takes for a scaler. -/
inductive Slipping : Str → Prop
  /-- A number is missing. -/
  | missing {number width height : Str} : Numeric number → Numeric width → Numeric height →
    number ++ width ++ height ≠ [] → (number = [] ∨ width = [] ∨ height = []) →
    Slipping (scaler number width height)
  /-- Other filters stand between the first comma and the last `scale`. -/
  | dropped {number others width height : Str} : Numeric number → Numeric width →
    Numeric height → number ++ width ++ height ≠ [] →
    Slipping (scaler (number ++ sh "," ++ others) width height)
  /-- The same, and the last `scale` has one number; the colon stands behind an earlier one. -/
  | single {number others side p q r : Str} : Numeric number → Numeric side →
    number ++ side ≠ [] → sh "," ++ others = p ++ sh ",scale=" ++ q ++ sh ":" ++ r →
    Slipping (sh "fps=" ++ (number ++ sh "," ++ others) ++ sh ",scale=" ++ side)

/-! ## The parts of what the glob lets through -/

theorem Numeric.comma {s : Str} (numeric : Numeric s) : (0x2C : UInt8) ∉ s := by
  intro inside
  have digit := numeric _ inside
  revert digit
  decide

theorem Numeric.colon {s : Str} (numeric : Numeric s) : (0x3A : UInt8) ∉ s := by
  intro inside
  have digit := numeric _ inside
  revert digit
  decide

theorem comma_eq : sh "," = [0x2C] := by decide

theorem colon_eq : sh ":" = [0x3A] := by decide

/-- `,scale=` is a comma and what has none. -/
theorem scale_eq : sh ",scale=" = 0x2C :: sh "scale=" := by decide

theorem n_eq {number rest : Str} (first : (0x2C : UInt8) ∉ number) :
    n (sh "fps=" ++ (number ++ 0x2C :: rest)) = number := by
  unfold n
  rw [dropShortestPrefix_lit, comma_eq, dropLongestSuffix_from first]

/-- The last `,scale=` is the last comma when none follows it. -/
theorem wh_eq {u v : Str} (free : (0x2C : UInt8) ∉ v) : wh (u ++ sh ",scale=" ++ v) = v := by
  refine dropLongestPrefix_through fun u' v' same => ?_
  by_contra longer
  have commas : u ++ 0x2C :: (sh "scale=" ++ v) = u' ++ 0x2C :: (sh "scale=" ++ v') := by
    simpa [scale_eq] using same
  rcases List.append_eq_append_iff.mp commas with ⟨x, front, tail⟩ | ⟨x, front, -⟩
  · cases x with
    | nil =>
        rw [front] at longer
        simp at longer
    | cons d x =>
        have inside : (0x2C : UInt8) ∈ sh "scale=" ++ v := by
          rw [(List.cons.inj tail).2]
          simp
        rcases List.mem_append.mp inside with word | value
        · revert word
          decide
        · exact free value
  · rw [front] at longer
    simp at longer

theorem w_eq {a width height : Str} (parts : wh a = width ++ 0x3A :: height)
    (free : (0x3A : UInt8) ∉ width) : w a = width := by
  unfold w
  rw [parts, colon_eq, dropLongestSuffix_from free]

theorem h_eq {a width height : Str} (parts : wh a = width ++ 0x3A :: height)
    (free : (0x3A : UInt8) ∉ width) : h a = height := by
  unfold h
  rw [parts, colon_eq, dropShortestPrefix_through free]

theorem w_eq_of_single {a : Str} (free : (0x3A : UInt8) ∉ wh a) : w a = wh a := by
  unfold w
  rw [colon_eq, dropLongestSuffix_from_absent free]

theorem h_eq_of_single {a : Str} (free : (0x3A : UInt8) ∉ wh a) : h a = wh a := by
  unfold h
  rw [colon_eq, dropShortestPrefix_through_absent free]

theorem scalerGlob_iff {a : Str} :
    scalerGlob.matches a = true ↔
      ∃ x y z, a = sh "fps=" ++ (x ++ (sh ",scale=" ++ (y ++ (sh ":" ++ z)))) := by
  unfold scalerGlob
  rw [matches_lit]
  constructor
  · rintro ⟨_, rfl, first⟩
    obtain ⟨x, _, rfl, second⟩ := matches_star.mp first
    obtain ⟨_, rfl, third⟩ := matches_lit.mp second
    obtain ⟨y, _, rfl, fourth⟩ := matches_star.mp third
    obtain ⟨z, rfl, -⟩ := matches_lit.mp fourth
    exact ⟨x, y, z, rfl⟩
  · rintro ⟨x, y, z, rfl⟩
    refine ⟨_, rfl, matches_star.mpr ⟨x, _, rfl, matches_lit.mpr ⟨_, rfl, ?_⟩⟩⟩
    exact matches_star.mpr ⟨y, _, rfl, matches_lit.mpr ⟨z, rfl, matches_star_nil⟩⟩

/-- The parts of a filter that ends in a `scale` with two numbers. -/
theorem parts_of_scale {a front width height : Str} (widthNumeric : Numeric width)
    (heightNumeric : Numeric height)
    (shape : a = front ++ sh ",scale=" ++ (width ++ 0x3A :: height)) :
    w a = width ∧ h a = height := by
  have free : (0x2C : UInt8) ∉ width ++ 0x3A :: height := by
    simp [widthNumeric.comma, heightNumeric.comma]
  have value : wh a = width ++ 0x3A :: height := by rw [shape, wh_eq free]
  exact ⟨w_eq value widthNumeric.colon, h_eq value widthNumeric.colon⟩

theorem parts_of_single {a front side : Str} (numeric : Numeric side)
    (shape : a = front ++ sh ",scale=" ++ side) : w a = side ∧ h a = side := by
  have value : wh a = side := by rw [shape, wh_eq numeric.comma]
  have free : (0x3A : UInt8) ∉ wh a := value ▸ numeric.colon
  exact ⟨(w_eq_of_single free).trans value, (h_eq_of_single free).trans value⟩

theorem numeric_append {s t : Str} : Numeric (s ++ t) ↔ Numeric s ∧ Numeric t := by
  simp only [Numeric, List.mem_append, or_imp, forall_and]

theorem accepted_of_parts {a number width height : Str} (glob : scalerGlob.matches a = true)
    (numberPart : n a = number) (sides : w a = width ∧ h a = height)
    (some : number ++ width ++ height ≠ []) (numeric : Numeric (number ++ width ++ height)) :
    Accepted a := by
  refine ⟨glob, ?_, ?_⟩
  · rw [numberPart, sides.1, sides.2]
    exact some
  · rw [numberPart, sides.1, sides.2]
    exact numeric

/-- A filter whose first part is followed by a comma and whose last `scale` has two numbers. -/
theorem accepted_scale {number rest width height : Str} (front : Str) (numberNumeric : Numeric number)
    (widthNumeric : Numeric width) (heightNumeric : Numeric height)
    (some : number ++ width ++ height ≠ [])
    (shape : sh "fps=" ++ (number ++ 0x2C :: rest) =
      sh "fps=" ++ front ++ sh ",scale=" ++ (width ++ 0x3A :: height)) :
    Accepted (sh "fps=" ++ (number ++ 0x2C :: rest)) := by
  refine accepted_of_parts (scalerGlob_iff.mpr ⟨front, width, height, ?_⟩)
    (n_eq numberNumeric.comma) (parts_of_scale widthNumeric heightNumeric shape) some
    (numeric_append.mpr ⟨numeric_append.mpr ⟨numberNumeric, widthNumeric⟩, heightNumeric⟩)
  rw [shape]
  simp [colon_eq]

theorem accepted_of_isScaler {a : Str} (exact : IsScaler a) : Accepted a := by
  obtain ⟨number, width, height, ⟨some, first⟩, ⟨-, second⟩, ⟨-, third⟩, rfl⟩ := exact
  have shape : scaler number width height =
      sh "fps=" ++ (number ++ 0x2C :: (sh "scale=" ++ width ++ sh ":" ++ height)) := by
    simp [scaler, scale_eq]
  rw [shape]
  refine accepted_scale number first second third (by simp [some]) ?_
  simp [scale_eq, colon_eq]

theorem accepted_of_slipping {a : Str} (slipping : Slipping a) : Accepted a := by
  cases slipping with
  | @missing number width height first second third some _ =>
      have shape : scaler number width height =
          sh "fps=" ++ (number ++ 0x2C :: (sh "scale=" ++ width ++ sh ":" ++ height)) := by
        simp [scaler, scale_eq]
      rw [shape]
      refine accepted_scale number first second third some ?_
      simp [scale_eq, colon_eq]
  | @dropped number others width height first second third some =>
      have shape : scaler (number ++ sh "," ++ others) width height =
          sh "fps=" ++ (number ++ 0x2C ::
            (others ++ sh ",scale=" ++ width ++ sh ":" ++ height)) := by
        simp [scaler, comma_eq]
      rw [shape]
      refine accepted_scale (number ++ sh "," ++ others) first second third some ?_
      simp [comma_eq, colon_eq]
  | @single number others side p q r first second some inside =>
      have shape : sh "fps=" ++ (number ++ sh "," ++ others) ++ sh ",scale=" ++ side =
          sh "fps=" ++ (number ++ 0x2C :: (others ++ sh ",scale=" ++ side)) := by
        simp [comma_eq]
      have glob : scalerGlob.matches
          (sh "fps=" ++ (number ++ sh "," ++ others) ++ sh ",scale=" ++ side) = true := by
        refine scalerGlob_iff.mpr ⟨number ++ p, q, r ++ sh ",scale=" ++ side, ?_⟩
        rw [List.append_assoc number, inside]
        simp
      have numberPart :
          n (sh "fps=" ++ (number ++ sh "," ++ others) ++ sh ",scale=" ++ side) = number := by
        rw [shape]
        exact n_eq first.comma
      refine accepted_of_parts glob numberPart (parts_of_single second rfl)
        (by simpa using some) ?_
      exact numeric_append.mpr ⟨numeric_append.mpr ⟨first, second⟩, second⟩

/-- Where the colon of the glob stands when the last `scale` has none. -/
theorem single_inside {number others x y z side : Str} (first : (0x2C : UInt8) ∉ number)
    (sideFree : (0x3A : UInt8) ∉ side)
    (same : x ++ (sh ",scale=" ++ (y ++ 0x3A :: z)) =
      number ++ 0x2C :: others ++ (sh ",scale=" ++ side)) :
    ∃ p q r, sh "," ++ others = p ++ sh ",scale=" ++ q ++ sh ":" ++ r := by
  have regrouped : (x ++ sh ",scale=" ++ y) ++ 0x3A :: z =
      number ++ 0x2C :: others ++ (sh ",scale=" ++ side) := by
    simpa using same
  -- the colon is neither in the last `,scale=` nor behind it
  have inFront : ∃ r, number ++ 0x2C :: others = x ++ sh ",scale=" ++ y ++ 0x3A :: r := by
    rcases List.append_eq_append_iff.mp regrouped with ⟨r, front, tail⟩ | ⟨r, -, tail⟩
    · cases r with
      | nil =>
          rw [scale_eq] at tail
          exact absurd (List.cons.inj tail).1 (by decide)
      | cons c r =>
          obtain ⟨rfl, -⟩ := List.cons.inj tail
          exact ⟨r, front⟩
    · have inside : (0x3A : UInt8) ∈ sh ",scale=" ++ side := by
        rw [tail]
        simp
      rcases List.mem_append.mp inside with word | value
      · exact absurd word (by decide)
      · exact absurd value sideFree
  obtain ⟨r, front⟩ := inFront
  have commas : number ++ 0x2C :: others = x ++ 0x2C :: (sh "scale=" ++ y ++ 0x3A :: r) := by
    rw [front, scale_eq]
    simp
  rcases append_first_cons first commas with ⟨-, rest⟩ | ⟨x', -, rest⟩
  · refine ⟨[], y, r, ?_⟩
    rw [← rest, comma_eq, colon_eq, scale_eq]
    simp
  · refine ⟨sh "," ++ x', y, r, ?_⟩
    rw [rest, comma_eq, colon_eq, scale_eq]
    simp

theorem accepted_cases {a : Str} (accepted : Accepted a) : IsScaler a ∨ Slipping a := by
  obtain ⟨glob, some, numeric⟩ := accepted
  obtain ⟨⟨numberNumeric, widthNumeric⟩, heightNumeric⟩ :=
    (numeric_append.mp numeric).imp_left numeric_append.mp
  obtain ⟨x, y, z, shape⟩ := scalerGlob_iff.mp glob
  -- the first comma
  obtain ⟨number, rest, split, first⟩ := List.eq_append_cons_of_mem
    (show (0x2C : UInt8) ∈ x ++ (sh ",scale=" ++ (y ++ (sh ":" ++ z))) by simp [scale_eq])
  have comma : a = sh "fps=" ++ (number ++ 0x2C :: rest) := by rw [shape, split]
  have numberPart : n a = number := by rw [comma, n_eq first]
  -- the last `scale`
  have occurs : a = (sh "fps=" ++ x) ++ sh ",scale=" ++ (y ++ (sh ":" ++ z)) := by
    rw [shape]
    simp
  obtain ⟨front, last, greatest⟩ := dropLongestPrefix_split occurs
  change a = front ++ sh ",scale=" ++ wh a at last
  have word : (0x2C : UInt8) ∉ sh "fps=" ++ number := by
    rw [List.mem_append]
    rintro (inside | inside)
    · exact absurd inside (by decide)
    · exact first inside
  have commas : (sh "fps=" ++ number) ++ 0x2C :: rest =
      front ++ 0x2C :: (sh "scale=" ++ wh a) := by
    have both : sh "fps=" ++ (number ++ 0x2C :: rest) = front ++ sh ",scale=" ++ wh a :=
      comma.symm.trans last
    simpa [scale_eq] using both
  have place : front = sh "fps=" ++ number ∨
      ∃ others, front = sh "fps=" ++ (number ++ sh "," ++ others) := by
    rcases append_first_cons word commas with ⟨same, -⟩ | ⟨others, longer, -⟩
    · exact .inl same
    · exact .inr ⟨others, by rw [longer, comma_eq]; simp⟩
  rw [numberPart] at some numberNumeric
  by_cases two : (0x3A : UInt8) ∈ wh a
  · obtain ⟨width, height, sides, free⟩ := List.eq_append_cons_of_mem two
    rw [w_eq sides free, h_eq sides free] at some
    rw [w_eq sides free] at widthNumeric
    rw [h_eq sides free] at heightNumeric
    have filter : ∀ g, front = sh "fps=" ++ g → a = scaler g width height := by
      intro g before
      rw [last, before, sides, scaler, colon_eq]
      simp
    rcases place with before | ⟨others, before⟩
    · rw [filter _ before]
      by_cases full : number ≠ [] ∧ width ≠ [] ∧ height ≠ []
      · exact .inl ⟨number, width, height, ⟨full.1, numberNumeric⟩, ⟨full.2.1, widthNumeric⟩,
          ⟨full.2.2, heightNumeric⟩, rfl⟩
      · refine .inr (.missing numberNumeric widthNumeric heightNumeric some ?_)
        by_contra none
        rw [not_or, not_or] at none
        exact full none
    · rw [filter _ before]
      exact .inr (.dropped numberNumeric widthNumeric heightNumeric some)
  · rw [w_eq_of_single two, h_eq_of_single two] at some
    rw [w_eq_of_single two] at widthNumeric
    rcases place with before | ⟨others, before⟩
    · -- then the `,scale=` of the glob is the last one, and a colon follows it
      exfalso
      have globCommas : (sh "fps=" ++ number) ++ 0x2C :: rest =
          (sh "fps=" ++ x) ++ 0x2C :: (sh "scale=" ++ (y ++ (sh ":" ++ z))) := by
        have both := comma.symm.trans occurs
        simpa [scale_eq] using both
      rcases append_first_cons word globCommas with ⟨-, tail⟩ | ⟨others, longer, -⟩
      · have sameTail := (append_first_cons word commas).resolve_right fun ⟨others, longer, _⟩ => by
          have lengths := congrArg List.length (before.symm.trans longer)
          simp only [List.length_append, List.length_cons] at lengths
          omega
        have value : wh a = y ++ (sh ":" ++ z) :=
          List.append_cancel_left (sameTail.2.trans tail.symm)
        rw [value, colon_eq] at two
        simp at two
      · have bound := greatest _ _ occurs
        rw [longer, before, List.length_append, List.length_cons] at bound
        omega
    · have filter : a = sh "fps=" ++ (number ++ sh "," ++ others) ++ sh ",scale=" ++ wh a := by
        rw [← before]
        exact last
      have both : x ++ (sh ",scale=" ++ (y ++ 0x3A :: z)) =
          number ++ 0x2C :: others ++ (sh ",scale=" ++ wh a) := by
        have whole := occurs.symm.trans filter
        simpa [comma_eq, colon_eq] using whole
      obtain ⟨p, q, r, inside⟩ := single_inside first two both
      rw [filter]
      exact .inr (.single numberNumeric widthNumeric (by simpa using some) inside)

/-- What the script takes for a scaler. -/
theorem accepted_iff {a : Str} : Accepted a ↔ IsScaler a ∨ Slipping a :=
  ⟨accepted_cases, fun shape => shape.elim accepted_of_isScaler accepted_of_slipping⟩

theorem parts_of_scaler {number width height : Str} (first : Numeric number)
    (second : Numeric width) (third : Numeric height) :
    n (scaler number width height) = number ∧ w (scaler number width height) = width ∧
      h (scaler number width height) = height := by
  have sides : scaler number width height =
      (sh "fps=" ++ number) ++ sh ",scale=" ++ (width ++ 0x3A :: height) := by
    simp [scaler, colon_eq]
  refine ⟨?_, parts_of_scale second third sides⟩
  · have front : scaler number width height =
        sh "fps=" ++ (number ++ 0x2C :: (sh "scale=" ++ width ++ sh ":" ++ height)) := by
      simp [scaler, scale_eq]
    rw [front, n_eq first.comma]

/-- A slipping filter is none of Frigate's. -/
theorem Slipping.not_isScaler {a : Str} (slipping : Slipping a) : ¬ IsScaler a := by
  rintro ⟨number, width, height, ⟨some, first⟩, ⟨some', second⟩, ⟨some'', third⟩, rfl⟩
  have oneComma : (scaler number width height).count 0x2C = 1 := by
    have words : (sh "fps=").count 0x2C = 0 ∧ (sh ",scale=").count 0x2C = 1 ∧
        (sh ":").count 0x2C = 0 := by decide
    unfold scaler
    rw [List.count_append, List.count_append, List.count_append, List.count_append,
      List.count_append, List.count_eq_zero_of_not_mem first.comma,
      List.count_eq_zero_of_not_mem second.comma, List.count_eq_zero_of_not_mem third.comma]
    omega
  generalize shape : scaler number width height = a at slipping oneComma
  cases slipping with
  | @missing number' width' height' first' second' third' _ absent =>
      obtain ⟨left, middle, right⟩ := parts_of_scaler first second third
      obtain ⟨left', middle', right'⟩ := parts_of_scaler first' second' third'
      rw [shape] at left middle right
      rcases absent with none | none | none
      · exact some (by rw [← left, left', none])
      · exact some' (by rw [← middle, middle', none])
      · exact some'' (by rw [← right, right', none])
  | dropped =>
      simp [scaler, List.count_append, comma_eq, scale_eq] at oneComma
      omega
  | single =>
      simp [List.count_append, comma_eq, scale_eq] at oneComma
      omega

/-! ## Rewrites of other filters -/

/-- A rewrite has scalers only, and with another filter the arguments stay as they are. -/
def Exact (env : Surroundings) (args : List Str) : Prop :=
  (rewrite env args = true → ∀ v, [sh "-vf", v] <:+: args → IsScaler v) ∧
    ∀ v, [sh "-vf", v] <:+: args → ¬ IsScaler v → exec env args = launcher env ++ args

/-- A command that would be rewritten if all its filters were scalers, where each filter is a
scaler or slips through and one slips through. -/
def Slips (env : Surroundings) (args : List Str) : Prop :=
  Eligible env args ∧ (∀ v, [sh "-vf", v] <:+: args → IsScaler v ∨ Slipping v) ∧
    ∃ v, [sh "-vf", v] <:+: args ∧ Slipping v

theorem rewrite_iff_filters {env : Surroundings} {args : List Str} :
    rewrite env args = true ↔
      Eligible env args ∧ ∀ v, [sh "-vf", v] <:+: args → IsScaler v ∨ Slipping v := by
  rw [rewrite_iff]
  simp only [accepted_iff]

theorem exact_iff (env : Surroundings) (args : List Str) :
    Exact env args ↔ ¬ Slips env args := by
  constructor
  · rintro ⟨scalers, -⟩ ⟨eligible, filters, v, value, slipping⟩
    exact slipping.not_isScaler
      (scalers (rewrite_iff_filters.mpr ⟨eligible, filters⟩) v value)
  · intro none
    have scalers : rewrite env args = true → ∀ v, [sh "-vf", v] <:+: args → IsScaler v := by
      intro rewritten v value
      obtain ⟨eligible, filters⟩ := rewrite_iff_filters.mp rewritten
      rcases filters v value with exact | slipping
      · exact exact
      · exact absurd ⟨eligible, filters, v, value, slipping⟩ none
    refine ⟨scalers, fun v value other => ?_⟩
    have kept : rewrite env args = false := by
      rw [← Bool.not_eq_true]
      exact fun rewritten => other (scalers rewritten v value)
    unfold exec rebuilt
    rw [kept]
    rfl

/-- No variable is set and the loader is not mounted. -/
def bare : Surroundings where
  getenv := fun _ => none
  executable := fun _ => false
  directory := fun _ => false

def mirrored : List Str :=
  [sh "-hwaccel", sh "v4l2request", sh "-i", sh "cam", sh "-vf", sh "fps=5,hflip,scale=640:360",
    sh "-f", sh "rawvideo", sh "pipe:"]

/-- The mirror of `fps=5,hflip,scale=640:360` is dropped. -/
theorem mirrored_not_exact :
    ¬ Exact bare mirrored ∧ sh "fps=5,hflip,scale=640:360" ∉ exec bare mirrored ∧
      sh "fps=5,hwmap,scale_vulkan=w=max(iw/2\\,640):h=max(ih/2\\,360),scale_vulkan=640:360,hwdownload,format=nv12,format=yuv420p" ∈
        exec bare mirrored := by
  have rewritten : rewrite bare mirrored = true := by decide +kernel
  refine ⟨fun exact => ?_, by decide +kernel, by decide +kernel⟩
  have slipping : Slipping (scaler (sh "5" ++ sh "," ++ sh "hflip") (sh "640") (sh "360")) :=
    .dropped (by decide) (by decide) (by decide) (by decide)
  exact slipping.not_isScaler (exact.1 rewritten _ (by decide +kernel))

end Wrapper
