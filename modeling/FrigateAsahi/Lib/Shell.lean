import Mathlib.Data.List.Basic
import Mathlib.Data.List.Infix
import Mathlib.Data.Nat.Find

/-!
# Shell patterns and parameter expansion

Patterns with literals, bracket expressions and `*`, and the expansions `${s#p}`, `${s##p}` and
`${s%%p}` that remove what a pattern matches from an end of a string. The expansions are defined by
what the shell promises (the shortest or the longest match); the lemmas below say what comes out
for the patterns scripts use: a literal, anything up to a literal, a character and all after it.
-/

namespace Shell

variable {α : Type} [DecidableEq α]

/-! ## Patterns -/

inductive Atom (α : Type) : Type
  | one : (α → Bool) → Atom α
  | star : Atom α

abbrev Pattern (α : Type) : Type := List (Atom α)

/-- The pattern of a string that is matched as it stands. -/
def lit (s : List α) : Pattern α := s.map fun c => .one (· == c)

/-- `case "$s" in p)` -/
def Pattern.matches : Pattern α → List α → Bool
  | [], s => s.isEmpty
  | .one _ :: _, [] => false
  | .one accepts :: p, c :: s => accepts c && Pattern.matches p s
  | .star :: p, s => s.tails.any (Pattern.matches p)

omit [DecidableEq α] in
@[simp] theorem matches_nil {s : List α} : Pattern.matches [] s = true ↔ s = [] := by
  simp [Pattern.matches]

omit [DecidableEq α] in
theorem matches_one {accepts : α → Bool} {p : Pattern α} {s : List α} :
    Pattern.matches (.one accepts :: p) s = true ↔
      ∃ c rest, s = c :: rest ∧ accepts c = true ∧ p.matches rest = true := by
  cases s with
  | nil => simp [Pattern.matches]
  | cons c s => simp [Pattern.matches]

omit [DecidableEq α] in
theorem matches_star {p : Pattern α} {s : List α} :
    Pattern.matches (.star :: p) s = true ↔ ∃ u v, s = u ++ v ∧ p.matches v = true := by
  simp only [Pattern.matches, List.any_eq_true, List.mem_tails]
  constructor
  · rintro ⟨v, ⟨u, cut⟩, rest⟩
    exact ⟨u, v, cut.symm, rest⟩
  · rintro ⟨u, v, cut, rest⟩
    exact ⟨v, ⟨u, cut.symm⟩, rest⟩

omit [DecidableEq α] in
@[simp] theorem matches_star_nil {s : List α} : Pattern.matches [.star] s = true :=
  matches_star.mpr ⟨s, [], by simp, by simp⟩

theorem matches_lit {t : List α} {p : Pattern α} {s : List α} :
    Pattern.matches (lit t ++ p) s = true ↔ ∃ rest, s = t ++ rest ∧ p.matches rest = true := by
  induction t generalizing s with
  | nil => simp [lit]
  | cons c t ih =>
      have unfolded : lit (c :: t) ++ p = .one (· == c) :: (lit t ++ p) := rfl
      rw [unfolded, matches_one]
      constructor
      · rintro ⟨c', rest, rfl, same, inner⟩
        obtain ⟨rest', rfl, tail⟩ := ih.mp inner
        exact ⟨rest', by rw [beq_iff_eq.mp same]; rfl, tail⟩
      · rintro ⟨rest, rfl, tail⟩
        exact ⟨c, t ++ rest, rfl, beq_self_eq_true c, ih.mpr ⟨rest, rfl, tail⟩⟩

theorem matches_lit_nil {t s : List α} : Pattern.matches (lit t) s = true ↔ s = t := by
  have whole := matches_lit (t := t) (p := []) (s := s)
  simpa using whole

/-! ## Removing a prefix or a suffix -/

/-- The least cut of `s` that satisfies a test on it. -/
def firstCut (s : List α) (test : Nat → Bool) : Option Nat :=
  (List.range (s.length + 1)).find? test

/-- `${s#p}` -/
def dropShortestPrefix (p : Pattern α) (s : List α) : List α :=
  match firstCut s fun k => p.matches (s.take k) with
  | some k => s.drop k
  | none => s

/-- `${s##p}` -/
def dropLongestPrefix (p : Pattern α) (s : List α) : List α :=
  s.drop (Nat.findGreatest (fun k => p.matches (s.take k) = true) s.length)

/-- `${s%%p}` -/
def dropLongestSuffix (p : Pattern α) (s : List α) : List α :=
  match firstCut s fun k => p.matches (s.drop k) with
  | some k => s.take k
  | none => s

omit [DecidableEq α] in
theorem firstCut_eq_some {s : List α} {test : Nat → Bool} {k : Nat} (within : k ≤ s.length)
    (holds : test k = true) (least : ∀ j < k, test j = false) : firstCut s test = some k := by
  unfold firstCut
  rw [List.find?_range_eq_some]
  refine ⟨holds, List.mem_range.mpr (by omega), fun j below => ?_⟩
  rw [least j below]
  rfl

omit [DecidableEq α] in
theorem firstCut_eq_none {s : List α} {test : Nat → Bool} (never : ∀ j, test j = false) :
    firstCut s test = none := by
  unfold firstCut
  rw [List.find?_eq_none]
  intro j _
  simp [never j]

/-- A literal at the head is removed. -/
theorem dropShortestPrefix_lit (t r : List α) :
    dropShortestPrefix (lit t) (t ++ r) = r := by
  have cut : firstCut (t ++ r) (fun k => (lit t).matches ((t ++ r).take k)) = some t.length := by
    refine firstCut_eq_some (by simp) (matches_lit_nil.mpr (by simp)) fun j below => ?_
    rw [Bool.eq_false_iff]
    intro hit
    have same := congrArg List.length (matches_lit_nil.mp hit)
    simp at same
    omega
  unfold dropShortestPrefix
  rw [cut]
  simp

/-- `${s#*c}` removes everything through the first `c`. -/
theorem dropShortestPrefix_through {c : α} {u : List α} (first : c ∉ u) (v : List α) :
    dropShortestPrefix (.star :: lit [c]) (u ++ c :: v) = v := by
  have cut : firstCut (u ++ c :: v)
      (fun k => Pattern.matches (.star :: lit [c]) ((u ++ c :: v).take k)) =
      some (u.length + 1) := by
    refine firstCut_eq_some (by simp) (matches_star.mpr ⟨u, [c], ?_, ?_⟩) fun j below => ?_
    · simp [List.take_append]
    · exact matches_lit_nil.mpr rfl
    · rw [Bool.eq_false_iff]
      intro hit
      obtain ⟨x, y, split, tail⟩ := matches_star.mp hit
      rw [matches_lit_nil.mp tail, List.take_append_of_le_length (by omega)] at split
      have inside : c ∈ u.take j := by
        rw [split]
        simp
      exact first (List.mem_of_mem_take inside)
  unfold dropShortestPrefix
  rw [cut]
  simp [List.drop_append]

/-- Without a `c`, `${s#*c}` is `s`. -/
theorem dropShortestPrefix_through_absent {c : α} {s : List α} (absent : c ∉ s) :
    dropShortestPrefix (.star :: lit [c]) s = s := by
  have cut : firstCut s (fun k => Pattern.matches (.star :: lit [c]) (s.take k)) = none := by
    refine firstCut_eq_none fun j => ?_
    rw [Bool.eq_false_iff]
    intro hit
    obtain ⟨x, y, split, tail⟩ := matches_star.mp hit
    rw [matches_lit_nil.mp tail] at split
    have inside : c ∈ s.take j := by
      rw [split]
      simp
    exact absent (List.mem_of_mem_take inside)
  unfold dropShortestPrefix
  rw [cut]

/-- `${s##*t}` is what follows the last `t`. -/
theorem dropLongestPrefix_split {t s u₀ v₀ : List α} (occurs : s = u₀ ++ t ++ v₀) :
    ∃ u, s = u ++ t ++ dropLongestPrefix (.star :: lit t) s ∧
      ∀ u' v', s = u' ++ t ++ v' → u'.length ≤ u.length := by
  have reaches : ∀ {u v}, s = u ++ t ++ v → (u ++ t).length ≤ s.length ∧
      Pattern.matches (.star :: lit t) (s.take (u ++ t).length) = true := by
    rintro u v rfl
    refine ⟨by simp, matches_star.mpr ⟨u, t, ?_, matches_lit_nil.mpr rfl⟩⟩
    rw [List.take_left]
  obtain ⟨within, hit⟩ := reaches occurs
  obtain ⟨u, v, split, tail⟩ := matches_star.mp (Nat.findGreatest_spec
    (P := fun k => Pattern.matches (.star :: lit t) (s.take k) = true) within hit)
  rw [matches_lit_nil.mp tail] at split
  refine ⟨u, ?_, fun u' v' other => ?_⟩
  · unfold dropLongestPrefix
    rw [← split, List.take_append_drop]
  · obtain ⟨within', hit'⟩ := reaches other
    have below := Nat.le_findGreatest
      (P := fun k => Pattern.matches (.star :: lit t) (s.take k) = true) within' hit'
    have bound := Nat.findGreatest_le
      (P := fun k => Pattern.matches (.star :: lit t) (s.take k) = true) s.length
    have lengths := congrArg List.length split
    simp only [List.length_take, List.length_append] at lengths below
    omega

/-- What follows a `t` behind which no other one starts. -/
theorem dropLongestPrefix_through {t u v : List α}
    (last : ∀ u' v', u ++ t ++ v = u' ++ t ++ v' → u'.length ≤ u.length) :
    dropLongestPrefix (.star :: lit t) (u ++ t ++ v) = v := by
  obtain ⟨u', split, greatest⟩ := dropLongestPrefix_split (t := t) (s := u ++ t ++ v) rfl
  have same : u.length = u'.length :=
    Nat.le_antisymm (greatest u v rfl) (last u' _ split)
  rw [List.append_assoc, List.append_assoc] at split
  have rest := (List.append_inj split same).2
  rw [← List.append_assoc] at rest
  exact (List.append_cancel_left rest).symm

/-- `${s%%c*}` keeps what stands before the first `c`. -/
theorem dropLongestSuffix_from {c : α} {u : List α} (first : c ∉ u) (v : List α) :
    dropLongestSuffix (lit [c] ++ [.star]) (u ++ c :: v) = u := by
  have cut : firstCut (u ++ c :: v)
      (fun k => Pattern.matches (lit [c] ++ [.star]) ((u ++ c :: v).drop k)) =
      some u.length := by
    refine firstCut_eq_some (by simp) (matches_lit.mpr ⟨v, by simp, by simp⟩) fun j below => ?_
    rw [Bool.eq_false_iff]
    intro hit
    obtain ⟨rest, split, -⟩ := matches_lit.mp hit
    rw [List.drop_append_of_le_length (by omega), List.drop_eq_getElem_cons below] at split
    have head : u[j] = c := by
      simpa using (List.cons.inj split).1
    exact first (head ▸ List.getElem_mem below)
  unfold dropLongestSuffix
  rw [cut]
  simp

/-- Without a `c`, `${s%%c*}` is `s`. -/
theorem dropLongestSuffix_from_absent {c : α} {s : List α} (absent : c ∉ s) :
    dropLongestSuffix (lit [c] ++ [.star]) s = s := by
  have cut : firstCut s (fun k => Pattern.matches (lit [c] ++ [.star]) (s.drop k)) = none := by
    refine firstCut_eq_none fun j => ?_
    rw [Bool.eq_false_iff]
    intro hit
    obtain ⟨rest, split, -⟩ := matches_lit.mp hit
    have inside : c ∈ s.drop j := by
      rw [split]
      simp
    exact absent (List.mem_of_mem_drop inside)
  unfold dropLongestSuffix
  rw [cut]

omit [DecidableEq α] in
/-- Another `c` stands where the first one does or behind it. -/
theorem append_first_cons {c : α} {u v u' v' : List α} (first : c ∉ u)
    (same : u ++ c :: v = u' ++ c :: v') :
    (u' = u ∧ v' = v) ∨ ∃ x, u' = u ++ c :: x ∧ v = x ++ c :: v' := by
  rcases List.append_eq_append_iff.mp same with ⟨x, longer, tail⟩ | ⟨x, shorter, tail⟩
  · cases x with
    | nil => exact .inl ⟨by simpa using longer, (by simpa using tail : v = v').symm⟩
    | cons d x =>
        obtain ⟨rfl, rest⟩ := List.cons.inj tail
        exact .inr ⟨x, longer, rest⟩
  · cases x with
    | nil => exact .inl ⟨by simpa using shorter.symm, by simpa using tail⟩
    | cons d x =>
        obtain ⟨rfl, -⟩ := List.cons.inj tail
        exact absurd (by rw [shorter]; simp) first

end Shell
