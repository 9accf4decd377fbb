import Mathlib.Data.List.Nodup
import Mathlib.Data.List.Perm.Subperm

/-!
# Greedy selection

A list is gone through once, and an item is kept when it is admitted beside what has been kept so
far. Where the rule is a conflict, the first `n` choices can be told without going through the list
(`take_survivors_eq_iff_kept`): they are not in conflict, and whatever does not come after `n` of
them is in conflict with an earlier one.
-/

namespace Greedy

variable {α : Type} (accept accept' : List α → α → Bool)

/-- What is kept of a list, after what was kept before. -/
def survivors (kept : List α) : List α → List α
  | [] => kept
  | c :: rest => survivors (if accept kept c then kept ++ [c] else kept) rest

theorem survivors_append (kept front back : List α) :
    survivors accept kept (front ++ back) = survivors accept (survivors accept kept front) back := by
  induction front generalizing kept with
  | nil => rfl
  | cons c front ih => exact ih _

/-- What was kept stays in front. What comes after it is taken from the list, in its order. -/
theorem survivors_eq_append (kept rest : List α) :
    ∃ chosen, survivors accept kept rest = kept ++ chosen ∧ chosen.Sublist rest := by
  induction rest generalizing kept with
  | nil => exact ⟨[], (List.append_nil kept).symm, .slnil⟩
  | cons c rest ih =>
      obtain ⟨chosen, eq, sub⟩ := ih (if accept kept c then kept ++ [c] else kept)
      rw [survivors, eq]
      by_cases admitted : accept kept c
      · rw [if_pos admitted]
        exact ⟨c :: chosen, by rw [List.append_assoc, List.singleton_append], sub.cons_cons c⟩
      · rw [if_neg admitted]
        exact ⟨chosen, rfl, sub.cons c⟩

theorem survivors_sublist (rest : List α) : (survivors accept [] rest).Sublist rest := by
  obtain ⟨chosen, eq, sub⟩ := survivors_eq_append accept [] rest
  rw [eq]
  exact sub

/-! ## Two rules -/

variable {accept accept'}

/-- From the same kept items on, agreement carries over to everything that is kept up to `n`. -/
theorem take_survivors_eq {n : Nat} {kept rest : List α}
    (agree : ∀ front c back, rest = front ++ c :: back →
      (survivors accept' kept front).length < n →
        accept (survivors accept' kept front) c = accept' (survivors accept' kept front) c) :
    (survivors accept kept rest).take n = (survivors accept' kept rest).take n := by
  induction rest generalizing kept with
  | nil => rfl
  | cons c rest ih =>
      by_cases full : n ≤ kept.length
      · -- Both only go on behind what is kept already.
        obtain ⟨chosen, eq, -⟩ := survivors_eq_append accept kept (c :: rest)
        obtain ⟨chosen', eq', -⟩ := survivors_eq_append accept' kept (c :: rest)
        rw [eq, eq', List.take_append_of_le_length full, List.take_append_of_le_length full]
      · have here := agree [] c rest rfl (by rw [survivors]; omega)
        rw [survivors] at here
        rw [survivors, survivors, here]
        refine ih fun front d back split => ?_
        have later := agree (c :: front) d back (by rw [split, List.cons_append])
        rwa [survivors] at later

/-! ## Selection by a conflict -/

section Conflict

variable (clash : α → α → Bool)

/-- An item is admitted when it is in conflict with nothing that was kept. -/
def unopposed (kept : List α) (c : α) : Bool := kept.all fun k => !clash c k

/-- No later one of the kept items is in conflict with an earlier one. -/
theorem pairwise_survivors {kept : List α} (start : kept.Pairwise fun k c => clash c k = false)
    (rest : List α) :
    (survivors (unopposed clash) kept rest).Pairwise fun k c => clash c k = false := by
  induction rest generalizing kept with
  | nil => exact start
  | cons c rest ih =>
      rw [survivors]
      by_cases admitted : unopposed clash kept c = true
      · rw [if_pos admitted]
        refine ih (List.pairwise_append.mpr ⟨start, List.pairwise_singleton _ _, fun k mem d eq => ?_⟩)
        rw [List.mem_singleton.mp eq]
        simpa using List.all_eq_true.mp admitted k mem
      · rw [if_neg admitted]
        exact ih start

/-- What is not kept is in conflict with something before it that is. -/
theorem opposed_of_not_mem {l : List α} {c : α} (mem : c ∈ l)
    (dropped : c ∉ survivors (unopposed clash) [] l) :
    ∃ front back k, l = front ++ c :: back ∧ k ∈ front ∧
      k ∈ survivors (unopposed clash) [] l ∧ clash c k = true := by
  obtain ⟨front, back, rfl⟩ := List.append_of_mem mem
  rw [survivors_append, survivors] at dropped ⊢
  by_cases admitted : unopposed clash (survivors (unopposed clash) [] front) c = true
  · rw [if_pos admitted] at dropped
    obtain ⟨chosen, eq, -⟩ := survivors_eq_append (unopposed clash)
      (survivors (unopposed clash) [] front ++ [c]) back
    exact absurd (by rw [eq]; simp) dropped
  · have opposed := admitted
    unfold unopposed at opposed
    rw [Bool.not_eq_true, List.all_eq_false] at opposed
    obtain ⟨k, kept, clashes⟩ := opposed
    refine ⟨front, back, k, rfl, (survivors_sublist _ front).subset kept, ?_, by simpa using clashes⟩
    rw [if_neg admitted]
    obtain ⟨chosen, eq, -⟩ := survivors_eq_append (unopposed clash)
      (survivors (unopposed clash) [] front) back
    rw [eq]
    exact List.mem_append_left _ kept

/-! ### The first ones that are kept -/

variable [DecidableEq α]

/-- Going by membership keeps a list that is part of the one gone through. -/
theorem survivors_mem (kept before rest : List α) :
    survivors (fun _ c => decide (c ∈ kept)) before rest =
      before ++ rest.filter fun c => decide (c ∈ kept) := by
  induction rest generalizing before with
  | nil => exact (List.append_nil before).symm
  | cons c rest ih =>
      rw [survivors, ih]
      by_cases member : c ∈ kept
      · simp [member]
      · simp [member]

/-- The part of a list that is in one of its parts is this part. -/
theorem filter_mem_eq {l kept : List α} (once : l.Nodup) (sub : kept.Sublist l) :
    (l.filter fun c => decide (c ∈ kept)) = kept := by
  have own : (kept.filter fun c => decide (c ∈ kept)) = kept :=
    List.filter_eq_self.mpr fun c member => decide_eq_true member
  have inner : kept.Sublist (l.filter fun c => decide (c ∈ kept)) := by
    have filtered := sub.filter fun c => decide (c ∈ kept)
    rwa [own] at filtered
  have within : (l.filter fun c => decide (c ∈ kept)) ⊆ kept :=
    fun c member => of_decide_eq_true (List.mem_filter.mp member).2
  exact (inner.eq_of_length_le ((once.filter _).subperm within).length_le).symm

theorem pairwise_idxOf {l : List α} (once : l.Nodup) :
    l.Pairwise fun k c => l.idxOf k < l.idxOf c := by
  refine List.pairwise_iff_getElem.mpr fun i j left right lt => ?_
  rwa [once.idxOf_getElem, once.idxOf_getElem]

/-- What comes before an item of a list without repetitions is in front of it. -/
theorem mem_front_iff {front back : List α} {k c : α} (once : (front ++ c :: back).Nodup) :
    k ∈ front ↔ (front ++ c :: back).idxOf k < (front ++ c :: back).idxOf c := by
  have fresh : c ∉ front := fun member =>
    (List.nodup_append.mp once).2.2 c member c List.mem_cons_self rfl
  have here : (front ++ c :: back).idxOf c = front.length := by
    rw [List.idxOf_append_of_notMem fresh, List.idxOf_cons_self, Nat.add_zero]
  rw [here]
  constructor
  · intro member
    rw [List.idxOf_append_of_mem member]
    exact List.idxOf_lt_length_of_mem member
  · intro before
    by_contra outside
    rw [List.idxOf_append_of_notMem outside] at before
    omega

/-- A part of the list is the first `n` that are kept exactly if its items are not in conflict and
every other item is in conflict with one of them that comes before it, or comes after `n` of
them. -/
theorem take_survivors_eq_iff_kept {n : Nat} {l kept : List α} (once : l.Nodup)
    (sub : kept.Sublist l) (room : kept.length ≤ n) :
    (survivors (unopposed clash) [] l).take n = kept ↔
      kept.Pairwise (fun k c => clash c k = false) ∧
        ∀ c ∈ l, c ∉ kept → (∃ k ∈ kept, l.idxOf k < l.idxOf c ∧ clash c k = true) ∨
          (kept.length = n ∧ ∀ k ∈ kept, l.idxOf k < l.idxOf c) := by
  constructor
  · rintro rfl
    have apart := pairwise_survivors clash List.Pairwise.nil l
    have ordered := (pairwise_idxOf once).sublist (survivors_sublist (unopposed clash) l)
    have parts := List.take_append_drop n (survivors (unopposed clash) [] l)
    rw [← parts, List.pairwise_append] at ordered
    refine ⟨apart.sublist (List.take_sublist n _), fun c member dropped => ?_⟩
    -- Whatever else is kept comes after `n` items.
    have full : ∀ d ∈ (survivors (unopposed clash) [] l).drop n,
        ((survivors (unopposed clash) [] l).take n).length = n := by
      intro d later
      have more := List.length_pos_of_mem later
      rw [List.length_drop] at more
      rw [List.length_take]
      omega
    by_cases survives : c ∈ survivors (unopposed clash) [] l
    · rw [← parts] at survives
      have later := (List.mem_append.mp survives).resolve_left dropped
      exact .inr ⟨full c later, fun k early => ordered.2.2 k early c later⟩
    · obtain ⟨front, back, k, eq, before, kept, clashes⟩ := opposed_of_not_mem clash member survives
      have lt : l.idxOf k < l.idxOf c := by
        rw [eq] at once ⊢
        exact (mem_front_iff once).mp before
      rw [← parts] at kept
      rcases List.mem_append.mp kept with first | later
      · exact .inl ⟨k, first, lt, clashes⟩
      · exact .inr ⟨full k later, fun j early => Nat.lt_trans (ordered.2.2 j early k later) lt⟩
  · rintro ⟨apart, covered⟩
    have chosen : ∀ front : List α, survivors (fun _ c => decide (c ∈ kept)) [] front =
        front.filter fun c => decide (c ∈ kept) := survivors_mem kept []
    have whole : (survivors (fun _ c => decide (c ∈ kept)) [] l).take n = kept := by
      rw [chosen, filter_mem_eq once sub, List.take_of_length_le room]
    rw [← whole]
    refine take_survivors_eq fun front c back eq few => ?_
    rw [chosen] at few ⊢
    subst eq
    have early : ∀ k ∈ kept, (front ++ c :: back).idxOf k < (front ++ c :: back).idxOf c →
        k ∈ front.filter fun c => decide (c ∈ kept) := fun k member before =>
      List.mem_filter.mpr ⟨(mem_front_iff once).mpr before, by simpa using member⟩
    rw [Bool.eq_iff_iff, decide_eq_true_iff]
    unfold unopposed
    rw [List.all_eq_true]
    constructor
    · intro free
      by_contra dropped
      rcases covered c (by simp) dropped with opposed | full
      · obtain ⟨k, member, before, clashes⟩ := opposed
        simpa [clashes] using free k (early k member before)
      · obtain ⟨long, before⟩ := full
        have most := ((once.sublist sub).subperm fun k member =>
          early k member (before k member)).length_le
        omega
    · intro member k before
      have kept' := filter_mem_eq once sub
      rw [List.filter_append, List.filter_cons_of_pos (by simpa using member)] at kept'
      rw [← kept', List.pairwise_append] at apart
      simpa using apart.2.2 k before c List.mem_cons_self

end Conflict

end Greedy
