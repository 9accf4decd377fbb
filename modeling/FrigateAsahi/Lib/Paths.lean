import FrigateAsahi.Lib.Python
import Mathlib.Data.List.Infix

/-!
# Where a path leads

A place in a file system without symbolic links is the list of the names on the way to it, the
last one first. A path is walked component by component from the root or from a working directory:
an empty component and `.` stay, `..` goes up, and the root is its own parent. A path joined to a
directory leads where the second path leads from that directory (`place_pathJoin`).
-/

namespace Paths

open Text Python

abbrev Place : Type := List PyStr

/-- One component. -/
def enter (at' : Place) (component : PyStr) : Place :=
  if component = [] ∨ component = py "." then at'
  else if component = py ".." then at'.tail
  else component :: at'

/-- The components of a path, one after the other. -/
def walk (start : Place) (p : PyStr) : Place := (p.splitOn (chr '/')).foldl enter start

def absolute (p : PyStr) : Prop := p.head? = some (chr '/')

instance (p : PyStr) : Decidable (absolute p) := inferInstanceAs (Decidable (_ = _))

/-- Where a path leads. -/
def place (cwd : Place) (p : PyStr) : Place := walk (if absolute p then [] else cwd) p

/-- Strictly below a place. -/
def Below (dir at' : Place) : Prop := dir <:+ at' ∧ dir ≠ at'

instance (dir at' : Place) : Decidable (Below dir at') := inferInstanceAs (Decidable (_ ∧ _))

@[simp] theorem walk_nil (start : Place) : walk start [] = start := by
  simp [walk, enter]

theorem walk_separator (start : Place) (p q : PyStr) :
    walk start (p ++ chr '/' :: q) = walk (walk start p) q := by
  have split : (p ++ chr '/' :: q).splitOn (chr '/') =
      p.splitOn (chr '/') ++ q.splitOn (chr '/') := by
    simp only [List.splitOn_eq_splitOnP]
    exact List.splitOnP_append_cons p q (beq_self_eq_true (chr '/'))
  unfold walk
  rw [split, List.foldl_append]

/-- A separator at the end of a path changes nothing. -/
theorem walk_trailing (start : Place) {p : PyStr} (trailing : p.getLast? = some (chr '/'))
    (q : PyStr) : walk start (p ++ q) = walk (walk start p) q := by
  obtain ⟨stem, rfl⟩ := List.getLast?_eq_some_iff.mp trailing
  rw [List.append_assoc, List.singleton_append, walk_separator, walk_separator, walk_nil]

theorem place_pathJoin (cwd : Place) (dir name : PyStr) :
    place cwd (pathJoin dir name) =
      walk (if absolute name then [] else place cwd dir) name := by
  unfold pathJoin
  by_cases root : absolute name
  · rw [if_pos (.inl root), if_pos root, place, if_pos root]
  · rw [if_neg root]
    by_cases empty : dir = []
    · subst empty
      rw [if_pos (.inr rfl), place, if_neg root]
      simp [place, absolute]
    · rw [if_neg (c := name.head? = some (chr '/') ∨ dir = []) (not_or.mpr ⟨root, empty⟩)]
      have head : ∀ rest, absolute (dir ++ rest) ↔ absolute dir := by
        intro rest
        obtain ⟨c, dir, rfl⟩ := List.exists_cons_of_ne_nil empty
        exact Iff.rfl
      split
      · next trailing => simp only [place, head, walk_trailing _ trailing]
      · simp only [place, head, walk_separator]

end Paths
