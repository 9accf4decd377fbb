import Mathlib.Algebra.BigOperators.Group.List.Basic
import Mathlib.Data.List.Forall2
import Mathlib.Tactic.Ring

/-!
# Row-major order

The elements of an array of any rank, one block of some length for each multi-index, written one
after the other with the last index running fastest, and read back at the position that the index
has in that order (`block_flatten`).
-/

namespace RowMajor

variable {α : Type}

/-- The indices of a shape, one number below each dimension. -/
def Index (shape idx : List Nat) : Prop := List.Forall₂ (· < ·) idx shape

instance (shape idx : List Nat) : Decidable (Index shape idx) :=
  inferInstanceAs (Decidable (List.Forall₂ (· < ·) idx shape))

/-- The position of an index. -/
def ravel : List Nat → List Nat → Nat
  | _ :: shape, i :: idx => i * shape.prod + ravel shape idx
  | _, _ => 0

/-- What is read at each index, in order. -/
def flatten : List Nat → (List Nat → List α) → List α
  | [], read => read []
  | d :: shape, read => (List.range d).flatMap fun i => flatten shape fun idx => read (i :: idx)

/-- The block of an index. -/
def block (size : Nat) (shape : List Nat) (data : List α) (idx : List Nat) : List α :=
  (data.drop (ravel shape idx * size)).take size

theorem ravel_lt {shape idx : List Nat} (valid : Index shape idx) :
    ravel shape idx < shape.prod := by
  induction valid with
  | nil => simp [ravel]
  | @cons i d idx shape below _ ih =>
      have row : i * shape.prod + shape.prod ≤ d * shape.prod := by
        have scaled := Nat.mul_le_mul_right shape.prod (Nat.succ_le_of_lt below)
        rw [Nat.succ_mul] at scaled
        exact scaled
      rw [ravel, List.prod_cons]
      omega

theorem length_flatMap_range {n d : Nat} {f : Nat → List α} (each : ∀ i < d, (f i).length = n) :
    ((List.range d).flatMap f).length = d * n := by
  induction d with
  | zero => simp
  | succ d ih =>
      have front := ih fun i below => each i (by omega)
      rw [List.range_succ, List.flatMap_append, List.length_append, front, List.flatMap_cons,
        List.flatMap_nil, List.append_nil, each d (by omega), Nat.succ_mul]

/-- A stretch within one of the parts. -/
theorem take_drop_flatMap_range {n d i j k : Nat} {f : Nat → List α}
    (each : ∀ i < d, (f i).length = n) (below : i < d) (inside : j + k ≤ n) :
    (((List.range d).flatMap f).drop (i * n + j)).take k = ((f i).drop j).take k := by
  obtain ⟨rest, rfl⟩ : ∃ rest, d = i + (rest + 1) := ⟨d - i - 1, by omega⟩
  have front : ((List.range i).flatMap f).length = i * n :=
    length_flatMap_range fun i' small => each i' (by omega)
  have here : (f i).length = n := each i (by omega)
  have split : (List.range (i + (rest + 1))).flatMap f = (List.range i).flatMap f ++
      (f i ++ ((List.range rest).map fun x => i + (x + 1)).flatMap f) := by
    rw [List.range_add, List.flatMap_append, List.range_succ_eq_map, List.map_cons,
      List.flatMap_cons, List.map_map]
    rfl
  rw [split, List.drop_append, front, List.drop_of_length_le (by omega), List.nil_append,
    Nat.add_sub_cancel_left, List.drop_append_of_le_length (by omega),
    List.take_append_of_le_length (by rw [List.length_drop]; omega)]

theorem length_flatten {size : Nat} {shape : List Nat} {read : List Nat → List α}
    (each : ∀ idx, Index shape idx → (read idx).length = size) :
    (flatten shape read).length = shape.prod * size := by
  induction shape generalizing read with
  | nil =>
      rw [flatten, each [] .nil]
      simp
  | cons d shape ih =>
      have rows : ∀ i < d,
          (flatten shape fun idx => read (i :: idx)).length = shape.prod * size :=
        fun i below => ih fun idx valid => each (i :: idx) (.cons below valid)
      rw [flatten, length_flatMap_range rows, List.prod_cons, Nat.mul_assoc]

/-- Reading back what was written. -/
theorem block_flatten {size : Nat} {shape : List Nat} {read : List Nat → List α}
    (each : ∀ idx, Index shape idx → (read idx).length = size) {idx : List Nat}
    (valid : Index shape idx) : block size shape (flatten shape read) idx = read idx := by
  induction shape generalizing read idx with
  | nil =>
      cases valid
      have whole := each [] .nil
      have front : ravel [] [] = 0 := rfl
      rw [block, flatten, front, Nat.zero_mul, List.drop_zero, List.take_of_length_le (by omega)]
  | cons d shape ih =>
      rcases valid with - | ⟨below, rest⟩
      rename_i i idx
      have rows : ∀ i < d,
          (flatten shape fun idx => read (i :: idx)).length = shape.prod * size :=
        fun i below => length_flatten fun idx valid => each (i :: idx) (.cons below valid)
      have fits : ravel shape idx * size + size ≤ shape.prod * size := by
        have scaled := Nat.mul_le_mul_right size (Nat.succ_le_of_lt (ravel_lt rest))
        rw [Nat.succ_mul] at scaled
        exact scaled
      have position : ravel (d :: shape) (i :: idx) * size =
          i * (shape.prod * size) + ravel shape idx * size := by
        rw [ravel]
        ring
      rw [block, flatten, position, take_drop_flatMap_range rows below fits]
      exact ih (fun idx valid => each (i :: idx) (.cons below valid)) rest

end RowMajor
