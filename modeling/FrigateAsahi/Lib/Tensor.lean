import FrigateAsahi.Lib.RowMajor
import Mathlib.Data.List.MinMax

/-!
# Tensors

Numbers in row-major order under a shape. The operations that only move numbers have one lemma
each, on what is read at an index of the result.
-/

namespace Tensors

open RowMajor

structure Tensor (α : Type) : Type where
  shape : List Nat
  data : List α
  length_eq : data.length = shape.prod

namespace Tensor

variable {α : Type}

/-! ## Making and reading -/

/-- The tensor that has a number at each index. -/
def ofIndex (shape : List Nat) (f : List Nat → α) : Tensor α :=
  ⟨shape, flatten shape fun idx => [f idx], by
    have length : (flatten shape fun idx => [f idx]).length = shape.prod * 1 :=
      length_flatten fun _ _ => rfl
    rwa [Nat.mul_one] at length⟩

/-- The indices of a shape, the last one running fastest. -/
def indices (shape : List Nat) : List (List Nat) := flatten shape fun idx => [idx]

theorem indices_one (n : Nat) : indices [n] = (List.range n).map fun i => [i] := by
  unfold indices flatten
  rw [List.map_eq_flatMap]
  rfl

@[simp] theorem shape_ofIndex (shape : List Nat) (f : List Nat → α) :
    (ofIndex shape f).shape = shape := rfl

variable [Zero α]

/-- The number at an index; zero where there is none. -/
def read (t : Tensor α) (idx : List Nat) : α := t.data.getD (ravel t.shape idx) 0

/-- The numbers along the last axis. -/
def last (t : Tensor α) (idx : List Nat) : List α :=
  (List.range (t.shape.getLastD 0)).map fun k => t.read (idx ++ [k])

theorem read_ofIndex {shape idx : List Nat} {f : List Nat → α} (valid : Index shape idx) :
    (ofIndex shape f).read idx = f idx := by
  have one : block 1 shape (flatten shape fun idx => [f idx]) idx = [f idx] :=
    block_flatten (fun idx _ => List.length_singleton (a := f idx)) valid
  rw [block, Nat.mul_one] at one
  have first := congrArg (fun l => l.getD 0 0) one
  simpa [read, ofIndex, List.getD_eq_getElem?_getD, List.getElem?_take] using first

theorem getD_map_range {f : Nat → α} {n k : Nat} (below : k < n) :
    ((List.range n).map f).getD k 0 = f k := by
  simp [List.getD_eq_getElem?_getD, below]

/-! ## Moving numbers -/

/-- The same numbers under another shape of the same size. -/
def reshape (t : Tensor α) (shape : List Nat) : Option (Tensor α) :=
  if size : t.shape.prod = shape.prod then some ⟨shape, t.data, t.length_eq.trans size⟩ else none

/-- The index that a transposition reads: the axis `axes[j]` of the source is the axis `j` of the
result. -/
def source (axes idx : List Nat) : List Nat :=
  (List.range axes.length).map fun k => idx.getD (axes.idxOf k) 0

def transpose (t : Tensor α) (axes : List Nat) : Tensor α :=
  ofIndex (axes.map fun k => t.shape.getD k 0) fun idx => t.read (source axes idx)

/-- The part under one position of the first axis. -/
def index (t : Tensor α) (i : Nat) : Option (Tensor α) :=
  match t.shape with
  | [] => none
  | d :: shape => if i < d then some (ofIndex shape fun idx => t.read (i :: idx)) else none

/-- Without the axes of length one. -/
def squeeze (t : Tensor α) : Tensor α :=
  ⟨t.shape.filter (· ≠ 1), t.data, by
    rw [t.length_eq]
    induction t.shape with
    | nil => rfl
    | cons d shape ih => by_cases one : d = 1 <;> simp [one, ih]⟩

/-- All axes reversed. -/
def reversed (t : Tensor α) : Tensor α := t.transpose (List.range t.shape.length).reverse

/-- One number for each stretch along the last axis. -/
def reduceLast {β : Type} (t : Tensor α) (f : List α → β) : Tensor β :=
  ofIndex t.shape.dropLast fun idx => f (t.last idx)

/-- Each stretch along the last axis on its own. -/
def mapLast (t : Tensor α) (f : List α → List α) : Tensor α :=
  ofIndex t.shape fun idx => (f (t.last idx.dropLast)).getD (idx.getLastD 0) 0

theorem read_reshape {t r : Tensor α} {shape idx idx' : List Nat} (made : t.reshape shape = some r)
    (same : ravel shape idx = ravel t.shape idx') : r.read idx = t.read idx' := by
  unfold reshape at made
  split at made
  · cases made
    rw [read, read, same]
  · cases made

theorem read_transpose {t : Tensor α} {axes idx : List Nat}
    (valid : Index (axes.map fun k => t.shape.getD k 0) idx) :
    (t.transpose axes).read idx = t.read (source axes idx) :=
  read_ofIndex valid

theorem read_index {t r : Tensor α} {i d : Nat} {shape idx : List Nat} (whole : t.shape = d :: shape)
    (made : t.index i = some r) (valid : Index shape idx) : r.read idx = t.read (i :: idx) := by
  unfold index at made
  rw [whole] at made
  dsimp only at made
  split at made
  · cases made
    exact read_ofIndex valid
  · cases made

theorem shape_index {t r : Tensor α} {i d : Nat} {shape : List Nat} (whole : t.shape = d :: shape)
    (made : t.index i = some r) : i < d ∧ r.shape = shape := by
  unfold index at made
  rw [whole] at made
  dsimp only at made
  split at made
  · next inside =>
      cases made
      exact ⟨inside, rfl⟩
  · cases made

omit [Zero α] in
theorem shape_reshape {t r : Tensor α} {shape : List Nat} (made : t.reshape shape = some r) :
    r.shape = shape := by
  unfold reshape at made
  split at made
  · cases made
    rfl
  · cases made

omit [Zero α] in
theorem drop_map_range (k n : Nat) (f : Nat → α) :
    ((List.range (n + k)).map f).drop k = (List.range n).map fun i => f (i + k) := by
  have split : List.range (n + k) = List.range k ++ (List.range n).map fun i => k + i := by
    rw [Nat.add_comm, List.range_add]
  have front : ((List.range k).map f).length = k := by rw [List.length_map, List.length_range]
  rw [split, List.map_append, List.drop_left' front, List.map_map]
  exact List.map_congr_left fun i _ => congrArg f (Nat.add_comm k i)

/-! ## Stretching -/

/-- Whether a shape stretches over another one. Both are given from the last axis on. -/
def stretches : List Nat → List Nat → Bool
  | [], _ => true
  | d :: shape, [] => d = 1 && stretches shape []
  | d :: shape, e :: target => (d = e || d = 1) && stretches shape target

/-- The index that is read where an axis of length one is stretched, from the last axis on. -/
def squashed : List Nat → List Nat → List Nat
  | [], _ => []
  | _ :: shape, [] => 0 :: squashed shape []
  | d :: shape, i :: idx => (if d = 1 then 0 else i) :: squashed shape idx

def stretchesOver (t : Tensor α) (shape : List Nat) : Bool :=
  stretches t.shape.reverse shape.reverse

/-- The number at an index of the shape that the tensor is stretched over. -/
def stretched (t : Tensor α) (idx : List Nat) : α :=
  t.read (squashed t.shape.reverse idx.reverse).reverse

end Tensor

/-! ## The first greatest number -/

section Argmax

variable {α : Type} [Zero α] [LinearOrder α]

/-- The first position of the greatest number; zero when there is no number. -/
def argmax (v : List α) : Nat := ((List.range v.length).argmax fun i => v.getD i 0).getD 0

/-- The greatest number; zero when there is none. -/
def maximum (v : List α) : α := v.getD (argmax v) 0

theorem argmax_spec {v : List α} (some' : v ≠ []) : argmax v < v.length ∧
    (∀ i < v.length, v.getD i 0 ≤ v.getD (argmax v) 0) ∧
      ∀ i < argmax v, v.getD i 0 < v.getD (argmax v) 0 := by
  have positive : 0 < v.length := List.length_pos_iff.mpr some'
  obtain ⟨m, found⟩ : ∃ m, m ∈ (List.range v.length).argmax fun i => v.getD i 0 := by
    refine Option.ne_none_iff_exists'.mp fun none' => ?_
    rw [List.argmax_eq_none, List.range_eq_nil] at none'
    omega
  have here : argmax v = m := by
    rw [argmax, Option.mem_def.mp found]
    rfl
  have bound : m < v.length := List.mem_range.mp (List.argmax_mem found)
  have greatest : ∀ i < v.length, v.getD i 0 ≤ v.getD m 0 := fun i below =>
    List.le_of_mem_argmax (f := fun i => v.getD i 0) (List.mem_range.mpr below) found
  rw [here]
  refine ⟨bound, greatest, fun i before => ?_⟩
  have below : i < v.length := by omega
  refine lt_of_le_of_ne (greatest i below) fun equal => ?_
  have first := List.index_of_argmax (f := fun i => v.getD i 0) found (List.mem_range.mpr below)
    equal.symm.le
  have place : ∀ i < v.length, (List.range v.length).idxOf i = i := by
    intro i below
    have numbered := List.nodup_range.idxOf_getElem i (by simpa using below)
    rwa [List.getElem_range] at numbered
  rw [place m bound, place i below] at first
  omega

end Argmax

end Tensors
