import FrigateAsahi.MultipartDecoding
import Mathlib.Algebra.Order.Field.Basic

/-!
# Boxes at the border of the frame

Of a box that several heads decode to, the near corner is cut off at zero and the far corner at the
size of the frame, and neither at the other bound. So a box that lies beside the frame comes out
with a corner outside, or with its corners in the wrong order.
-/

namespace ModelUtil

open Python Tensors

variable {K : Type} [Field K] [LinearOrder K]

/-! ## Rows -/

/-- A row whose box is inside the frame with its corners in order. -/
structure InFrame (row : List K) : Prop where
  y_min : 0 ≤ row.getD 2 0
  y_order : row.getD 2 0 ≤ row.getD 4 0
  y_max : row.getD 4 0 ≤ 1
  x_min : 0 ≤ row.getD 3 0
  x_order : row.getD 3 0 ≤ row.getD 5 0
  x_max : row.getD 5 0 ≤ 1

/-- The box of a cell, as it is decoded, is not beside the frame. -/
structure Cell.Meets (width height : Int) (c : Cell K) : Prop where
  left : 0 ≤ c.centerX + c.width / 2
  right : c.centerX - c.width / 2 ≤ width
  top : 0 ≤ c.centerY + c.height / 2
  bottom : c.centerY - c.height / 2 ≤ height

section Ordered

variable [IsStrictOrderedRing K]

/-- One axis: the interval meets the frame exactly if its ends come out in order inside of it. -/
theorem clipped_iff {low high size : K} (pos : 0 < size) (order : low ≤ high) :
    (0 ≤ max 0 low / size ∧ max 0 low / size ≤ min size high / size ∧ min size high / size ≤ 1) ↔
      0 ≤ high ∧ low ≤ size := by
  have near : 0 ≤ max 0 low / size := div_nonneg (le_max_left 0 low) pos.le
  have far : min size high / size ≤ 1 := (div_le_one pos).mpr (min_le_left size high)
  rw [and_iff_right near, and_iff_left far, div_le_div_iff_of_pos_right pos, max_le_iff, le_min_iff,
    le_min_iff, and_iff_right pos.le, and_iff_left order]

theorem Cell.interval_le (center : K) {extent : K} (pos : 0 ≤ extent) :
    center - extent / 2 ≤ center + extent / 2 := by
  have half : 0 ≤ extent / 2 := div_nonneg pos zero_le_two
  exact (sub_le_self center half).trans (le_add_of_nonneg_right half)

theorem Cell.width_nonneg (c : Cell K) : 0 ≤ c.width :=
  mul_nonneg (sq_nonneg _) (Nat.cast_nonneg _)

theorem Cell.height_nonneg (c : Cell K) : 0 ≤ c.height :=
  mul_nonneg (sq_nonneg _) (Nat.cast_nonneg _)

theorem Cell.inFrame_toRow_iff {width height : Int} (widthPos : 0 < width) (heightPos : 0 < height)
    (c : Cell K) : InFrame (c.toRow width height) ↔ c.Meets width height := by
  have x := clipped_iff (Int.cast_pos (R := K).mpr widthPos)
    (Cell.interval_le c.centerX c.width_nonneg)
  have y := clipped_iff (Int.cast_pos (R := K).mpr heightPos)
    (Cell.interval_le c.centerY c.height_nonneg)
  constructor
  · intro inside
    obtain ⟨left, right⟩ := x.mp ⟨inside.x_min, inside.x_order, inside.x_max⟩
    obtain ⟨top, bottom⟩ := y.mp ⟨inside.y_min, inside.y_order, inside.y_max⟩
    exact ⟨left, right, top, bottom⟩
  · intro meets
    obtain ⟨xMin, xOrder, xMax⟩ := x.mpr ⟨meets.left, meets.right⟩
    obtain ⟨yMin, yOrder, yMax⟩ := y.mpr ⟨meets.top, meets.bottom⟩
    exact ⟨yMin, yOrder, yMax, xMin, xOrder, xMax⟩

theorem threshold_pos : (0 : K) < threshold := div_pos two_pos (by norm_num)

/-- A cell that scores high enough does not give a row of zeros. -/
theorem Cell.toRow_ne_zero {width height : Int} {c : Cell K} (high : threshold ≤ c.score) :
    c.toRow width height ≠ List.replicate 6 0 := by
  intro zeros
  have score : c.score = 0 := congrArg (fun row : List K => row.getD 1 0) zeros
  exact absurd high (not_le.mpr (by rw [score]; exact threshold_pos))

/-- The rows that are not zero are those of the cells that `NMSBoxes` keeps, the first twenty of
them. All are inside the frame exactly if the boxes of these cells are not beside it. -/
theorem multipart_inFrame_iff {nmsBoxes : List (Rect K) → List K → K → K → List Nat}
    (selects : Selects nmsBoxes) (heads : List (Tensor K)) {width height : Int}
    (widthPos : 0 < width) (heightPos : 0 < height) (known : heads.length ≤ 3)
    (shapes : ∀ head ∈ heads, ∃ ny nx, head.shape = [1, 255, ny, nx]) :
    ∃ kept rows, List.Forall₂ (fun i c => (passing (cellsFrom 0 heads))[i]? = some c)
        ((Found.empty.extend width height (passing (cellsFrom 0 heads))).picked nmsBoxes) kept ∧
      postProcessMultipartYolo nmsBoxes heads width height = .ok rows ∧
      ((∀ row ∈ rows, row ≠ List.replicate 6 0 → InFrame row) ↔
        ∀ c ∈ kept.take 20, c.Meets width height) := by
  obtain ⟨-, valid, -⟩ := selects
    ((passing (cellsFrom 0 heads)).map fun c => (c.box width height).asRect)
    ((passing (cellsFrom 0 heads)).map Cell.score) threshold threshold (by simp)
  rw [← picked_extend nmsBoxes width height, List.length_map] at valid
  obtain ⟨kept, named⟩ := forall₂_items valid
  refine ⟨kept, _, named, postProcessMultipartYolo_eq known shapes named, ?_⟩
  have high : ∀ c ∈ kept, threshold ≤ c.score := by
    intro c member
    obtain ⟨i, bound, rfl⟩ := List.mem_iff_getElem.mp member
    have found := named.get (by rw [named.length_eq]; exact bound) bound
    exact of_decide_eq_true (List.mem_filter.mp (List.mem_of_getElem? found)).2
  constructor
  · intro inside c member
    have row := inside (c.toRow width height)
      (List.mem_append_left _ (List.mem_map_of_mem member))
      (Cell.toRow_ne_zero (high c (List.mem_of_mem_take member)))
    exact (Cell.inFrame_toRow_iff widthPos heightPos c).mp row
  · intro meets row member nonzero
    rcases List.mem_append.mp member with row' | zero
    · obtain ⟨c, present, rfl⟩ := List.mem_map.mp row'
      exact (Cell.inFrame_toRow_iff widthPos heightPos c).mpr (meets c present)
    · exact absurd (List.eq_of_mem_replicate zero) nonzero

end Ordered

/-! ## A box beside the frame -/

/-- A head of a grid of two by two that finds nothing. -/
def emptyHead : Tensor ℚ := ⟨[1, 255, 2, 2], List.replicate 1020 0, by decide +kernel⟩

/-- A head of one cell, whose box is without a width at the left border or in the middle of the frame. -/
def singleHead (inside : Bool) : Tensor ℚ :=
  ⟨[1, 255, 1, 1], (if inside then [1 / 2, 1 / 2, 1 / 4, 1 / 8, 1, 1]
    else [0, 1 / 2, 0, 1 / 2, 1, 1]) ++ List.replicate 249 0, by cases inside <;> decide +kernel⟩

def singleCell (inside : Bool) : Cell ℚ := ⟨1, singleHead inside, 0, 0, 0⟩

theorem single_shapes (inside : Bool) :
    ∀ head ∈ [emptyHead, singleHead inside], ∃ ny nx, head.shape = [1, 255, ny, nx] := by
  intro head member
  simp only [List.mem_cons, List.not_mem_nil, or_false] at member
  rcases member with rfl | rfl
  · exact ⟨2, 2, rfl⟩
  · exact ⟨1, 1, rfl⟩

theorem passing_single (inside : Bool) :
    passing (cellsFrom 0 [emptyHead, singleHead inside]) = [singleCell inside] := by
  have zeros (k : Nat) : emptyHead.data.getD k 0 = 0 := by
    rw [emptyHead, List.getD_eq_getElem?_getD, List.getElem?_replicate]
    split
    · rfl
    · rfl
  have nothing : passing (headCells 0 emptyHead 2 2) = [] := by
    refine List.filter_eq_nil_iff.mpr fun c member => ?_
    obtain ⟨a, -, member⟩ := List.mem_flatMap.mp member
    obtain ⟨y, -, member⟩ := List.mem_flatMap.mp member
    obtain ⟨x, -, rfl⟩ := List.mem_map.mp member
    have zero : (⟨0, emptyHead, a, y, x⟩ : Cell ℚ).objectness = 0 := zeros _
    rw [Cell.score, zero, zero_mul]
    decide +kernel
  have one : passing (headCells 1 (singleHead inside) 1 1) = [singleCell inside] := by
    have cells : headCells 1 (singleHead inside) 1 1 =
        [singleCell inside, ⟨1, singleHead inside, 1, 0, 0⟩, ⟨1, singleHead inside, 2, 0, 0⟩] := rfl
    have high : threshold ≤ (singleCell inside).score := by cases inside <;> decide +kernel
    have low₁ : ¬ threshold ≤ (⟨1, singleHead inside, 1, 0, 0⟩ : Cell ℚ).score := by
      cases inside <;> decide +kernel
    have low₂ : ¬ threshold ≤ (⟨1, singleHead inside, 2, 0, 0⟩ : Cell ℚ).score := by
      cases inside <;> decide +kernel
    simp [cells, passing, high, low₁, low₂]
  have all : cellsFrom 0 [emptyHead, singleHead inside] =
      headCells 0 emptyHead 2 2 ++ (headCells 1 (singleHead inside) 1 1 ++ []) := rfl
  rw [all, List.append_nil]
  unfold passing at nothing one ⊢
  rw [List.filter_append, nothing, one, List.nil_append]

/-- What is kept is the one cell that is found. -/
theorem single_picked (inside : Bool) :
    (Found.empty.extend 16 16 (passing (cellsFrom 0 [emptyHead, singleHead inside]))).picked
      keepAbove = [0] := by
  rw [passing_single]
  cases inside <;> decide +kernel

theorem single_row (inside : Bool) : (singleCell inside).toRow 16 16 =
    if inside then [0, 1, 181 / 512, 7 / 32, 331 / 512, 25 / 32] else [0, 1, 0, 0, 1, -1 / 2] := by
  cases inside <;> decide +kernel

/-- The box in the middle comes out inside the frame. -/
theorem multipart_inFrame_iff_inside :
    ∃ rows, postProcessMultipartYolo keepAbove [emptyHead, singleHead true] 16 16 = .ok rows ∧
      [0, 1, 181 / 512, 7 / 32, 331 / 512, 25 / 32] ∈ rows ∧
      ∀ row ∈ rows, row ≠ List.replicate 6 0 → InFrame row := by
  obtain ⟨kept, rows, named, done, inFrame⟩ := multipart_inFrame_iff selects_keepAbove
    [emptyHead, singleHead true] (by decide : 0 < (16 : Int)) (by decide : 0 < (16 : Int))
    (by decide) (single_shapes true)
  have only : kept = [singleCell true] := by
    have picked := named
    rw [single_picked, passing_single] at picked
    obtain ⟨c, cells, found, rest, rfl⟩ := List.forall₂_cons_left_iff.mp picked
    cases found
    cases rest
    rfl
  subst only
  have row := single_row true
  rw [if_pos rfl] at row
  refine ⟨rows, done, ?_, ?_⟩
  · rw [postProcessMultipartYolo_eq (by decide) (single_shapes true) named] at done
    obtain rfl := Except.ok.inj done
    rw [← row]
    exact List.mem_append_left _ (List.mem_singleton_self _)
  · refine inFrame.mpr fun c member => ?_
    obtain rfl := List.mem_singleton.mp member
    refine (Cell.inFrame_toRow_iff (by decide) (by decide) _).mp ?_
    rw [row]
    constructor <;> norm_num

/-- All values are between zero and one, and the right side of the box is left of the frame. -/
theorem border_out_of_frame :
    (∀ head ∈ [emptyHead, singleHead false], ∀ v ∈ head.data, 0 ≤ v ∧ v ≤ 1) ∧
      [emptyHead, singleHead false].map (fun head => head.shape.drop 2) = [[2, 2], [1, 1]] ∧
      postProcessMultipartYolo keepAbove [emptyHead, singleHead false] 16 16 =
        .ok ([0, 1, 0, 0, 1, -1 / 2] :: List.replicate 19 (List.replicate 6 0)) ∧
      ¬ InFrame ([0, 1, 0, 0, 1, -1 / 2] : List ℚ) := by
  have unit : ∀ head ∈ [emptyHead, singleHead false], ∀ v ∈ head.data, 0 ≤ v ∧ v ≤ 1 := by
    intro head member v held
    simp only [List.mem_cons, List.not_mem_nil, or_false] at member
    rcases member with rfl | rfl
    · rw [List.eq_of_mem_replicate held]
      exact ⟨le_refl 0, zero_le_one⟩
    · unfold singleHead at held
      rcases List.mem_append.mp held with first | later
      · rw [if_neg (by decide)] at first
        simp only [List.mem_cons, List.not_mem_nil, or_false] at first
        rcases first with rfl | rfl | rfl | rfl | rfl | rfl
        all_goals norm_num
      · rw [List.eq_of_mem_replicate later]
        exact ⟨le_refl 0, zero_le_one⟩
  have named : List.Forall₂
      (fun i c => (passing (cellsFrom 0 [emptyHead, singleHead false]))[i]? = some c)
      ((Found.empty.extend 16 16 (passing (cellsFrom 0 [emptyHead, singleHead false]))).picked
        keepAbove) [singleCell false] := by
    rw [single_picked, passing_single]
    exact .cons rfl .nil
  refine ⟨unit, rfl, ?_, ?_⟩
  · rw [postProcessMultipartYolo_eq (by decide) (single_shapes false) named]
    have row := single_row false
    rw [if_neg (by decide)] at row
    rw [← row]
    rfl
  · intro inside
    have order := inside.x_order
    norm_num at order

end ModelUtil
