import FrigateAsahi.Lib.Greedy
import FrigateAsahi.ModelUtil
import Mathlib.Data.List.Sort

/-!
# Which boxes suppress each other

All four functions hand the corners of their boxes to `NMSBoxes`, which takes the far corner for a
width and a height. So what is suppressed is decided on stretched rectangles, whose far corner is
the sum of both corners of the box that is returned. It comes out right exactly when the boxes that
ought to be kept stay apart when they are stretched, and the others then still run into one of them
that ranks higher (`suppression_iff`).
-/

namespace ModelUtil

open Python Tensors Greedy

variable {K : Type} [Field K] [LinearOrder K]

/-! ## Overlap -/

namespace Box

/-- Zero where the corners are not in order. -/
def area (b : Box K) : K := max 0 (b.x2 - b.x1) * max 0 (b.y2 - b.y1)

def meet (a b : Box K) : Box K := ⟨max a.x1 b.x1, max a.y1 b.y1, min a.x2 b.x2, min a.y2 b.y2⟩

/-- Intersection over union. -/
def iou (a b : Box K) : K := (a.meet b).area / (a.area + b.area - (a.meet b).area)

theorem iou_comm (a b : Box K) : a.iou b = b.iou a := by
  have same : a.meet b = b.meet a := by
    unfold meet
    rw [max_comm a.x1, max_comm a.y1, min_comm a.x2, min_comm a.y2]
  unfold iou
  rw [same, add_comm a.area]

def IsProper (b : Box K) : Prop := b.x1 < b.x2 ∧ b.y1 < b.y2

instance (b : Box K) : Decidable b.IsProper := inferInstanceAs (Decidable (_ ∧ _))

/-- The box that the four numbers stand for when the far corner is taken for a size: its far corner
is the sum of both. -/
def stretched (b : Box K) : Box K := ⟨b.x1, b.y1, b.x1 + b.x2, b.y1 + b.y2⟩

/-- As a size, the far corner is one. -/
def Stretches (b : Box K) : Prop := 0 < b.x2 ∧ 0 < b.y2

end Box

def Rect.corners (r : Rect K) : Box K := ⟨r.x, r.y, r.x + r.width, r.y + r.height⟩

/-! ## What `NMSBoxes` is documented to do -/

/-- The rectangles whose score is above a threshold are gone through by descending score, in an
order that `rank` gives also for equal scores. One is kept unless its overlap with one that was kept
exceeds another threshold. Of rectangles without an area nothing is said. -/
structure GreedyNms (nmsBoxes : List (Rect K) → List K → K → K → List Nat) : Type where
  rank : List K → K → List Nat
  exceeds : K → Rect K → Rect K → Bool
  mem_rank : ∀ {scores t i}, i ∈ rank scores t ↔ ∃ s, scores[i]? = some s ∧ t < s
  nodup_rank : ∀ scores t, (rank scores t).Nodup
  sorted_rank : ∀ scores t,
    (rank scores t).Pairwise fun i j => scores.getD j 0 ≤ scores.getD i 0
  exceeds_iff : ∀ {t a b}, 0 < a.width → 0 < a.height → 0 < b.width → 0 < b.height →
    (exceeds t a b = true ↔ t < a.corners.iou b.corners)
  picks : ∀ bboxes scores t u, bboxes.length = scores.length → nmsBoxes bboxes scores t u =
    survivors (unopposed fun i j =>
      exceeds u (bboxes.getD i ⟨0, 0, 0, 0⟩) (bboxes.getD j ⟨0, 0, 0, 0⟩)) [] (rank scores t)

/-! ## Suppression on the real boxes -/

namespace Found

variable (found : Found K)

def box (i : Nat) : Box K := found.boxes.getD i ⟨0, 0, 0, 0⟩

def score (i : Nat) : K := found.scores.getD i 0

/-- Two entries overlap as boxes. -/
def overlap (i j : Nat) : Bool := decide (threshold < (found.box i).iou (found.box j))

end Found

section Ideal

variable (found : Found K)

/-- The entries that score above the threshold, by descending score. Entries of equal score may come
in any order. -/
structure Ranked (order : List Nat) : Prop where
  nodup : order.Nodup
  mem_iff : ∀ i, i ∈ order ↔ ∃ s, found.scores[i]? = some s ∧ threshold < s
  sorted : order.Pairwise fun i j => found.score j ≤ found.score i

/-- Greedy suppression on the boxes that have an area. -/
def greedyOnBoxes (ranked : List Nat) : List Nat :=
  survivors (unopposed found.overlap) [] (ranked.filter fun i => decide (found.box i).IsProper)

/-- The entries that are returned are the first twenty of those that greedy suppression leaves of
the candidates. No two of them overlap, and a candidate that is not among them, although there was
room, overlaps one that is and that scores no less. -/
structure Suppressed (returned : List Nat) : Prop where
  greedy : ∃ order, Ranked found order ∧ returned = (greedyOnBoxes found order).take 20
  apart : ∀ i ∈ returned, ∀ j ∈ returned, i ≠ j → (found.box i).iou (found.box j) ≤ threshold
  covered : returned.length < 20 → ∀ i < found.scores.length, (found.box i).IsProper →
    threshold < found.score i → i ∉ returned →
      ∃ j ∈ returned, found.score i ≤ found.score j ∧
        threshold < (found.box i).iou (found.box j)

variable {found} {order : List Nat}

theorem apart_greedyOnBoxes {i j : Nat} (left : i ∈ greedyOnBoxes found order)
    (right : j ∈ greedyOnBoxes found order) (differ : i ≠ j) :
    (found.box i).iou (found.box j) ≤ threshold := by
  have pairwise : (greedyOnBoxes found order).Pairwise fun i j =>
      (found.box i).iou (found.box j) ≤ threshold := by
    refine (pairwise_survivors found.overlap List.Pairwise.nil _).imp fun {i j} free => ?_
    rw [Box.iou_comm]
    simpa [Found.overlap] using free
  have symmetric : Std.Symm fun i j => (found.box i).iou (found.box j) ≤ threshold := by
    refine ⟨fun i j le => ?_⟩
    rwa [Box.iou_comm]
  exact pairwise.forall left right differ

/-- A candidate that is suppressed overlaps one that is kept and that was ranked before it. -/
theorem covered_greedyOnBoxes (ranked : Ranked found order) {i : Nat}
    (bound : i < found.scores.length) (proper : (found.box i).IsProper)
    (high : threshold < found.score i) (dropped : i ∉ greedyOnBoxes found order) :
    ∃ j ∈ greedyOnBoxes found order,
      found.score i ≤ found.score j ∧ threshold < (found.box i).iou (found.box j) := by
  have scored : found.scores[i]? = some (found.score i) := by
    unfold Found.score
    rw [List.getD_eq_getElem?_getD, List.getElem?_eq_getElem bound]
    rfl
  have member : i ∈ order := (ranked.mem_iff i).mpr ⟨_, scored, high⟩
  obtain ⟨front, back, j, split, before, kept, clash⟩ := opposed_of_not_mem found.overlap
    (List.mem_filter.mpr ⟨member, decide_eq_true proper⟩) dropped
  have sorted := ranked.sorted.filter fun i => decide (found.box i).IsProper
  rw [split] at sorted
  refine ⟨j, kept, ?_, of_decide_eq_true clash⟩
  exact (List.pairwise_append.mp sorted).2.2 j before i List.mem_cons_self

/-- Greedy suppression does what it is for, in whatever order equal scores come. -/
theorem suppressed_greedyOnBoxes (ranked : Ranked found order) :
    Suppressed found ((greedyOnBoxes found order).take 20) := by
  refine ⟨⟨order, ranked, rfl⟩, ?_, ?_⟩
  · intro i left j right differ
    exact apart_greedyOnBoxes (List.mem_of_mem_take left) (List.mem_of_mem_take right) differ
  · intro room i bound proper high dropped
    rw [List.length_take] at room
    have all : (greedyOnBoxes found order).take 20 = greedyOnBoxes found order :=
      List.take_of_length_le (by omega)
    rw [all] at dropped ⊢
    exact covered_greedyOnBoxes ranked bound proper high dropped

end Ideal

/-! ## Suppression on the stretched boxes -/

section Suppression

variable {nmsBoxes : List (Rect K) → List K → K → K → List Nat} (nms : GreedyNms nmsBoxes)
  (found : Found K)

/-- One entry comes before another one when `NMSBoxes` goes through them. -/
def Before (k i : Nat) : Prop :=
  (nms.rank found.scores threshold).idxOf k < (nms.rank found.scores threshold).idxOf i

/-- Two boxes run into each other when they are stretched. Where a far corner is not a size, it is
up to `NMSBoxes` what it makes of the numbers. -/
def Collide (i j : Nat) : Prop :=
  ((found.box i).Stretches ∧ (found.box j).Stretches ∧
      threshold < (found.box i).stretched.iou (found.box j).stretched) ∨
    ¬ ((found.box i).Stretches ∧ (found.box j).Stretches) ∧
      nms.exceeds threshold
        ⟨(found.box i).x1, (found.box i).y1, (found.box i).x2, (found.box i).y2⟩
        ⟨(found.box j).x1, (found.box j).y1, (found.box j).x2, (found.box j).y2⟩ = true

/-- Entries stay the ones to keep when all boxes are stretched: none of them runs into another one,
and every other entry above the threshold runs into one that comes before it, or all twenty come
before it. -/
structure KeptAlike (kept : List Nat) : Prop where
  ranked : kept.Sublist (nms.rank found.scores threshold)
  apart : kept.Pairwise fun k i => ¬ Collide nms found i k
  covered : ∀ i < found.scores.length, threshold < found.score i → i ∉ kept →
    (∃ k ∈ kept, Before nms found k i ∧ Collide nms found i k) ∨
      (kept.length = 20 ∧ ∀ k ∈ kept, Before nms found k i)

/-- In some order of equal scores, what greedy suppression keeps of the boxes stays the same when
they are stretched. -/
def ReadAlike : Prop :=
  ∃ order, Ranked found order ∧ KeptAlike nms found ((greedyOnBoxes found order).take 20)

/-- What `NMSBoxes` makes of two of the boxes that it is handed. -/
def misread (i j : Nat) : Bool :=
  nms.exceeds threshold (found.box i).asRect (found.box j).asRect

theorem misread_iff (i j : Nat) : misread nms found i j = true ↔ Collide nms found i j := by
  unfold misread Collide
  by_cases sizes : (found.box i).Stretches ∧ (found.box j).Stretches
  · obtain ⟨left, right⟩ := sizes
    have exceeds := nms.exceeds_iff (t := threshold) (a := (found.box i).asRect)
      (b := (found.box j).asRect) left.1 left.2 right.1 right.2
    have corners : ∀ b : Box K, b.asRect.corners = b.stretched := fun _ => rfl
    rw [exceeds, corners, corners]
    simp [left, right]
  · rw [and_iff_right sizes, ← and_assoc, or_iff_right fun both => sizes both.1]
    rfl

theorem picked_eq : found.picked nmsBoxes =
    survivors (unopposed (misread nms found)) [] (nms.rank found.scores threshold) := by
  unfold Found.picked
  rw [nms.picks _ _ _ _ (by rw [List.length_map, found.boxes_length])]
  have handed : ∀ i, (found.boxes.map Box.asRect).getD i ⟨0, 0, 0, 0⟩ = (found.box i).asRect := by
    intro i
    unfold Found.box
    rw [List.getD_eq_getElem?_getD, List.getElem?_map, List.getD_eq_getElem?_getD]
    cases found.boxes[i]? with
    | none => rfl
    | some b => rfl
  simp only [handed]
  rfl

/-- What is returned can be told from the stretched boxes. -/
theorem returned_eq_iff {kept : List Nat} (room : kept.length ≤ 20) :
    (found.picked nmsBoxes).take 20 = kept ↔ KeptAlike nms found kept := by
  have free : ∀ i k, misread nms found i k = false ↔ ¬ Collide nms found i k := by
    intro i k
    rw [← misread_iff, Bool.not_eq_true]
  have entries : ∀ i, i ∈ nms.rank found.scores threshold ↔
      i < found.scores.length ∧ threshold < found.score i := by
    intro i
    rw [nms.mem_rank]
    unfold Found.score
    constructor
    · rintro ⟨s, scored, high⟩
      refine ⟨(List.getElem?_eq_some_iff.mp scored).1, ?_⟩
      rwa [List.getD_eq_getElem?_getD, scored]
    · rintro ⟨bound, high⟩
      refine ⟨_, List.getElem?_eq_getElem bound, ?_⟩
      rwa [List.getD_eq_getElem?_getD, List.getElem?_eq_getElem bound] at high
  rw [picked_eq nms]
  constructor
  · intro equal
    have sub : kept.Sublist (nms.rank found.scores threshold) := by
      rw [← equal]
      exact (List.take_sublist _ _).trans (survivors_sublist _ _)
    obtain ⟨apart, covered⟩ :=
      (take_survivors_eq_iff_kept (misread nms found) (nms.nodup_rank _ _) sub room).mp equal
    simp only [free, misread_iff] at apart covered
    exact ⟨sub, apart, fun i bound high => covered i ((entries i).mpr ⟨bound, high⟩)⟩
  · intro alike
    refine (take_survivors_eq_iff_kept (misread nms found) (nms.nodup_rank _ _) alike.ranked
      room).mpr ?_
    simp only [free, misread_iff]
    refine ⟨alike.apart, fun i member => ?_⟩
    obtain ⟨bound, high⟩ := (entries i).mp member
    exact alike.covered i bound high

theorem suppressed_iff : Suppressed found ((found.picked nmsBoxes).take 20) ↔
    ReadAlike nms found := by
  have room : ∀ order, ((greedyOnBoxes found order).take 20).length ≤ 20 := by
    intro order
    rw [List.length_take]
    omega
  constructor
  · intro suppressed
    obtain ⟨order, ranked, equal⟩ := suppressed.greedy
    exact ⟨order, ranked, (returned_eq_iff nms found (room order)).mp equal⟩
  · rintro ⟨order, ranked, alike⟩
    rw [(returned_eq_iff nms found (room order)).mpr alike]
    exact suppressed_greedyOnBoxes ranked

end Suppression

/-! ## The four functions -/

/-- What post-processing is given. -/
inductive Output (K : Type) : Type
  | yolo (output : List (Tensor K)) (width height : Int)
  | dfine (tensorOutput : List (Tensor K)) (width height : Int)
  | rfdetr (exp : K → K) (tensorOutput : List (Tensor K))

namespace Output

def process (nmsBoxes : List (Rect K) → List K → K → K → List Nat) :
    Output K → Except PyErr (List (List K))
  | .yolo output width height => postProcessYolo nmsBoxes output width height
  | .dfine tensorOutput width height => postProcessDfine nmsBoxes tensorOutput width height
  | .rfdetr exp tensorOutput => postProcessRfdetr nmsBoxes exp tensorOutput

/-- What is decoded of it. -/
def found : Output K → Except PyErr (Found K)
  | .yolo output width height =>
    if 1 < output.length then multipartFound width height 0 .empty output
    else do
      let predictions ← need output[0]? "list index out of range"
      nmsYoloFound predictions
  | .dfine tensorOutput width height => dfineFound tensorOutput width height
  | .rfdetr exp tensorOutput => rfdetrFound exp tensorOutput

def toRow : Output K → Box K → K → K → List K
  | .yolo _ width height => scaledRow width height
  | .dfine _ _ _ | .rfdetr _ _ => plainRow

end Output

/-- What is picked scores above the threshold, and nothing is picked only where nothing does. The
threshold is the number that `single` makes of the given one, which a binding may have to round. -/
structure KeepsAbove (single : K → K) (nmsBoxes : List (Rect K) → List K → K → K → List Nat) :
    Prop where
  high : ∀ {bboxes scores t u i}, bboxes.length = scores.length → i ∈ nmsBoxes bboxes scores t u →
    ∃ s, scores[i]? = some s ∧ single t < s
  some_kept : ∀ {bboxes scores t u}, bboxes.length = scores.length → (∃ s ∈ scores, single t < s) →
    nmsBoxes bboxes scores t u ≠ []

/-- The row of an entry. -/
def Found.detection (found : Found K) (toRow : Box K → K → K → List K) (i : Nat) : List K :=
  toRow (found.box i) (found.score i) (found.classIds.getD i 0)

/-- The rows of the entries that are returned, and zeros. -/
def Found.table (found : Found K) (toRow : Box K → K → K → List K) (returned : List Nat) :
    List (List K) :=
  returned.map (found.detection toRow) ++
    List.replicate (20 - returned.length) (List.replicate 6 0)

section Functions

variable {nmsBoxes : List (Rect K) → List K → K → K → List Nat} {found : Found K}
  {toRow : Box K → K → K → List K} {single : K → K}

theorem GreedyNms.keepsAbove (nms : GreedyNms nmsBoxes) : KeepsAbove id nmsBoxes where
  high := by
    intro bboxes scores t u i aligned kept
    rw [nms.picks _ _ _ _ aligned] at kept
    exact nms.mem_rank.mp ((survivors_sublist _ _).subset kept)
  some_kept := by
    intro bboxes scores t u aligned above none'
    obtain ⟨s, member, higher⟩ := above
    obtain ⟨i, bound, rfl⟩ := List.mem_iff_getElem.mp member
    have ranked : i ∈ nms.rank scores t :=
      nms.mem_rank.mpr ⟨_, List.getElem?_eq_getElem bound, higher⟩
    have dropped : i ∉ nmsBoxes bboxes scores t u := by
      rw [none']
      exact List.not_mem_nil
    rw [nms.picks _ _ _ _ aligned] at none' dropped
    obtain ⟨_, _, k, _, _, kept, _⟩ := opposed_of_not_mem _ ranked dropped
    rw [none'] at kept
    exact List.not_mem_nil kept

/-- What is picked scores above the threshold. -/
theorem picked_high (keeps : KeepsAbove single nmsBoxes) {i : Nat} (mem : i ∈ found.picked nmsBoxes) :
    ∃ s, found.scores[i]? = some s ∧ single threshold < s :=
  keeps.high (by rw [List.length_map, found.boxes_length]) mem

/-- `NMSBoxes` picks positions of the list. -/
theorem picked_lt (keeps : KeepsAbove single nmsBoxes) {i : Nat} (mem : i ∈ found.picked nmsBoxes) :
    i < found.scores.length := by
  obtain ⟨s, scored, -⟩ := picked_high keeps mem
  exact (List.getElem?_eq_some_iff.mp scored).1

/-- Nothing is picked exactly where nothing scores above the threshold. -/
theorem picked_eq_nil_iff (keeps : KeepsAbove single nmsBoxes) :
    found.picked nmsBoxes = [] ↔ ∀ s ∈ found.scores, s ≤ single threshold := by
  constructor
  · intro none' s member
    by_contra higher
    refine keeps.some_kept ?_ ⟨s, member, not_le.mp higher⟩ none'
    rw [List.length_map, found.boxes_length]
  · intro low
    refine List.eq_nil_iff_forall_not_mem.mpr fun i mem => ?_
    obtain ⟨s, scored, higher⟩ := picked_high keeps mem
    exact absurd higher (not_lt.mpr (low s (List.mem_of_getElem? scored)))

omit [LinearOrder K] in
theorem row_ok {i : Nat} (bound : i < found.scores.length) :
    found.row toRow i = .ok (found.detection toRow i) := by
  unfold Found.row Found.detection Found.box Found.score
  rw [List.getElem?_eq_getElem (by rw [found.boxes_length]; exact bound),
    List.getElem?_eq_getElem bound,
    List.getElem?_eq_getElem (by rw [found.classIds_length]; exact bound)]
  simp [List.getD_eq_getElem?_getD, bound, found.boxes_length, found.classIds_length]

/-- Where every score is above the threshold, nothing is picked only of nothing. -/
theorem fancy_picked (keeps : KeepsAbove id nmsBoxes) (above : ∀ s ∈ found.scores, threshold < s) :
    fancy found (found.picked nmsBoxes) = found.picked nmsBoxes := by
  unfold fancy
  split
  · next none' =>
      have low := (picked_eq_nil_iff keeps).mp none'
      rw [none', List.range_eq_nil, List.length_eq_zero_iff, List.eq_nil_iff_forall_not_mem]
      intro s mem
      exact absurd (above s mem) (not_lt.mpr (low s mem))
  · rfl

theorem fancy_lt (keeps : KeepsAbove single nmsBoxes) {i : Nat}
    (mem : i ∈ fancy found (found.picked nmsBoxes)) : i < found.scores.length := by
  unfold fancy at mem
  split at mem
  · exact List.mem_range.mp mem
  · exact picked_lt keeps mem

omit [LinearOrder K] in
/-- Of the rows that are looked up, the first twenty are written. -/
theorem fill_rows (toRow : Box K → K → K → List K) {indices : List Nat}
    (valid : ∀ i ∈ indices, i < found.scores.length) :
    ∃ rows, found.rows toRow indices = .ok rows ∧
      fill 0 noDetections rows = found.table toRow (indices.take 20) := by
  have room : 20 - indices.length = 20 - (indices.take 20).length := by
    rw [List.length_take]
    omega
  refine ⟨_, Found.rows_eq fun i mem => row_ok (valid i mem), ?_⟩
  rw [fill_noDetections, List.length_map, ← List.map_take, room]
  rfl

theorem select_above {scores : Tensor K} {box : List Nat → Box K} {classId : List Nat → K} :
    ∀ s ∈ (Found.select (above scores) box scores.read classId).scores, threshold < s := by
  intro s mem
  obtain ⟨idx, chosen, rfl⟩ := List.mem_map.mp mem
  exact of_decide_eq_true (List.mem_filter.mp chosen).2

theorem above_dfineFound {tensorOutput : List (Tensor K)} {width height : Int}
    (decoded : dfineFound tensorOutput width height = .ok found) :
    ∀ s ∈ found.scores, threshold < s := by
  unfold dfineFound at decoded
  obtain ⟨labels, -, decoded⟩ := of_need decoded
  obtain ⟨boxes, -, decoded⟩ := of_need decoded
  obtain ⟨scores, -, decoded⟩ := of_need decoded
  split at decoded
  · cases decoded
  · split at decoded
    · cases decoded
    · cases decoded
      exact select_above

theorem above_rfdetrFound {exp : K → K} {tensorOutput : List (Tensor K)}
    (decoded : rfdetrFound exp tensorOutput = .ok found) :
    ∀ s ∈ found.scores, threshold < s := by
  unfold rfdetrFound at decoded
  obtain ⟨boxes, -, decoded⟩ := of_need decoded
  obtain ⟨rawScores, -, decoded⟩ := of_need decoded
  obtain ⟨allScores, -, decoded⟩ := of_need decoded
  dsimp only at decoded
  split at decoded
  · cases decoded
  · split at decoded
    · cases decoded
    · obtain ⟨boxes, -, decoded⟩ := of_need decoded
      split at decoded
      · cases decoded
      · cases decoded
        exact select_above

theorem above_nmsYoloFound {predictions : Tensor K} (decoded : nmsYoloFound predictions = .ok found) :
    ∀ s ∈ found.scores, threshold < s := by
  unfold nmsYoloFound at decoded
  dsimp only at decoded
  split at decoded
  · cases decoded
  · generalize (if predictions.squeeze.shape.getD 0 0 < predictions.squeeze.shape.getD 1 0 then
      predictions.squeeze.reversed else predictions.squeeze) = moved at decoded
    split at decoded
    · cases decoded
    · split at decoded
      · cases decoded
      · cases decoded
        exact select_above

omit [LinearOrder K] in
/-- Decoding, picking and writing, as all functions do it. -/
theorem written_rows {decode : Except PyErr (Found K)} {choose : Found K → List Nat}
    {rows : List (List K)} (valid : ∀ found : Found K, ∀ i ∈ choose found, i < found.scores.length)
    (processed : (do
      let found ← decode
      let rows ← found.rows toRow (choose found)
      .ok (fill 0 noDetections rows)) = .ok rows) :
    ∃ found, decode = .ok found ∧ rows = found.table toRow ((choose found).take 20) := by
  cases decoded : decode with
  | error e => rw [decoded] at processed; cases processed
  | ok found =>
      obtain ⟨looked, rowsOk, written⟩ := fill_rows toRow (valid found)
      rw [decoded] at processed
      change ((found.rows _ _).bind _) = _ at processed
      rw [rowsOk] at processed
      cases processed
      exact ⟨found, rfl, written⟩

/-- Three of the functions let nothing through that does not score above the threshold. -/
theorem written_fancy (keeps : KeepsAbove id nmsBoxes) {decode : Except PyErr (Found K)}
    {rows : List (List K)} (above : ∀ found, decode = .ok found → ∀ s ∈ found.scores, threshold < s)
    (processed : (do
      let found ← decode
      let rows ← found.rows toRow (fancy found (found.picked nmsBoxes))
      .ok (fill 0 noDetections rows)) = .ok rows) :
    ∃ found, decode = .ok found ∧
      rows = found.table toRow ((found.picked nmsBoxes).take 20) := by
  obtain ⟨found, decoded, written⟩ :=
    written_rows (fun _ _ mem => fancy_lt keeps mem) processed
  rw [fancy_picked keeps (above found decoded)] at written
  exact ⟨found, decoded, written⟩

/-- What is returned are the rows of the first twenty entries that `NMSBoxes` picks. -/
theorem process_eq (keeps : KeepsAbove id nmsBoxes) {output : Output K} {rows : List (List K)}
    (processed : output.process nmsBoxes = .ok rows) :
    ∃ found, output.found = .ok found ∧
      rows = found.table output.toRow ((found.picked nmsBoxes).take 20) := by
  cases output with
  | dfine tensorOutput width height =>
      exact written_fancy keeps (fun _ decoded => above_dfineFound decoded) processed
  | rfdetr exp tensorOutput =>
      exact written_fancy keeps (fun _ decoded => above_rfdetrFound decoded) processed
  | yolo output width height =>
      unfold Output.process postProcessYolo at processed
      unfold Output.found
      by_cases several : 1 < output.length
      · simp only [if_pos several] at processed ⊢
        obtain ⟨found, decoded, written⟩ := written_rows
          (fun _ _ mem => picked_lt keeps (List.mem_of_mem_take mem)) processed
        rw [List.take_take, Nat.min_self] at written
        exact ⟨found, decoded, written⟩
      · simp only [if_neg several] at processed ⊢
        obtain ⟨predictions, first, processed⟩ := of_need processed
        obtain ⟨found, decoded, written⟩ := written_fancy keeps
          (fun _ decoded => above_nmsYoloFound decoded) processed
        refine ⟨found, ?_, written⟩
        rw [first]
        exact decoded

/-- What is returned is what greedy suppression on the boxes leaves if and only if it leaves the same
of the stretched boxes: those that ought to be kept do not run into each other when the far corners
are taken for sizes, and every other entry runs into one of them that comes before it. -/
theorem suppression_iff (nms : GreedyNms nmsBoxes) {output : Output K} {rows : List (List K)}
    (processed : output.process nmsBoxes = .ok rows) :
    ∃ found, output.found = .ok found ∧
      rows = found.table output.toRow ((found.picked nmsBoxes).take 20) ∧
        (Suppressed found ((found.picked nmsBoxes).take 20) ↔ ReadAlike nms found) := by
  obtain ⟨found, decoded, written⟩ := process_eq nms.keepsAbove processed
  exact ⟨found, decoded, written, suppressed_iff nms found⟩

end Functions

/-! ## Two objects far from the origin -/

/-- Positions by descending score, the earlier one first of equals. -/
def rankStable (scores : List ℚ) (t : ℚ) : List Nat :=
  ((List.range scores.length).filter fun i => decide (t < scores.getD i 0)).insertionSort
    fun i j => scores.getD j 0 ≤ scores.getD i 0

def nmsOnRects (bboxes : List (Rect ℚ)) (scores : List ℚ) (t u : ℚ) : List Nat :=
  survivors (unopposed fun i j => decide (u <
    (bboxes.getD i ⟨0, 0, 0, 0⟩).corners.iou (bboxes.getD j ⟨0, 0, 0, 0⟩).corners)) []
    (rankStable scores t)

def nmsOnRects.greedy : GreedyNms nmsOnRects where
  rank := rankStable
  exceeds u a b := decide (u < a.corners.iou b.corners)
  mem_rank := by
    intro scores t i
    unfold rankStable
    rw [List.mem_insertionSort, List.mem_filter, List.mem_range, decide_eq_true_iff]
    constructor
    · intro kept
      refine ⟨scores[i], List.getElem?_eq_getElem kept.1, ?_⟩
      simpa [List.getD_eq_getElem?_getD, kept.1] using kept.2
    · intro scored
      obtain ⟨s, scored, high⟩ := scored
      refine ⟨(List.getElem?_eq_some_iff.mp scored).1, ?_⟩
      rwa [List.getD_eq_getElem?_getD, scored]
  nodup_rank := by
    intro scores t
    exact (List.perm_insertionSort _ _).nodup_iff.mpr (List.nodup_range.filter _)
  sorted_rank := by
    intro scores t
    have total : Std.Total fun i j : Nat => scores.getD j 0 ≤ scores.getD i 0 :=
      ⟨fun i j => le_total _ _⟩
    have trans : IsTrans Nat fun i j => scores.getD j 0 ≤ scores.getD i 0 :=
      ⟨fun i j k first second => le_trans second first⟩
    exact List.pairwise_insertionSort _ _
  exceeds_iff _ _ _ _ := decide_eq_true_iff
  picks _ _ _ _ _ := rfl

/-- Two labels, two boxes of ten by ten that do not touch, and their scores. -/
def farObjects : Output ℚ :=
  .dfine [⟨[1, 2], [1, 2], rfl⟩,
    ⟨[1, 2, 4], [1000, 1000, 1010, 1010, 1020, 1020, 1030, 1030], rfl⟩,
    ⟨[1, 2], [9 / 10, 8 / 10], rfl⟩] 1 1

namespace farObjects

/-- The second object is lost. -/
theorem processed : farObjects.process nmsOnRects =
    .ok ([1, 9 / 10, 1000, 1000, 1010, 1010] :: List.replicate 19 (List.replicate 6 0)) := by
  decide +kernel

def entries : Found ℚ :=
  .select [[0, 0], [0, 1]] (fun idx => if idx = [0, 0] then ⟨1000, 1000, 1010, 1010⟩
    else ⟨1020, 1020, 1030, 1030⟩) (fun idx => if idx = [0, 0] then 9 / 10 else 8 / 10)
    fun idx => if idx = [0, 0] then 1 else 2

theorem found_eq : farObjects.found = .ok entries :=
  congrArg Except.ok (Found.eq_of (by decide +kernel) (by decide +kernel) (by decide +kernel))

theorem not_suppressed : ¬ Suppressed entries ((entries.picked nmsOnRects).take 20) := by
  intro suppressed
  obtain ⟨j, kept, -, overlapping⟩ := suppressed.covered (by decide +kernel) 1 (by decide +kernel)
    (by decide +kernel) (by decide +kernel) (by decide +kernel)
  have first : j = 0 := by
    have all : ∀ j ∈ (entries.picked nmsOnRects).take 20, j = 0 := by decide +kernel
    exact all j kept
  subst first
  exact absurd overlapping (by decide +kernel)

end farObjects

theorem suppression_iff_farObjects : ¬ ReadAlike nmsOnRects.greedy farObjects.entries := by
  obtain ⟨found, decoded, -, agree⟩ := suppression_iff nmsOnRects.greedy farObjects.processed
  rw [farObjects.found_eq, Except.ok.injEq] at decoded
  subst decoded
  exact fun alike => farObjects.not_suppressed (agree.mpr alike)

/-- Disjoint objects are merged. -/
theorem farObjects_merged : ¬ ∀ (output : Output ℚ) rows, output.process nmsOnRects = .ok rows →
    ∃ found, output.found = .ok found ∧
      rows = found.table output.toRow ((found.picked nmsOnRects).take 20) ∧
        Suppressed found ((found.picked nmsOnRects).take 20) := by
  intro all
  obtain ⟨found, decoded, -, suppressed⟩ := all _ _ farObjects.processed
  rw [farObjects.found_eq, Except.ok.injEq] at decoded
  subst decoded
  exact farObjects.not_suppressed suppressed

end ModelUtil
