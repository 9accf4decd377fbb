import FrigateAsahi.MultipartDecoding
import FrigateAsahi.OverlapSuppression

/-!
# Rows below the threshold

`NMSBoxes` answers with an empty tuple when no box scores above the threshold, and an empty tuple
as an index stands for all entries. Three of the functions have dropped the low scores before, and
one asks whether anything was picked. `post_process_yolox` does neither, and returns the first
twenty predictions when it should return none.

The scores that the rows are held against are read off the tensors, not taken from what the
functions decode. `NMSBoxes` compares them with the number that its binding makes of the threshold,
which may be a little above it: for a number of single precision, some predictions that exceed the
threshold by less are then not enough for it to pick anything.
-/

namespace ModelUtil

open Python Tensors RowMajor

variable {K : Type} [Field K] [LinearOrder K]

/-! ## Predictions -/

/-- One prediction for the first image. -/
structure Prediction (K : Type) : Type where
  exp : K → K
  predictions : Tensor K
  grids : Tensor K
  expandedStrides : Tensor K
  place : Nat

namespace Prediction

def channel (c : Prediction K) (k : Nat) : K := c.predictions.read [0, c.place, k]

def stride (c : Prediction K) (axis : Nat) : K := c.expandedStrides.stretched [0, c.place, axis]

def center (c : Prediction K) (axis : Nat) : K :=
  (c.channel axis + c.grids.stretched [0, c.place, axis]) * c.stride axis

def size (c : Prediction K) (axis : Nat) : K := c.exp (c.channel (axis + 2)) * c.stride axis

/-- The k-th number of the prediction, where centers and sizes are scaled. -/
def organized (c : Prediction K) (k : Nat) : K :=
  if k < 2 then c.center k else if k < 4 then c.exp (c.channel k) * c.stride (k - 2) else c.channel k

/-- The scores of the classes. -/
def classScores (c : Prediction K) : List K :=
  (List.range (c.predictions.shape.getD 2 0 - 5)).map fun k => c.channel 4 * c.channel (k + 5)

def bestClass (c : Prediction K) : Nat := argmax c.classScores

def score (c : Prediction K) : K := maximum c.classScores

/-- The box around the center. -/
def box (c : Prediction K) : Box K :=
  ⟨c.center 0 - c.size 0 / 2, c.center 1 - c.size 1 / 2, c.center 0 + c.size 0 / 2,
    c.center 1 + c.size 1 / 2⟩

/-- The row of the result. -/
def toRow (width height : Int) (c : Prediction K) : List K :=
  [c.bestClass, c.score, c.box.y1 / height, c.box.x1 / width, c.box.y2 / height, c.box.x2 / width]

end Prediction

/-- The predictions for the first image. -/
def listed (exp : K → K) (predictions grids expandedStrides : Tensor K) : List (Prediction K) :=
  (List.range (predictions.shape.getD 1 0)).map fun i =>
    ⟨exp, predictions, grids, expandedStrides, i⟩

section Decoding

variable {exp : K → K} {predictions grids expandedStrides r : Tensor K} {bs n m i : Nat}

end Decoding

/-! ## Requests -/

/-- A call of one of the five functions. -/
inductive Request (K : Type) : Type
  | masked (output : Output K)
  | yolox (exp : K → K) (predictions : Tensor K) (width height : Int)
      (grids expandedStrides : Tensor K)

/-- The share of a number among those along the last axis, after `exp`. -/
def probability (exp : K → K) (rawScores : Tensor K) (idx : List Nat) : K :=
  let v := rawScores.last idx.dropLast
  exp (rawScores.read idx - maximum v) / (v.map fun x => exp (x - maximum v)).sum

/-- The scores of the queries for the first image: the greatest probability of each, where the first
number of the axis after the queries is left out. -/
def queryScores (exp : K → K) (rawScores : Tensor K) : List K :=
  let shape := rawScores.shape.tail.modify 1 (· - 1)
  (Tensor.indices shape.dropLast).map fun idx =>
    maximum ((List.range (shape.getLastD 0)).map fun k =>
      probability exp rawScores (0 :: (idx ++ [k]).modify 1 (· + 1)))

/-- The scores of the predictions in a single tensor: the greatest number of each from the fifth on.
The predictions are in the rows, or in the columns where there are more of these. -/
def predictionScores (output : Tensor K) : List K :=
  let t := output.squeeze
  if t.shape.getD 0 0 < t.shape.getD 1 0 then
    (Tensor.indices (t.shape.reverse.eraseIdx 1)).map fun idx =>
      maximum ((List.range (t.shape.reverse.getD 1 0 - 4)).map fun k =>
        t.read (idx.insertIdx 1 (k + 4)).reverse)
  else
    (Tensor.indices (t.shape.eraseIdx 1)).map fun idx =>
      maximum ((List.range (t.shape.getD 1 0 - 4)).map fun k => t.read (idx.insertIdx 1 (k + 4)))

/-- The scores of the candidates, as the tensors have them. -/
def Output.candidateScores : Output K → List K
  | .dfine tensorOutput _ _ => (tensorOutput[2]?.map Tensor.data).getD []
  | .rfdetr exp tensorOutput => (tensorOutput[1]?.map (queryScores exp)).getD []
  | .yolo output _ _ =>
    if 1 < output.length then (cellsFrom 0 output).map Cell.score
    else (output[0]?.map predictionScores).getD []

namespace Request

def process (nmsBoxes : List (Rect K) → List K → K → K → List Nat) :
    Request K → Except PyErr (List (List K))
  | .masked output => output.process nmsBoxes
  | .yolox exp predictions width height grids expandedStrides =>
    postProcessYolox nmsBoxes exp predictions width height grids expandedStrides

def candidateScores : Request K → List K
  | .masked output => output.candidateScores
  | .yolox exp predictions _ _ grids expandedStrides =>
    (listed exp predictions grids expandedStrides).map Prediction.score

end Request

/-- Every row is zero or carries one of the scores, which reaches the threshold, and where no score
exceeds the threshold there are only zeros. -/
structure Honest (scores : List K) (rows : List (List K)) : Prop where
  carried : ∀ row ∈ rows, row = List.replicate 6 0 ∨
    ∃ s ∈ scores, threshold ≤ s ∧ row[1]? = some s
  silent : (∀ s ∈ scores, s ≤ threshold) → rows = noDetections

/-! ## What is decoded carries the scores of the tensors -/

section Scores

variable {found : Found K}

end Scores

/-! ## Rows that carry a score -/

section Rows

variable {nmsBoxes : List (Rect K) → List K → K → K → List Nat} {found : Found K}
  {toRow : Box K → K → K → List K} {single : K → K} {scores : List K}

variable {cs : List (Prediction K)} {width height : Int}

end Rows

/-! ## Faint predictions -/

/-- A threshold between a quarter and a half as a number of single precision. -/
def single (t : ℚ) : ℚ := (t * 2 ^ 25 + 1 / 2).floor / 2 ^ 25

def nmsSingle (bboxes : List (Rect ℚ)) (scores : List ℚ) (t u : ℚ) : List Nat :=
  nmsOnRects bboxes scores (single t) (single u)

/-- Two predictions whose class is even odds. The objectness of one is four fifths in single
precision, that of the other one is a tenth. -/
def faint : Request ℚ :=
  .yolox (fun _ => 1)
    ⟨[1, 2, 6], [0, 0, 0, 0, 13421773 / 16777216, 1 / 2, 0, 0, 0, 0, 1 / 10, 1 / 2], rfl⟩ 100 100
    ⟨[1, 1, 2], [3, 4], rfl⟩ ⟨[1, 1, 1], [8], rfl⟩

namespace faint

theorem candidateScores_eq : faint.candidateScores = [13421773 / 33554432, 1 / 20] := by
  decide +kernel

/-- Both are returned, although the second one scores a twentieth. -/
theorem processed : faint.process nmsSingle =
    .ok ([0, 13421773 / 33554432, 7 / 25, 1 / 5, 9 / 25, 7 / 25] ::
      [0, 1 / 20, 7 / 25, 1 / 5, 9 / 25, 7 / 25] :: List.replicate 18 (List.replicate 6 0)) := by
  decide +kernel

end faint

end ModelUtil
