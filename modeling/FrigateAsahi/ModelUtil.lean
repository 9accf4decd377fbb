import FrigateAsahi.Lib.Python
import FrigateAsahi.Lib.Tensor
import Mathlib.Algebra.Order.Field.Basic

/-!
# Post-processing of model outputs

The functions of `model_util` that turn the outputs of a model into detections, in exact
arithmetic: `K` is any field with an order. `cv2.dnn.NMSBoxes` is a parameter of all of them. Each
decodes its outputs into boxes, scores and class ids, `Found`, lets `NMSBoxes` pick among
them, and writes what was picked into twenty rows.
-/

namespace ModelUtil

open Python Tensors

instance atLeastTwo_two : Nat.AtLeastTwo 2 := ⟨le_rfl⟩

variable {K : Type} [Field K] [LinearOrder K]

/-! ## Boxes -/

/-- Two opposite corners of a box. -/
structure Box (K : Type) : Type where
  x1 : K
  y1 : K
  x2 : K
  y2 : K
  deriving DecidableEq

/-- What `NMSBoxes` takes four numbers for. -/
structure Rect (K : Type) : Type where
  x : K
  y : K
  width : K
  height : K

/-- The four numbers of a box, handed over as they are. -/
def Box.asRect (b : Box K) : Rect K := ⟨b.x1, b.y1, b.x2, b.y2⟩

/-- What decoding leaves: three lists, aligned. -/
structure Found (K : Type) : Type where
  boxes : List (Box K)
  scores : List K
  classIds : List K
  boxes_length : boxes.length = scores.length
  classIds_length : classIds.length = scores.length

namespace Found

omit [LinearOrder K] [Field K] in
theorem eq_of {found found' : Found K} (boxes : found.boxes = found'.boxes)
    (scores : found.scores = found'.scores) (classIds : found.classIds = found'.classIds) :
    found = found' := by
  cases found
  cases found'
  cases boxes
  cases scores
  cases classIds
  rfl

def empty : Found K := ⟨[], [], [], rfl, rfl⟩

def push (found : Found K) (box : Box K) (score classId : K) : Found K :=
  ⟨found.boxes ++ [box], found.scores ++ [score], found.classIds ++ [classId],
    by simp [found.boxes_length], by simp [found.classIds_length]⟩

/-- One entry for each of the positions that a mask selects. -/
def select {ι : Type} (chosen : List ι) (box : ι → Box K) (score classId : ι → K) : Found K :=
  ⟨chosen.map box, chosen.map score, chosen.map classId, by simp, by simp⟩

omit [LinearOrder K] [Field K] in
/-- Two lists of positions that stand for the same entries select the same. -/
theorem select_congr {ι κ κ' : Type} {items : List ι} {f : ι → κ} {g : ι → κ'}
    {box : κ → Box K} {score classId : κ → K} {box' : κ' → Box K} {score' classId' : κ' → K}
    (each : ∀ i ∈ items, box (f i) = box' (g i) ∧ score (f i) = score' (g i) ∧
      classId (f i) = classId' (g i)) :
    select (items.map f) box score classId = select (items.map g) box' score' classId' := by
  unfold select
  apply eq_of
  · simp only [List.map_map]
    exact List.map_congr_left fun i member => (each i member).1
  · simp only [List.map_map]
    exact List.map_congr_left fun i member => (each i member).2.1
  · simp only [List.map_map]
    exact List.map_congr_left fun i member => (each i member).2.2

/-- A row of the result for one entry. -/
def row (found : Found K) (toRow : Box K → K → K → List K) (i : Nat) : Except PyErr (List K) :=
  match found.boxes[i]?, found.scores[i]?, found.classIds[i]? with
  | some box, some score, some classId => .ok (toRow box score classId)
  | _, _, _ => .error (exception "list index out of range")

def rows (found : Found K) (toRow : Box K → K → K → List K) :
    List Nat → Except PyErr (List (List K))
  | [] => .ok []
  | i :: indices => do
    let first ← found.row toRow i
    let rest ← rows found toRow indices
    .ok (first :: rest)

end Found

/-- `score_threshold` and `nms_threshold` -/
def threshold : K := 2 / 5

/-! ## Rows -/

/-- `np.zeros((20, 6), np.float32)` -/
def noDetections : List (List K) := List.replicate 20 (List.replicate 6 0)

/-- The rows from some number on, the twenty-first and all later ones left out. -/
def fill (i : Nat) (detections : List (List K)) : List (List K) → List (List K)
  | [] => detections
  | row :: rows => if i = 20 then detections else fill (i + 1) (detections.set i row) rows

/-- `[class_id, confidence, bbox[1], bbox[0], bbox[3], bbox[2]]` -/
def plainRow (box : Box K) (score classId : K) : List K :=
  [classId, score, box.y1, box.x1, box.y2, box.x2]

def scaledRow (width height : Int) (box : Box K) (score classId : K) : List K :=
  [classId, score, box.y1 / height, box.x1 / width, box.y2 / height, box.x2 / width]

/-- What `boxes[indices]` goes by. `NMSBoxes` returns an empty tuple when it picks nothing, and an
empty tuple as an index stands for all of an array. -/
def fancy (found : Found K) (indices : List Nat) : List Nat :=
  if indices = [] then List.range found.scores.length else indices

/-- The value that must be there. -/
def need {α : Type} (x : Option α) (msg : String) : Except PyErr α :=
  x.elim (.error (exception msg)) .ok

omit [LinearOrder K] [Field K] in
theorem of_need {α β : Type} {x : Option α} {msg : String} {f : α → Except PyErr β} {b : β}
    (made : (do let a ← need x msg; f a) = .ok b) : ∃ a, x = some a ∧ f a = .ok b := by
  cases x with
  | none => cases made
  | some a => exact ⟨a, rfl, made⟩

omit [Field K] [LinearOrder K] in
theorem fill_eq {i : Nat} {detections : List (List K)} (twenty : detections.length = 20)
    (inside : i ≤ 20) (rows : List (List K)) :
    fill i detections rows =
      detections.take i ++ rows.take (20 - i) ++ detections.drop (i + rows.length) := by
  induction rows generalizing i detections with
  | nil => simp [fill]
  | cons row rows ih =>
      rw [fill]
      by_cases last : i = 20
      · subst last
        rw [if_pos rfl, Nat.sub_self, List.take_zero, List.append_nil,
          List.take_of_length_le (by omega), List.drop_of_length_le (by omega), List.append_nil]
      · have placed : (detections.set i row).take (i + 1) = detections.take i ++ [row] := by
          rw [List.take_set, List.take_succ_eq_append_getElem (by omega),
            List.set_append_right _ _ (by rw [List.length_take]; omega), List.length_take,
            Nat.min_eq_left (by omega), Nat.sub_self, List.set_cons_zero]
        have beyond : (detections.set i row).drop (i + 1 + rows.length) =
            detections.drop (i + (rows.length + 1)) := by
          rw [List.drop_set_of_lt (by omega), Nat.add_assoc, Nat.add_comm 1]
        have more : 20 - i = (20 - (i + 1)) + 1 := by omega
        rw [if_neg last, ih (by rw [List.length_set, twenty]) (by omega), placed, beyond, more,
          List.take_succ_cons, List.length_cons]
        simp only [List.append_assoc, List.cons_append, List.nil_append]

omit [LinearOrder K] in
/-- The first twenty rows are kept, and zeros fill up what is left. -/
theorem fill_noDetections (rows : List (List K)) :
    fill 0 noDetections rows =
      rows.take 20 ++ List.replicate (20 - rows.length) (List.replicate 6 0) := by
  rw [fill_eq (by rw [noDetections, List.length_replicate]) (by omega), List.take_zero,
    List.nil_append, noDetections, List.drop_replicate, Nat.zero_add, Nat.sub_zero]

omit [LinearOrder K] [Field K] in
theorem Found.rows_eq {found : Found K} {toRow : Box K → K → K → List K} {indices : List Nat}
    {f : Nat → List K} (each : ∀ i ∈ indices, found.row toRow i = .ok (f i)) :
    found.rows toRow indices = .ok (indices.map f) := by
  induction indices with
  | nil => rfl
  | cons i indices ih =>
      rw [rows, each i (by simp), ih fun j mem => each j (by simp [mem])]
      rfl

omit [LinearOrder K] [Field K] in
/-- Positions that stand for some items give the rows of these. -/
theorem Found.rows_named {ι : Type} {found : Found K} {toRow : Box K → K → K → List K}
    {f : ι → List K} {indices : List Nat} {kept : List ι}
    (named : List.Forall₂ (fun i c => found.row toRow i = .ok (f c)) indices kept) :
    found.rows toRow indices = .ok (kept.map f) := by
  induction named with
  | nil => rfl
  | cons here _ ih =>
      rw [rows, here, ih]
      rfl

/-! ## The decoders -/

/-- The scores that count. -/
def above (scores : Tensor K) : List (List Nat) :=
  (Tensor.indices scores.shape).filter fun idx => decide (threshold < scores.read idx)

/-- The masked labels, boxes and scores. The boxes are divided by `[height, width, height, width]`,
which stretches a last axis of length one over all four. -/
def dfineFound (output : List (Tensor K)) (width height : Int) : Except PyErr (Found K) := do
  let labels ← need output[0]? "list index out of range"
  let boxes ← need output[1]? "list index out of range"
  let scores ← need output[2]? "list index out of range"
  if labels.shape ≠ scores.shape then .error (exception "boolean index did not match")
  else if boxes.shape ≠ scores.shape ++ [4] ∧ boxes.shape ≠ scores.shape ++ [1] then
    .error (exception "operands could not be broadcast together")
  else
    let bbox := fun idx k => (boxes.last idx).getD (min k (boxes.shape.getLastD 0 - 1)) 0
    .ok (.select (above scores) (fun idx => ⟨bbox idx 0 / height, bbox idx 1 / width,
      bbox idx 2 / height, bbox idx 3 / width⟩) scores.read labels.read)

/-- `t[:, k:]` -/
def dropColumns (t : Tensor K) (k : Nat) : Tensor K :=
  .ofIndex (t.shape.modify 1 (· - k)) fun idx => t.read (idx.modify 1 (· + k))

/-- `exp(v - max(v)) / sum(exp(v - max(v)))`, for the given `exp`. -/
def softmax (exp : K → K) (v : List K) : List K :=
  let e := v.map fun x => exp (x - maximum v)
  e.map fun x => x / e.sum

def rfdetrFound (exp : K → K) (output : List (Tensor K)) : Except PyErr (Found K) := do
  let boxes ← need output[0]? "list index out of range"
  let rawScores ← need output[1]? "list index out of range"
  let allScores ← need ((rawScores.mapLast (softmax exp)).index 0) "index 0 is out of bounds"
  let classScores := dropColumns allScores 1
  if allScores.shape.length < 2 then .error (exception "too many indices for array")
  else if classScores.shape.getLastD 0 = 0 then
    .error (exception "zero-size array to reduction operation maximum which has no identity")
  else
    let scores := classScores.reduceLast maximum
    let labels := classScores.reduceLast argmax
    let boxes ← need (boxes.index 0) "index 0 is out of bounds"
    if boxes.shape.dropLast ≠ scores.shape ∨ boxes.shape.getLastD 0 < 4 then
      .error (exception "boolean index did not match")
    else
      let center := fun idx k => (boxes.last idx).getD k 0
      .ok (.select (above scores) (fun idx =>
        ⟨center idx 0 - center idx 2 / 2, center idx 1 - center idx 3 / 2,
          center idx 0 + center idx 2 / 2, center idx 1 + center idx 3 / 2⟩)
        scores.read fun idx => (labels.read idx : Nat))

/-- The greatest of the class scores of a prediction, from the fifth position of the second axis
on, for each index of the other axes. -/
def bestScores (predictions : Tensor K) : Tensor K :=
  .ofIndex (predictions.shape.eraseIdx 1) fun idx =>
    maximum ((List.range (predictions.shape.getD 1 0 - 4)).map fun k =>
      predictions.read (idx.insertIdx 1 (k + 4)))

def nmsYoloFound (output : Tensor K) : Except PyErr (Found K) :=
  let squeezed := output.squeeze
  if squeezed.shape.length < 2 then .error (exception "tuple index out of range")
  else
    let predictions := if squeezed.shape.getD 0 0 < squeezed.shape.getD 1 0 then squeezed.reversed
      else squeezed
    let scores := bestScores predictions
    if predictions.shape.getD 1 0 ≤ 4 then
      .error (exception "zero-size array to reduction operation maximum which has no identity")
    else if predictions.shape.dropLast ≠ scores.shape then
      .error (exception "boolean index did not match")
    else
      let bbox := fun idx k => (predictions.last idx).getD k 0
      .ok (.select (above scores) (fun idx =>
        ⟨bbox idx 0 - bbox idx 2 / 2, bbox idx 1 - bbox idx 3 / 2,
          bbox idx 0 + bbox idx 2 / 2, bbox idx 1 + bbox idx 3 / 2⟩)
        scores.read fun idx => (argmax ((predictions.last idx).drop 4) : Nat))

/-- The predictions with their centers and sizes scaled to the frame, in place of the given ones. -/
def organized (exp : K → K) (predictions grids expandedStrides : Tensor K) : Tensor K :=
  .ofIndex predictions.shape fun idx =>
    let k := idx.getLastD 0
    if k < 2 then (predictions.read idx + grids.stretched idx) * expandedStrides.stretched idx
    else if k < 4 then
      exp (predictions.read idx) * expandedStrides.stretched (idx.dropLast ++ [k - 2])
    else predictions.read idx

/-- All predictions of the first image, for the given `exp`. None is left out for its score. -/
def yoloxFound (exp : K → K) (predictions grids expandedStrides : Tensor K) :
    Except PyErr (Found K) :=
  match predictions.shape with
  | [bs, n, m] =>
    if (grids.stretchesOver [bs, n, 2] && expandedStrides.stretchesOver [bs, n, 2]) = false then
      .error (exception "operands could not be broadcast together")
    else if m ≤ 5 then .error (exception "attempt to get argmax of an empty sequence")
    else do
      let predictions ← need ((organized exp predictions grids expandedStrides).index 0)
        "index 0 is out of bounds"
      let bbox := fun idx k => (predictions.last idx).getD k 0
      let scores := fun idx =>
        ((predictions.last idx).drop 5).map fun p => (predictions.last idx).getD 4 0 * p
      .ok (.select (Tensor.indices [n]) (fun idx =>
        ⟨bbox idx 0 - bbox idx 2 / 2, bbox idx 1 - bbox idx 3 / 2,
          bbox idx 0 + bbox idx 2 / 2, bbox idx 1 + bbox idx 3 / 2⟩)
        (fun idx => maximum (scores idx)) fun idx => (argmax (scores idx) : Nat))
  | _ => .error (exception "too many indices for array")

/-! ## Several heads -/

def anchors : List (List (Nat × Nat)) :=
  [[(12, 16), (19, 36), (40, 28)], [(36, 75), (76, 55), (72, 146)],
    [(142, 110), (192, 243), (459, 401)]]

def strideMap : Nat → Option Nat
  | 0 => some 8
  | 1 => some 16
  | 2 => some 32
  | _ => none

/-- The body of the innermost loop. -/
def visitCell (width height : Int) (stride : Nat) (output : Tensor K) (anchor : Nat × Nat)
    (a y x : Nat) (found : Found K) : Found K :=
  let pred := output.last [a, y, x]
  let classProbs := pred.drop 5
  let classId := argmax classProbs
  let classConf := classProbs.getD classId 0
  let conf := classConf * pred.getD 4 0
  if conf < threshold then found
  else
    let dx := pred.getD 0 0
    let dy := pred.getD 1 0
    let dw := pred.getD 2 0
    let dh := pred.getD 3 0
    let bx := ((dx * 2 - 1 / 2) + x) * stride
    let by' := ((dy * 2 - 1 / 2) + y) * stride
    let bw := (dw * 2) ^ 2 * anchor.1
    let bh := (dh * 2) ^ 2 * anchor.2
    found.push ⟨max 0 (bx - bw / 2), max 0 (by' - bh / 2), min (width : K) (bx + bw / 2),
      min (height : K) (by' + bh / 2)⟩ conf classId

/-- The loops over the anchors, the rows and the columns of a head. -/
def visitHead (width height : Int) (stride : Nat) (anchorSet : List (Nat × Nat)) (ny nx : Nat)
    (output : Tensor K) (found : Found K) : Found K :=
  anchorSet.zipIdx.foldl (fun found anchor =>
    (List.range ny).foldl (fun found y =>
      (List.range nx).foldl (fun found x =>
        visitCell width height stride output anchor.1 anchor.2 y x found) found) found) found

/-- One head: its grid by anchor, row and column, with the numbers of a cell last. -/
def decodeHead (width height : Int) (i : Nat) (output : Tensor K) (found : Found K) :
    Except PyErr (Found K) :=
  match output.shape with
  | [bs, _, ny, nx] => do
    let stride ← need (strideMap i) "KeyError"
    let anchorSet ← need anchors[i]? "list index out of range"
    let output ← need (output.reshape [bs, anchorSet.length, 85, ny, nx]) "cannot reshape array"
    let output := output.transpose [0, 1, 3, 4, 2]
    let output ← need (output.index 0) "index 0 is out of bounds"
    .ok (visitHead width height stride anchorSet ny nx output found)
  | _ => .error (exception "not enough values to unpack")

def multipartFound (width height : Int) (i : Nat) (found : Found K) :
    List (Tensor K) → Except PyErr (Found K)
  | [] => .ok found
  | output :: outputList => do
    let found ← decodeHead width height i output found
    multipartFound width height (i + 1) found outputList

/-! ## The functions -/

section Functions

variable (nmsBoxes : List (Rect K) → List K → K → K → List Nat)

/-- `cv2.dnn.NMSBoxes(boxes, scores, score_threshold=0.4, nms_threshold=0.4)` -/
def Found.picked (found : Found K) : List Nat :=
  nmsBoxes (found.boxes.map Box.asRect) found.scores threshold threshold

def postProcessDfine (tensorOutput : List (Tensor K)) (width height : Int) :
    Except PyErr (List (List K)) := do
  let found ← dfineFound tensorOutput width height
  let rows ← found.rows plainRow (fancy found (found.picked nmsBoxes))
  .ok (fill 0 noDetections rows)

def postProcessRfdetr (exp : K → K) (tensorOutput : List (Tensor K)) :
    Except PyErr (List (List K)) := do
  let found ← rfdetrFound exp tensorOutput
  let rows ← found.rows plainRow (fancy found (found.picked nmsBoxes))
  .ok (fill 0 noDetections rows)

def postProcessMultipartYolo (outputList : List (Tensor K)) (width height : Int) :
    Except PyErr (List (List K)) := do
  let found ← multipartFound width height 0 .empty outputList
  let rows ← found.rows (scaledRow width height) ((found.picked nmsBoxes).take 20)
  .ok (fill 0 noDetections rows)

def postProcessNmsYolo (predictions : Tensor K) (width height : Int) :
    Except PyErr (List (List K)) := do
  let found ← nmsYoloFound predictions
  let rows ← found.rows (scaledRow width height) (fancy found (found.picked nmsBoxes))
  .ok (fill 0 noDetections rows)

def postProcessYolo (output : List (Tensor K)) (width height : Int) :
    Except PyErr (List (List K)) :=
  if 1 < output.length then postProcessMultipartYolo nmsBoxes output width height
  else do
    let predictions ← need output[0]? "list index out of range"
    postProcessNmsYolo nmsBoxes predictions width height

def postProcessYolox (exp : K → K) (predictions : Tensor K) (width height : Int)
    (grids expandedStrides : Tensor K) : Except PyErr (List (List K)) := do
  let found ← yoloxFound exp predictions grids expandedStrides
  let rows ← found.rows (scaledRow width height) (fancy found (found.picked nmsBoxes))
  .ok (fill 0 noDetections rows)

end Functions

end ModelUtil
