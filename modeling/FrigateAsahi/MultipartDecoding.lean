import FrigateAsahi.ModelUtil
import Mathlib.Data.List.Nodup

/-!
# Decoding several heads

What the four loops leave is one list of cells, in order of head, anchor, row and column, filtered
by score, and seen three times: as boxes, as scores and as class ids.
-/

namespace ModelUtil

open Python Tensors RowMajor

variable {K : Type} [Field K] [LinearOrder K]

/-! ## Cells -/

/-- A position in the grid of a head, for one of its three anchors. -/
structure Cell (K : Type) : Type where
  scale : Nat
  head : Tensor K
  anchor : Nat
  row : Nat
  column : Nat

namespace Cell

/-- The k-th number of the cell. -/
def channel (c : Cell K) (k : Nat) : K := c.head.read [0, 85 * c.anchor + k, c.row, c.column]

def objectness (c : Cell K) : K := c.channel 4

def probability (c : Cell K) (classId : Nat) : K := c.channel (5 + classId)

/-- The first of the most probable classes. -/
def bestClass (c : Cell K) : Nat := argmax ((List.range 80).map c.probability)

def score (c : Cell K) : K := c.objectness * c.probability c.bestClass

def stride (c : Cell K) : Nat := (strideMap c.scale).getD 0

/-- Width and height of the anchor. -/
def size (c : Cell K) : Nat × Nat := (anchors.getD c.scale []).getD c.anchor (0, 0)

def centerX (c : Cell K) : K := ((c.channel 0 * 2 - 1 / 2) + c.column) * c.stride

def centerY (c : Cell K) : K := ((c.channel 1 * 2 - 1 / 2) + c.row) * c.stride

def width (c : Cell K) : K := (c.channel 2 * 2) ^ 2 * c.size.1

def height (c : Cell K) : K := (c.channel 3 * 2) ^ 2 * c.size.2

/-- The box around the center, cut off at the borders of the image. -/
def box (imageWidth imageHeight : Int) (c : Cell K) : Box K :=
  ⟨max 0 (c.centerX - c.width / 2), max 0 (c.centerY - c.height / 2),
    min (imageWidth : K) (c.centerX + c.width / 2), min (imageHeight : K) (c.centerY + c.height / 2)⟩

/-- The row of the result. -/
def toRow (imageWidth imageHeight : Int) (c : Cell K) : List K :=
  [c.bestClass, c.score, (c.box imageWidth imageHeight).y1 / imageHeight,
    (c.box imageWidth imageHeight).x1 / imageWidth, (c.box imageWidth imageHeight).y2 / imageHeight,
    (c.box imageWidth imageHeight).x2 / imageWidth]

theorem bestClass_spec (c : Cell K) : c.bestClass < 80 ∧
    (∀ j < 80, c.probability j ≤ c.probability c.bestClass) ∧
      ∀ j < c.bestClass, c.probability j < c.probability c.bestClass := by
  obtain ⟨bound, greatest, first⟩ := argmax_spec (v := (List.range 80).map c.probability) (by simp)
  have same : argmax ((List.range 80).map c.probability) = c.bestClass := rfl
  rw [List.length_map, List.length_range] at bound greatest
  rw [same] at bound greatest first
  have at' : ∀ j < 80, ((List.range 80).map c.probability).getD j 0 = c.probability j :=
    fun _ below => Tensor.getD_map_range below
  refine ⟨bound, fun j below => ?_, fun j before => ?_⟩
  · have le := greatest j below
    rwa [at' j below, at' _ bound] at le
  · have lt := first j before
    rwa [at' j (by omega), at' _ bound] at lt

end Cell

/-- The cells of a head with a grid of `ny` rows and `nx` columns. -/
def headCells (scale : Nat) (head : Tensor K) (ny nx : Nat) : List (Cell K) :=
  (List.range 3).flatMap fun a => (List.range ny).flatMap fun y =>
    (List.range nx).map fun x => ⟨scale, head, a, y, x⟩

/-- The cells of all heads, the first of which is the head of some scale. -/
def cellsFrom (scale : Nat) : List (Tensor K) → List (Cell K)
  | [] => []
  | head :: heads =>
    headCells scale head (head.shape.getD 2 0) (head.shape.getD 3 0) ++ cellsFrom (scale + 1) heads

/-- The cells that score high enough. -/
def passing (cells : List (Cell K)) : List (Cell K) :=
  cells.filter fun c => decide (threshold ≤ c.score)

/-! ## The loops -/

/-- What was found before, and the cells seen as boxes, as scores and as class ids. -/
def Found.extend (imageWidth imageHeight : Int) (found : Found K) (cells : List (Cell K)) :
    Found K :=
  ⟨found.boxes ++ cells.map (Cell.box imageWidth imageHeight), found.scores ++ cells.map Cell.score,
    found.classIds ++ cells.map fun c => (c.bestClass : K),
    by simp [found.boxes_length], by simp [found.classIds_length]⟩

section Loops

variable {imageWidth imageHeight : Int} {found : Found K}

@[simp] theorem extend_nil : found.extend imageWidth imageHeight [] = found :=
  Found.eq_of (List.append_nil _) (List.append_nil _) (List.append_nil _)

theorem extend_append (front back : List (Cell K)) :
    (found.extend imageWidth imageHeight front).extend imageWidth imageHeight back =
      found.extend imageWidth imageHeight (front ++ back) := by
  refine Found.eq_of ?_ ?_ ?_
  all_goals simp only [Found.extend, List.map_append, List.append_assoc]

/-- A loop whose rounds each pass on the cells that score high enough passes on all of these. -/
theorem foldl_extend {ι : Type} {step : Found K → ι → Found K} {cells : ι → List (Cell K)}
    {items : List ι} (each : ∀ i ∈ items, ∀ found,
      step found i = found.extend imageWidth imageHeight (passing (cells i))) :
    items.foldl step found = found.extend imageWidth imageHeight (passing (items.flatMap cells)) := by
  induction items generalizing found with
  | nil => simp [passing]
  | cons i items ih =>
      have here := each i (by simp) found
      rw [List.foldl_cons, here, ih fun j mem => each j (by simp [mem]), extend_append,
        List.flatMap_cons]
      simp only [passing, List.filter_append]

/-- The numbers that the innermost loop reads are those of the cell. -/
theorem visitCell_eq {output : Tensor K} {c : Cell K} {anchor : Nat × Nat} {stride : Nat}
    (pred : output.last [c.anchor, c.row, c.column] = (List.range 85).map c.channel)
    (strided : c.stride = stride) (sized : c.size = anchor) (found : Found K) :
    visitCell imageWidth imageHeight stride output anchor c.anchor c.row c.column found =
      found.extend imageWidth imageHeight (passing [c]) := by
  have number : ∀ k < 85, ((List.range 85).map c.channel).getD k 0 = c.channel k :=
    fun _ below => Tensor.getD_map_range below
  have classes : ((List.range 85).map c.channel).drop 5 =
      (List.range 80).map c.probability := by
    rw [← List.map_drop]
    rfl
  have best := c.bestClass_spec.1
  have conf : ((List.range 80).map c.probability).getD
      (argmax ((List.range 80).map c.probability)) 0 * c.channel 4 = c.score := by
    change ((List.range 80).map c.probability).getD c.bestClass 0 * c.channel 4 = _
    rw [Tensor.getD_map_range best, mul_comm]
    rfl
  unfold visitCell
  simp only [pred, classes, number 0 (by omega), number 1 (by omega), number 2 (by omega),
    number 3 (by omega), number 4 (by omega), conf]
  by_cases low : c.score < threshold
  · have none' : passing [c] = [] := by
      unfold passing
      rw [List.filter_cons_of_neg (by simpa using low), List.filter_nil]
    rw [if_pos low, none', extend_nil]
  · have one : passing [c] = [c] := by
      unfold passing
      rw [List.filter_cons_of_pos (by simpa using low), List.filter_nil]
    rw [if_neg low, one, ← strided, ← sized]
    exact Found.eq_of rfl rfl rfl

theorem visitHead_eq {output head : Tensor K} {scale stride ny nx : Nat}
    {anchorSet : List (Nat × Nat)} (three : anchorSet.length = 3)
    (pred : ∀ a < 3, ∀ y < ny, ∀ x < nx, output.last [a, y, x] =
      (List.range 85).map (⟨scale, head, a, y, x⟩ : Cell K).channel)
    (strided : strideMap scale = some stride) (sized : anchors[scale]? = some anchorSet)
    (found : Found K) :
    visitHead imageWidth imageHeight stride anchorSet ny nx output found =
      found.extend imageWidth imageHeight (passing (headCells scale head ny nx)) := by
  have numbered : (List.range 3) = anchorSet.zipIdx.map Prod.snd := by
    rw [List.zipIdx_map_snd, three]
    rfl
  unfold visitHead headCells
  rw [numbered, List.flatMap_map]
  refine foldl_extend fun anchor mem found => foldl_extend fun y below found => ?_
  have at' : anchorSet[anchor.2]? = some anchor.1 := List.mem_zipIdx_iff_getElem?.mp mem
  have small : anchor.2 < 3 := three ▸ (List.getElem?_eq_some_iff.mp at').1
  rw [List.map_eq_flatMap]
  refine foldl_extend fun x inside found => ?_
  refine visitCell_eq (c := ⟨scale, head, anchor.2, y, x⟩) ?_ ?_ ?_ found
  · exact pred _ small y (List.mem_range.mp below) x (List.mem_range.mp inside)
  · rw [Cell.stride, strided]
    rfl
  · change (anchors.getD scale []).getD anchor.2 (0, 0) = anchor.1
    rw [List.getD_eq_getElem?_getD (l := anchors), sized, List.getD_eq_getElem?_getD]
    exact congrArg (fun o => o.getD (0, 0)) at'

omit [LinearOrder K] in
/-- What the reshaped and transposed head holds at an anchor, a row and a column. -/
theorem last_decoded {head r o : Tensor K} {bs ny nx a y x : Nat} (scale : Nat)
    (shape : head.shape = [bs, 255, ny, nx]) (reshaped : head.reshape [bs, 3, 85, ny, nx] = some r)
    (first : (r.transpose [0, 1, 3, 4, 2]).index 0 = some o) (anchor : a < 3) (row : y < ny)
    (column : x < nx) :
    o.last [a, y, x] = (List.range 85).map (⟨scale, head, a, y, x⟩ : Cell K).channel := by
  have rShape : r.shape = [bs, 3, 85, ny, nx] := Tensor.shape_reshape reshaped
  have tShape : (r.transpose [0, 1, 3, 4, 2]).shape = [bs, 3, ny, nx, 85] := by
    unfold Tensor.transpose
    rw [rShape]
    rfl
  obtain ⟨some', oShape⟩ := Tensor.shape_index tShape first
  unfold Tensor.last
  rw [oShape]
  refine List.map_congr_left fun k mem => ?_
  have channel : k < 85 := List.mem_range.mp mem
  have valid : Index [3, ny, nx, 85] [a, y, x, k] :=
    .cons anchor (.cons row (.cons column (.cons channel .nil)))
  have moved : (r.transpose [0, 1, 3, 4, 2]).read [0, a, y, x, k] = r.read [0, a, k, y, x] := by
    refine Tensor.read_transpose ?_
    rw [rShape]
    change Index [bs, 3, ny, nx, 85] [0, a, y, x, k]
    exact .cons some' valid
  have flat : ravel [bs, 3, 85, ny, nx] [0, a, k, y, x] = ravel head.shape [0, 85 * a + k, y, x] := by
    rw [shape]
    simp only [ravel, List.prod_cons, List.prod_nil]
    ring
  rw [List.cons_append, List.cons_append, List.cons_append, List.nil_append,
    Tensor.read_index tShape first valid, moved, Tensor.read_reshape reshaped flat]
  rfl

theorem decodeHead_eq {head : Tensor K} {scale ny nx : Nat} (known : scale < 3)
    (shape : head.shape = [1, 255, ny, nx]) (found : Found K) :
    decodeHead imageWidth imageHeight scale head found =
      .ok (found.extend imageWidth imageHeight (passing (headCells scale head ny nx))) := by
  obtain ⟨stride, anchorSet, strided, sized, three⟩ : ∃ stride anchorSet,
      strideMap scale = some stride ∧ anchors[scale]? = some anchorSet ∧ anchorSet.length = 3 := by
    have three : scale = 0 ∨ scale = 1 ∨ scale = 2 := by omega
    rcases three with rfl | rfl | rfl
    · exact ⟨_, _, rfl, rfl, rfl⟩
    · exact ⟨_, _, rfl, rfl, rfl⟩
    · exact ⟨_, _, rfl, rfl, rfl⟩
  obtain ⟨r, reshaped⟩ : ∃ r, head.reshape [1, 3, 85, ny, nx] = some r := by
    unfold Tensor.reshape
    rw [dif_pos (by rw [shape]; simp only [List.prod_cons, List.prod_nil]; ring)]
    exact ⟨_, rfl⟩
  have rShape : r.shape = [1, 3, 85, ny, nx] := Tensor.shape_reshape reshaped
  obtain ⟨o, first⟩ : ∃ o, (r.transpose [0, 1, 3, 4, 2]).index 0 = some o := by
    unfold Tensor.index Tensor.transpose
    rw [rShape]
    exact ⟨_, rfl⟩
  unfold decodeHead
  rw [shape]
  dsimp only
  rw [strided, sized]
  change ((need (head.reshape [1, anchorSet.length, 85, ny, nx]) _).bind _) = _
  rw [three, reshaped]
  change ((need ((r.transpose [0, 1, 3, 4, 2]).index 0) _).bind _) = _
  rw [first]
  exact congrArg Except.ok (visitHead_eq three (fun a anchor y row x column =>
    last_decoded scale shape reshaped first anchor row column) strided sized found)

theorem multipartFound_eq {heads : List (Tensor K)} {scale : Nat} (known : scale + heads.length ≤ 3)
    (shapes : ∀ head ∈ heads, ∃ ny nx, head.shape = [1, 255, ny, nx]) (found : Found K) :
    multipartFound imageWidth imageHeight scale found heads =
      .ok (found.extend imageWidth imageHeight (passing (cellsFrom scale heads))) := by
  induction heads generalizing scale found with
  | nil =>
      change Except.ok found = .ok (found.extend imageWidth imageHeight [])
      rw [extend_nil]
  | cons head heads ih =>
      obtain ⟨ny, nx, shape⟩ := shapes head (by simp)
      rw [List.length_cons] at known
      have rest : multipartFound imageWidth imageHeight (scale + 1) _ heads = _ :=
        ih (by omega) (fun h mem => shapes h (by simp [mem]))
          (found.extend imageWidth imageHeight (passing (headCells scale head ny nx)))
      rw [multipartFound, decodeHead_eq (by omega) shape]
      change multipartFound imageWidth imageHeight (scale + 1) _ heads = _
      rw [rest, extend_append, cellsFrom, shape]
      simp only [passing, List.filter_append]
      rfl

end Loops

/-! ## The result -/

/-- What `NMSBoxes` promises of its indices. -/
def Selects (nmsBoxes : List (Rect K) → List K → K → K → List Nat) : Prop :=
  ∀ bboxes scores scoreThreshold nmsThreshold, bboxes.length = scores.length →
    (nmsBoxes bboxes scores scoreThreshold nmsThreshold).Nodup ∧
      (∀ i ∈ nmsBoxes bboxes scores scoreThreshold nmsThreshold, i < scores.length) ∧
        ((∃ s ∈ scores, scoreThreshold < s) →
          nmsBoxes bboxes scores scoreThreshold nmsThreshold ≠ [])

theorem picked_extend (nmsBoxes : List (Rect K) → List K → K → K → List Nat) (width height : Int)
    (cells : List (Cell K)) :
    (Found.empty.extend width height cells).picked nmsBoxes =
      nmsBoxes (cells.map fun c => (c.box width height).asRect) (cells.map Cell.score) threshold
        threshold := by
  unfold Found.picked Found.extend Found.empty
  simp only [List.nil_append, List.map_map]
  rfl

theorem row_extend {width height : Int} {cells : List (Cell K)} {i : Nat} {c : Cell K}
    (found : cells[i]? = some c) :
    (Found.empty.extend width height cells).row (scaledRow width height) i =
      .ok (c.toRow width height) := by
  unfold Found.row Found.extend Found.empty
  simp only [List.nil_append, List.getElem?_map, found, Option.map_some]
  rfl

/-- Valid positions of a list name items of it. -/
theorem forall₂_items {α : Type} {items : List α} {positions : List Nat}
    (valid : ∀ i ∈ positions, i < items.length) :
    ∃ kept, List.Forall₂ (fun i c => items[i]? = some c) positions kept := by
  induction positions with
  | nil => exact ⟨[], .nil⟩
  | cons i positions ih =>
      obtain ⟨kept, rest⟩ := ih fun j mem => valid j (by simp [mem])
      have bound := valid i (by simp)
      exact ⟨items[i] :: kept, .cons (List.getElem?_eq_getElem bound) rest⟩

theorem rows_extend {width height : Int} {cells kept : List (Cell K)} {positions : List Nat}
    (named : List.Forall₂ (fun i c => cells[i]? = some c) positions kept) :
    (Found.empty.extend width height cells).rows (scaledRow width height) positions =
      .ok (kept.map (Cell.toRow width height)) :=
  Found.rows_named (named.imp fun _ _ here => row_extend here)

theorem nodup_items {α : Type} {items kept : List α} {positions : List Nat} (all : items.Nodup)
    (once : positions.Nodup) (named : List.Forall₂ (fun i c => items[i]? = some c) positions kept) :
    kept.Nodup := by
  induction named with
  | nil => exact List.nodup_nil
  | @cons i c positions kept here rest ih =>
      rw [List.nodup_cons] at once
      refine List.nodup_cons.mpr ⟨fun again => once.1 ?_, ih once.2⟩
      obtain ⟨j, mem, there⟩ : ∃ j ∈ positions, items[j]? = some c := by
        obtain ⟨k, bound, eq⟩ := List.mem_iff_getElem.mp again
        have inside : k < positions.length := by rw [rest.length_eq]; exact bound
        refine ⟨positions[k], List.getElem_mem inside, ?_⟩
        have at' := (List.forall₂_iff_get.mp rest).2 k inside bound
        simpa [eq] using at'
      have bound : i < items.length := (List.getElem?_eq_some_iff.mp here).1
      rwa [(List.getElem?_inj bound all).mp (here.trans there.symm)]

/-- Parts that can be told apart by a key. -/
theorem nodup_flatMap_of_key {ι α : Type} {f : ι → List α} {items : List ι} (key : α → ι)
    (once : items.Nodup) (parts : ∀ i, (f i).Nodup) (keyed : ∀ i, ∀ c ∈ f i, key c = i) :
    (items.flatMap f).Nodup := by
  refine List.nodup_flatMap.mpr ⟨fun i _ => parts i, once.imp fun {i j} apart c first second => ?_⟩
  exact apart ((keyed i c first).symm.trans (keyed j c second))

omit [LinearOrder K] [Field K] in
theorem nodup_headCells (scale : Nat) (head : Tensor K) (ny nx : Nat) :
    (headCells scale head ny nx).Nodup := by
  refine nodup_flatMap_of_key Cell.anchor List.nodup_range (fun a => ?_) fun a c mem => ?_
  · refine nodup_flatMap_of_key Cell.row List.nodup_range (fun y => ?_) fun y c mem => ?_
    · exact List.nodup_range.map fun x x' same => congrArg Cell.column same
    · obtain ⟨x, -, rfl⟩ := List.mem_map.mp mem
      rfl
  · obtain ⟨y, -, mem⟩ := List.mem_flatMap.mp mem
    obtain ⟨x, -, rfl⟩ := List.mem_map.mp mem
    rfl

omit [LinearOrder K] [Field K] in
theorem scale_headCells {scale : Nat} {head : Tensor K} {ny nx : Nat} {c : Cell K}
    (mem : c ∈ headCells scale head ny nx) : c.scale = scale := by
  obtain ⟨a, -, mem⟩ := List.mem_flatMap.mp mem
  obtain ⟨y, -, mem⟩ := List.mem_flatMap.mp mem
  obtain ⟨x, -, rfl⟩ := List.mem_map.mp mem
  rfl

omit [LinearOrder K] [Field K] in
/-- The cells are all different, and none is of a scale before the first one. -/
theorem nodup_cellsFrom (scale : Nat) (heads : List (Tensor K)) :
    (cellsFrom scale heads).Nodup ∧ ∀ c ∈ cellsFrom scale heads, scale ≤ c.scale := by
  induction heads generalizing scale with
  | nil => exact ⟨List.nodup_nil, fun c mem => absurd mem List.not_mem_nil⟩
  | cons head heads ih =>
      obtain ⟨once, later⟩ := ih (scale + 1)
      rw [cellsFrom]
      constructor
      · refine List.nodup_append.mpr ⟨nodup_headCells _ _ _ _, once, fun c first d second same => ?_⟩
        have here := scale_headCells first
        have there := later d second
        rw [← same] at there
        omega
      · intro c mem
        rcases List.mem_append.mp mem with first | second
        · exact (scale_headCells first).ge
        · have there := later c second
          omega

/-- The result, for the cells that the indices name. -/
theorem postProcessMultipartYolo_eq {nmsBoxes : List (Rect K) → List K → K → K → List Nat}
    {heads : List (Tensor K)} {width height : Int} (known : heads.length ≤ 3)
    (shapes : ∀ head ∈ heads, ∃ ny nx, head.shape = [1, 255, ny, nx]) {kept : List (Cell K)}
    (named : List.Forall₂ (fun i c => (passing (cellsFrom 0 heads))[i]? = some c)
      ((Found.empty.extend width height (passing (cellsFrom 0 heads))).picked nmsBoxes) kept) :
    postProcessMultipartYolo nmsBoxes heads width height =
      .ok ((kept.take 20).map (Cell.toRow width height) ++
        List.replicate (20 - kept.length) (List.replicate 6 0)) := by
  have decoded : multipartFound width height 0 .empty heads =
      .ok (Found.empty.extend width height (passing (cellsFrom 0 heads))) :=
    multipartFound_eq (by omega) shapes .empty
  have first : (Found.empty.extend width height (passing (cellsFrom 0 heads))).rows
      (scaledRow width height) _ = _ := rows_extend (List.forall₂_take 20 named)
  have short : 20 - min 20 kept.length = 20 - kept.length := by omega
  unfold postProcessMultipartYolo
  rw [decoded]
  change ((Found.rows _ _ _).bind _) = _
  rw [first]
  change Except.ok (fill 0 noDetections _) = _
  rw [fill_noDetections, List.length_map, List.take_of_length_le (by simp), List.length_take, short]

/-- The candidates are the cells whose objectness times best class probability reaches the
threshold, in order. The rows are those of the cells that `NMSBoxes` keeps, the first twenty of
them, and zeros. -/
theorem multipart_decoding_exact {nmsBoxes : List (Rect K) → List K → K → K → List Nat}
    (selects : Selects nmsBoxes) (heads : List (Tensor K)) (width height : Int)
    (count : 1 ≤ heads.length ∧ heads.length ≤ 3)
    (shapes : ∀ head ∈ heads, ∃ ny nx, head.shape = [1, 255, ny, nx]) :
    (∀ c ∈ cellsFrom 0 heads, c.bestClass < 80 ∧
      (∀ j < 80, c.probability j ≤ c.probability c.bestClass) ∧
        ∀ j < c.bestClass, c.probability j < c.probability c.bestClass) ∧
    ∃ found kept, multipartFound width height 0 .empty heads = .ok found ∧
      found = Found.empty.extend width height (passing (cellsFrom 0 heads)) ∧
      List.Forall₂ (fun i c => (passing (cellsFrom 0 heads))[i]? = some c) (found.picked nmsBoxes)
        kept ∧
      kept.Nodup ∧ ((∃ c ∈ cellsFrom 0 heads, threshold < c.score) → kept ≠ []) ∧
      postProcessMultipartYolo nmsBoxes heads width height =
        .ok ((kept.take 20).map (Cell.toRow width height) ++
          List.replicate (20 - kept.length) (List.replicate 6 0)) := by
  have decoded : multipartFound width height 0 .empty heads =
      .ok (Found.empty.extend width height (passing (cellsFrom 0 heads))) :=
    multipartFound_eq (by omega) shapes .empty
  obtain ⟨once, valid, present⟩ := selects
    ((passing (cellsFrom 0 heads)).map fun c => (c.box width height).asRect)
    ((passing (cellsFrom 0 heads)).map Cell.score) threshold threshold (by simp)
  rw [← picked_extend nmsBoxes width height] at once valid present
  rw [List.length_map] at valid
  obtain ⟨kept, named⟩ := forall₂_items valid
  refine ⟨fun c _ => c.bestClass_spec, _, kept, decoded, rfl, named, ?_, ?_, ?_⟩
  · exact nodup_items ((nodup_cellsFrom 0 heads).1.filter _) once named
  · intro above none'
    obtain ⟨c, mem, high⟩ := above
    have passes : c ∈ passing (cellsFrom 0 heads) :=
      List.mem_filter.mpr ⟨mem, decide_eq_true high.le⟩
    refine present ⟨c.score, List.mem_map_of_mem passes, high⟩ ?_
    subst none'
    exact List.forall₂_nil_right_iff.mp named
  · exact postProcessMultipartYolo_eq (by omega) shapes named

/-- An `NMSBoxes` that keeps every box above the threshold. -/
def keepAbove (_ : List (Rect ℚ)) (scores : List ℚ) (t _ : ℚ) : List Nat :=
  (List.range scores.length).filter fun i => decide (t < scores.getD i 0)

theorem selects_keepAbove : Selects keepAbove := by
  intro bboxes scores t u _
  refine ⟨List.nodup_range.filter _, fun i mem => ?_, fun above none' => ?_⟩
  · exact List.mem_range.mp (List.mem_filter.mp mem).1
  · obtain ⟨s, mem, high⟩ := above
    obtain ⟨i, bound, rfl⟩ := List.mem_iff_getElem.mp mem
    have kept : i ∈ keepAbove bboxes scores t u := by
      refine List.mem_filter.mpr ⟨List.mem_range.mpr bound, decide_eq_true ?_⟩
      simpa [List.getD_eq_getElem?_getD, bound] using high
    rw [none'] at kept
    exact absurd kept List.not_mem_nil

/-- A head with one cell. -/
def oneCell : Tensor ℚ := ⟨[1, 255, 1, 1], List.replicate 255 1, by decide +kernel⟩

theorem multipart_decoding_exact_oneCell :
    ∃ found kept, multipartFound 32 32 0 .empty [oneCell] = .ok found ∧
      List.Forall₂ (fun i c => (passing (cellsFrom 0 [oneCell]))[i]? = some c)
        (found.picked keepAbove) kept := by
  have shapes : ∀ head ∈ [oneCell], ∃ ny nx, head.shape = [1, 255, ny, nx] := by
    intro head mem
    obtain rfl := List.mem_singleton.mp mem
    exact ⟨1, 1, rfl⟩
  obtain ⟨-, found, kept, decoded, -, named, -⟩ :=
    multipart_decoding_exact selects_keepAbove [oneCell] 32 32 (by decide) shapes
  exact ⟨found, kept, decoded, named⟩

end ModelUtil
