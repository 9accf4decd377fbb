import FrigateAsahi.MultipartDecoding

/-!
# Decoding one tensor

A model with a single output has its candidates in rows or in columns, and the decoder turns the
second layout into the first. A mask drops the candidates that score too low, and `NMSBoxes` picks
among the others. So a row of the result is traced back to one candidate of the tensor.
-/

namespace ModelUtil

open Python Tensors RowMajor

variable {K : Type} [Field K] [LinearOrder K]

/-! ## Candidates -/

/-- A column of an output in the layout `(1, 4 + classes, count)`. -/
structure Candidate (K : Type) : Type where
  output : Tensor K
  classes : Nat
  column : Nat

namespace Candidate

def channel (c : Candidate K) (k : Nat) : K := c.output.read [0, k, c.column]

/-- The scores of the classes. -/
def classScores (c : Candidate K) : List K := (List.range c.classes).map fun k => c.channel (k + 4)

def bestClass (c : Candidate K) : Nat := argmax c.classScores

def score (c : Candidate K) : K := maximum c.classScores

/-- The box around the center. -/
def box (c : Candidate K) : Box K :=
  ⟨c.channel 0 - c.channel 2 / 2, c.channel 1 - c.channel 3 / 2, c.channel 0 + c.channel 2 / 2,
    c.channel 1 + c.channel 3 / 2⟩

/-- The row of the result. -/
def toRow (width height : Int) (c : Candidate K) : List K :=
  [c.bestClass, c.score, c.box.y1 / height, c.box.x1 / width, c.box.y2 / height, c.box.x2 / width]

end Candidate

/-- The candidates whose best class scores above the threshold. -/
def candidates (output : Tensor K) (classes count : Nat) : List (Candidate K) :=
  ((List.range count).map fun j => ⟨output, classes, j⟩).filter fun c =>
    decide (threshold < c.score)

/-- What is found: the candidates seen as boxes, as scores and as class ids. -/
def Found.ofCandidates (cs : List (Candidate K)) : Found K :=
  .select cs Candidate.box Candidate.score fun c => (c.bestClass : K)

/-! ## Both layouts -/

section Layouts

variable {output : Tensor K} {classes count : Nat}

omit [LinearOrder K] in
/-- The numbers of a row are the channels of the candidate. -/
theorem last_rows (classes : Nat) {predictions : Tensor K} {channels j : Nat}
    (shape : predictions.shape = [count, channels])
    (reads : ∀ k < channels, predictions.read [j, k] = output.read [0, k, j]) :
    predictions.last [j] = (List.range channels).map (⟨output, classes, j⟩ : Candidate K).channel := by
  unfold Tensor.last
  rw [shape]
  exact List.map_congr_left fun k member => reads k (List.mem_range.mp member)

/-- The greatest class score of a row is the score of the candidate. -/
theorem read_bestScores {predictions : Tensor K} {j : Nat}
    (shape : predictions.shape = [count, classes + 4]) (inside : j < count)
    (reads : ∀ k < classes + 4, predictions.read [j, k] = output.read [0, k, j]) :
    (bestScores predictions).read [j] = (⟨output, classes, j⟩ : Candidate K).score := by
  have valid : Index (predictions.shape.eraseIdx 1) [j] := by
    rw [shape]
    exact .cons inside .nil
  have width : predictions.shape.getD 1 0 - 4 = classes := by
    rw [shape]
    exact Nat.add_sub_cancel classes 4
  unfold bestScores
  rw [Tensor.read_ofIndex valid, width]
  refine congrArg maximum (List.map_congr_left fun k member => reads (k + 4) ?_)
  have below := List.mem_range.mp member
  omega

/-- With its candidates in rows, the tensor holds the candidates. -/
theorem nmsYoloFound_of_rows {t predictions : Tensor K} (one : 1 ≤ classes)
    (ranked : 2 ≤ t.squeeze.shape.length)
    (turned : (if t.squeeze.shape.getD 0 0 < t.squeeze.shape.getD 1 0 then t.squeeze.reversed
      else t.squeeze) = predictions)
    (shape : predictions.shape = [count, classes + 4])
    (reads : ∀ j < count, ∀ k < classes + 4, predictions.read [j, k] = output.read [0, k, j]) :
    nmsYoloFound t = .ok (.ofCandidates (candidates output classes count)) := by
  have scoreShape : (bestScores predictions).shape = [count] := by
    unfold bestScores
    rw [Tensor.shape_ofIndex, shape]
    rfl
  have wide : ¬ predictions.shape.getD 1 0 ≤ 4 := by
    rw [shape]
    change ¬ classes + 4 ≤ 4
    omega
  have aligned : ¬ predictions.shape.dropLast ≠ (bestScores predictions).shape := by
    rw [shape, scoreShape]
    exact not_not_intro rfl
  -- The mask selects the rows of the candidates.
  have chosen : above (bestScores predictions) =
      ((List.range count).filter fun j =>
        decide (threshold < (⟨output, classes, j⟩ : Candidate K).score)).map fun j => [j] := by
    unfold above
    rw [scoreShape, Tensor.indices_one, List.filter_map]
    refine congrArg (List.map fun j => [j]) (List.filter_congr fun j member => ?_)
    have inside := List.mem_range.mp member
    change decide (threshold < (bestScores predictions).read [j]) = _
    rw [read_bestScores shape inside (reads j inside)]
  have listed : candidates output classes count =
      ((List.range count).filter fun j =>
        decide (threshold < (⟨output, classes, j⟩ : Candidate K).score)).map
          fun j => ⟨output, classes, j⟩ := by
    unfold candidates
    rw [List.filter_map]
    rfl
  unfold nmsYoloFound
  dsimp only
  rw [if_neg (by omega), turned, if_neg wide, if_neg aligned]
  rw [chosen, Found.ofCandidates, listed]
  refine congrArg Except.ok (Found.select_congr fun j member => ?_)
  have inside : j < count := List.mem_range.mp (List.mem_of_mem_filter member)
  have row := last_rows classes shape (reads j inside)
  have channel : ∀ k < 4, (predictions.last [j]).getD k 0 =
      (⟨output, classes, j⟩ : Candidate K).channel k := by
    intro k below
    rw [row]
    exact Tensor.getD_map_range (by omega)
  refine ⟨?_, read_bestScores shape inside (reads j inside), ?_⟩
  · rw [channel 0 (by omega), channel 1 (by omega), channel 2 (by omega), channel 3 (by omega)]
    rfl
  · rw [row]
    exact congrArg (fun v => (argmax v : K)) (Tensor.drop_map_range 4 classes _)

/-- Channels in the second axis: the tensor is turned. -/
theorem nmsYoloFound_columns (one : 1 ≤ classes) (more : classes + 4 < count)
    (shape : output.shape = [1, classes + 4, count]) :
    nmsYoloFound output = .ok (.ofCandidates (candidates output classes count)) := by
  have squeezed : output.squeeze.shape = [classes + 4, count] := by
    have wide : classes + 4 ≠ 1 := by omega
    have long : count ≠ 1 := by omega
    unfold Tensor.squeeze
    simp [shape, wide, long]
  have reversed : output.squeeze.reversed = output.squeeze.transpose [1, 0] := by
    unfold Tensor.reversed
    rw [squeezed]
    rfl
  have turnedShape : (output.squeeze.transpose [1, 0]).shape = [count, classes + 4] := by
    unfold Tensor.transpose
    rw [squeezed]
    rfl
  refine nmsYoloFound_of_rows one (by rw [squeezed]; exact le_rfl) ?_ turnedShape ?_
  · rw [squeezed, reversed]
    exact if_pos more
  · intro j inside k channel
    have valid : Index (([1, 0] : List Nat).map fun k => output.squeeze.shape.getD k 0) [j, k] := by
      rw [squeezed]
      exact .cons inside (.cons channel .nil)
    have flat : ravel [classes + 4, count] [k, j] = ravel output.shape [0, k, j] := by
      rw [shape]
      simp only [ravel, Nat.zero_mul, Nat.zero_add]
    rw [Tensor.read_transpose valid]
    change output.squeeze.read [k, j] = _
    unfold Tensor.read
    rw [squeezed, flat]
    rfl

/-- Channels in the last axis: the tensor stays as it is. -/
theorem nmsYoloFound_rows (one : 1 ≤ classes) (more : classes + 4 < count)
    (shape : output.shape = [1, classes + 4, count]) :
    nmsYoloFound (output.transpose [0, 2, 1]) =
      .ok (.ofCandidates (candidates output classes count)) := by
  have moved : (output.transpose [0, 2, 1]).shape = [1, count, classes + 4] := by
    unfold Tensor.transpose
    rw [shape]
    rfl
  have squeezed : (output.transpose [0, 2, 1]).squeeze.shape = [count, classes + 4] := by
    have wide : classes + 4 ≠ 1 := by omega
    have long : count ≠ 1 := by omega
    unfold Tensor.squeeze
    simp [moved, wide, long]
  refine nmsYoloFound_of_rows one (by rw [squeezed]; exact le_rfl) ?_ squeezed ?_
  · rw [squeezed]
    exact if_neg (Nat.lt_asymm more)
  · intro j inside k channel
    have valid : Index (([0, 2, 1] : List Nat).map fun k => output.shape.getD k 0) [0, j, k] := by
      rw [shape]
      exact .cons Nat.zero_lt_one (.cons inside (.cons channel .nil))
    have flat : ravel [count, classes + 4] [j, k] =
        ravel (output.transpose [0, 2, 1]).shape [0, j, k] := by
      rw [moved]
      simp only [ravel, Nat.zero_mul, Nat.zero_add]
    have unchanged : (output.transpose [0, 2, 1]).squeeze.read [j, k] =
        (output.transpose [0, 2, 1]).read [0, j, k] := by
      unfold Tensor.read
      rw [squeezed, flat]
      rfl
    rw [unchanged, Tensor.read_transpose valid]
    rfl

end Layouts

/-! ## The result -/

section Result

variable {output : Tensor K} {classes count : Nat}

theorem nodup_candidates (output : Tensor K) (classes count : Nat) :
    (candidates output classes count).Nodup := by
  refine List.Nodup.filter _ (List.Nodup.map ?_ List.nodup_range)
  intro i j same
  exact congrArg Candidate.column same

theorem mem_candidates {c : Candidate K} (member : c ∈ candidates output classes count) :
    c.classes = classes ∧ threshold < c.score := by
  obtain ⟨listed, high⟩ := List.mem_filter.mp member
  obtain ⟨j, -, rfl⟩ := List.mem_map.mp listed
  exact ⟨rfl, of_decide_eq_true high⟩

/-- The class is the first of the greatest score. -/
theorem Candidate.bestClass_spec {c : Candidate K} (one : 1 ≤ c.classes) :
    c.bestClass < c.classes ∧ c.score = c.channel (c.bestClass + 4) ∧
      (∀ k < c.classes, c.channel (k + 4) ≤ c.score) ∧
        ∀ k < c.bestClass, c.channel (k + 4) < c.score := by
  have length : c.classScores.length = c.classes := by
    rw [Candidate.classScores, List.length_map, List.length_range]
  have number : ∀ k < c.classes, c.classScores.getD k 0 = c.channel (k + 4) :=
    fun _ below => Tensor.getD_map_range below
  obtain ⟨bound, greatest, first⟩ := argmax_spec (v := c.classScores)
    (List.ne_nil_of_length_pos (by omega))
  rw [length] at bound greatest
  refine ⟨bound, number _ bound, fun k below => ?_, fun k before => ?_⟩
  · rw [← number k below]
    exact greatest k below
  · have below : k < c.classes := Nat.lt_trans before bound
    rw [← number k below]
    exact first k before

theorem picked_ofCandidates (nmsBoxes : List (Rect K) → List K → K → K → List Nat)
    (cs : List (Candidate K)) : (Found.ofCandidates cs).picked nmsBoxes =
      nmsBoxes (cs.map fun c => c.box.asRect) (cs.map Candidate.score) threshold threshold := by
  unfold Found.picked Found.ofCandidates Found.select
  rw [List.map_map]
  rfl

theorem row_ofCandidates {width height : Int} {cs : List (Candidate K)} {i : Nat} {c : Candidate K}
    (found : cs[i]? = some c) :
    (Found.ofCandidates cs).row (scaledRow width height) i = .ok (c.toRow width height) := by
  unfold Found.row Found.ofCandidates Found.select
  simp only [List.getElem?_map, found, Option.map_some]
  rfl

/-- What is written for the candidates that `NMSBoxes` keeps. -/
theorem postProcessNmsYolo_eq {nmsBoxes : List (Rect K) → List K → K → K → List Nat}
    (selects : Selects nmsBoxes) {t : Tensor K} {width height : Int} {cs kept : List (Candidate K)}
    (decoded : nmsYoloFound t = .ok (.ofCandidates cs)) (above : ∀ c ∈ cs, threshold < c.score)
    (named : List.Forall₂ (fun i c => cs[i]? = some c) ((Found.ofCandidates cs).picked nmsBoxes)
      kept) :
    postProcessNmsYolo nmsBoxes t width height =
      .ok ((kept.take 20).map (Candidate.toRow width height) ++
        List.replicate (20 - kept.length) (List.replicate 6 0)) := by
  -- Nothing is picked only of nothing, and then all of it is nothing as well.
  have indexed : fancy (Found.ofCandidates cs) ((Found.ofCandidates cs).picked nmsBoxes) =
      (Found.ofCandidates cs).picked nmsBoxes := by
    unfold fancy
    split
    · next none' =>
        have empty : cs = [] := by
          refine List.eq_nil_iff_forall_not_mem.mpr fun c member => ?_
          obtain ⟨-, -, present⟩ := selects (cs.map fun c => c.box.asRect) (cs.map Candidate.score)
            threshold threshold (by rw [List.length_map, List.length_map])
          rw [picked_ofCandidates] at none'
          exact present ⟨c.score, List.mem_map_of_mem member, above c member⟩ none'
        rw [none', empty]
        rfl
    · rfl
  have rows : (Found.ofCandidates cs).rows (scaledRow width height) _ = _ :=
    Found.rows_named (named.imp fun _ _ here => row_ofCandidates here)
  unfold postProcessNmsYolo
  rw [decoded]
  change ((Found.rows _ _ (fancy _ _)).bind _) = _
  rw [indexed, rows]
  change Except.ok (fill 0 noDetections _) = _
  rw [fill_noDetections, List.length_map, List.map_take]

/-- In both layouts, the rows are those of the candidates that `NMSBoxes` keeps, the first twenty of
them, and zeros. -/
theorem single_tensor_exact {nmsBoxes : List (Rect K) → List K → K → K → List Nat}
    (selects : Selects nmsBoxes) (output : Tensor K) {classes count : Nat} (one : 1 ≤ classes)
    (more : classes + 4 < count) (shape : output.shape = [1, classes + 4, count])
    (width height : Int) :
    (∀ c ∈ candidates output classes count, threshold < c.score ∧
      c.bestClass < classes ∧ c.score = c.channel (c.bestClass + 4) ∧
        (∀ k < classes, c.channel (k + 4) ≤ c.score) ∧
          ∀ k < c.bestClass, c.channel (k + 4) < c.score) ∧
    ∃ kept, List.Forall₂ (fun i c => (candidates output classes count)[i]? = some c)
        ((Found.ofCandidates (candidates output classes count)).picked nmsBoxes) kept ∧
      kept.Nodup ∧ (candidates output classes count ≠ [] → kept ≠ []) ∧
      postProcessNmsYolo nmsBoxes output width height =
        .ok ((kept.take 20).map (Candidate.toRow width height) ++
          List.replicate (20 - kept.length) (List.replicate 6 0)) ∧
      postProcessNmsYolo nmsBoxes (output.transpose [0, 2, 1]) width height =
        postProcessNmsYolo nmsBoxes output width height := by
  have above : ∀ c ∈ candidates output classes count, threshold < c.score :=
    fun c member => (mem_candidates member).2
  obtain ⟨once, valid, present⟩ := selects
    ((candidates output classes count).map fun c => c.box.asRect)
    ((candidates output classes count).map Candidate.score) threshold threshold
    (by rw [List.length_map, List.length_map])
  rw [← picked_ofCandidates nmsBoxes] at once valid present
  rw [List.length_map] at valid
  obtain ⟨kept, named⟩ := forall₂_items valid
  refine ⟨fun c member => ?_, kept, named, ?_, ?_, ?_, ?_⟩
  · obtain ⟨rfl, high⟩ := mem_candidates member
    exact ⟨high, Candidate.bestClass_spec one⟩
  · exact nodup_items (nodup_candidates output classes count) once named
  · intro some' none'
    obtain ⟨c, member⟩ := List.exists_mem_of_ne_nil _ some'
    refine present ⟨c.score, List.mem_map_of_mem member, above c member⟩ ?_
    subst none'
    exact List.forall₂_nil_right_iff.mp named
  · exact postProcessNmsYolo_eq selects (nmsYoloFound_columns one more shape) above named
  · rw [postProcessNmsYolo_eq selects (nmsYoloFound_columns one more shape) above named,
      postProcessNmsYolo_eq selects (nmsYoloFound_rows one more shape) above named]

end Result

/-- Six candidates of one class; the third and the sixth score high enough. -/
def sixColumns : Tensor ℚ :=
  ⟨[1, 5, 6], [1, 2, 3, 4, 5, 6, 10, 20, 30, 40, 50, 60, 2, 2, 2, 2, 2, 2, 4, 4, 4, 4, 4, 4,
    0, 1 / 5, 1 / 2, 2 / 5, 1 / 10, 3 / 4], rfl⟩

theorem single_tensor_exact_sixColumns :
    ∃ kept, List.Forall₂ (fun i c => (candidates sixColumns 1 6)[i]? = some c)
        ((Found.ofCandidates (candidates sixColumns 1 6)).picked keepAbove) kept ∧
      postProcessNmsYolo keepAbove (sixColumns.transpose [0, 2, 1]) 10 100 =
        .ok ((kept.take 20).map (Candidate.toRow 10 100) ++
          List.replicate (20 - kept.length) (List.replicate 6 0)) := by
  obtain ⟨-, kept, named, -, -, columns, rows⟩ :=
    single_tensor_exact selects_keepAbove sixColumns (by decide) (by decide) rfl 10 100
  exact ⟨kept, named, rows.trans columns⟩

end ModelUtil
