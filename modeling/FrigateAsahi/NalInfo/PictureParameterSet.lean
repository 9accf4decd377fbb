import Mathlib.Data.Nat.Log
import FrigateAsahi.NalInfo.SequenceParameterSet

/-!
# Picture parameter sets

The syntax of clause 7.3.2.2 and `parse_pps`. Whether the optional last part is there is told from
the position of the stop bit. With slice group map type 6 the parser reads one `slice_group_id` too
few, so all that follows is read from the bits of the last one on.
-/

namespace NalInfo

open Text (Bytes)
open Python Bits

/-! ## The parser -/

/-- The dictionary that `parse_pps` returns. -/
structure PpsInfo : Type where
  cabac : Nat
  sliceGroups : Nat
  numRefIdxL0 : Nat
  numRefIdxL1 : Nat
  weightedPred : Nat
  weightedBipredIdc : Nat
  initQp : Int
  cqo : Int
  dbfCtrl : Nat
  cip : Nat
  transform8x8 : Nat
  scalingPps : Nat
  ppsListsPresent : List Bool
  secondCqo : Int
  deriving DecidableEq

/-- `max(1, math.ceil(math.log2(n)))` -/
def idBits (n : Nat) : Nat := max 1 (Nat.clog 2 n)

def parseSliceGroups (groups : Nat) : BRM Unit :=
  if groups > 1 then do
    let t ← ue
    if t = 0 then
      forRange ue groups
    else if t = 2 then
      forRange (do let _ ← ue; ue) (groups - 1)
    else if t ∈ [3, 4, 5] then do
      let _ ← u 1
      let _ ← ue
      pure ()
    else if t = 6 then do
      let n ← ue
      forRange (u (idBits groups)) n
    else pure ()
  else pure ()

/-- `pps_lists_present` -/
def parseMatrix (chroma transform8x8 scaling : Nat) : BRM (List Bool) :=
  if scaling ≠ 0 then scalingLists (6 + (if chroma = 3 then 6 else 2) * transform8x8) 0
  else pure []

/-- The part that a set need not have. -/
def parseTail (chroma : Nat) (p : PpsInfo) : BRM PpsInfo := do
  let transform8x8 ← u 1
  let scaling ← u 1
  let present ← parseMatrix chroma transform8x8 scaling
  let second ← se
  pure { p with
    transform8x8, scalingPps := scaling, ppsListsPresent := present, secondCqo := second }

/-- From `num_ref_idx_l0_default_active_minus1` to `redundant_pic_cnt_present_flag`. -/
def parseHead (cabac groups : Nat) : BRM PpsInfo := do
  let l0 ← ue
  let l1 ← ue
  let weightedPred ← u 1
  let weightedBipred ← u 2
  let qp ← se
  let _ ← se
  let cqo ← se
  let dbfCtrl ← u 1
  let cip ← u 1
  let _ ← u 1
  pure ⟨cabac, groups, l0 + 1, l1 + 1, weightedPred, weightedBipred, 26 + qp, cqo, dbfCtrl, cip,
    0, 0, [], cqo⟩

def parseRest (cabac groups chroma : Nat) : BRM PpsInfo := do
  let p ← parseHead cabac groups
  let br ← get
  if moreRbspData br then parseTail chroma p
  else pure p

/-- `cabac` and `slice_groups`, and the parameters of the groups. -/
def parseFront : BRM (Nat × Nat) := do
  let _ ← ue
  let _ ← ue
  let cabac ← u 1
  let _ ← u 1
  let groups ← ue
  parseSliceGroups (groups + 1)
  pure (cabac, groups + 1)

def parsePpsBits (chroma : Nat) : BRM PpsInfo := do
  let (cabac, groups) ← parseFront
  parseRest cabac groups chroma

def parsePps (b : Bytes) (chroma : Nat) : Except PyErr PpsInfo := do
  let (p, _) ← parsePpsBits chroma (BR.new (b.drop 1))
  pure p

/-! ## The syntax -/

/-- The slice groups with the parameters of their map type. -/
inductive SliceGroups : Type
  | one
  | interleaved (runLengthMinus1 : List Nat) (many : 2 ≤ runLengthMinus1.length)
  | dispersed (groups : Nat) (many : 2 ≤ groups)
  | foreground (topLeftBottomRight : List (Nat × Nat)) (many : 1 ≤ topLeftBottomRight.length)
  | evolving (groups : Nat) (many : 2 ≤ groups) (type : Nat) (types : type ∈ [3, 4, 5])
      (changeDirection : Bool) (changeRateMinus1 : Nat)
  | explicit (groups : Nat) (many : 2 ≤ groups) (front : List Nat) (last : Nat)
      (small : ∀ id ∈ front ++ [last], id < 2 ^ Nat.clog 2 groups)

namespace SliceGroups

def count : SliceGroups → Nat
  | one => 1
  | interleaved runLengthMinus1 _ => runLengthMinus1.length
  | dispersed groups _ => groups
  | foreground topLeftBottomRight _ => topLeftBottomRight.length + 1
  | evolving groups .. => groups
  | explicit groups .. => groups

def code : SliceGroups → List Bool
  | one => []
  | interleaved runLengthMinus1 _ => golomb 0 ++ runLengthMinus1.flatMap golomb
  | dispersed .. => golomb 1
  | foreground topLeftBottomRight _ =>
    golomb 2 ++ topLeftBottomRight.flatMap fun r => golomb r.1 ++ golomb r.2
  | evolving _ _ type _ changeDirection changeRateMinus1 =>
    golomb type ++ [changeDirection] ++ golomb changeRateMinus1
  | explicit groups _ front last _ =>
    golomb 6 ++ golomb front.length ++ (front ++ [last]).flatMap (fixed (Nat.clog 2 groups))

end SliceGroups

namespace SliceGroups

def mapType : SliceGroups → Option Nat
  | one => none
  | interleaved .. => some 0
  | dispersed .. => some 1
  | foreground .. => some 2
  | evolving _ _ type .. => some type
  | explicit .. => some 6

/-- The bits of the last `slice_group_id`. -/
def lastId : SliceGroups → List Bool
  | explicit groups _ _ last _ => fixed (Nat.clog 2 groups) last
  | _ => []

end SliceGroups

/-- The part that a set need not have. -/
structure PpsTail : Type where
  transform8x8Mode : Bool
  scalingMatrix : Option ScalingMatrix
  secondChromaQpIndexOffset : Int

structure PpsRest : Type where
  numRefIdxL0Minus1 : Nat
  numRefIdxL1Minus1 : Nat
  weightedPred : Bool
  weightedBipredIdc : Fin 4
  picInitQpMinus26 : Int
  picInitQsMinus26 : Int
  chromaQpIndexOffset : Int
  deblockingFilterControlPresent : Bool
  constrainedIntraPred : Bool
  redundantPicCntPresent : Bool
  tail : Option PpsTail

structure Pps : Type where
  picParameterSetId : Nat
  seqParameterSetId : Nat
  entropyCodingMode : Bool
  bottomFieldPicOrderInFramePresent : Bool
  sliceGroups : SliceGroups
  rest : PpsRest

/-- How many scaling lists the last part has for a chroma format. -/
def PpsTail.lists (chroma : Nat) (t : PpsTail) : Nat :=
  6 + (if chroma ≠ 3 then 2 else 6) * t.transform8x8Mode.toNat

def PpsTail.code (chroma : Nat) (t : PpsTail) : List Bool :=
  [t.transform8x8Mode] ++ [t.scalingMatrix.isSome] ++
    (match t.scalingMatrix with
      | none => []
      | some lists => scalingListsCode lists (t.lists chroma) 0) ++
    signedGolomb t.secondChromaQpIndexOffset

def PpsRest.head (r : PpsRest) : List Bool :=
  golomb r.numRefIdxL0Minus1 ++ golomb r.numRefIdxL1Minus1 ++ [r.weightedPred] ++
    fixed 2 r.weightedBipredIdc ++ signedGolomb r.picInitQpMinus26 ++
    signedGolomb r.picInitQsMinus26 ++ signedGolomb r.chromaQpIndexOffset ++
    [r.deblockingFilterControlPresent] ++ [r.constrainedIntraPred] ++ [r.redundantPicCntPresent]

def PpsRest.tailCode (chroma : Nat) (r : PpsRest) : List Bool :=
  match r.tail with
  | none => []
  | some t => t.code chroma

def PpsRest.code (chroma : Nat) (r : PpsRest) : List Bool := r.head ++ r.tailCode chroma

/-- The elements before the parameters of the slice groups. -/
def Pps.front (p : Pps) : List Bool :=
  golomb p.picParameterSetId ++ golomb p.seqParameterSetId ++ [p.entropyCodingMode] ++
    [p.bottomFieldPicOrderInFramePresent] ++ golomb (p.sliceGroups.count - 1)

def Pps.code (chroma : Nat) (p : Pps) : List Bool :=
  p.front ++ p.sliceGroups.code ++ p.rest.code chroma

/-- The values that are reported, as the set codes them. -/
def PpsRest.info (cabac groups chroma : Nat) (r : PpsRest) : PpsInfo where
  cabac
  sliceGroups := groups
  numRefIdxL0 := r.numRefIdxL0Minus1 + 1
  numRefIdxL1 := r.numRefIdxL1Minus1 + 1
  weightedPred := r.weightedPred.toNat
  weightedBipredIdc := r.weightedBipredIdc
  initQp := 26 + r.picInitQpMinus26
  cqo := r.chromaQpIndexOffset
  dbfCtrl := r.deblockingFilterControlPresent.toNat
  cip := r.constrainedIntraPred.toNat
  transform8x8 := match r.tail with
    | none => 0
    | some t => t.transform8x8Mode.toNat
  scalingPps := match r.tail with
    | none => 0
    | some t => t.scalingMatrix.isSome.toNat
  ppsListsPresent := match r.tail with
    | none => []
    | some t => match t.scalingMatrix with
      | none => []
      | some lists => listsPresent lists (t.lists chroma) 0
  secondCqo := match r.tail with
    | none => r.chromaQpIndexOffset
    | some t => t.secondChromaQpIndexOffset

def Pps.info (chroma : Nat) (p : Pps) : PpsInfo :=
  p.rest.info p.entropyCodingMode.toNat p.sliceGroups.count chroma

/-! ## Reading the syntax -/

section Reading

variable {cabac groups chroma : Nat}

/-- The values without the last part, which has defaults. -/
def PpsRest.headInfo (cabac groups : Nat) (r : PpsRest) : PpsInfo :=
  PpsRest.info cabac groups 1 { r with tail := none }

theorem reads_parseHead (r : PpsRest) :
    Reads (parseHead cabac groups) r.head (r.headInfo cabac groups) := by
  have bipred : Reads (u 2) (fixed 2 r.weightedBipredIdc) r.weightedBipredIdc :=
    reads_u r.weightedBipredIdc.isLt
  rw [PpsRest.head]
  simp only [List.append_assoc]
  exact (reads_ue _).bind ((reads_ue _).bind ((reads_flag _).bind (bipred.bind
    ((reads_se _).bind ((reads_se _).bind ((reads_se _).bind ((reads_flag _).bind
      ((reads_flag _).bind ((reads_flag _).map (Reads.pure _))))))))))

theorem reads_parseTail (r : PpsRest) {t : PpsTail} (held : r.tail = some t) :
    Reads (parseTail chroma (r.headInfo cabac groups)) (t.code chroma)
      (r.info cabac groups chroma) := by
  have matrix : Reads (parseMatrix chroma t.transform8x8Mode.toNat t.scalingMatrix.isSome.toNat)
      (match t.scalingMatrix with
        | none => []
        | some lists => scalingListsCode lists (t.lists chroma) 0)
      (match t.scalingMatrix with
        | none => []
        | some lists => listsPresent lists (t.lists chroma) 0) := by
    have count : t.lists chroma = 6 + (if chroma = 3 then 6 else 2) * t.transform8x8Mode.toNat := by
      rw [PpsTail.lists, ite_not]
    cases t.scalingMatrix with
    | none => exact Reads.pure []
    | some lists =>
        have present : (some lists).isSome.toNat ≠ 0 := Nat.one_ne_zero
        rw [parseMatrix, if_pos present, ← count]
        exact reads_scalingLists lists (t.lists chroma) 0
  have last : Reads (do
      let second ← se
      pure { r.headInfo cabac groups with
        transform8x8 := t.transform8x8Mode.toNat
        scalingPps := t.scalingMatrix.isSome.toNat
        ppsListsPresent := match t.scalingMatrix with
          | none => []
          | some lists => listsPresent lists (t.lists chroma) 0
        secondCqo := second }) (signedGolomb t.secondChromaQpIndexOffset)
      (r.info cabac groups chroma) := by
    refine (reads_se _).map ?_
    rw [PpsRest.info, held]
    exact Reads.pure _
  rw [PpsTail.code]
  simp only [List.append_assoc]
  exact (reads_flag _).bind ((reads_flag _).bind (matrix.bind last))

/-- The rest of a set, where the stop bit follows its last part. -/
theorem parseRest_eq {br : BR} {code : List Bool} (held : br.d = close code) {r : PpsRest}
    (coded : r.code chroma <+: br.left)
    (tail : r.tail.isSome ↔ br.pos + r.head.length < code.length) :
    parseRest cabac groups chroma br =
      .ok (r.info cabac groups chroma, br.skip (r.code chroma).length) := by
  obtain ⟨rest, bits⟩ := coded
  rw [PpsRest.code, List.append_assoc] at bits
  have head := @reads_parseHead cabac groups r br _ bits.symm
  have more : moreRbspData (br.skip r.head.length) = decide (br.pos + r.head.length < code.length) :=
    moreRbspData_eq held
  have left : (br.skip r.head.length).left = r.tailCode chroma ++ rest := by
    rw [BR.left_skip, ← bits, List.drop_left]
  have steps : parseRest cabac groups chroma br =
      (if moreRbspData (br.skip r.head.length) then parseTail chroma (r.headInfo cabac groups)
        else pure (r.headInfo cabac groups)) (br.skip r.head.length) := by
    change (parseHead cabac groups br).bind _ = _
    rw [head]
    rfl
  cases last : r.tail with
  | none =>
      rw [last] at tail
      have ended : ¬ br.pos + r.head.length < code.length := fun inside => by
        cases tail.mpr inside
      have whole : r.headInfo cabac groups = r.info cabac groups chroma := by
        rw [PpsRest.headInfo, PpsRest.info, PpsRest.info, last]
      have none : r.tailCode chroma = [] := by rw [PpsRest.tailCode, last]
      rw [steps, more, if_neg (by simpa using ended), whole, PpsRest.code, none, List.append_nil]
      rfl
  | some t =>
      rw [last] at tail
      have inside : br.pos + r.head.length < code.length := tail.mp rfl
      have some : r.tailCode chroma = t.code chroma := by rw [PpsRest.tailCode, last]
      rw [some] at left
      rw [steps, more, if_pos (by simpa using inside), reads_parseTail r last _ _ left,
        BR.skip_skip, PpsRest.code, some, List.length_append]

theorem took_parseHead {br br' : BR} {p : PpsInfo} (ran : parseHead cabac groups br = .ok (p, br')) :
    ∃ r : PpsRest, p = r.headInfo cabac groups ∧ Took br r.head br' := by
  obtain ⟨l0, br₁, readL0, ran⟩ := ran_bind ran
  obtain ⟨l1, br₂, readL1, ran⟩ := ran_bind ran
  obtain ⟨weightedPred, br₃, readWeighted, ran⟩ := ran_bind ran
  obtain ⟨weightedBipred, br₄, readBipred, ran⟩ := ran_bind ran
  obtain ⟨qp, br₅, readQp, ran⟩ := ran_bind ran
  obtain ⟨qs, br₆, readQs, ran⟩ := ran_bind ran
  obtain ⟨cqo, br₇, readCqo, ran⟩ := ran_bind ran
  obtain ⟨dbfCtrl, br₈, readDbf, ran⟩ := ran_bind ran
  obtain ⟨cip, br₉, readCip, ran⟩ := ran_bind ran
  obtain ⟨redundant, br₁₀, readRedundant, ran⟩ := ran_bind ran
  obtain ⟨rfl, rfl⟩ := ran_pure ran
  obtain ⟨weighted, rfl, tookWeighted⟩ := took_flag readWeighted
  obtain ⟨bipred, two, rfl, tookBipred⟩ := took_u readBipred
  obtain ⟨dbf, rfl, tookDbf⟩ := took_flag readDbf
  obtain ⟨intra, rfl, tookCip⟩ := took_flag readCip
  obtain ⟨count, rfl, tookRedundant⟩ := took_flag readRedundant
  have small : value bipred < 4 := by
    have bound := value_lt bipred
    rwa [two] at bound
  refine ⟨⟨l0, l1, weighted, ⟨value bipred, small⟩, qp, qs, cqo, dbf, intra, count, none⟩, rfl, ?_⟩
  have whole := (took_ue readL0).append ((took_ue readL1).append (tookWeighted.append
    (tookBipred.append ((took_se readQp).append ((took_se readQs).append ((took_se readCqo).append
      (tookDbf.append (tookCip.append tookRedundant))))))))
  rw [← fixed_value bipred, two] at whole
  rw [PpsRest.head]
  simp only [List.append_assoc]
  exact whole

theorem took_parseTail {br br' : BR} {r : PpsRest} {p : PpsInfo}
    (ran : parseTail chroma (r.headInfo cabac groups) br = .ok (p, br')) :
    ∃ t : PpsTail, p = PpsRest.info cabac groups chroma { r with tail := some t } ∧
      Took br (t.code chroma) br' := by
  obtain ⟨transform8x8, br₁, readTransform, ran⟩ := ran_bind ran
  obtain ⟨scaling, br₂, readScaling, ran⟩ := ran_bind ran
  obtain ⟨present, br₃, readMatrix, ran⟩ := ran_bind ran
  obtain ⟨second, br₄, readSecond, ran⟩ := ran_bind ran
  obtain ⟨rfl, rfl⟩ := ran_pure ran
  obtain ⟨transform, rfl, tookTransform⟩ := took_flag readTransform
  obtain ⟨scaled, rfl, tookScaling⟩ := took_flag readScaling
  cases scaled with
  | false =>
      obtain ⟨rfl, rfl⟩ := ran_pure readMatrix
      refine ⟨⟨transform, none, second⟩, rfl, ?_⟩
      exact tookTransform.append (tookScaling.append (took_se readSecond))
  | true =>
      have count : 6 + (if chroma = 3 then 6 else 2) * transform.toNat =
          6 + (if chroma ≠ 3 then 2 else 6) * transform.toNat := by rw [ite_not]
      rw [parseMatrix, if_pos (show true.toNat ≠ 0 from Nat.one_ne_zero), count] at readMatrix
      obtain ⟨lists, rfl, tookMatrix⟩ := took_scalingLists readMatrix
      refine ⟨⟨transform, some lists, second⟩, rfl, ?_⟩
      have whole := tookTransform.append (tookScaling.append (tookMatrix.append
        (took_se readSecond)))
      rw [PpsTail.code]
      simp only [List.append_assoc]
      exact whole

/-- Whatever the rest of a set is read as is coded there. -/
theorem parseRest_ok_iff {br : BR} {code : List Bool} (held : br.d = close code) {p : PpsInfo} :
    (∃ br', parseRest cabac groups chroma br = .ok (p, br')) ↔
      ∃ r : PpsRest, p = r.info cabac groups chroma ∧ r.code chroma <+: br.left ∧
        (r.tail.isSome ↔ br.pos + r.head.length < code.length) := by
  constructor
  · rintro ⟨br', ran⟩
    obtain ⟨q, headed, first, ran⟩ := ran_bind ran
    obtain ⟨held', same, got, ran⟩ := ran_bind ran
    cases got
    obtain ⟨r, rfl, took⟩ := took_parseHead first
    have more : moreRbspData headed = decide (br.pos + r.head.length < code.length) := by
      rw [took.2]
      exact moreRbspData_eq held
    rw [more] at ran
    by_cases inside : br.pos + r.head.length < code.length
    · rw [if_pos (by simpa using inside)] at ran
      obtain ⟨t, rfl, tail⟩ := took_parseTail ran
      exact ⟨{ r with tail := some t }, rfl, (took.append tail).1, iff_of_true rfl inside⟩
    · rw [if_neg (by simpa using inside)] at ran
      obtain ⟨rfl, rfl⟩ := ran_pure ran
      refine ⟨{ r with tail := none }, rfl, ?_, iff_of_false (by simp) inside⟩
      rw [PpsRest.code, PpsRest.tailCode, List.append_nil]
      exact took.1
  · rintro ⟨r, rfl, coded, tail⟩
    exact ⟨_, parseRest_eq held coded tail⟩

end Reading

/-! ## Slice groups -/

theorem SliceGroups.one_le_count (g : SliceGroups) : 1 ≤ g.count := by
  cases g with
  | one => exact Nat.le_refl 1
  | interleaved runs many => exact Nat.le_of_succ_le many
  | dispersed groups many => exact Nat.le_of_succ_le many
  | foreground rects many => exact Nat.le_add_left 1 _
  | evolving groups many => exact Nat.le_of_succ_le many
  | explicit groups many => exact Nat.le_of_succ_le many

theorem idBits_eq {groups : Nat} (many : 2 ≤ groups) : idBits groups = Nat.clog 2 groups :=
  max_eq_right (Nat.clog_pos (by decide) many)

/-- The parser reads all parameters but the last id. -/
theorem reads_parseSliceGroups (g : SliceGroups) :
    ∃ code, g.code = code ++ g.lastId ∧ Reads (parseSliceGroups g.count) code () := by
  cases g with
  | one => exact ⟨[], rfl, Reads.pure ()⟩
  | interleaved runs many =>
      refine ⟨_, (List.append_nil _).symm, ?_⟩
      have loop : Reads (forRange ue runs.length) (runs.flatMap golomb) () :=
        reads_forRange fun k _ => ⟨k, reads_ue k⟩
      rw [parseSliceGroups, if_pos (by exact many)]
      exact (reads_ue 0).bind loop
  | dispersed groups many =>
      refine ⟨_, (List.append_nil _).symm, ?_⟩
      rw [parseSliceGroups, if_pos (by exact many)]
      exact (reads_ue 1).map (Reads.pure ())
  | foreground rects many =>
      refine ⟨_, (List.append_nil _).symm, ?_⟩
      have loop : Reads (forRange (do let _ ← ue; ue) rects.length)
          (rects.flatMap fun r => golomb r.1 ++ golomb r.2) () :=
        reads_forRange fun r _ => ⟨r.2, (reads_ue r.1).bind (reads_ue r.2)⟩
      rw [parseSliceGroups, if_pos (by exact Nat.lt_succ_of_le many)]
      exact (reads_ue 2).bind loop
  | evolving groups many type types changeDirection changeRateMinus1 =>
      refine ⟨_, (List.append_nil _).symm, ?_⟩
      rw [parseSliceGroups, if_pos (by exact many), SliceGroups.code]
      simp only [List.append_assoc]
      refine (reads_ue type).bind ?_
      have other : type ≠ 0 ∧ type ≠ 2 := by
        simp only [List.mem_cons, List.not_mem_nil, or_false] at types
        omega
      rw [if_neg other.1, if_neg other.2, if_pos types]
      exact (reads_flag changeDirection).bind ((reads_ue changeRateMinus1).map (Reads.pure ()))
  | explicit groups many front last small =>
      refine ⟨golomb 6 ++ golomb front.length ++ front.flatMap (fixed (Nat.clog 2 groups)), ?_, ?_⟩
      · simp [SliceGroups.code, SliceGroups.lastId]
      · have loop : Reads (forRange (u (idBits groups)) front.length)
            (front.flatMap (fixed (Nat.clog 2 groups))) () := by
          refine reads_forRange fun id member => ⟨id, ?_⟩
          rw [idBits_eq many]
          exact reads_u (small id (by simp [member]))
        rw [parseSliceGroups, if_pos (by exact many), List.append_assoc]
        exact (reads_ue 6).bind ((reads_ue front.length).bind loop)

/-! ## Whole sets -/

/-- The bits from the last `slice_group_id` on begin with the rest of a set of the same values. -/
def Pps.Coincides (chroma : Nat) (p : Pps) : Prop :=
  ∃ other : PpsRest,
    other.info p.entropyCodingMode.toNat p.sliceGroups.count chroma = p.info chroma ∧
      other.code chroma <+:
        p.sliceGroups.lastId ++ p.rest.code chroma ++ stop (p.code chroma).length ∧
      (other.tail.isSome ↔
        other.head.length < (p.sliceGroups.lastId ++ p.rest.code chroma).length)

theorem PpsRest.isSome_tail (chroma : Nat) (r : PpsRest) :
    r.tail.isSome ↔ r.head.length < (r.code chroma).length := by
  rw [PpsRest.code, PpsRest.tailCode, List.length_append]
  cases r.tail with
  | none => simp
  | some t => simp [PpsTail.code]

theorem reads_parseFront (p : Pps) :
    ∃ code, p.sliceGroups.code = code ++ p.sliceGroups.lastId ∧
      Reads parseFront (p.front ++ code) (p.entropyCodingMode.toNat, p.sliceGroups.count) := by
  obtain ⟨code, split, groups⟩ := reads_parseSliceGroups p.sliceGroups
  obtain ⟨k, count⟩ : ∃ k, p.sliceGroups.count = k + 1 :=
    ⟨p.sliceGroups.count - 1, by have one := p.sliceGroups.one_le_count; omega⟩
  refine ⟨code, split, ?_⟩
  rw [count] at groups
  rw [Pps.front, count, Nat.add_sub_cancel]
  simp only [List.append_assoc]
  exact (reads_ue _).bind ((reads_ue _).bind ((reads_flag _).bind ((reads_flag _).bind
    ((reads_ue _).bind (groups.map (Reads.pure _))))))

/-- `parse_pps` reports the coded values exactly where no list of slice group ids is coded, or the
bits that it takes for the rest of the set happen to give the same values. -/
theorem parsePps_eq_iff (header : UInt8) (chroma : Nat) (p : Pps) :
    parsePps (header :: escape 0 (close (p.code chroma))) chroma = .ok (p.info chroma) ↔
      p.sliceGroups.mapType ≠ some 6 ∨ p.Coincides chroma := by
  obtain ⟨groups, split, front⟩ := reads_parseFront p
  obtain ⟨br, new⟩ : ∃ br, BR.new (escape 0 (close (p.code chroma))) = br := ⟨_, rfl⟩
  have held : br.d = close (p.code chroma) := by
    rw [← new]
    exact strip_escape _
  have coded : p.code chroma =
      p.front ++ groups ++ (p.sliceGroups.lastId ++ p.rest.code chroma) := by
    rw [Pps.code, split]
    simp only [List.append_assoc]
  have left : br.left = p.front ++ groups ++
      (p.sliceGroups.lastId ++ p.rest.code chroma ++ stop (p.code chroma).length) := by
    have start : br.pos = 0 := by rw [← new]; rfl
    rw [BR.left, held, ofBytes_close, start, List.drop_zero, coded]
    simp only [List.append_assoc]
  obtain ⟨later, moved⟩ : ∃ later, br.skip (p.front ++ groups).length = later := ⟨_, rfl⟩
  have rest : later.left =
      p.sliceGroups.lastId ++ p.rest.code chroma ++ stop (p.code chroma).length := by
    rw [← moved, BR.left_skip, left, List.drop_left]
  have ran : parsePpsBits chroma br =
      parseRest p.entropyCodingMode.toNat p.sliceGroups.count chroma later := by
    change (parseFront br).bind _ = _
    rw [front br _ left, moved]
    rfl
  have result : parsePps (header :: escape 0 (close (p.code chroma))) chroma = .ok (p.info chroma) ↔
      ∃ br', parseRest p.entropyCodingMode.toNat p.sliceGroups.count chroma later =
        .ok (p.info chroma, br') := by
    rw [parsePps, List.drop_one, List.tail_cons, new, ran]
    cases parseRest p.entropyCodingMode.toNat p.sliceGroups.count chroma later with
    | error e => simp [bind, Except.bind]
    | ok x => simp [bind, Except.bind, pure, Except.pure, Prod.ext_iff]
  have position : later.pos + (p.sliceGroups.lastId ++ p.rest.code chroma).length =
      (p.code chroma).length := by
    have start : br.pos = 0 := by rw [← new]; rfl
    rw [← moved, BR.skip, start, Nat.zero_add, coded]
    exact List.length_append.symm
  have coincides : (∃ br', parseRest p.entropyCodingMode.toNat p.sliceGroups.count chroma later =
      .ok (p.info chroma, br')) ↔ p.Coincides chroma := by
    have same : later.d = close (p.code chroma) := by rw [← moved]; exact held
    rw [parseRest_ok_iff same, rest]
    refine exists_congr fun r => and_congr eq_comm (and_congr Iff.rfl (iff_congr Iff.rfl ?_))
    omega
  rw [result, coincides]
  refine (or_iff_right_of_imp fun other => ?_).symm
  have none : p.sliceGroups.lastId = [] := by
    cases groups : p.sliceGroups with
    | explicit => exact absurd (by rw [groups]; rfl) other
    | _ => rfl
  refine ⟨p.rest, rfl, ?_, ?_⟩
  · rw [none]
    exact List.prefix_append _ _
  · rw [none]
    exact p.rest.isSome_tail chroma

/-- Two slice groups with the groups of two map units coded. -/
def scattered : Pps where
  picParameterSetId := 0
  seqParameterSetId := 0
  entropyCodingMode := false
  bottomFieldPicOrderInFramePresent := false
  sliceGroups := .explicit 2 (Nat.le_refl 2) [0] 1 (by decide)
  rest := ⟨0, 0, false, 0, 0, 0, 0, true, false, false, none⟩

/-- The number of reference pictures is read from the second id. -/
theorem scattered_misread :
    parsePps (0x68 :: escape 0 (close (scattered.code 1))) 1 ≠ .ok (scattered.info 1) := by
  decide +kernel

end NalInfo
