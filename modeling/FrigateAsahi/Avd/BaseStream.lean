import FrigateAsahi.Avd.HeaderRoundTrip
import Mathlib

/-!
# The words before they had macros

The driver first put its words together with shifts and masks. Where that differs from the macros, and
what the macros kept: the header of every picture that `avd_h264_validate_sps` lets through, and of a
slice all words but four, each of which is the same under a condition on its own controls.
-/

namespace Avd

open BitField

namespace Base

def swrap (x w : UInt32) : UInt32 := x &&& (w - 1)

def boolify (b : Bool) : UInt32 := if b then 1 else 0

/-! ## The words of a slice -/

def weightsHdrWord (run : SliceRun) : UInt32 :=
  (0x2dd00000 : UInt32)
    ||| boolify (run.controls.weighted_bipred_idc == 2) <<< 7
    ||| boolify run.pred_weights_required <<< 6
    ||| run.pred_weights.luma_log2_weight_denom.toUInt32 <<< 3
    ||| run.pred_weights.chroma_log2_weight_denom.toUInt32
    ||| (if run.controls.weighted_bipred_idc = 2 then (0x5 : UInt32) ||| (0x5 : UInt32) <<< 3 else 0)

def weightWords (ident y i : Nat) (weight offset : Int16) : List Nat :=
  [((0x2de00000 : UInt32) ||| UInt32.ofNat ident <<< 14 ||| UInt32.ofNat y <<< 13 ||| UInt32.ofNat i <<< 9
      ||| (weight.toInt32.toUInt32 &&& 0x1ff)).toNat,
   ((0x2df00000 : UInt32) ||| swrap offset.toInt32.toUInt32 0x10000).toNat]

def factorWords (luma_weight chroma_weight : Int) (factors : WeightFactors) (y i : Nat) :
    Option (List Nat) := do
  let lumaWeight ← factors.luma_weight[i]?
  let lumaOffset ← factors.luma_offset[i]?
  let chromaWeight ← factors.chroma_weight[i]?
  let chromaOffset ← factors.chroma_offset[i]?
  let luma :=
    if lumaWeight.toInt ≠ luma_weight ∨ lumaOffset.toInt ≠ 0 then
      weightWords 1 y i lumaWeight lumaOffset
    else
      []
  let chroma :=
    if chromaWeight.1.toInt ≠ chroma_weight ∨ chromaOffset.1.toInt ≠ 0
        ∨ chromaWeight.2.toInt ≠ chroma_weight ∨ chromaOffset.2.toInt ≠ 0 then
      weightWords 2 y i chromaWeight.1 chromaOffset.1
        ++ weightWords 3 y i chromaWeight.2 chromaOffset.2
    else
      []
  return luma ++ chroma

def listWeights (luma_weight chroma_weight : Int) (factors : WeightFactors) (y : Nat) :
    List Nat → Option (List Nat)
  | [] => some []
  | i :: rest => do
      let words ← factorWords luma_weight chroma_weight factors y i
      return words ++ (← listWeights luma_weight chroma_weight factors y rest)

def streamWeights (run : SliceRun) : Option (List Nat) := do
  let sl := run.slice_params
  let hdr := (weightsHdrWord run).toNat
  if !run.pred_weights_required then
    return [hdr]
  let luma_weight : Int := 2 ^ run.pred_weights.luma_log2_weight_denom.toNat
  let chroma_weight : Int := 2 ^ run.pred_weights.chroma_log2_weight_denom.toNat
  let list0 ← listWeights luma_weight chroma_weight run.pred_weights.factors0 0
    (List.range (sl.num_ref_idx_l0_active_minus1.toNat + 1))
  let list1 ← onlyB run (listWeights luma_weight chroma_weight run.pred_weights.factors1 1
    (List.range (sl.num_ref_idx_l1_active_minus1.toNat + 1)))
  return hdr :: (list0 ++ list1)

def refWords (y : UInt32) (list : Vector UInt8 V4L2_H264_REF_LIST_LEN) :
    List Nat → Option (List Nat)
  | [] => some []
  | i :: rest => do
      let index ← list[i]?
      return (refListWord y i index).toNat :: (← refWords y list rest)

def predictionWords (run : SliceRun) : Option (List Nat) := do
  let sl := run.slice_params
  if sl.slice_type = V4L2_H264_SLICE_TYPE_P ∨ sl.slice_type = V4L2_H264_SLICE_TYPE_B then
    let list0 ← refWords 0 sl.ref_pic_list0 (List.range (sl.num_ref_idx_l0_active_minus1.toNat + 1))
    let list1 ← onlyB run
      (refWords 1 sl.ref_pic_list1 (List.range (sl.num_ref_idx_l1_active_minus1.toNat + 1)))
    let weights ← streamWeights run
    return list0 ++ list1 ++ weights
  return []

def codedDataWords (run : SliceRun) (off : UInt32) : List Nat :=
  let slc_a84 := (run.sl + off.toNat) % 2 ^ 64
  let bits := if !run.coded.entropyCodingMode then run.coded.headerBitSize % 8 else 0
  [((0x2d800000 : UInt32) ||| bits <<< 15 ||| UInt32.ofNat (slc_a84 / 2 ^ 32)).toNat,
   slc_a84 % 2 ^ 32,
   (run.coded.payloadLen - off).toNat]

def locationWord (run : SliceRun) : UInt32 :=
  let width := run.controls.pic_width_in_mbs_minus1.toUInt32 + 1
  (0x2c000000 : UInt32)
    ||| (run.slice_params.first_mb_in_slice / width) <<< 12
    ||| run.slice_params.first_mb_in_slice % width

def qpWord (controls : SliceControls) : UInt32 :=
  let qp := 26 + controls.pic_init_qp_minus26.toInt32 + controls.slice_qp_delta.toInt32
  (0x2d900000 : UInt32) ||| (qp * 0x400 &&& 0x1fc00).toUInt32

def deblockingWord (controls : SliceControls) : UInt32 :=
  (0x2da00000 : UInt32)
    ||| (if controls.disable_deblocking_filter_idc = 0 then (1 : UInt32) <<< 17 else 0)
    ||| if controls.disable_deblocking_filter_idc ≠ 1 then
        (1 : UInt32) <<< 16
          ||| swrap controls.slice_beta_offset_div2.toInt32.toUInt32 16 <<< 12
          ||| swrap controls.slice_alpha_c0_offset_div2.toInt32.toUInt32 16 <<< 8
      else
        0

def dimsWords (run : SliceRun) : List Nat :=
  if run.slice_params.first_mb_in_slice = 0 then
    [0x2a000000,
     (run.controls.pic_height_in_map_units_minus1.toUInt32 <<< 12
       ||| run.controls.pic_width_in_mbs_minus1.toUInt32).toNat]
  else
    []

def sliceKind (sl : SliceParams) : UInt32 :=
  if sl.slice_type = V4L2_H264_SLICE_TYPE_I then 0x20000
  else if sl.slice_type = V4L2_H264_SLICE_TYPE_P then 0x10000
  else if sl.slice_type = V4L2_H264_SLICE_TYPE_B then 0x40000
  else 0

def bipredictive (run : SliceRun) : UInt32 :=
  if run.slice_params.slice_type = V4L2_H264_SLICE_TYPE_B then
    run.slice_params.num_ref_idx_l1_active_minus1.toUInt32 <<< 7
      ||| if !run.controls.direct_spatial_mv_pred then (1 : UInt32) <<< 15 else 0
  else
    0

def refTypeWord (run : SliceRun) : UInt32 :=
  let sl := run.slice_params
  (0x2d000000 : UInt32) ||| sliceKind sl |||
    if sl.slice_type = V4L2_H264_SLICE_TYPE_P ∨ sl.slice_type = V4L2_H264_SLICE_TYPE_B then
      (if run.coded.entropyCodingMode then run.controls.cabac_init_idc.toUInt32 <<< 5 else 0)
        ||| bipredictive run
        ||| sl.num_ref_idx_l0_active_minus1.toUInt32 <<< 11
    else
      0

def endWord (run : SliceRun) : UInt32 := (0x2b000000 : UInt32) ||| boolify (!run.hold) <<< 10

/-- `stream_slice` -/
def sliceWords (lsr : Bool) (run : SliceRun) : Option (List Nat) := do
  let off ← run.coded.headerEnd
  let prediction ← predictionWords run
  let tile ← tileWords lsr run
  return codedDataWords run off
    ++ [(locationWord run).toNat, (qpWord run.controls).toNat,
      (deblockingWord run.controls).toNat]
    ++ prediction ++ dimsWords run ++ [(refTypeWord run).toNat] ++ tile
    ++ [(endWord run).toNat]

/-! ## Word for word -/

variable {lsr : Bool} {run : SliceRun} {controls : SliceControls}

theorem toNat_boolify (b : Bool) : (boolify b).toNat = if b then 1 else 0 := by
  cases b with
  | true => rfl
  | false => rfl

theorem boolify_shift (f : BitField) (b : Bool) {k : UInt32} (start : k.toNat = f.lo)
    (inside : f.lo + f.len ≤ 32) (nonempty : 0 < f.len) : (boolify b <<< k).toNat = f.flag b := by
  have one : 1 < 2 ^ f.len := Nat.one_lt_two_pow nonempty.ne'
  rw [toNat_shiftLeft f start inside nonempty, toNat_boolify, flag]
  · cases b with
    | true => rfl
    | false => rfl
  · rw [toNat_boolify]
    split
    · exact one
    · exact Nat.two_pow_pos f.len

theorem ofNat_shift (f : BitField) {n : Nat} {k : UInt32} (start : k.toNat = f.lo)
    (inside : f.lo + f.len ≤ 32) (nonempty : 0 < f.len) (fits : n < 2 ^ f.len) :
    (UInt32.ofNat n <<< k).toNat = f.prep n := by
  have small : n < 2 ^ 32 :=
    Nat.lt_of_lt_of_le fits (Nat.pow_le_pow_right Nat.two_pos (by omega))
  have same : (UInt32.ofNat n).toNat = n := UInt32.toNat_ofNat_of_lt' small
  rw [toNat_shiftLeft f start inside nonempty (by rw [same]; exact fits), same]

theorem codedDataWords_eq (range : run.InRange lsr) (off : UInt32) :
    codedDataWords run off = Avd.codedDataWords run off := by
  have near := range.addr
  have small := off.toNat_lt
  have upper : (run.sl + off.toNat) % 2 ^ 64 / 2 ^ 32 < 2 ^ 13 := by omega
  have addr : (UInt32.ofNat ((run.sl + off.toNat) % 2 ^ 64 / 2 ^ 32)).toNat =
      AVD_OP_CODED_DATA_ADDR.prep ((run.sl + off.toNat) % 2 ^ 64 / 2 ^ 32 : Nat) := by
    have word := Nat.lt_trans upper (by decide : 2 ^ 13 < 2 ^ 32)
    rw [prep_of_lt upper, UInt32.toNat_ofNat_of_lt' word]
    exact (Nat.mul_one _).symm
  have bits : ((if !run.coded.entropyCodingMode then run.coded.headerBitSize % 8 else 0) <<<
      (15 : UInt32)).toNat = AVD_OP_CODED_DATA_BIT_OFF.prep (codedBitOff run.coded) := by
    have few : (run.coded.headerBitSize % 8).toNat < 2 ^ 4 := by
      rw [UInt32.toNat_mod]
      exact Nat.lt_trans (Nat.mod_lt _ (by decide)) (by decide)
    have shifted := toNat_shiftLeft AVD_OP_CODED_DATA_BIT_OFF (k := 15) rfl (by decide) (by decide)
      few
    unfold codedBitOff
    cases run.coded.entropyCodingMode with
    | true => simp
    | false =>
        simp only [Bool.not_false, if_true]
        exact shifted
  simp only [codedDataWords, Avd.codedDataWords, UInt32.toNat_or, bits, addr]
  rfl

theorem locationWord_eq (range : run.InRange lsr) :
    (locationWord run).toNat = Avd.locationWord run := by
  have wide := range.wide
  have width : (run.controls.pic_width_in_mbs_minus1.toUInt32 + 1).toNat =
      run.controls.pic_width_in_mbs_minus1.toNat + 1 := by
    rw [UInt32.toNat_add, UInt16.toNat_toUInt32, UInt32.toNat_one]
    omega
  have row : run.slice_params.first_mb_in_slice.toNat /
      (run.controls.pic_width_in_mbs_minus1.toNat + 1) < 2 ^ 12 :=
    Nat.lt_of_lt_of_le (Nat.div_lt_of_lt_mul range.inside) range.high
  have column : run.slice_params.first_mb_in_slice.toNat %
      (run.controls.pic_width_in_mbs_minus1.toNat + 1) < 2 ^ 12 :=
    Nat.lt_of_lt_of_le (Nat.mod_lt _ (Nat.succ_pos _)) wide
  have y := toNat_shiftLeft AVD_OP_SL_LOC_Y (k := 12)
    (x := run.slice_params.first_mb_in_slice / (run.controls.pic_width_in_mbs_minus1.toUInt32 + 1))
    rfl (by decide) (by decide) (by rw [UInt32.toNat_div, width]; exact row)
  have x : AVD_OP_SL_LOC_X.prep (run.slice_params.first_mb_in_slice.toNat %
      (run.controls.pic_width_in_mbs_minus1.toNat + 1) : Nat) =
      run.slice_params.first_mb_in_slice.toNat %
        (run.controls.pic_width_in_mbs_minus1.toNat + 1) :=
    (prep_of_lt column).trans (Nat.mul_one _)
  rw [UInt32.toNat_div, width] at y
  rw [locationWord, Avd.locationWord, UInt32.toNat_or, UInt32.toNat_or, y, UInt32.toNat_mod,
    width, x]
  rfl

/-- One bit less than the macro has. -/
theorem qpWord_toNat (controls : SliceControls) :
    (qpWord controls).toNat = AVD_OP_QP ||| (GENMASK 16 10).prep (sliceQp controls) := by
  have small := controls.pic_init_qp_minus26.toInt_lt
  have large := controls.pic_init_qp_minus26.le_toInt
  have small' := controls.slice_qp_delta.toInt_lt
  have large' := controls.slice_qp_delta.le_toInt
  have sum : (26 + controls.pic_init_qp_minus26.toInt32 + controls.slice_qp_delta.toInt32).toInt =
      sliceQp controls := by
    have const : (26 : Int32).toInt = 26 := rfl
    rw [Int32.toInt_add, Int32.toInt_add, Int8.toInt_toInt32, Int8.toInt_toInt32, const, sliceQp]
    rw [Int.bmod_add_bmod]
    exact Int.bmod_eq_of_le (by omega) (by omega)
  have word := toNat_toUInt32
    (26 + controls.pic_init_qp_minus26.toInt32 + controls.slice_qp_delta.toInt32)
  rw [sum] at word
  have masked := toNat_masked (GENMASK 16 10) (m := 0x7f) (k := 10) word rfl rfl (by decide)
    (by decide)
  -- Masking at the field is masking before the shift.
  have shifted (x : UInt32) :
      (x * (0x400 : UInt32) &&& (0x1fc00 : UInt32)) = (x &&& (0x7f : UInt32)) <<< (10 : UInt32) := by
    have moved : x * (0x400 : UInt32) = x <<< (10 : UInt32) := by
      apply UInt32.toNat_inj.mp
      rw [UInt32.toNat_mul, UInt32.toNat_shiftLeft, Nat.shiftLeft_eq]
      rfl
    have mask : (0x1fc00 : UInt32) = (0x7f : UInt32) <<< (10 : UInt32) := by decide
    rw [moved, mask, ← UInt32.shiftLeft_and]
  rw [← masked, ← shifted, qpWord, UInt32.toNat_or]
  rfl

/-- The macro has room for one bit more, the sign of what is out of range. -/
theorem qpWord_eq_iff (range : run.InRange lsr) :
    (qpWord run.controls).toNat = Avd.qpWord run.controls ↔ 0 ≤ sliceQp run.controls := by
  obtain ⟨low, high⟩ := range.qp
  have base : AVD_OP_QP_VAL.get ((GENMASK 16 10).prep (sliceQp run.controls)) =
      (sliceQp run.controls % 2 ^ 7).toNat :=
    get_prep_of_le rfl (by decide)
  rw [qpWord_toNat, Avd.qpWord]
  constructor
  · intro same
    have fields := congrArg AVD_OP_QP_VAL.get same
    simp (disch := decide) only [AVD_OP_QP, get_or, get_prep_of_apart, Nat.zero_or, base,
      get_prep] at fields
    change (sliceQp run.controls % 2 ^ 7).toNat = (sliceQp run.controls % 2 ^ 8).toNat at fields
    omega
  · intro nonneg
    have same : (sliceQp run.controls % 2 ^ 7).toNat = (sliceQp run.controls % 2 ^ 8).toNat := by
      omega
    exact congrArg (fun n => AVD_OP_QP ||| n * 2 ^ 10) same

theorem toNat_int8 (b : Int8) : (b.toInt32.toUInt32.toNat : Int) = b.toInt % 2 ^ 32 := by
  rw [toNat_toUInt32, Int8.toInt_toInt32]

theorem toNat_int16 (b : Int16) : (b.toInt32.toUInt32.toNat : Int) = b.toInt % 2 ^ 32 := by
  rw [toNat_toUInt32, Int16.toInt_toInt32]

/-- The offsets only where there is a filter, and the first of them with one bit less. -/
theorem deblockingWord_toNat (controls : SliceControls) :
    (deblockingWord controls).toNat = AVD_OP_DBLK
      ||| AVD_OP_DBLK_FLAG_FULL_EN.flag (controls.disable_deblocking_filter_idc == 0)
      ||| if controls.disable_deblocking_filter_idc = 1 then 0 else
          AVD_OP_DBLK_FLAG_EN.flag true
            ||| (GENMASK 15 12).prep controls.slice_beta_offset_div2.toInt
            ||| AVD_OP_DBLK_OFF0.prep controls.slice_alpha_c0_offset_div2.toInt := by
  have beta := toNat_masked (GENMASK 15 12) (m := 15) (k := 12)
    (toNat_int8 controls.slice_beta_offset_div2) rfl rfl (by decide) (by decide)
  have alpha := toNat_masked AVD_OP_DBLK_OFF0 (m := 15) (k := 8)
    (toNat_int8 controls.slice_alpha_c0_offset_div2) rfl rfl (by decide) (by decide)
  rw [deblockingWord, UInt32.toNat_or, UInt32.toNat_or]
  by_cases full : controls.disable_deblocking_filter_idc = 0
  · have on : controls.disable_deblocking_filter_idc ≠ 1 := by
      rw [full]
      decide
    rw [if_pos full, if_pos on, if_neg on, beq_iff_eq.mpr full, UInt32.toNat_or, UInt32.toNat_or,
      ← beta, ← alpha]
    rfl
  · rw [if_neg full, beq_eq_false_iff_ne.mpr full]
    by_cases off : controls.disable_deblocking_filter_idc = 1
    · rw [if_neg (not_not.mpr off), if_pos off]
      rfl
    · rw [if_pos off, if_neg off, UInt32.toNat_or, UInt32.toNat_or, ← beta, ← alpha]
      rfl

theorem deblockingWord_eq_iff (range : run.InRange lsr) :
    (deblockingWord run.controls).toNat = Avd.deblockingWord run.controls ↔
      run.controls.disable_deblocking_filter_idc ≠ 1 ∨
        run.controls.slice_beta_offset_div2.toInt = 0 ∧
          run.controls.slice_alpha_c0_offset_div2.toInt = 0 := by
  obtain ⟨low, high⟩ := range.beta
  obtain ⟨low', high'⟩ := range.alpha
  rw [deblockingWord_toNat, Avd.deblockingWord]
  generalize run.controls.slice_beta_offset_div2.toInt = beta at low high ⊢
  generalize run.controls.slice_alpha_c0_offset_div2.toInt = alpha at low' high' ⊢
  by_cases off : run.controls.disable_deblocking_filter_idc = 1
  · have never : (run.controls.disable_deblocking_filter_idc != 1) = false := by
      rw [off]
      rfl
    rw [if_pos off, never, flag_false]
    constructor
    · intro same
      have fields := congrArg AVD_OP_DBLK_OFF1.get same
      have fields' := congrArg AVD_OP_DBLK_OFF0.get same
      simp (disch := decide) only [AVD_OP_DBLK, get_or, get_prep_of_apart, get_flag_of_apart,
        Nat.zero_or, Nat.or_zero, get_prep] at fields fields'
      change 0 = (beta % 2 ^ 5).toNat at fields
      change 0 = (alpha % 2 ^ 4).toNat at fields'
      omega
    · intro zero
      rcases zero with on | ⟨rfl, rfl⟩
      · exact absurd off on
      · simp only [prep_zero, Nat.or_zero]
  · have always : (run.controls.disable_deblocking_filter_idc != 1) = true :=
      bne_iff_ne.mpr off
    -- The fifth bit of the offset is the flag, which is set.
    have flagged : AVD_OP_DBLK_FLAG_EN.flag true ||| (GENMASK 15 12).prep beta =
        AVD_OP_DBLK_FLAG_EN.flag true ||| AVD_OP_DBLK_OFF1.prep beta := by
      interval_cases beta <;> decide
    rw [if_neg off, always, flagged]
    simp only [Nat.or_assoc, off, ne_eq, not_false_eq_true, true_or]

theorem toNat_uint8 (b : UInt8) : (b.toUInt32.toNat : Int) = (b.toNat : Int) % 2 ^ 32 := by
  have small := b.toNat_lt
  rw [UInt8.toNat_toUInt32]
  omega

theorem toNat_ofNat_mod (n : Nat) : ((UInt32.ofNat n).toNat : Int) = (n : Int) % 2 ^ 32 := by
  rw [UInt32.toNat_ofNat']
  rfl

theorem refListWord_toNat (y i : Nat) (list : y < 2) (index : UInt8) :
    (refListWord (UInt32.ofNat y) i index).toNat = refWord y i index := by
  have number := ofNat_shift AVD_OP_REF_LIST_IDX (n := y) (k := 8) rfl (by decide) (by decide)
    (Nat.lt_of_lt_of_le list (by decide))
  have position := toNat_masked AVD_OP_REF_LOOP_IDX (m := 15) (k := 4) (toNat_ofNat_mod i) rfl rfl
    (by decide) (by decide)
  have last := toNat_masked AVD_OP_REF_DBP_IDX (m := 15) (k := 0) (toNat_uint8 index) rfl rfl
    (by decide) (by decide)
  rw [UInt32.shiftLeft_zero] at last
  rw [refListWord, refWord, ← number, ← position, ← last]
  rfl

theorem refWords_eq (y : Nat) (list : y < 2) (entries : Vector UInt8 V4L2_H264_REF_LIST_LEN)
    (is : List Nat) : refWords (UInt32.ofNat y) entries is = Avd.refWords y entries is := by
  induction is with
  | nil => rfl
  | cons i rest ih => simp only [refWords, Avd.refWords, refListWord_toNat y i list, ih]

theorem weightWords_eq {ident y i : Nat} (kind : ident < 4) (list : y < 2) (entry : i < 16)
    (weight offset : Int16) : weightWords ident y i weight offset =
      Avd.weightWords ident y i weight.toInt offset.toInt := by
  have kinds := ofNat_shift AVD_OP_WEIGHTS_IDENT (n := ident) (k := 14) rfl (by decide) (by decide)
    (Nat.lt_trans kind (by decide))
  have number := ofNat_shift AVD_OP_WEIGHTS_LIST_IDX (n := y) (k := 13) rfl (by decide) (by decide)
    list
  have position := ofNat_shift AVD_OP_WEIGHTS_INDEX (n := i) (k := 9) rfl (by decide) (by decide)
    entry
  have weights := toNat_masked AVD_OP_WEIGHTS_WEIGHT (m := 0x1ff) (k := 0) (toNat_int16 weight) rfl
    rfl (by decide) (by decide)
  have offsets := toNat_masked AVD_OP_OFFSETS_OFFSET (m := 0xffff) (k := 0) (toNat_int16 offset)
    rfl rfl (by decide) (by decide)
  rw [UInt32.shiftLeft_zero] at weights offsets
  rw [weightWords, Avd.weightWords, ← kinds, ← number, ← position, ← weights, ← offsets]
  rfl

theorem factorWords_eq (luma_denom chroma_denom : Int) (factors : WeightFactors) {y i : Nat}
    (list : y < 2) (entry : i < 16) : factorWords luma_denom chroma_denom factors y i =
      Avd.factorWords luma_denom chroma_denom factors y i := by
  simp only [factorWords, Avd.factorWords, weightWords_eq (by decide : 1 < 4) list entry,
    weightWords_eq (by decide : 2 < 4) list entry, weightWords_eq (by decide : 3 < 4) list entry]

theorem listWeights_eq (luma_denom chroma_denom : Int) (factors : WeightFactors) {y : Nat}
    (list : y < 2) (is : List Nat) (entries : ∀ i ∈ is, i < 16) :
    listWeights luma_denom chroma_denom factors y is =
      Avd.listWeights luma_denom chroma_denom factors y is := by
  induction is with
  | nil => rfl
  | cons i rest ih =>
      rw [listWeights, Avd.listWeights, factorWords_eq _ _ _ list (entries i List.mem_cons_self),
        ih fun j later => entries j (List.mem_cons_of_mem i later)]

/-- The denominators as they are pushed: the defaults are put over those of the slice. -/
theorem weightsHdrWord_toNat (luma : run.pred_weights.luma_log2_weight_denom.toNat < 8)
    (chroma : run.pred_weights.chroma_log2_weight_denom.toNat < 8) :
    (weightsHdrWord run).toNat = AVD_OP_WEIGHTS_HDR
      ||| AVD_OP_WEIGHTS_HDR_FLAG1.flag (run.controls.weighted_bipred_idc == 2)
      ||| AVD_OP_WEIGHTS_HDR_FLAG0.flag run.pred_weights_required
      ||| AVD_OP_WEIGHTS_HDR_LUMA.prep run.pred_weights.luma_log2_weight_denom.toNat
      ||| AVD_OP_WEIGHTS_HDR_CHROMA.prep run.pred_weights.chroma_log2_weight_denom.toNat
      ||| if run.controls.weighted_bipred_idc = 2 then DEFAULT_WEIGHT_DENOM else 0 := by
  have implicit := boolify_shift AVD_OP_WEIGHTS_HDR_FLAG1
    (run.controls.weighted_bipred_idc == 2) (k := 7) rfl (by decide) (by decide)
  have required := boolify_shift AVD_OP_WEIGHTS_HDR_FLAG0 run.pred_weights_required (k := 6) rfl
    (by decide) (by decide)
  have lumas := toNat_shiftLeft AVD_OP_WEIGHTS_HDR_LUMA (k := 3)
    (x := run.pred_weights.luma_log2_weight_denom.toUInt32) rfl (by decide) (by decide) luma
  have chromas := toNat_shiftLeft AVD_OP_WEIGHTS_HDR_CHROMA (k := 0)
    (x := run.pred_weights.chroma_log2_weight_denom.toUInt32) rfl (by decide) (by decide) chroma
  rw [UInt32.shiftLeft_zero, UInt16.toNat_toUInt32] at chromas
  rw [UInt16.toNat_toUInt32] at lumas
  rw [weightsHdrWord, UInt32.toNat_or, UInt32.toNat_or, UInt32.toNat_or, UInt32.toNat_or,
    UInt32.toNat_or, implicit, required, lumas, UInt16.toNat_toUInt32, ← chromas]
  split
  · rfl
  · rfl

/-- The defaults cover some denominators. -/
theorem denoms_covered : ∀ luma chroma : Fin 8, luma.val ||| 5 = 5 → chroma.val ||| 5 = 5 →
    AVD_OP_WEIGHTS_HDR_LUMA.prep luma.val
      ||| (AVD_OP_WEIGHTS_HDR_CHROMA.prep chroma.val ||| DEFAULT_WEIGHT_DENOM) =
        DEFAULT_WEIGHT_DENOM := by
  decide

theorem weightsHdrWord_eq_iff (luma : run.pred_weights.luma_log2_weight_denom.toNat < 8)
    (chroma : run.pred_weights.chroma_log2_weight_denom.toNat < 8) :
    (weightsHdrWord run).toNat = Avd.weightsHdrWord run ↔
      (run.controls.weighted_bipred_idc = 2 → run.pred_weights_required = false ∧
        run.pred_weights.luma_log2_weight_denom.toNat ||| 5 = 5 ∧
        run.pred_weights.chroma_log2_weight_denom.toNat ||| 5 = 5) := by
  rw [weightsHdrWord_toNat luma chroma, Avd.weightsHdrWord]
  generalize run.pred_weights.luma_log2_weight_denom.toNat = lumaDenom at luma ⊢
  generalize run.pred_weights.chroma_log2_weight_denom.toNat = chromaDenom at chroma ⊢
  by_cases implicit : run.controls.weighted_bipred_idc = 2
  · simp only [implicit, beq_self_eq_true, Bool.true_and, if_true, forall_const]
    cases required : run.pred_weights_required with
    | true =>
        constructor
        · intro same
          have flags := congrArg AVD_OP_WEIGHTS_HDR_FLAG1.isSet same
          simp (disch := decide) only [AVD_OP_WEIGHTS_HDR, DEFAULT_WEIGHT_DENOM, isSet_or,
            isSet_prep_of_apart, isSet_flag_of_apart, isSet_flag, Bool.false_or, Bool.or_false,
            Bool.not_true, Bool.false_eq_true, if_false, Bool.or_self] at flags
          cases flags
        · intro claim
          cases claim.1
    | false =>
        have lumas : AVD_OP_WEIGHTS_HDR_LUMA.get DEFAULT_WEIGHT_DENOM = 5 := by decide
        have chromas : AVD_OP_WEIGHTS_HDR_CHROMA.get DEFAULT_WEIGHT_DENOM = 5 := by decide
        constructor
        · intro same
          have first := congrArg AVD_OP_WEIGHTS_HDR_LUMA.get same
          have second := congrArg AVD_OP_WEIGHTS_HDR_CHROMA.get same
          simp (disch := decide) only [AVD_OP_WEIGHTS_HDR, get_or, get_prep_of_apart,
            get_flag_of_apart, Nat.zero_or, Nat.or_zero, lumas, chromas, Bool.not_false,
            Bool.not_true, Bool.false_eq_true, if_false, if_true, prep_zero] at first second
          rw [get_prep_nat luma] at first
          rw [get_prep_nat chroma] at second
          exact ⟨rfl, first, second⟩
        · intro claim
          have covered := denoms_covered ⟨lumaDenom, luma⟩ ⟨chromaDenom, chroma⟩ claim.2.1 claim.2.2
          simp only [Nat.or_assoc, covered, Bool.not_false, Bool.not_true, Bool.false_eq_true,
            if_false, if_true, prep_zero, Nat.zero_or]
  · have explicit : (run.controls.weighted_bipred_idc == 2) = false :=
      beq_eq_false_iff_ne.mpr implicit
    simp only [explicit, implicit, if_false, Bool.false_and, Bool.not_false, if_true,
      Bool.false_eq_true, false_implies]

theorem dimsWords_eq (range : run.InRange lsr) : dimsWords run = Avd.dimsWords run := by
  have rows := toNat_shiftLeft AVD_SL_DIM_END_Y (k := 12)
    (x := run.controls.pic_height_in_map_units_minus1.toUInt32) rfl (by decide) (by decide)
    (by rw [UInt16.toNat_toUInt32]; exact range.high)
  have columns := prep_of_lt (f := AVD_SL_DIM_END_X) range.wide
  rw [UInt16.toNat_toUInt32] at rows
  have same : (run.controls.pic_height_in_map_units_minus1.toUInt32 <<< (12 : UInt32) |||
      run.controls.pic_width_in_mbs_minus1.toUInt32).toNat =
        AVD_SL_DIM_END_Y.prep run.controls.pic_height_in_map_units_minus1.toNat |||
          AVD_SL_DIM_END_X.prep run.controls.pic_width_in_mbs_minus1.toNat := by
    rw [UInt32.toNat_or, rows, UInt16.toNat_toUInt32, columns]
    congr 1
    exact (Nat.mul_one _).symm
  rw [dimsWords, Avd.dimsWords, same]
  rfl

theorem endWord_eq (run : SliceRun) : (endWord run).toNat = Avd.endWord run := by
  have last := boolify_shift AVD_OP_EXEC_FLAG_END (!run.hold) (k := 10) rfl (by decide) (by decide)
  rw [endWord, Avd.endWord, UInt32.toNat_or, last]
  rfl

/-! ## The type of a slice -/

/-- The word of the reference type, from what is said in it. -/
def typeWord (cabac : Nat) (temporal : Bool) (num0 num1 : Nat) (type : UInt8) : Nat :=
  AVD_OP_SL_REF
    ||| (GENMASK 6 5).prep cabac
    ||| AVD_OP_SL_REF_FLAG2.flag temporal
    ||| (GENMASK 14 11).prep num0
    ||| AVD_OP_SL_REF_NUM_L1.prep num1
    ||| AVD_OP_SL_REF_SLICE_P.flag (type == V4L2_H264_SLICE_TYPE_P)
    ||| AVD_OP_SL_REF_SLICE_I.flag (type == V4L2_H264_SLICE_TYPE_I)
    ||| AVD_OP_SL_REF_SLICE_B.flag (type == V4L2_H264_SLICE_TYPE_B)

theorem cabac_flags : ∀ idc : Fin 3, (GENMASK 6 5).prep idc.val =
    AVD_OP_SL_REF_FLAG_CABAC.flag (idc.val == 1) ||| AVD_OP_SL_REF_FLAG1.flag (idc.val == 2) := by
  decide

theorem refTypeWord_typeWord (range : run.InRange lsr) : Avd.refTypeWord run =
    typeWord run.controls.cabac_init_idc.toNat (!run.controls.direct_spatial_mv_pred)
      run.slice_params.num_ref_idx_l0_active_minus1.toNat
      run.slice_params.num_ref_idx_l1_active_minus1.toNat run.slice_params.slice_type := by
  have idc : run.controls.cabac_init_idc.toNat < 3 := Nat.lt_succ_of_le range.cabac
  have first : (run.controls.cabac_init_idc.toNat == 1) = (run.controls.cabac_init_idc == 1) := by
    rw [Bool.eq_iff_iff, beq_iff_eq, beq_iff_eq]
    exact UInt8.toNat_inj (b := 1)
  have second : (run.controls.cabac_init_idc.toNat == 2) = (run.controls.cabac_init_idc == 2) := by
    rw [Bool.eq_iff_iff, beq_iff_eq, beq_iff_eq]
    exact UInt8.toNat_inj (b := 2)
  have flags := cabac_flags ⟨_, idc⟩
  simp only [first, second] at flags
  have wide : run.slice_params.num_ref_idx_l0_active_minus1.toNat < 2 ^ 5 :=
    Nat.lt_trans range.short0 (by decide : 16 < 2 ^ 5)
  have narrow : run.slice_params.num_ref_idx_l0_active_minus1.toNat < 2 ^ 4 := range.short0
  have num0 : AVD_OP_SL_REF_NUM_L0.prep run.slice_params.num_ref_idx_l0_active_minus1.toNat =
      (GENMASK 14 11).prep run.slice_params.num_ref_idx_l0_active_minus1.toNat := by
    rw [prep_of_lt (f := AVD_OP_SL_REF_NUM_L0) wide, prep_of_lt (f := GENMASK 14 11) narrow]
    congr 1
  simp only [Avd.refTypeWord, typeWord, flags, num0, Nat.or_assoc]

theorem refTypeWord_toNat (range : run.InRange lsr) : (refTypeWord run).toNat =
    typeWord (if run.predicted ∧ run.coded.entropyCodingMode = true then
        run.controls.cabac_init_idc.toNat else 0)
      (decide run.isB && !run.controls.direct_spatial_mv_pred)
      (if run.predicted then run.slice_params.num_ref_idx_l0_active_minus1.toNat else 0)
      (if run.isB then run.slice_params.num_ref_idx_l1_active_minus1.toNat else 0)
      run.slice_params.slice_type := by
  have idc : run.controls.cabac_init_idc.toNat < 2 ^ 2 :=
    Nat.lt_of_le_of_lt range.cabac (by decide)
  have cabac := toNat_shiftLeft (GENMASK 6 5) (k := 5)
    (x := run.controls.cabac_init_idc.toUInt32) rfl (by decide) (by decide)
    (by rw [UInt8.toNat_toUInt32]; exact idc)
  have num0 := toNat_shiftLeft (GENMASK 14 11) (k := 11)
    (x := run.slice_params.num_ref_idx_l0_active_minus1.toUInt32) rfl (by decide) (by decide)
    (by rw [UInt8.toNat_toUInt32]; exact range.short0)
  have num1 := toNat_shiftLeft AVD_OP_SL_REF_NUM_L1 (k := 7)
    (x := run.slice_params.num_ref_idx_l1_active_minus1.toUInt32) rfl (by decide) (by decide)
    (by rw [UInt8.toNat_toUInt32]; exact range.short1)
  rw [UInt8.toNat_toUInt32] at cabac num0 num1
  have cabacs : (if run.coded.entropyCodingMode then
      run.controls.cabac_init_idc.toUInt32 <<< (5 : UInt32) else 0).toNat =
        (GENMASK 6 5).prep
          (if run.coded.entropyCodingMode then run.controls.cabac_init_idc.toNat else 0 : Nat) := by
    split
    · exact cabac
    · rfl
  have temporal : (if !run.controls.direct_spatial_mv_pred then (1 : UInt32) <<< (15 : UInt32)
      else 0).toNat = AVD_OP_SL_REF_FLAG2.flag (!run.controls.direct_spatial_mv_pred) := by
    cases run.controls.direct_spatial_mv_pred with
    | true => rfl
    | false => rfl
  have opcode : UInt32.toNat 0x2d000000 = AVD_OP_SL_REF := rfl
  rw [refTypeWord, UInt32.toNat_or, UInt32.toNat_or, opcode]
  by_cases b : run.isB
  · have isB : run.slice_params.slice_type = V4L2_H264_SLICE_TYPE_B := b
    have kind : (sliceKind run.slice_params).toNat = AVD_OP_SL_REF_SLICE_B.flag true := by
      rw [sliceKind, isB]
      rfl
    have pushed : run.predicted := .inr b
    have both : (bipredictive run).toNat = AVD_OP_SL_REF_NUM_L1.prep
        run.slice_params.num_ref_idx_l1_active_minus1.toNat |||
          AVD_OP_SL_REF_FLAG2.flag (!run.controls.direct_spatial_mv_pred) := by
      rw [bipredictive, if_pos isB, UInt32.toNat_or, num1, temporal]
    rw [if_pos (show run.slice_params.slice_type = _ ∨ run.slice_params.slice_type = _ from pushed),
      UInt32.toNat_or, UInt32.toNat_or, kind, both, cabacs, num0, typeWord]
    simp only [pushed, b, true_and, if_true, decide_true, Bool.true_and]
    have notP : (V4L2_H264_SLICE_TYPE_B == V4L2_H264_SLICE_TYPE_P) = false := rfl
    have notI : (V4L2_H264_SLICE_TYPE_B == V4L2_H264_SLICE_TYPE_I) = false := rfl
    rw [isB, notP, notI, beq_self_eq_true, flag_false, flag_false, Nat.or_zero, Nat.or_zero]
    ac_rfl
  · have notB : run.slice_params.slice_type ≠ V4L2_H264_SLICE_TYPE_B := b
    have single : bipredictive run = 0 := if_neg notB
    by_cases p : run.slice_params.slice_type = V4L2_H264_SLICE_TYPE_P
    · have kind : (sliceKind run.slice_params).toNat = AVD_OP_SL_REF_SLICE_P.flag true := by
        rw [sliceKind, p]
        rfl
      have pushed : run.predicted := .inl p
      rw [if_pos (show run.slice_params.slice_type = _ ∨ run.slice_params.slice_type = _ from pushed),
        UInt32.toNat_or, UInt32.toNat_or, kind, single, cabacs, num0, typeWord]
      simp only [pushed, b, true_and, if_true, decide_false, Bool.false_and, if_false]
      have another : (V4L2_H264_SLICE_TYPE_P == V4L2_H264_SLICE_TYPE_B) = false := rfl
      have notI : (V4L2_H264_SLICE_TYPE_P == V4L2_H264_SLICE_TYPE_I) = false := rfl
      simp only [p, another, notI, beq_self_eq_true, flag_false, Nat.cast_zero, prep_zero,
        Nat.or_zero, UInt32.toNat_zero]
      ac_rfl
    · have never : ¬ run.predicted := not_or.mpr ⟨p, b⟩
      have kind : (sliceKind run.slice_params).toNat = AVD_OP_SL_REF_SLICE_I.flag
          (run.slice_params.slice_type == V4L2_H264_SLICE_TYPE_I) := by
        rw [sliceKind, if_neg p, if_neg notB]
        by_cases i : run.slice_params.slice_type = V4L2_H264_SLICE_TYPE_I
        · rw [if_pos i, beq_iff_eq.mpr i]
          rfl
        · rw [if_neg i, beq_eq_false_iff_ne.mpr i]
          rfl
      rw [if_neg (show ¬ (run.slice_params.slice_type = _ ∨ run.slice_params.slice_type = _) from
        never), kind, typeWord]
      simp only [never, b, false_and, if_false, decide_false, Bool.false_and]
      rw [beq_eq_false_iff_ne.mpr p, beq_eq_false_iff_ne.mpr notB]
      simp only [flag_false, Nat.cast_zero, prep_zero, Nat.or_zero, UInt32.toNat_zero]

theorem typeWord_inj {cabac cabac' num0 num0' num1 num1' : Nat} {temporal temporal' : Bool}
    {type : UInt8} (small : cabac < 4) (small' : cabac' < 4) (few0 : num0 < 16)
    (few0' : num0' < 16) (few1 : num1 < 16) (few1' : num1' < 16) :
    typeWord cabac temporal num0 num1 type = typeWord cabac' temporal' num0' num1' type ↔
      cabac = cabac' ∧ temporal = temporal' ∧ num0 = num0' ∧ num1 = num1' := by
  constructor
  · intro same
    have cabacs := congrArg (GENMASK 6 5).get same
    have temporals := congrArg AVD_OP_SL_REF_FLAG2.isSet same
    have nums0 := congrArg (GENMASK 14 11).get same
    have nums1 := congrArg AVD_OP_SL_REF_NUM_L1.get same
    simp (disch := decide) only [typeWord, AVD_OP_SL_REF, get_or, get_prep_of_apart,
      get_flag_of_apart, isSet_or, isSet_prep_of_apart, isSet_flag_of_apart, isSet_flag,
      Nat.zero_or, Nat.or_zero, Bool.false_or, Bool.or_false] at cabacs temporals nums0 nums1
    rw [get_prep_nat small, get_prep_nat small'] at cabacs
    rw [get_prep_nat few0, get_prep_nat few0'] at nums0
    rw [get_prep_nat few1, get_prep_nat few1'] at nums1
    exact ⟨cabacs, temporals, nums0, nums1⟩
  · rintro ⟨rfl, rfl, rfl, rfl⟩
    rfl

theorem ite_eq_self {c : Prop} [Decidable c] {n : Nat} :
    (if c then n else 0) = n ↔ n = 0 ∨ c := by
  split
  · next holds => exact ⟨fun _ => .inr holds, fun _ => rfl⟩
  · next fails => exact ⟨fun zero => .inl zero.symm, fun either => (either.resolve_right fails).symm⟩

/-- The macros say of every slice what the shifts say of those that it has a meaning for. -/
theorem refTypeWord_eq_iff (range : run.InRange lsr) :
    (refTypeWord run).toNat = Avd.refTypeWord run ↔
      (run.controls.cabac_init_idc.toNat = 0 ∨
        run.predicted ∧ run.coded.entropyCodingMode = true) ∧
      (run.controls.direct_spatial_mv_pred = true ∨ run.isB) ∧
      (run.slice_params.num_ref_idx_l0_active_minus1.toNat = 0 ∨ run.predicted) ∧
      (run.slice_params.num_ref_idx_l1_active_minus1.toNat = 0 ∨ run.isB) := by
  have idc : run.controls.cabac_init_idc.toNat < 4 := Nat.lt_of_le_of_lt range.cabac (by decide)
  have kept {c : Prop} [Decidable c] {n m : Nat} (small : n < m) : (if c then n else 0) < m := by
    split
    · exact small
    · exact Nat.zero_lt_of_lt small
  have temporal : (decide run.isB && !run.controls.direct_spatial_mv_pred) =
      !run.controls.direct_spatial_mv_pred ↔
        run.controls.direct_spatial_mv_pred = true ∨ run.isB := by
    cases run.controls.direct_spatial_mv_pred with
    | true => simp
    | false => simp
  rw [refTypeWord_toNat range, refTypeWord_typeWord range,
    typeWord_inj (kept idc) idc (kept range.short0) range.short0 (kept range.short1) range.short1,
    ite_eq_self, ite_eq_self, ite_eq_self, temporal]

/-! ## Slices -/

/-- The macros changed nothing for these controls. -/
structure Unchanged (run : SliceRun) : Prop where
  qp : 0 ≤ sliceQp run.controls
  deblocking : run.controls.disable_deblocking_filter_idc ≠ 1 ∨
    run.controls.slice_beta_offset_div2.toInt = 0 ∧
      run.controls.slice_alpha_c0_offset_div2.toInt = 0
  weights : run.predicted → run.controls.weighted_bipred_idc = 2 →
    run.pred_weights_required = false ∧
      run.pred_weights.luma_log2_weight_denom.toNat ||| 5 = 5 ∧
      run.pred_weights.chroma_log2_weight_denom.toNat ||| 5 = 5
  cabac : run.controls.cabac_init_idc.toNat = 0 ∨
    run.predicted ∧ run.coded.entropyCodingMode = true
  direct : run.controls.direct_spatial_mv_pred = true ∨ run.isB
  num0 : run.slice_params.num_ref_idx_l0_active_minus1.toNat = 0 ∨ run.predicted
  num1 : run.slice_params.num_ref_idx_l1_active_minus1.toNat = 0 ∨ run.isB

/-- The tables are the same, and they are behind the two headers. -/
theorem streamWeights_split (range : run.InRange lsr) {words : List Nat}
    (pushed : Avd.streamWeights run = some words) :
    ∃ table, words = Avd.weightsHdrWord run :: table ∧
      streamWeights run = some ((weightsHdrWord run).toNat :: table) := by
  have entries0 : ∀ i ∈ List.range (run.slice_params.num_ref_idx_l0_active_minus1.toNat + 1),
      i < 16 := fun i mem => Nat.lt_of_lt_of_le (List.mem_range.mp mem) range.short0
  have entries1 : ∀ i ∈ List.range (run.slice_params.num_ref_idx_l1_active_minus1.toNat + 1),
      i < 16 := fun i mem => Nat.lt_of_lt_of_le (List.mem_range.mp mem) range.short1
  rw [Avd.streamWeights] at pushed
  rw [streamWeights]
  simp only [listWeights_eq _ _ _ (by decide : 0 < 2) _ entries0,
    listWeights_eq _ _ _ (by decide : 1 < 2) _ entries1]
  cases required : run.pred_weights_required with
  | false =>
      rw [required] at pushed
      exact ⟨[], (Option.some.inj pushed).symm, rfl⟩
  | true =>
      rw [required] at pushed
      simp only [Bool.not_true, Bool.false_eq_true, if_false, Option.bind_eq_bind,
        Option.pure_def, Option.bind_eq_some_iff, Option.some.injEq] at pushed
      obtain ⟨list0, zero, list1, one, rfl⟩ := pushed
      refine ⟨list0 ++ list1, rfl, ?_⟩
      simp only [Bool.not_true, Bool.false_eq_true, if_false, zero, one, Option.bind_eq_bind,
        Option.bind_some, Option.pure_def]

theorem predictionWords_none (none : ¬ run.predicted) :
    Avd.predictionWords run = some [] ∧ predictionWords run = some [] :=
  ⟨if_neg none, if_neg none⟩

/-- Of the words for the prediction one has changed. -/
theorem predictionWords_split (range : run.InRange lsr) (predicted : run.predicted)
    {words : List Nat} (pushed : Avd.predictionWords run = some words) :
    ∃ front table, words = front ++ Avd.weightsHdrWord run :: table ∧
      predictionWords run = some (front ++ (weightsHdrWord run).toNat :: table) := by
  rw [Avd.predictionWords] at pushed
  rw [predictionWords]
  simp only [show run.slice_params.slice_type = V4L2_H264_SLICE_TYPE_P ∨
    run.slice_params.slice_type = V4L2_H264_SLICE_TYPE_B from predicted, if_true,
    Option.bind_eq_bind, Option.pure_def, Option.bind_eq_some_iff, Option.some.injEq] at pushed ⊢
  obtain ⟨list0, zero, list1, one, weights, streamed, rfl⟩ := pushed
  obtain ⟨table, rfl, base⟩ := streamWeights_split range streamed
  have zero' : refWords 0 run.slice_params.ref_pic_list0 _ = some list0 :=
    (refWords_eq 0 (by decide) _ _).trans zero
  have one' : onlyB run (refWords 1 run.slice_params.ref_pic_list1 _) = some list1 :=
    (congrArg (onlyB run) (refWords_eq 1 (by decide) _ _)).trans one
  refine ⟨list0 ++ list1, table, rfl, list0, zero', list1, one', _, base, rfl⟩

/-- What the prediction of a slice has of words that changed. -/
theorem predictionWords_eq (range : run.InRange lsr)
    (luma : run.pred_weights.luma_log2_weight_denom.toNat < 8)
    (chroma : run.pred_weights.chroma_log2_weight_denom.toNat < 8) :
    ∃ words base, Avd.predictionWords run = some words ∧ predictionWords run = some base ∧
      base.length = words.length ∧
      (base = words ↔ (run.predicted → run.controls.weighted_bipred_idc = 2 →
        run.pred_weights_required = false ∧
          run.pred_weights.luma_log2_weight_denom.toNat ||| 5 = 5 ∧
          run.pred_weights.chroma_log2_weight_denom.toNat ||| 5 = 5)) := by
  by_cases predicted : run.predicted
  · obtain ⟨words, pushed, -⟩ := Vp.says_predictionWords range
    obtain ⟨front, table, rfl, base⟩ := predictionWords_split range predicted pushed
    refine ⟨_, _, pushed, base, by simp, ?_⟩
    rw [List.append_right_inj, List.cons.injEq, weightsHdrWord_eq_iff luma chroma]
    simp only [and_true, predicted, forall_const]
  · obtain ⟨pushed, base⟩ := predictionWords_none predicted
    exact ⟨_, _, pushed, base, rfl, by simp [predicted]⟩

/-- Of all controls that have room in the words, the macros changed the words of none but those that
are not `Unchanged`. -/
theorem sliceWords_eq_iff (range : run.InRange lsr)
    (luma : run.pred_weights.luma_log2_weight_denom.toNat < 8)
    (chroma : run.pred_weights.chroma_log2_weight_denom.toNat < 8)
    {off : UInt32} (ended : run.coded.headerEnd = some off) :
    ∃ words base, Avd.sliceWords lsr run = some words ∧ sliceWords lsr run = some base ∧
      base.length = words.length ∧ (base = words ↔ Unchanged run) := by
  obtain ⟨prediction, prediction', pushed, base, length, same⟩ :=
    predictionWords_eq range luma chroma
  obtain ⟨tile, tiled, -⟩ := Vp.says_typeWords range
  have final : Avd.sliceWords lsr run = some (Avd.codedDataWords run off
      ++ [Avd.locationWord run, Avd.qpWord run.controls, Avd.deblockingWord run.controls]
      ++ prediction ++ Avd.dimsWords run ++ [Avd.refTypeWord run] ++ tile
      ++ [Avd.endWord run]) := by
    rw [Avd.sliceWords, ended, pushed, tiled]
    rfl
  have first : sliceWords lsr run = some (codedDataWords run off
      ++ [(locationWord run).toNat, (qpWord run.controls).toNat,
        (deblockingWord run.controls).toNat]
      ++ prediction' ++ dimsWords run ++ [(refTypeWord run).toNat] ++ tile
      ++ [(endWord run).toNat]) := by
    rw [sliceWords, ended, base, tiled]
    rfl
  have split (rest rest' : List Nat) : prediction' ++ rest = prediction ++ rest' ↔
      prediction' = prediction ∧ rest = rest' := by
    constructor
    · exact fun equal => List.append_inj equal length
    · rintro ⟨rfl, rfl⟩
      rfl
  rw [codedDataWords_eq range, locationWord_eq range, dimsWords_eq range, endWord_eq] at first
  refine ⟨_, _, final, first, by simp [length], ?_⟩
  simp only [List.append_assoc, List.append_right_inj, List.cons_append, List.nil_append,
    List.cons.injEq, true_and, split, and_true, same, qpWord_eq_iff range,
    deblockingWord_eq_iff range, refTypeWord_eq_iff range]
  constructor
  · rintro ⟨qp, deblocking, weights, cabac, direct, num0, num1⟩
    exact ⟨qp, deblocking, weights, cabac, direct, num0, num1⟩
  · rintro ⟨qp, deblocking, weights, cabac, direct, num0, num1⟩
    exact ⟨qp, deblocking, weights, cabac, direct, num0, num1⟩

/-- In CAVLC, with weights and with the flag of implicit weights. -/
theorem sliceWords_eq_iff_fade : ∃ words base, Avd.sliceWords true Vp.fadeSlice = some words ∧
    sliceWords true Vp.fadeSlice = some base ∧ base.length = words.length ∧ base ≠ words := by
  obtain ⟨words, base, final, first, length, same⟩ := sliceWords_eq_iff Vp.fadeSlice_inRange
    (by decide) (by decide) (show Vp.fadeSlice.coded.headerEnd = some 2 by decide)
  refine ⟨words, base, final, first, length, fun equal => ?_⟩
  have weights := (same.mp equal).weights (by decide) (by decide)
  exact absurd weights.1 (by decide)

/-! ## The words of a header -/

def startWord (v : StreamVariant) (run : FrameRun) : UInt32 :=
  (0x2b000000 : UInt32)
    ||| UInt32.ofNat run.fifo_idx <<< 4
    ||| (if v.revision = .rev3 then 0x100 else 0x200)

def hdrWord (v : StreamVariant) (run : FrameRun) : UInt32 :=
  (0x2db00000 : UInt32)
    ||| (0x1000 : UInt32)
    ||| (if run.decode_params.isIdr then (0x2000 : UInt32) else 0)
    ||| (0x2e0 : UInt32)
    ||| (if v.noPipeState then 0 else 0x80000)

def width (run : FrameRun) : UInt32 := (run.controls.pic_width_in_mbs_minus1.toUInt32 + 1) * 16

def height (run : FrameRun) : UInt32 :=
  (run.controls.pic_height_in_map_units_minus1.toUInt32 + 1) * 16

def sizeWord (run : FrameRun) : UInt32 := (height run - 1) <<< 16 ||| (width run - 1)

def size8Word (run : FrameRun) : UInt32 :=
  ((height run - 1) >>> 3) <<< 16 ||| ((width run - 1) >>> 3)

def spsParamWord (run : FrameRun) : UInt32 :=
  (run.chroma_format_idc.toUInt32 &&& 3) <<< 24
    ||| (run.bit_depth_luma_minus8.toUInt32 &&& 15) <<< 19
    ||| (run.bit_depth_chroma_minus8.toUInt32 &&& 15) <<< 15
    ||| (0x2800 : UInt32)
    ||| boolify run.transform_8x8_mode <<< 7
    ||| boolify run.direct_8x8_inference

def flagsWord (run : FrameRun) : UInt32 :=
  boolify run.coded.entropyCodingMode <<< 20
    ||| boolify (!run.decode_params.isIdr) <<< 21
    ||| boolify run.constrained_intra_pred <<< 19

def qpOffsetWord (run : FrameRun) : UInt32 :=
  swrap run.chroma_qp_index_offset.toInt32.toUInt32 32 <<< 5
    ||| swrap run.second_chroma_qp_index_offset.toInt32.toUInt32 32

def featWord (v : StreamVariant) : UInt32 :=
  (0x30000a : UInt32) ||| (if v.noPipeState then 0 else 0x30)

def refHdrWord (run : FrameRun) (i : Fin V4L2_H264_NUM_DPB_ENTRIES) : UInt32 :=
  ((run.num_valid.toUInt32 - 1) &&& 0xf) <<< 28
    ||| (0x1000000 : UInt32)
    ||| boolify ((run.decode_params.dpb.get i).flags &&& V4L2_H264_DPB_ENTRY_FLAG_LONG_TERM != 0)
        <<< 17
    ||| swrap (run.cur_poc - run.top_field_order_cnt.get i).toUInt32 0x20000

def refWordsOf (lsr : Bool) (run : FrameRun) (i : Fin V4L2_H264_NUM_DPB_ENTRIES) : List Nat :=
  (refHdrWord run i).toNat :: pushRvra lsr (run.rvraAddr (run.refBuffer i)) run.rvra.offsets

/-- `stream_refs` -/
def refsWords (lsr : Bool) (run : FrameRun) : List Nat :=
  [INST_DMA2] ++ pushAddress lsr run.refsTile
    ++ pushAddress lsr (spsAddr run.toSliceRun run.dst)
    ++ [INST_DMA3, INST_DMA3, INST_DMA3, INST_DMA3]
    ++ run.validEntries.flatMap (refWordsOf lsr run)

def scalingWord (a b c d : UInt8) : UInt32 :=
  a.toUInt32 <<< 24 ||| b.toUInt32 <<< 16 ||| c.toUInt32 <<< 8 ||| d.toUInt32

def scalingWordOf (a b c d : UInt8) : Nat := (scalingWord a b c d).toNat

/-- `stream_scaling` -/
def scalingWords (run : FrameRun) : List Nat :=
  [H264_SCL_DIMS] ++
    run.scaling_matrix.scaling_list_4x4.toList.flatMap (words4x4With scalingWordOf) ++
      if run.transform_8x8_mode then
        words8x8With scalingWordOf run.scaling_matrix.intra8x8 ++
          words8x8With scalingWordOf run.scaling_matrix.inter8x8
      else
        default_8x8_intra ++ default_8x8_inter

def paramWords (v : StreamVariant) (run : FrameRun) : List Nat :=
  [(startWord v run).toNat, (hdrWord v run).toNat, (UInt32.ofNat AVD_CODEC_H264 <<< 24).toNat,
   (sizeWord run).toNat, 0, (size8Word run).toNat, (spsParamWord run).toNat,
   (flagsWord run).toNat, (qpOffsetWord run).toNat, (featWord v).toNat]

/-- `stream_hdr`; the words of its buffers had no macros. -/
def hdrWords (v : StreamVariant) (run : FrameRun) : List Nat :=
  paramWords v run ++ bufferWords v run ++ [0, (sizeWord run).toNat]
    ++ (if !run.decode_params.isIdr then refsWords v.lsr run else [])
    ++ if run.scaling_matrix_present then scalingWords run else [0]

/-- `avd_h264_validate_sps` -/
def validateSps (run : FrameRun) (frame_mbs_only : Bool) : Bool :=
  if 2 < run.chroma_format_idc then
    false
  else if run.bit_depth_luma_minus8 ≠ run.bit_depth_chroma_minus8 then
    false
  else
    frame_mbs_only

section Header

variable {v : StreamVariant} {run : FrameRun}

theorem startWord_eq (range : run.InRange v) : (startWord v run).toNat = Avd.startWord v run := by
  have fifo := ofNat_shift AVD_OP_EXEC_FIFO_IDX (k := 4) rfl (by decide) (by decide) range.fifo
  rw [startWord, Avd.startWord, UInt32.toNat_or, UInt32.toNat_or, fifo]
  cases v.revision with
  | rev3 =>
      have other : (Revision.rev3 == Revision.rev4) = false := rfl
      rw [other, flag_false, Nat.or_zero]
      rfl
  | rev4 =>
      have other : (Revision.rev4 == Revision.rev3) = false := rfl
      rw [other, flag_false, Nat.or_zero]
      rfl

theorem hdrWord_eq (v : StreamVariant) (run : FrameRun) :
    (hdrWord v run).toNat = Avd.hdrWord v run := by
  rw [hdrWord, Avd.hdrWord]
  cases run.decode_params.isIdr with
  | true =>
      cases v.noPipeState with
      | true => rfl
      | false => rfl
  | false =>
      cases v.noPipeState with
      | true => rfl
      | false => rfl

theorem toNat_width (range : run.InRange v) : (width run - 1).toNat = run.lumaWidth - 1 := by
  have wide := range.wide
  have value : (width run).toNat = run.lumaWidth := by
    rw [width, FrameRun.lumaWidth, UInt32.toNat_mul, UInt32.toNat_add, UInt16.toNat_toUInt32]
    simp only [UInt32.toNat_ofNat]
    omega
  have positive : (1 : UInt32) ≤ width run := by
    rw [UInt32.le_iff_toNat_le, value, FrameRun.lumaWidth, UInt32.toNat_one]
    omega
  rw [UInt32.toNat_sub_of_le _ _ positive, value, UInt32.toNat_one]

theorem toNat_height (range : run.InRange v) : (height run - 1).toNat = run.lumaHeight - 1 := by
  have high := range.high
  have value : (height run).toNat = run.lumaHeight := by
    rw [height, FrameRun.lumaHeight, UInt32.toNat_mul, UInt32.toNat_add, UInt16.toNat_toUInt32]
    simp only [UInt32.toNat_ofNat]
    omega
  have positive : (1 : UInt32) ≤ height run := by
    rw [UInt32.le_iff_toNat_le, value, FrameRun.lumaHeight, UInt32.toNat_one]
    omega
  rw [UInt32.toNat_sub_of_le _ _ positive, value, UInt32.toNat_one]

/-- Two numbers of sixteen bits in one word. -/
theorem halves (upper lower : UInt32) (high : upper.toNat < 2 ^ 16) (low : lower.toNat < 2 ^ 16) :
    (upper <<< (16 : UInt32) ||| lower).toNat =
      AVD_HDR_HEIGHT.prep upper.toNat ||| AVD_HDR_WIDTH.prep lower.toNat := by
  have first := toNat_shiftLeft AVD_HDR_HEIGHT (k := 16) rfl (by decide) (by decide) high
  have second := toNat_shiftLeft AVD_HDR_WIDTH (k := 0) rfl (by decide) (by decide) low
  rw [UInt32.shiftLeft_zero] at second
  rw [UInt32.toNat_or, first, ← second]

theorem sizeWord_eq (range : run.InRange v) :
    (sizeWord run).toNat = Avd.sizeWord run.lumaWidth run.lumaHeight := by
  obtain ⟨wide, tall, -, -⟩ := luma_small range
  have upper := toNat_height range
  have lower := toNat_width range
  rw [sizeWord, halves _ _ (by rw [upper]; exact tall) (by rw [lower]; exact wide), upper, lower,
    Avd.sizeWord]

theorem size8Word_eq (range : run.InRange v) :
    (size8Word run).toNat = Avd.size8Word run.lumaWidth run.lumaHeight := by
  obtain ⟨wide, tall, -, -⟩ := luma_small range
  have upper : ((height run - 1) >>> 3).toNat = (run.lumaHeight - 1) / 2 ^ 3 := by
    rw [UInt32.toNat_shiftRight, toNat_height range]
    exact Nat.shiftRight_eq_div_pow _ 3
  have lower : ((width run - 1) >>> 3).toNat = (run.lumaWidth - 1) / 2 ^ 3 := by
    rw [UInt32.toNat_shiftRight, toNat_width range]
    exact Nat.shiftRight_eq_div_pow _ 3
  rw [size8Word, halves _ _ (by rw [upper]; omega) (by rw [lower]; omega), upper, lower,
    Avd.size8Word]

theorem flagsWord_eq (run : FrameRun) : (flagsWord run).toNat = Avd.flagsWord run := by
  have entropy := boolify_shift H264_FLAG_ENTROPY_CODING_MODE run.coded.entropyCodingMode
    (k := 20) rfl (by decide) (by decide)
  have notIdr := boolify_shift H264_FLAG_NOT_IDR (!run.decode_params.isIdr) (k := 21) rfl
    (by decide) (by decide)
  have constrained := boolify_shift H264_FLAG_CI_PRED run.constrained_intra_pred (k := 19) rfl
    (by decide) (by decide)
  rw [flagsWord, Avd.flagsWord, UInt32.toNat_or, UInt32.toNat_or, entropy, notIdr, constrained]

theorem qpOffsetWord_eq (run : FrameRun) : (qpOffsetWord run).toNat = Avd.qpOffsetWord run := by
  have cb := toNat_masked AVD_HDR_H26X_QP_OFFSET_CB (m := 31) (k := 5)
    (toNat_int8 run.chroma_qp_index_offset) rfl rfl (by decide) (by decide)
  have cr := toNat_masked AVD_HDR_H26X_QP_OFFSET_CR (m := 31) (k := 0)
    (toNat_int8 run.second_chroma_qp_index_offset) rfl rfl (by decide) (by decide)
  rw [UInt32.shiftLeft_zero] at cr
  rw [qpOffsetWord, Avd.qpOffsetWord, UInt32.toNat_or, ← cb, ← cr]
  rfl

theorem featWord_eq (v : StreamVariant) : (featWord v).toNat = Avd.featWord v := by
  rw [featWord, Avd.featWord]
  cases v.noPipeState with
  | true => rfl
  | false => rfl

/-- The macros exchanged the bit depths, and their chroma format has one bit more. -/
theorem spsParamWord_toNat (run : FrameRun) : (spsParamWord run).toNat =
    (GENMASK 25 24).prep run.chroma_format_idc.toNat
      ||| (GENMASK 22 19).prep run.bit_depth_luma_minus8.toNat
      ||| AVD_HDR_COMMON_BIT_DEPTH_L.prep run.bit_depth_chroma_minus8.toNat
      ||| (AVD_HDR_COMMON_MIN_LUMA_CBS.prep 1 ||| AVD_HDR_COMMON_LUMA_CBS.prep 1)
      ||| H264_TRANSFORM_8X8_MODE.flag run.transform_8x8_mode
      ||| AVD_HDR_COMMON_FLAG0.flag run.direct_8x8_inference := by
  have format := toNat_masked (GENMASK 25 24) (m := 3) (k := 24)
    (toNat_uint8 run.chroma_format_idc) rfl rfl (by decide) (by decide)
  have luma := toNat_masked (GENMASK 22 19) (m := 15) (k := 19)
    (toNat_uint8 run.bit_depth_luma_minus8) rfl rfl (by decide) (by decide)
  have chroma := toNat_masked AVD_HDR_COMMON_BIT_DEPTH_L (m := 15) (k := 15)
    (toNat_uint8 run.bit_depth_chroma_minus8) rfl rfl (by decide) (by decide)
  have transform := boolify_shift H264_TRANSFORM_8X8_MODE run.transform_8x8_mode (k := 7) rfl
    (by decide) (by decide)
  have direct := boolify_shift AVD_HDR_COMMON_FLAG0 run.direct_8x8_inference (k := 0) rfl
    (by decide) (by decide)
  rw [UInt32.shiftLeft_zero] at direct
  rw [spsParamWord, UInt32.toNat_or, UInt32.toNat_or, UInt32.toNat_or, UInt32.toNat_or,
    UInt32.toNat_or, format, luma, chroma, transform, direct]
  rfl

theorem spsParamWord_eq_iff (range : run.InRange v) :
    (spsParamWord run).toNat = Avd.spsParamWord run ↔ run.chroma_format_idc.toNat < 4 ∧
      run.bit_depth_luma_minus8.toNat = run.bit_depth_chroma_minus8.toNat := by
  have format := range.chroma
  have lumaSmall := range.depthLuma
  have chromaSmall := range.depthChroma
  rw [spsParamWord_toNat, Avd.spsParamWord]
  generalize run.chroma_format_idc.toNat = idc at format ⊢
  generalize run.bit_depth_luma_minus8.toNat = luma at lumaSmall ⊢
  generalize run.bit_depth_chroma_minus8.toNat = chroma at chromaSmall ⊢
  constructor
  · intro same
    have formats := congrArg AVD_HDR_COMMON_CHROMA_FORMAT.get same
    have depths := congrArg AVD_HDR_COMMON_BIT_DEPTH_C.get same
    simp (disch := decide) only [get_or, get_prep_of_apart, get_flag_of_apart, Nat.zero_or,
      Nat.or_zero] at formats depths
    have shorter : AVD_HDR_COMMON_CHROMA_FORMAT.get ((GENMASK 25 24).prep idc) =
        ((idc : Int) % 2 ^ 2).toNat := get_prep_of_le rfl (by decide)
    have shorter' : AVD_HDR_COMMON_BIT_DEPTH_C.get ((GENMASK 22 19).prep luma) =
        ((luma : Int) % 2 ^ 4).toNat := get_prep_of_le rfl (by decide)
    rw [get_prep_nat format, shorter] at formats
    rw [get_prep_nat chromaSmall, shorter'] at depths
    omega
  · rintro ⟨small, rfl⟩
    have formats : (GENMASK 25 24).prep idc = AVD_HDR_COMMON_CHROMA_FORMAT.prep idc :=
      (prep_of_lt (f := GENMASK 25 24) small).trans
        (prep_of_lt (f := AVD_HDR_COMMON_CHROMA_FORMAT) format).symm
    have depths : (GENMASK 22 19).prep luma = AVD_HDR_COMMON_BIT_DEPTH_C.prep luma :=
      (prep_of_lt (f := GENMASK 22 19) lumaSmall).trans
        (prep_of_lt (f := AVD_HDR_COMMON_BIT_DEPTH_C) chromaSmall).symm
    rw [formats, depths]
    ac_rfl

theorem refHdrWord_eq (run : FrameRun) (i : Fin V4L2_H264_NUM_DPB_ENTRIES) :
    (refHdrWord run i).toNat = Avd.refHdrWord run i := by
  have before : ((run.num_valid.toUInt32 - 1).toNat : Int) =
      ((run.num_valid.toNat : Int) - 1) % 2 ^ 32 := by
    have small := run.num_valid.toNat_lt
    rw [UInt32.toNat_sub, UInt8.toNat_toUInt32, UInt32.toNat_one]
    omega
  have distance : (((run.cur_poc - run.top_field_order_cnt.get i).toUInt32).toNat : Int) =
      (run.cur_poc.toInt - (run.top_field_order_cnt.get i).toInt) % 2 ^ 32 := by
    rw [toNat_toUInt32, Int32.toInt_sub]
    exact Int.bmod_emod
  have num := toNat_masked AVD_REF_NUM (m := 15) (k := 28) before rfl rfl (by decide) (by decide)
  have long := boolify_shift AVD_REF_FLAG_LONG
    ((run.decode_params.dpb.get i).flags &&& V4L2_H264_DPB_ENTRY_FLAG_LONG_TERM != 0) (k := 17)
    rfl (by decide) (by decide)
  have poc := toNat_masked AVD_REF_DELTA_POC (m := 0x1ffff) (k := 0) distance rfl rfl (by decide)
    (by decide)
  rw [UInt32.shiftLeft_zero] at poc
  rw [refHdrWord, Avd.refHdrWord, UInt32.toNat_or, UInt32.toNat_or, UInt32.toNat_or, long, ← num,
    ← poc]
  rfl

theorem scalingWordOf_eq : scalingWordOf = Avd.scalingWord := by
  funext a b c d
  have third := toNat_shiftLeft AVD_SCALING_I3 (k := 24) (x := a.toUInt32) rfl (by decide)
    (by decide) (by rw [UInt8.toNat_toUInt32]; exact a.toNat_lt)
  have second := toNat_shiftLeft AVD_SCALING_I2 (k := 16) (x := b.toUInt32) rfl (by decide)
    (by decide) (by rw [UInt8.toNat_toUInt32]; exact b.toNat_lt)
  have first := toNat_shiftLeft AVD_SCALING_I1 (k := 8) (x := c.toUInt32) rfl (by decide)
    (by decide) (by rw [UInt8.toNat_toUInt32]; exact c.toNat_lt)
  have last := toNat_shiftLeft AVD_SCALING_I0 (k := 0) (x := d.toUInt32) rfl (by decide)
    (by decide) (by rw [UInt8.toNat_toUInt32]; exact d.toNat_lt)
  rw [UInt8.toNat_toUInt32] at third second first
  rw [UInt32.shiftLeft_zero] at last
  rw [scalingWordOf, scalingWord, Avd.scalingWord, UInt32.toNat_or, UInt32.toNat_or,
    UInt32.toNat_or, third, second, first, last, UInt8.toNat_toUInt32]

/-- The macros kept the header word for word if and only if the bit depths are the same and the
chroma format has room in two bits, so they did for everything that `avd_h264_validate_sps` lets
through. -/
theorem hdrWords_eq_iff (range : run.InRange v) :
    (hdrWords v run = Avd.hdrWords v run ↔ run.chroma_format_idc.toNat < 4 ∧
      run.bit_depth_luma_minus8.toNat = run.bit_depth_chroma_minus8.toNat) ∧
    ∀ frame_mbs_only, validateSps run frame_mbs_only = true →
      hdrWords v run = Avd.hdrWords v run := by
  have entries : refWordsOf v.lsr run = Avd.refWordsOf v.lsr run := by
    funext i
    rw [refWordsOf, Avd.refWordsOf, refHdrWord_eq]
  have refs : refsWords v.lsr run = Avd.refsWords v.lsr run := by
    rw [refsWords, Avd.refsWords, entries]
  have scaling : scalingWords run = Avd.scalingWords run := by
    rw [scalingWords, Avd.scalingWords, scalingWordOf_eq]
    rfl
  have codec : (UInt32.ofNat AVD_CODEC_H264 <<< 24).toNat =
      AVD_HDR_CODEC_MODE.prep AVD_CODEC_H264 := by decide
  have same : hdrWords v run = Avd.hdrWords v run ↔ run.chroma_format_idc.toNat < 4 ∧
      run.bit_depth_luma_minus8.toNat = run.bit_depth_chroma_minus8.toNat := by
    rw [← spsParamWord_eq_iff range, hdrWords, Avd.hdrWords, paramWords, Avd.paramWords,
      startWord_eq range, hdrWord_eq, codec, sizeWord_eq range, size8Word_eq range, flagsWord_eq,
      qpOffsetWord_eq, featWord_eq, refs, scaling, size54_eq range]
    simp only [List.append_assoc, List.cons_append, List.cons.injEq, true_and, and_true]
  refine ⟨same, fun frame_mbs_only passed => same.mpr ?_⟩
  unfold validateSps at passed
  split at passed
  · cases passed
  · next low =>
      split at passed
      · cases passed
      · next equal =>
          have few : run.chroma_format_idc.toNat ≤ 2 := UInt8.not_lt.mp low
          exact ⟨by omega, congrArg UInt8.toNat (not_not.mp equal)⟩

theorem hdrWords_eq_iff_fade : validateSps fadeFrame true = true ∧
    hdrWords t8112 fadeFrame = Avd.hdrWords t8112 fadeFrame :=
  ⟨by decide, (hdrWords_eq_iff fadeFrame_inRange).2 true (by decide)⟩

end Header

end Base

end Avd
