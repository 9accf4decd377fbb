import FrigateAsahi.Lib.BitFields
import FrigateAsahi.Avd.H264
import FrigateAsahi.Avd.CodedSlice
import Mathlib

/-!
# The words of a slice

What `stream_slice` pushes for one slice, word for word, in the driver with the macros of
`avd-inst.h` and the fix of the default weights. A macro that prepares a field is the field here; it
is prepared with `BitField.prep`, or with `BitField.flag` where the macro takes `!!(v)`.
-/

namespace Avd

open BitField

/-! ## Fields -/

def GENMASK (h l : Nat) : BitField := ⟨l, h - l + 1⟩

def BIT (n : Nat) : BitField := ⟨n, 1⟩

def AVD_OP_EXEC : Nat := (GENMASK 31 24).prep 0x2b
def AVD_OP_EXEC_FLAG_END : BitField := BIT 10

def AVD_OP_WEIGHTS_HDR : Nat := (GENMASK 31 20).prep 0x2dd
def AVD_OP_WEIGHTS_HDR_CHROMA : BitField := GENMASK 2 0
def AVD_OP_WEIGHTS_HDR_LUMA : BitField := GENMASK 5 3
def AVD_OP_WEIGHTS_HDR_FLAG0 : BitField := BIT 6
def AVD_OP_WEIGHTS_HDR_FLAG1 : BitField := BIT 7

def AVD_OP_WEIGHTS : Nat := (GENMASK 31 20).prep 0x2de
def AVD_OP_WEIGHTS_WEIGHT : BitField := GENMASK 8 0
def AVD_OP_WEIGHTS_INDEX : BitField := GENMASK 12 9
def AVD_OP_WEIGHTS_LIST_IDX : BitField := BIT 13
/-- 1 is luma, 2 and 3 are chroma. -/
def AVD_OP_WEIGHTS_IDENT : BitField := GENMASK 16 14

def AVD_OP_OFFSETS : Nat := (GENMASK 31 20).prep 0x2df
def AVD_OP_OFFSETS_OFFSET : BitField := GENMASK 15 0

def AVD_OP_CODED_DATA : Nat := (GENMASK 31 20).prep 0x2d8
def AVD_OP_CODED_DATA_ADDR : BitField := GENMASK 12 0
def AVD_OP_CODED_DATA_BIT_OFF : BitField := GENMASK 18 15

def AVD_OP_SL_LOC : Nat := (GENMASK 31 24).prep 0x2c
def AVD_OP_SL_LOC_X : BitField := GENMASK 11 0
def AVD_OP_SL_LOC_Y : BitField := GENMASK 23 12

def AVD_OP_SL_DIM_START : Nat := (GENMASK 31 24).prep 0x2a
def AVD_SL_DIM_END_X : BitField := GENMASK 11 0
def AVD_SL_DIM_END_Y : BitField := GENMASK 23 12

def AVD_OP_SL_REF : Nat := (GENMASK 31 24).prep 0x2d
def AVD_OP_SL_REF_FLAG_CABAC : BitField := BIT 5
def AVD_OP_SL_REF_FLAG1 : BitField := BIT 6
def AVD_OP_SL_REF_NUM_L1 : BitField := GENMASK 10 7
def AVD_OP_SL_REF_NUM_L0 : BitField := GENMASK 15 11
def AVD_OP_SL_REF_FLAG2 : BitField := BIT 15
def AVD_OP_SL_REF_SLICE_P : BitField := BIT 16
def AVD_OP_SL_REF_SLICE_I : BitField := BIT 17
def AVD_OP_SL_REF_SLICE_B : BitField := BIT 18

def AVD_OP_QP : Nat := (GENMASK 31 20).prep 0x2d9
def AVD_OP_QP_VAL : BitField := GENMASK 17 10

def AVD_OP_DBLK : Nat := (GENMASK 31 20).prep 0x2da
def AVD_OP_DBLK_OFF0 : BitField := GENMASK 11 8
def AVD_OP_DBLK_OFF1 : BitField := GENMASK 16 12
def AVD_OP_DBLK_FLAG_EN : BitField := BIT 16
def AVD_OP_DBLK_FLAG_FULL_EN : BitField := BIT 17

def AVD_OP_REF : Nat := (GENMASK 31 20).prep 0x2dc
def AVD_OP_REF_DBP_IDX : BitField := GENMASK 3 0
def AVD_OP_REF_LOOP_IDX : BitField := GENMASK 7 4
def AVD_OP_REF_LIST_IDX : BitField := GENMASK 11 8

def DEFAULT_WEIGHT_DENOM : Nat :=
  AVD_OP_WEIGHTS_HDR_LUMA.prep 5 ||| AVD_OP_WEIGHTS_HDR_CHROMA.prep 5

/-! ## Controls -/

def V4L2_H264_SLICE_TYPE_I : UInt8 := 2

/-- Of the parameter sets and of the slice what `stream_slice` reads beyond the reference lists. -/
structure SliceControls : Type where
  pic_width_in_mbs_minus1 : UInt16
  pic_height_in_map_units_minus1 : UInt16
  pic_init_qp_minus26 : Int8
  weighted_bipred_idc : UInt8
  cabac_init_idc : UInt8
  slice_qp_delta : Int8
  disable_deblocking_filter_idc : UInt8
  slice_alpha_c0_offset_div2 : Int8
  slice_beta_offset_div2 : Int8
  direct_spatial_mv_pred : Bool
  deriving DecidableEq, Repr

structure WeightFactors : Type where
  luma_weight : Vector Int16 V4L2_H264_REF_LIST_LEN
  luma_offset : Vector Int16 V4L2_H264_REF_LIST_LEN
  chroma_weight : Vector (Int16 × Int16) V4L2_H264_REF_LIST_LEN
  chroma_offset : Vector (Int16 × Int16) V4L2_H264_REF_LIST_LEN
  deriving DecidableEq, Repr

structure PredWeights : Type where
  luma_log2_weight_denom : UInt16
  chroma_log2_weight_denom : UInt16
  weight_factors : Vector WeightFactors 2
  deriving DecidableEq, Repr

def PredWeights.factors0 (weights : PredWeights) : WeightFactors := weights.weight_factors.get 0

def PredWeights.factors1 (weights : PredWeights) : WeightFactors := weights.weight_factors.get 1

/-- A capture buffer: the address and the length of its plane. -/
structure CaptureBuffer : Type where
  addr : Nat
  length : UInt32
  deriving DecidableEq, Repr

/-- One request with everything that its words are made of. `pred_weights_required` is
`V4L2_H264_CTRL_PRED_WEIGHTS_REQUIRED` of the slice, `sl` the address of the coded payload, `dst` the
capture buffer of the frame, and `findBuffer` finds the one with a timestamp. -/
structure SliceRun extends Run where
  coded : CodedSlice
  controls : SliceControls
  pred_weights : PredWeights
  pred_weights_required : Bool
  reference_ts : Vector UInt64 V4L2_H264_NUM_DPB_ENTRIES
  findBuffer : UInt64 → Option CaptureBuffer
  sl : Nat
  dst : CaptureBuffer
  fmt_width : UInt32
  fmt_height : UInt32

/-! ## Words -/

/-- `push_address` -/
def pushAddress (lsr : Bool) (addr : Nat) : List Nat :=
  if lsr then
    [addr / 2 ^ 8 % 2 ^ 32]
  else
    [addr % 2 ^ 32, addr / 2 ^ 32 % 2 ^ 32]

def weightsHdrWord (run : SliceRun) : Nat :=
  let default_weights := run.controls.weighted_bipred_idc == 2 && !run.pred_weights_required
  AVD_OP_WEIGHTS_HDR
    ||| AVD_OP_WEIGHTS_HDR_FLAG1.flag default_weights
    ||| AVD_OP_WEIGHTS_HDR_FLAG0.flag run.pred_weights_required
    ||| AVD_OP_WEIGHTS_HDR_LUMA.prep
      (if !default_weights then run.pred_weights.luma_log2_weight_denom.toNat else 0)
    ||| AVD_OP_WEIGHTS_HDR_CHROMA.prep
      (if !default_weights then run.pred_weights.chroma_log2_weight_denom.toNat else 0)
    ||| (if default_weights then DEFAULT_WEIGHT_DENOM else 0)

/-- A weight and the offset behind it. -/
def weightWords (ident y i : Nat) (weight offset : Int) : List Nat :=
  [AVD_OP_WEIGHTS
    ||| AVD_OP_WEIGHTS_IDENT.prep ident
    ||| AVD_OP_WEIGHTS_LIST_IDX.prep y
    ||| AVD_OP_WEIGHTS_INDEX.prep i
    ||| AVD_OP_WEIGHTS_WEIGHT.prep weight,
   AVD_OP_OFFSETS ||| AVD_OP_OFFSETS_OFFSET.prep offset]

/-- The entry `i` of the list `y`: only what is not the default is pushed. -/
def factorWords (luma_denom chroma_denom : Int) (factors : WeightFactors) (y i : Nat) :
    Option (List Nat) := do
  let lumaWeight := (← factors.luma_weight[i]?).toInt
  let lumaOffset := (← factors.luma_offset[i]?).toInt
  let chromaWeight ← factors.chroma_weight[i]?
  let chromaOffset ← factors.chroma_offset[i]?
  let luma :=
    if lumaWeight ≠ luma_denom ∨ lumaOffset ≠ 0 then
      weightWords 1 y i lumaWeight lumaOffset
    else
      []
  let chroma :=
    if chromaWeight.1.toInt ≠ chroma_denom ∨ chromaOffset.1.toInt ≠ 0
        ∨ chromaWeight.2.toInt ≠ chroma_denom ∨ chromaOffset.2.toInt ≠ 0 then
      weightWords 2 y i chromaWeight.1.toInt chromaOffset.1.toInt
        ++ weightWords 3 y i chromaWeight.2.toInt chromaOffset.2.toInt
    else
      []
  return luma ++ chroma

/-- The factors of a list from the entries that are still to come. -/
def listWeights (luma_denom chroma_denom : Int) (factors : WeightFactors) (y : Nat) :
    List Nat → Option (List Nat)
  | [] => some []
  | i :: rest => do
      let words ← factorWords luma_denom chroma_denom factors y i
      return words ++ (← listWeights luma_denom chroma_denom factors y rest)

/-- A slice of another type has no second list. -/
def onlyB (run : SliceRun) (words : Option (List Nat)) : Option (List Nat) :=
  if run.slice_params.slice_type = V4L2_H264_SLICE_TYPE_B then words else some []

def streamWeights (run : SliceRun) : Option (List Nat) := do
  let sl := run.slice_params
  let hdr := weightsHdrWord run
  if !run.pred_weights_required then
    return [hdr]
  let luma_denom : Int := 2 ^ run.pred_weights.luma_log2_weight_denom.toNat
  let chroma_denom : Int := 2 ^ run.pred_weights.chroma_log2_weight_denom.toNat
  let list0 ← listWeights luma_denom chroma_denom run.pred_weights.factors0 0
    (List.range (sl.num_ref_idx_l0_active_minus1.toNat + 1))
  let list1 ← onlyB run (listWeights luma_denom chroma_denom run.pred_weights.factors1 1
    (List.range (sl.num_ref_idx_l1_active_minus1.toNat + 1)))
  return hdr :: (list0 ++ list1)

def refWord (y i : Nat) (index : UInt8) : Nat :=
  AVD_OP_REF
    ||| AVD_OP_REF_LIST_IDX.prep y
    ||| AVD_OP_REF_LOOP_IDX.prep i
    ||| AVD_OP_REF_DBP_IDX.prep index.toNat

def refWords (y : Nat) (list : Vector UInt8 V4L2_H264_REF_LIST_LEN) : List Nat → Option (List Nat)
  | [] => some []
  | i :: rest => do
      let index ← list[i]?
      return refWord y i index :: (← refWords y list rest)

/-- The reference lists and the weights. -/
def predictionWords (run : SliceRun) : Option (List Nat) := do
  let sl := run.slice_params
  if sl.slice_type = V4L2_H264_SLICE_TYPE_P ∨ sl.slice_type = V4L2_H264_SLICE_TYPE_B then
    let list0 ← refWords 0 sl.ref_pic_list0 (List.range (sl.num_ref_idx_l0_active_minus1.toNat + 1))
    let list1 ← onlyB run
      (refWords 1 sl.ref_pic_list1 (List.range (sl.num_ref_idx_l1_active_minus1.toNat + 1)))
    let weights ← streamWeights run
    return list0 ++ list1 ++ weights
  return []

/-- The slice data of a slice in CAVLC need not begin at an octet. -/
def codedBitOff (coded : CodedSlice) : Nat :=
  if !coded.entropyCodingMode then (coded.headerBitSize % 8).toNat else 0

/-- The three words of the coded data, from the end `off` of the header on. -/
def codedDataWords (run : SliceRun) (off : UInt32) : List Nat :=
  let slc_a84 := (run.sl + off.toNat) % 2 ^ 64
  [AVD_OP_CODED_DATA
    ||| AVD_OP_CODED_DATA_BIT_OFF.prep (codedBitOff run.coded)
    ||| AVD_OP_CODED_DATA_ADDR.prep (slc_a84 / 2 ^ 32 : Nat),
   slc_a84 % 2 ^ 32,
   (run.coded.payloadLen - off).toNat]

def locationWord (run : SliceRun) : Nat :=
  let width := run.controls.pic_width_in_mbs_minus1.toNat + 1
  AVD_OP_SL_LOC
    ||| AVD_OP_SL_LOC_Y.prep (run.slice_params.first_mb_in_slice.toNat / width : Nat)
    ||| AVD_OP_SL_LOC_X.prep (run.slice_params.first_mb_in_slice.toNat % width : Nat)

/-- `26 + pps->pic_init_qp_minus26 + sl->slice_qp_delta` -/
def sliceQp (controls : SliceControls) : Int :=
  26 + controls.pic_init_qp_minus26.toInt + controls.slice_qp_delta.toInt

def qpWord (controls : SliceControls) : Nat :=
  AVD_OP_QP ||| AVD_OP_QP_VAL.prep (sliceQp controls)

/-- The five bits of `OFF1` reach into the enable flag. -/
def deblockingWord (controls : SliceControls) : Nat :=
  AVD_OP_DBLK
    ||| AVD_OP_DBLK_FLAG_FULL_EN.flag (controls.disable_deblocking_filter_idc == 0)
    ||| AVD_OP_DBLK_FLAG_EN.flag (controls.disable_deblocking_filter_idc != 1)
    ||| AVD_OP_DBLK_OFF1.prep controls.slice_beta_offset_div2.toInt
    ||| AVD_OP_DBLK_OFF0.prep controls.slice_alpha_c0_offset_div2.toInt

def dimsWords (run : SliceRun) : List Nat :=
  if run.slice_params.first_mb_in_slice = 0 then
    [AVD_OP_SL_DIM_START,
     AVD_SL_DIM_END_Y.prep run.controls.pic_height_in_map_units_minus1.toNat
       ||| AVD_SL_DIM_END_X.prep run.controls.pic_width_in_mbs_minus1.toNat]
  else
    []

def refTypeWord (run : SliceRun) : Nat :=
  let sl := run.slice_params
  AVD_OP_SL_REF
    ||| AVD_OP_SL_REF_FLAG_CABAC.flag (run.controls.cabac_init_idc == 1)
    ||| AVD_OP_SL_REF_FLAG1.flag (run.controls.cabac_init_idc == 2)
    ||| AVD_OP_SL_REF_FLAG2.flag (!run.controls.direct_spatial_mv_pred)
    ||| AVD_OP_SL_REF_NUM_L0.prep sl.num_ref_idx_l0_active_minus1.toNat
    ||| AVD_OP_SL_REF_NUM_L1.prep sl.num_ref_idx_l1_active_minus1.toNat
    ||| AVD_OP_SL_REF_SLICE_P.flag (sl.slice_type == V4L2_H264_SLICE_TYPE_P)
    ||| AVD_OP_SL_REF_SLICE_I.flag (sl.slice_type == V4L2_H264_SLICE_TYPE_I)
    ||| AVD_OP_SL_REF_SLICE_B.flag (sl.slice_type == V4L2_H264_SLICE_TYPE_B)

/-- `sps_size` -/
def spsSize (w h : UInt32) : UInt32 := ((w - 1) * (h - 1) / 0x10000 + 2) * 0x4000

/-- The motion vectors of a picture are at the end of its buffer. -/
def spsAddr (run : SliceRun) (vb : CaptureBuffer) : Nat :=
  vb.addr + (vb.length - spsSize run.fmt_width run.fmt_height).toNat

/-- Those of the first picture of list 1, or of this frame where its buffer is not found. -/
def spsTileAddr (run : SliceRun) : Option Nat := do
  let first ← run.slice_params.ref_pic_list1[0]?
  let ts ← run.reference_ts[first.toNat]?
  return spsAddr run ((run.findBuffer ts).getD run.dst)

def tileWords (lsr : Bool) (run : SliceRun) : Option (List Nat) :=
  onlyB run ((spsTileAddr run).map (pushAddress lsr))

/-- Only the last slice of a frame is submitted. -/
def endWord (run : SliceRun) : Nat :=
  AVD_OP_EXEC ||| AVD_OP_EXEC_FLAG_END.flag (!run.hold)

/-- `stream_slice` -/
def sliceWords (lsr : Bool) (run : SliceRun) : Option (List Nat) := do
  let off ← run.coded.headerEnd
  let prediction ← predictionWords run
  let tile ← tileWords lsr run
  return codedDataWords run off
    ++ [locationWord run, qpWord run.controls, deblockingWord run.controls]
    ++ prediction ++ dimsWords run ++ [refTypeWord run] ++ tile ++ [endWord run]

/-! ## Words of 32 bits -/

/-- Every word of the list can be pushed as it is. -/
def Fit (words : List Nat) : Prop := ∀ w ∈ words, w < 2 ^ 32

theorem or_lt {a b : Nat} (left : a < 2 ^ 32) (right : b < 2 ^ 32) : a ||| b < 2 ^ 32 :=
  Nat.or_lt_two_pow left right

theorem field_lt {f : BitField} (v : Int) (inside : f.lo + f.len ≤ 32) : f.prep v < 2 ^ 32 :=
  prep_lt_of_le f v inside

theorem Fit.nil : Fit [] := by
  intro w mem
  cases mem

theorem Fit.cons {w : Nat} {words : List Nat} (first : w < 2 ^ 32) (rest : Fit words) :
    Fit (w :: words) := by
  intro w' mem
  rcases List.mem_cons.mp mem with rfl | later
  · exact first
  · exact rest w' later

theorem Fit.append {words more : List Nat} (first : Fit words) (rest : Fit more) :
    Fit (words ++ more) := by
  intro w mem
  rcases List.mem_append.mp mem with now | later
  · exact first w now
  · exact rest w later

theorem Fit.onlyB {run : SliceRun} {pushed : Option (List Nat)} {words : List Nat}
    (fit : ∀ words, pushed = some words → Fit words) (second : onlyB run pushed = some words) :
    Fit words := by
  unfold Avd.onlyB at second
  split at second
  · exact fit words second
  · cases second
    exact Fit.nil

theorem fit_weightWords {ident y i : Nat} {weight offset : Int} :
    Fit (weightWords ident y i weight offset) := by
  refine Fit.cons ?_ (Fit.cons ?_ Fit.nil)
  all_goals
    repeat' apply or_lt
    all_goals first | decide | exact field_lt _ (by decide)

theorem fit_factorWords {luma_denom chroma_denom : Int} {factors : WeightFactors} {y i : Nat}
    {words : List Nat} (pushed : factorWords luma_denom chroma_denom factors y i = some words) :
    Fit words := by
  simp only [factorWords, Option.bind_eq_bind, Option.pure_def, Option.bind_eq_some_iff,
    Option.some.injEq] at pushed
  obtain ⟨lumaWeight, -, lumaOffset, -, chromaWeight, -, chromaOffset, -, rfl⟩ := pushed
  apply Fit.append
  · split
    · exact fit_weightWords
    · exact Fit.nil
  · split
    · exact fit_weightWords.append fit_weightWords
    · exact Fit.nil

theorem fit_listWeights {luma_denom chroma_denom : Int} {factors : WeightFactors} {y : Nat}
    {is words : List Nat} (pushed : listWeights luma_denom chroma_denom factors y is = some words) :
    Fit words := by
  induction is generalizing words with
  | nil =>
      cases pushed
      exact Fit.nil
  | cons i is ih =>
      simp only [listWeights, Option.bind_eq_bind, Option.pure_def, Option.bind_eq_some_iff,
        Option.some.injEq] at pushed
      obtain ⟨first, one, rest, more, rfl⟩ := pushed
      exact (fit_factorWords one).append (ih more)

theorem weightsHdrWord_lt (run : SliceRun) : weightsHdrWord run < 2 ^ 32 := by
  have default : (if run.controls.weighted_bipred_idc == 2 && !run.pred_weights_required then
      DEFAULT_WEIGHT_DENOM else 0) < 2 ^ 32 := by
    split
    · decide
    · decide
  refine or_lt ?_ default
  repeat' apply or_lt
  all_goals first | decide | exact field_lt _ (by decide)

theorem fit_streamWeights {run : SliceRun} {words : List Nat}
    (pushed : streamWeights run = some words) : Fit words := by
  cases required : run.pred_weights_required with
  | false =>
      simp only [streamWeights, required, Bool.not_false, if_true, Option.pure_def,
        Option.some.injEq] at pushed
      subst pushed
      exact Fit.cons (weightsHdrWord_lt run) Fit.nil
  | true =>
      simp only [streamWeights, required, Bool.not_true, Bool.false_eq_true, if_false,
        Option.bind_eq_bind, Option.pure_def, Option.bind_eq_some_iff, Option.some.injEq] at pushed
      obtain ⟨list0, zero, list1, one, rfl⟩ := pushed
      exact Fit.cons (weightsHdrWord_lt run)
        ((fit_listWeights zero).append (Fit.onlyB (fun _ => fit_listWeights) one))

theorem fit_refWords {y : Nat} {list : Vector UInt8 V4L2_H264_REF_LIST_LEN} {is words : List Nat}
    (pushed : refWords y list is = some words) : Fit words := by
  induction is generalizing words with
  | nil =>
      cases pushed
      exact Fit.nil
  | cons i is ih =>
      simp only [refWords, Option.bind_eq_bind, Option.pure_def, Option.bind_eq_some_iff,
        Option.some.injEq] at pushed
      obtain ⟨index, -, rest, more, rfl⟩ := pushed
      refine Fit.cons ?_ (ih more)
      unfold refWord
      repeat' apply or_lt
      all_goals first | decide | exact field_lt _ (by decide)

theorem fit_predictionWords {run : SliceRun} {words : List Nat}
    (pushed : predictionWords run = some words) : Fit words := by
  unfold predictionWords at pushed
  simp only at pushed
  split at pushed
  · simp only [Option.bind_eq_bind, Option.pure_def, Option.bind_eq_some_iff, Option.some.injEq]
      at pushed
    obtain ⟨list0, zero, list1, one, weights, table, rfl⟩ := pushed
    exact ((fit_refWords zero).append (Fit.onlyB (fun _ => fit_refWords) one)).append
      (fit_streamWeights table)
  · cases pushed
    exact Fit.nil

theorem fit_pushAddress {lsr : Bool} {addr : Nat} : Fit (pushAddress lsr addr) := by
  unfold pushAddress
  split
  · exact Fit.cons (Nat.mod_lt _ (by decide)) Fit.nil
  · exact Fit.cons (Nat.mod_lt _ (by decide)) (Fit.cons (Nat.mod_lt _ (by decide)) Fit.nil)

theorem fit_codedDataWords {run : SliceRun} {off : UInt32} : Fit (codedDataWords run off) := by
  refine Fit.cons ?_ (Fit.cons (Nat.mod_lt _ (by decide)) (Fit.cons (UInt32.toNat_lt _) Fit.nil))
  repeat' apply or_lt
  all_goals first | decide | exact field_lt _ (by decide)

theorem fit_dimsWords {run : SliceRun} : Fit (dimsWords run) := by
  unfold dimsWords
  split
  · exact Fit.cons (by decide)
      (Fit.cons (or_lt (field_lt _ (by decide)) (field_lt _ (by decide))) Fit.nil)
  · exact Fit.nil

theorem refTypeWord_lt (run : SliceRun) : refTypeWord run < 2 ^ 32 := by
  unfold refTypeWord
  repeat' apply or_lt
  all_goals first | decide | exact field_lt _ (by decide)

/-- Nothing is cut off when the words are pushed. -/
theorem fit_sliceWords {lsr : Bool} {run : SliceRun} {words : List Nat}
    (pushed : sliceWords lsr run = some words) : Fit words := by
  simp only [sliceWords, Option.bind_eq_bind, Option.pure_def, Option.bind_eq_some_iff,
    Option.some.injEq] at pushed
  obtain ⟨off, -, prediction, streamed, tile, tiled, rfl⟩ := pushed
  have tileFit : Fit tile := by
    refine Fit.onlyB (fun words found => ?_) tiled
    obtain ⟨addr, -, rfl⟩ := Option.map_eq_some_iff.mp found
    exact fit_pushAddress
  have picture : Fit [locationWord run, qpWord run.controls, deblockingWord run.controls] := by
    refine Fit.cons ?_ (Fit.cons ?_ (Fit.cons ?_ Fit.nil))
    all_goals
      repeat' apply or_lt
      all_goals first | decide | exact field_lt _ (by decide)
  have last : endWord run < 2 ^ 32 := or_lt (by decide) (field_lt _ (by decide))
  exact (((((fit_codedDataWords.append picture).append (fit_predictionWords streamed)).append
    fit_dimsWords).append (Fit.cons (refTypeWord_lt run) Fit.nil)).append tileFit).append
      (Fit.cons last Fit.nil)

end Avd
