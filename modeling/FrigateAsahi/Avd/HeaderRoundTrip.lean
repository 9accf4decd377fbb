import FrigateAsahi.Avd.HeaderStream
import FrigateAsahi.Avd.SliceRoundTrip
import FrigateAsahi.Lib.Readers
import Mathlib

/-!
# The header of a frame is read as it was streamed

The header is read by position: what its first words say decides what comes after them. The number of
references is the one thing that the reader has to know.
-/

namespace Avd

open BitField Reader

/-! ## A reader of the header -/

structure Params : Type where
  fifoIdx : Nat
  rev3 : Bool
  rev4 : Bool
  intra : Bool
  pipeState : Bool
  codec : Nat
  height : Nat
  width : Nat
  height8 : Nat
  width8 : Nat
  chromaFormat : Nat
  bitDepthLuma : Nat
  bitDepthChroma : Nat
  transform8x8 : Bool
  direct8x8 : Bool
  entropy : Bool
  notIdr : Bool
  constrainedIntra : Bool
  qpOffsetCb : Int
  qpOffsetCr : Int
  pipeStateEn : Nat
  deriving DecidableEq, Repr

/-- `none` where the revision has no address of a pipe state. -/
structure Buffers : Type where
  tiles : List Nat
  pipeState : Option Nat
  planes : List Nat
  y : Nat
  yStride : Nat
  uv : Nat
  uvStride : Nat
  deriving DecidableEq, Repr

structure RefInfo : Type where
  num : Nat
  long : Bool
  deltaPoc : Int
  planes : List Nat
  deriving DecidableEq, Repr

structure Refs : Type where
  tile : Nat
  sps : Nat
  entries : List RefInfo
  deriving DecidableEq, Repr

/-- The lists in raster order. -/
structure Scaling : Type where
  lists4x4 : List (List Nat)
  lists8x8 : List (List Nat)
  deriving DecidableEq, Repr

structure Header : Type where
  params : Params
  buffers : Buffers
  size : Nat × Nat
  refs : Option Refs
  scaling : Option Scaling
  deriving DecidableEq, Repr

def decodeParams (start hdr mode size size8 sps flags qp feat : Nat) : Params where
  fifoIdx := AVD_OP_EXEC_FIFO_IDX.get start
  rev3 := AVD_OP_EXEC_FLAG_START_REV3.isSet start
  rev4 := AVD_OP_EXEC_FLAG_START_REV4.isSet start
  intra := AVD_OP_HDR_FLAG_INTRA.isSet hdr
  pipeState := AVD_OP_HDR_FLAG_PIPE_STATE.isSet hdr
  codec := AVD_HDR_CODEC_MODE.get mode
  height := AVD_HDR_HEIGHT.get size + 1
  width := AVD_HDR_WIDTH.get size + 1
  height8 := AVD_HDR_HEIGHT.get size8
  width8 := AVD_HDR_WIDTH.get size8
  chromaFormat := AVD_HDR_COMMON_CHROMA_FORMAT.get sps
  bitDepthLuma := AVD_HDR_COMMON_BIT_DEPTH_L.get sps + 8
  bitDepthChroma := AVD_HDR_COMMON_BIT_DEPTH_C.get sps + 8
  transform8x8 := H264_TRANSFORM_8X8_MODE.isSet sps
  direct8x8 := AVD_HDR_COMMON_FLAG0.isSet sps
  entropy := H264_FLAG_ENTROPY_CODING_MODE.isSet flags
  notIdr := H264_FLAG_NOT_IDR.isSet flags
  constrainedIntra := H264_FLAG_CI_PRED.isSet flags
  qpOffsetCb := AVD_HDR_H26X_QP_OFFSET_CB.getSigned qp
  qpOffsetCr := AVD_HDR_H26X_QP_OFFSET_CR.getSigned qp
  pipeStateEn := AVD_HDR_FEAT_PIPE_STATE_EN.get feat

def readParams : Reader Nat Params := do
  let start ← one
  let hdr ← one
  let mode ← one
  let size ← one
  let _ ← one
  let size8 ← one
  let sps ← one
  let flags ← one
  let qp ← one
  let feat ← one
  return decodeParams start hdr mode size size8 sps flags qp feat

def readAddress (lsr : Bool) : Reader Nat Nat :=
  if lsr then do
    let w ← one
    return w * 2 ^ 8
  else do
    let low ← one
    let high ← one
    return low + high * 2 ^ 32

/-- The addresses of reference planes keep one bit more. -/
def readPlanes (lsr : Bool) : Reader Nat (List Nat) :=
  times (if lsr then do return (← one) * 2 ^ 7 else readAddress false) 4

def readPipeState (v : StreamVariant) : Reader Nat (Option Nat) :=
  if v.revision = .rev3 then do
    let _ ← one
    return none
  else if !v.noPipeState then do
    let addr ← readAddress v.lsr
    return some addr
  else
    return none

def readBuffers (v : StreamVariant) : Reader Nat Buffers := do
  let _ ← one
  let _ ← one
  let _ ← times one (revisionWords v).length
  let tile0 ← readAddress v.lsr
  let _ ← one
  let _ ← one
  let pipeState ← readPipeState v
  let tile1 ← readAddress v.lsr
  let tile2 ← readAddress v.lsr
  let tile3 ← readAddress v.lsr
  let _ ← one
  let planes ← readPlanes v.lsr
  let y ← readAddress v.lsr
  let yStride ← one
  let uv ← readAddress v.lsr
  let uvStride ← one
  return ⟨[tile0, tile1, tile2, tile3], pipeState, planes, y, yStride, uv, uvStride⟩

def readRef (lsr : Bool) : Reader Nat RefInfo := do
  let w ← one
  let planes ← readPlanes lsr
  return ⟨AVD_REF_NUM.get w, AVD_REF_FLAG_LONG.isSet w, AVD_REF_DELTA_POC.getSigned w, planes⟩

def readRefs (lsr : Bool) (n : Nat) : Reader Nat Refs := do
  let _ ← one
  let tile ← readAddress lsr
  let sps ← readAddress lsr
  let _ ← times one 4
  let entries ← times (readRef lsr) n
  return ⟨tile, sps, entries⟩

def readRefsUnless (intra lsr : Bool) (n : Nat) : Reader Nat (Option Refs) :=
  if intra then
    return none
  else do
    let refs ← readRefs lsr n
    return some refs

/-- The four octets of a word, the upper one first. -/
def scalingOctets (w : Nat) : List Nat :=
  [AVD_SCALING_I3.get w, AVD_SCALING_I2.get w, AVD_SCALING_I1.get w, AVD_SCALING_I0.get w]

/-- The octet at a place of an 8x8 list, from the words of its four subblocks. -/
def raster8x8 (words : List Nat) : List Nat :=
  (List.range 64).map fun r =>
    let row := r / 8
    let column := r % 8
    let word := (row / 4 * 2 + column / 4) * 4 + row % 4
    (scalingOctets (words.getD word 0)).getD (column % 4) 0

def readScalingLists : Reader Nat Scaling := do
  let lists4x4 ← times (times one 4) 6
  let lists8x8 ← times (times one 16) 2
  return ⟨lists4x4.map (·.flatMap scalingOctets), lists8x8.map raster8x8⟩

def readScaling : Reader Nat (Option Scaling) := do
  let dims ← one
  if dims = 0 then
    return none
  else do
    let lists ← readScalingLists
    return some lists

def readHdr (v : StreamVariant) (n : Nat) : Reader Nat Header := do
  let params ← readParams
  let buffers ← readBuffers v
  let _ ← one
  let size ← one
  let refs ← readRefsUnless params.intra v.lsr n
  let scaling ← readScaling
  return ⟨params, buffers, (AVD_HDR_WIDTH.get size + 1, AVD_HDR_HEIGHT.get size + 1), refs, scaling⟩

/-! ## What the frame is -/

namespace FrameRun

def params (v : StreamVariant) (run : FrameRun) : Params where
  fifoIdx := run.fifo_idx
  rev3 := v.revision == .rev3
  rev4 := v.revision == .rev4
  intra := run.decode_params.isIdr
  pipeState := !v.noPipeState
  codec := AVD_CODEC_H264
  height := run.lumaHeight
  width := run.lumaWidth
  height8 := (run.lumaHeight - 1) / 8
  width8 := (run.lumaWidth - 1) / 8
  chromaFormat := run.chroma_format_idc.toNat
  bitDepthLuma := run.bit_depth_luma_minus8.toNat + 8
  bitDepthChroma := run.bit_depth_chroma_minus8.toNat + 8
  transform8x8 := run.transform_8x8_mode
  direct8x8 := run.direct_8x8_inference
  entropy := run.coded.entropyCodingMode
  notIdr := !run.decode_params.isIdr
  constrainedIntra := run.constrained_intra_pred
  qpOffsetCb := run.chroma_qp_index_offset.toInt
  qpOffsetCr := run.second_chroma_qp_index_offset.toInt
  pipeStateEn := if !v.noPipeState then 3 else 0

/-- The four planes of a reference: of their addresses the low seven bits are lost where the others
lose eight. -/
def planes (lsr : Bool) (run : FrameRun) (vb : CaptureBuffer) : List Nat :=
  run.rvra.offsets.toList.map fun offset =>
    let addr := run.rvraAddr vb + offset.toNat
    if lsr then addr / 2 ^ 7 * 2 ^ 7 else addr

def buffers (v : StreamVariant) (run : FrameRun) : Buffers where
  tiles := run.bufferTiles.map (tileRead v.lsr)
  pipeState :=
    if v.revision = .rev3 then none
    else if !v.noPipeState then some (tileRead v.lsr run.pipe_state)
    else none
  planes := run.planes v.lsr run.dst
  y := tileRead v.lsr run.y
  yStride := strideWord v run
  uv := tileRead v.lsr run.uv
  uvStride := strideWord v run

def refInfo (lsr : Bool) (run : FrameRun) (i : Fin V4L2_H264_NUM_DPB_ENTRIES) : RefInfo where
  num := run.num_valid.toNat - 1
  long := (run.decode_params.dpb.get i).flags &&& V4L2_H264_DPB_ENTRY_FLAG_LONG_TERM != 0
  deltaPoc := run.cur_poc.toInt - (run.top_field_order_cnt.get i).toInt
  planes := run.planes lsr (run.refBuffer i)

def refs (lsr : Bool) (run : FrameRun) : Refs where
  tile := tileRead lsr run.refsTile
  sps := tileRead lsr (spsAddr run.toSliceRun run.dst)
  entries := run.validEntries.map (run.refInfo lsr)

/-- The lists of the frame; without the 8x8 transform the defaults stand for its lists. -/
def scaling (run : FrameRun) : Scaling where
  lists4x4 := run.scaling_matrix.scaling_list_4x4.toList.map fun list => list.toList.map UInt8.toNat
  lists8x8 :=
    if run.transform_8x8_mode then
      [run.scaling_matrix.intra8x8.toList.map UInt8.toNat,
        run.scaling_matrix.inter8x8.toList.map UInt8.toNat]
    else
      [raster8x8 default_8x8_intra, raster8x8 default_8x8_inter]

def header (v : StreamVariant) (run : FrameRun) : Header where
  params := run.params v
  buffers := run.buffers v
  size := (run.lumaWidth, run.lumaHeight)
  refs := if run.decode_params.isIdr then none else some (run.refs v.lsr)
  scaling := if run.scaling_matrix_present then some run.scaling else none

end FrameRun

/-- Everything in a buffer at the address can be addressed. -/
def Reachable (lsr : Bool) (addr : Nat) : Prop := addr + 2 ^ 33 ≤ if lsr then 2 ^ 39 else 2 ^ 64

instance (lsr : Bool) (addr : Nat) : Decidable (Reachable lsr addr) :=
  inferInstanceAs (Decidable (_ ≤ _))

/-- The values for which the fields have room. -/
structure FrameRun.InRange (v : StreamVariant) (run : FrameRun) : Prop where
  fifo : run.fifo_idx < 16
  wide : run.controls.pic_width_in_mbs_minus1.toNat < 2 ^ 12
  high : run.controls.pic_height_in_map_units_minus1.toNat < 2 ^ 12
  chroma : run.chroma_format_idc.toNat < 8
  depthLuma : run.bit_depth_luma_minus8.toNat < 16
  depthChroma : run.bit_depth_chroma_minus8.toNat < 32
  qpCb : -16 ≤ run.chroma_qp_index_offset.toInt ∧ run.chroma_qp_index_offset.toInt < 16
  qpCr : -16 ≤ run.second_chroma_qp_index_offset.toInt ∧
    run.second_chroma_qp_index_offset.toInt < 16
  numValid : run.validEntries ≠ [] → 1 ≤ run.num_valid.toNat ∧ run.num_valid.toNat ≤ 16
  poc : ∀ i ∈ run.validEntries, -65536 ≤ run.cur_poc.toInt - (run.top_field_order_cnt.get i).toInt ∧
    run.cur_poc.toInt - (run.top_field_order_cnt.get i).toInt < 65536
  tiles : ∀ addr ∈ run.pps_tile, Reachable v.lsr addr
  pipeState : Reachable v.lsr run.pipe_state
  dst : Reachable v.lsr run.dst.addr
  found : ∀ ts vb, run.findBuffer ts = some vb → Reachable v.lsr vb.addr

/-! ## Addresses -/

variable {v : StreamVariant} {run : FrameRun} {lsr : Bool}

theorem reads_address {addr : Nat} (small : addr < if lsr then 2 ^ 40 else 2 ^ 64) :
    Reads (readAddress lsr) (pushAddress lsr addr) (tileRead lsr addr) := by
  intro rest
  cases lsr with
  | true =>
      have fits : addr / 2 ^ 8 % 2 ^ 32 = addr / 2 ^ 8 := by
        simp only [if_true] at small
        omega
      simp only [pushAddress, if_true, fits, tileRead]
      rfl
  | false =>
      have whole : addr % 2 ^ 32 + addr / 2 ^ 32 % 2 ^ 32 * 2 ^ 32 = addr := by
        simp only [Bool.false_eq_true, if_false] at small
        omega
      have run : readAddress false (pushAddress false addr ++ rest) =
          some (addr % 2 ^ 32 + addr / 2 ^ 32 % 2 ^ 32 * 2 ^ 32, rest) := rfl
      rw [run, whole]
      rfl

theorem Reachable.small {addr : Nat} (reachable : Reachable lsr addr) :
    addr < if lsr then 2 ^ 40 else 2 ^ 64 := by
  unfold Reachable at reachable
  cases lsr with
  | true =>
      simp only [if_true] at reachable ⊢
      omega
  | false =>
      simp only [Bool.false_eq_true, if_false] at reachable ⊢
      omega

theorem Reachable.add {addr : Nat} (reachable : Reachable lsr addr) (offset : UInt32) :
    addr + offset.toNat < if lsr then 2 ^ 40 else 2 ^ 64 := by
  have small := offset.toNat_lt
  unfold Reachable at reachable
  cases lsr with
  | true =>
      simp only [if_true] at reachable ⊢
      omega
  | false =>
      simp only [Bool.false_eq_true, if_false] at reachable ⊢
      omega

/-- A plane is inside of its buffer. -/
theorem Reachable.plane {addr : Nat} (reachable : Reachable lsr addr) (start offset : UInt32) :
    addr + start.toNat + offset.toNat < if lsr then 2 ^ 39 else 2 ^ 64 := by
  have small := start.toNat_lt
  have smallOffset := offset.toNat_lt
  unfold Reachable at reachable
  omega

theorem reads_plane {addr : Nat} (small : addr < if lsr then 2 ^ 39 else 2 ^ 64) :
    Reads (if lsr then do return (← one) * 2 ^ 7 else readAddress false)
      (if lsr then [addr / 2 ^ 7 % 2 ^ 32] else pushAddress lsr addr)
      (if lsr then addr / 2 ^ 7 * 2 ^ 7 else addr) := by
  cases lsr with
  | true =>
      intro rest
      have fits : addr / 2 ^ 7 % 2 ^ 32 = addr / 2 ^ 7 := by
        simp only [if_true] at small
        omega
      simp only [if_true, fits]
      rfl
  | false =>
      have wide : addr < if false = true then 2 ^ 40 else 2 ^ 64 := small
      exact reads_address wide

theorem reads_planes {vb : CaptureBuffer} (reachable : Reachable lsr vb.addr) :
    Reads (readPlanes lsr) (pushRvra lsr (run.rvraAddr vb) run.rvra.offsets)
      (run.planes lsr vb) := by
  have length : (run.planes lsr vb).length = 4 := by
    rw [FrameRun.planes, List.length_map, Vector.length_toList]
  have each : List.Forall₂
      (Reads (if lsr then do return (← one) * 2 ^ 7 else readAddress false))
      (run.rvra.offsets.toList.map fun offset =>
        if lsr then [(run.rvraAddr vb + offset.toNat) / 2 ^ 7 % 2 ^ 32]
        else pushAddress lsr (run.rvraAddr vb + offset.toNat))
      (run.planes lsr vb) := by
    rw [FrameRun.planes, List.forall₂_map_left_iff, List.forall₂_map_right_iff, List.forall₂_same]
    intro offset _
    exact reads_plane (reachable.plane _ offset)
  have all := Reads.times each
  rw [length, ← List.flatMap_def] at all
  exact all

/-! ## Parameters -/

theorem start_fields (range : run.InRange v) :
    AVD_OP_EXEC_FIFO_IDX.get (startWord v run) = run.fifo_idx ∧
      AVD_OP_EXEC_FLAG_START_REV3.isSet (startWord v run) = (v.revision == .rev3) ∧
      AVD_OP_EXEC_FLAG_START_REV4.isSet (startWord v run) = (v.revision == .rev4) := by
  refine ⟨?_, ?_, ?_⟩
  · simp (disch := decide) only [startWord, AVD_OP_EXEC, get_or, get_prep_of_apart,
      get_flag_of_apart, Nat.zero_or, Nat.or_zero]
    exact get_prep_nat range.fifo
  · simp (disch := decide) only [startWord, AVD_OP_EXEC, isSet_or, isSet_prep_of_apart,
      isSet_flag_of_apart, isSet_flag, Bool.false_or, Bool.or_false]
  · simp (disch := decide) only [startWord, AVD_OP_EXEC, isSet_or, isSet_prep_of_apart,
      isSet_flag_of_apart, isSet_flag, Bool.false_or]

theorem hdr_fields (v : StreamVariant) (run : FrameRun) :
    AVD_OP_HDR_FLAG_INTRA.isSet (hdrWord v run) = run.decode_params.isIdr ∧
      AVD_OP_HDR_FLAG_PIPE_STATE.isSet (hdrWord v run) = !v.noPipeState := by
  refine ⟨?_, ?_⟩
  · simp (disch := decide) only [hdrWord, AVD_OP_HDR, AVD_OP_HDR_FLAG0, AVD_OP_HDR_CONST,
      isSet_or, isSet_prep_of_apart, isSet_flag_of_apart, isSet_flag, Bool.false_or, Bool.or_false]
  · simp (disch := decide) only [hdrWord, AVD_OP_HDR, AVD_OP_HDR_FLAG0, AVD_OP_HDR_CONST,
      isSet_or, isSet_prep_of_apart, isSet_flag_of_apart, isSet_flag, Bool.false_or]

/-- A word with a height and a width. -/
theorem size_fields (height width : Nat) (tall : height < 2 ^ 16) (wide : width < 2 ^ 16) :
    AVD_HDR_HEIGHT.get (AVD_HDR_HEIGHT.prep height ||| AVD_HDR_WIDTH.prep width) = height ∧
      AVD_HDR_WIDTH.get (AVD_HDR_HEIGHT.prep height ||| AVD_HDR_WIDTH.prep width) = width := by
  refine ⟨?_, ?_⟩
  · simp (disch := decide) only [get_or, get_prep_of_apart, Nat.or_zero]
    exact get_prep_nat tall
  · simp (disch := decide) only [get_or, get_prep_of_apart, Nat.zero_or]
    exact get_prep_nat wide

theorem sps_fields (range : run.InRange v) :
    AVD_HDR_COMMON_CHROMA_FORMAT.get (spsParamWord run) = run.chroma_format_idc.toNat ∧
      AVD_HDR_COMMON_BIT_DEPTH_L.get (spsParamWord run) = run.bit_depth_luma_minus8.toNat ∧
      AVD_HDR_COMMON_BIT_DEPTH_C.get (spsParamWord run) = run.bit_depth_chroma_minus8.toNat ∧
      H264_TRANSFORM_8X8_MODE.isSet (spsParamWord run) = run.transform_8x8_mode ∧
      AVD_HDR_COMMON_FLAG0.isSet (spsParamWord run) = run.direct_8x8_inference := by
  refine ⟨?_, ?_, ?_, ?_, ?_⟩
  · simp (disch := decide) only [spsParamWord, get_or, get_prep_of_apart, get_flag_of_apart,
      Nat.or_zero]
    exact get_prep_nat range.chroma
  · simp (disch := decide) only [spsParamWord, get_or, get_prep_of_apart, get_flag_of_apart,
      Nat.zero_or, Nat.or_zero]
    exact get_prep_nat range.depthLuma
  · simp (disch := decide) only [spsParamWord, get_or, get_prep_of_apart, get_flag_of_apart,
      Nat.zero_or, Nat.or_zero]
    exact get_prep_nat range.depthChroma
  · simp (disch := decide) only [spsParamWord, isSet_or, isSet_prep_of_apart,
      isSet_flag_of_apart, isSet_flag, Bool.false_or, Bool.or_false]
  · simp (disch := decide) only [spsParamWord, isSet_or, isSet_prep_of_apart,
      isSet_flag_of_apart, isSet_flag, Bool.false_or]

theorem flags_fields (run : FrameRun) :
    H264_FLAG_ENTROPY_CODING_MODE.isSet (flagsWord run) = run.coded.entropyCodingMode ∧
      H264_FLAG_NOT_IDR.isSet (flagsWord run) = !run.decode_params.isIdr ∧
      H264_FLAG_CI_PRED.isSet (flagsWord run) = run.constrained_intra_pred := by
  refine ⟨?_, ?_, ?_⟩
  · simp (disch := decide) only [flagsWord, isSet_or, isSet_flag_of_apart, isSet_flag,
      Bool.or_false]
  · simp (disch := decide) only [flagsWord, isSet_or, isSet_flag_of_apart, isSet_flag,
      Bool.false_or, Bool.or_false]
  · simp (disch := decide) only [flagsWord, isSet_or, isSet_flag_of_apart, isSet_flag,
      Bool.false_or]

theorem qpOffset_fields (range : run.InRange v) :
    AVD_HDR_H26X_QP_OFFSET_CB.getSigned (qpOffsetWord run) = run.chroma_qp_index_offset.toInt ∧
      AVD_HDR_H26X_QP_OFFSET_CR.getSigned (qpOffsetWord run) =
        run.second_chroma_qp_index_offset.toInt := by
  refine ⟨getSigned_of_get ?_ range.qpCb.1 range.qpCb.2,
    getSigned_of_get ?_ range.qpCr.1 range.qpCr.2⟩
  · simp (disch := decide) only [qpOffsetWord, get_or, get_prep_of_apart, Nat.or_zero]
  · simp (disch := decide) only [qpOffsetWord, get_or, get_prep_of_apart, Nat.zero_or]

theorem feat_field : AVD_HDR_FEAT_PIPE_STATE_EN.get (featWord v) =
    if !v.noPipeState then 3 else 0 := by
  cases none : v.noPipeState with
  | true =>
      rw [featWord, none]
      rfl
  | false =>
      rw [featWord, none]
      rfl

theorem luma_small (range : run.InRange v) :
    run.lumaWidth - 1 < 2 ^ 16 ∧ run.lumaHeight - 1 < 2 ^ 16 ∧ 1 ≤ run.lumaWidth ∧
      1 ≤ run.lumaHeight := by
  have wide := range.wide
  have high := range.high
  unfold FrameRun.lumaWidth FrameRun.lumaHeight
  omega

theorem reads_params (range : run.InRange v) :
    Reads readParams (paramWords v run) (run.params v) := by
  obtain ⟨wide, tall, positiveWidth, positiveHeight⟩ := luma_small range
  obtain ⟨fifo, rev3, rev4⟩ := start_fields range
  obtain ⟨intra, pipe⟩ := hdr_fields v run
  obtain ⟨height, width⟩ := size_fields (run.lumaHeight - 1) (run.lumaWidth - 1) tall wide
  obtain ⟨height8, width8⟩ :=
    size_fields ((run.lumaHeight - 1) / 2 ^ 3) ((run.lumaWidth - 1) / 2 ^ 3) (by omega) (by omega)
  obtain ⟨chroma, depthLuma, depthChroma, transform, direct⟩ := sps_fields range
  obtain ⟨entropy, notIdr, constrained⟩ := flags_fields run
  obtain ⟨qpCb, qpCr⟩ := qpOffset_fields range
  intro rest
  have said : readParams (paramWords v run ++ rest) = some (decodeParams (startWord v run)
      (hdrWord v run) (AVD_HDR_CODEC_MODE.prep AVD_CODEC_H264)
      (sizeWord run.lumaWidth run.lumaHeight) (size8Word run.lumaWidth run.lumaHeight)
      (spsParamWord run) (flagsWord run) (qpOffsetWord run) (featWord v), rest) := rfl
  have decoded : decodeParams (startWord v run) (hdrWord v run)
      (AVD_HDR_CODEC_MODE.prep AVD_CODEC_H264) (sizeWord run.lumaWidth run.lumaHeight)
      (size8Word run.lumaWidth run.lumaHeight) (spsParamWord run) (flagsWord run)
      (qpOffsetWord run) (featWord v) = run.params v := by
    rw [decodeParams, fifo, rev3, rev4, intra, pipe, sizeWord, height, width, size8Word, height8,
      width8, chroma, depthLuma, depthChroma, transform, direct, entropy, notIdr, constrained,
      qpCb, qpCr, feat_field, Nat.sub_add_cancel positiveWidth, Nat.sub_add_cancel positiveHeight]
    rfl
  rw [said, decoded]

/-! ## Buffers and references -/

theorem reads_skip (words : List Nat) : Reads (times one words.length) words words := by
  have each : List.Forall₂ (Reads (one : Reader Nat Nat)) (words.map fun w => [w]) words := by
    rw [List.forall₂_map_left_iff, List.forall₂_same]
    exact fun w _ => Reads.one w
  have all := Reads.times each
  rw [← List.flatMap_def, List.flatMap_singleton'] at all
  exact all

theorem reads_pipeState (reachable : Reachable v.lsr run.pipe_state) :
    Reads (readPipeState v) (pipeStateWords v run) (run.buffers v).pipeState := by
  unfold readPipeState pipeStateWords FrameRun.buffers
  by_cases rev3 : v.revision = .rev3
  · simp only [if_pos rev3]
    exact fun _ => rfl
  · simp only [if_neg rev3]
    cases v.noPipeState with
    | true => exact Reads.pure none
    | false => exact (reads_address reachable.small).map

theorem reads_buffers (range : run.InRange v) :
    Reads (readBuffers v) (bufferWords v run) (run.buffers v) := by
  have tile (i : Fin 5) :
      Reads (readAddress v.lsr) (pushAddress v.lsr (run.pps_tile.get i))
        (tileRead v.lsr (run.pps_tile.get i)) :=
    reads_address (range.tiles _ (Vector.getElem_mem i.isLt)).small
  have luma : Reads (readAddress v.lsr) (pushAddress v.lsr run.y) (tileRead v.lsr run.y) :=
    reads_address range.dst.small
  have chroma : Reads (readAddress v.lsr) (pushAddress v.lsr run.uv) (tileRead v.lsr run.uv) :=
    reads_address (range.dst.add _)
  have whole : Reads (readBuffers v) _ (run.buffers v) :=
    (Reads.one INST_DMA2).bind <| (Reads.one INST_DMA1).bind <|
    (reads_skip (revisionWords v)).bind <|
    (tile 0).bind <| (Reads.one INST_DMA2).bind <| (Reads.one INST_DMA2).bind <|
    (reads_pipeState range.pipeState).bind <| (tile 1).bind <|
    (tile 2).bind <| (tile 3).bind <| (Reads.one INST_DMA3).bind <|
    (reads_planes range.dst).bind <| luma.bind <| (Reads.one (strideWord v run)).bind <|
    chroma.bind <| (Reads.one (strideWord v run)).bind <| Reads.pure _
  simpa only [bufferWords, List.append_assoc, List.cons_append, List.nil_append, List.append_nil]
    using whole

theorem refHdr_fields (range : run.InRange v) {i : Fin V4L2_H264_NUM_DPB_ENTRIES}
    (valid : i ∈ run.validEntries) :
    AVD_REF_NUM.get (refHdrWord run i) = run.num_valid.toNat - 1 ∧
      AVD_REF_FLAG_LONG.isSet (refHdrWord run i) =
        ((run.decode_params.dpb.get i).flags &&& V4L2_H264_DPB_ENTRY_FLAG_LONG_TERM != 0) ∧
      AVD_REF_DELTA_POC.getSigned (refHdrWord run i) =
        run.cur_poc.toInt - (run.top_field_order_cnt.get i).toInt := by
  obtain ⟨low, high⟩ := range.poc i valid
  obtain ⟨some, few⟩ := range.numValid (List.ne_nil_of_mem valid)
  have count : (run.num_valid.toNat : Int) - 1 = (run.num_valid.toNat - 1 : Nat) := by omega
  refine ⟨?_, ?_, getSigned_of_get ?_ low high⟩
  · simp (disch := decide) only [refHdrWord, AVD_REF_FLAG_CONST, get_or, get_prep_of_apart,
      get_flag_of_apart, Nat.or_zero, count]
    exact get_prep_nat (Nat.lt_of_le_of_lt (Nat.sub_le_sub_right few 1) (by decide))
  · simp (disch := decide) only [refHdrWord, AVD_REF_FLAG_CONST, isSet_or, isSet_prep_of_apart,
      isSet_flag, Bool.false_or, Bool.or_false]
  · simp (disch := decide) only [refHdrWord, AVD_REF_FLAG_CONST, get_or, get_prep_of_apart,
      get_flag_of_apart, Nat.zero_or]

theorem refBuffer_reachable (range : run.InRange v) (i : Fin V4L2_H264_NUM_DPB_ENTRIES) :
    Reachable v.lsr (run.refBuffer i).addr := by
  cases found : run.findBuffer (run.reference_ts.get i) with
  | none =>
      rw [FrameRun.refBuffer, found]
      exact range.dst
  | some vb =>
      rw [FrameRun.refBuffer, found]
      exact range.found _ vb found

theorem reads_ref (range : run.InRange v) {i : Fin V4L2_H264_NUM_DPB_ENTRIES}
    (valid : i ∈ run.validEntries) :
    Reads (readRef v.lsr) (refWordsOf v.lsr run i) (run.refInfo v.lsr i) := by
  obtain ⟨num, long, poc⟩ := refHdr_fields range valid
  have whole : Reads (readRef v.lsr) (refWordsOf v.lsr run i) _ :=
    (Reads.one (refHdrWord run i)).bind (reads_planes (refBuffer_reachable range i)).map
  rw [num, long, poc] at whole
  exact whole

theorem reads_refs (range : run.InRange v) :
    Reads (readRefs v.lsr run.validEntries.length) (refsWords v.lsr run) (run.refs v.lsr) := by
  have tile : Reads (readAddress v.lsr) (pushAddress v.lsr run.refsTile)
      (tileRead v.lsr run.refsTile) :=
    reads_address (range.tiles _ (Vector.getElem_mem (by decide))).small
  have sps : Reads (readAddress v.lsr) (pushAddress v.lsr (spsAddr run.toSliceRun run.dst))
      (tileRead v.lsr (spsAddr run.toSliceRun run.dst)) :=
    reads_address (range.dst.add _)
  have each : List.Forall₂ (Reads (readRef v.lsr)) (run.validEntries.map (refWordsOf v.lsr run))
      (run.validEntries.map (run.refInfo v.lsr)) := by
    rw [List.forall₂_map_left_iff, List.forall₂_map_right_iff, List.forall₂_same]
    exact fun i valid => reads_ref range valid
  have entries := Reads.times each
  rw [List.length_map, ← List.flatMap_def] at entries
  have whole : Reads (readRefs v.lsr run.validEntries.length) _ (run.refs v.lsr) :=
    (Reads.one INST_DMA2).bind <| tile.bind <| sps.bind <|
    (reads_skip [INST_DMA3, INST_DMA3, INST_DMA3, INST_DMA3]).bind entries.map
  simpa only [refsWords, List.append_assoc] using whole

theorem reads_refsUnless (range : run.InRange v) :
    Reads (readRefsUnless run.decode_params.isIdr v.lsr run.validEntries.length)
      (if !run.decode_params.isIdr then refsWords v.lsr run else []) (run.header v).refs := by
  unfold readRefsUnless FrameRun.header
  cases run.decode_params.isIdr with
  | true => exact Reads.pure none
  | false => exact (reads_refs range).map

/-! ## Scaling lists -/

theorem scalingOctets_scalingWord (a b c d : UInt8) :
    scalingOctets (scalingWord a b c d) = [a.toNat, b.toNat, c.toNat, d.toNat] := by
  have upper : AVD_SCALING_I3.get (scalingWord a b c d) = a.toNat := by
    simp (disch := decide) only [scalingWord, get_or, get_prep_of_apart, Nat.or_zero]
    exact get_prep_nat a.toNat_lt
  have second : AVD_SCALING_I2.get (scalingWord a b c d) = b.toNat := by
    simp (disch := decide) only [scalingWord, get_or, get_prep_of_apart, Nat.zero_or, Nat.or_zero]
    exact get_prep_nat b.toNat_lt
  have third : AVD_SCALING_I1.get (scalingWord a b c d) = c.toNat := by
    simp (disch := decide) only [scalingWord, get_or, get_prep_of_apart, Nat.zero_or, Nat.or_zero]
    exact get_prep_nat c.toNat_lt
  have lower : AVD_SCALING_I0.get (scalingWord a b c d) = d.toNat := by
    simp (disch := decide) only [scalingWord, get_or, get_prep_of_apart, Nat.zero_or]
    exact get_prep_nat d.toNat_lt
  rw [scalingOctets, upper, second, third, lower]

theorem octets_words4x4 (list : Vector UInt8 16) :
    (words4x4 list).flatMap scalingOctets = list.toList.map UInt8.toNat := by
  have entries : list.toList = (List.finRange 16).map fun i => list[i] := by
    apply List.ext_getElem
    · simp
    · simp
  rw [entries, words4x4, words4x4With, List.flatMap_map]
  simp only [scalingOctets_scalingWord]
  rfl

/-- The word and the octet in it where the place of a raster went. -/
theorem scalingMap_place : ∀ r : Fin 64, ∃ j : Fin 16,
    (r.val / 8 / 4 * 2 + r.val % 8 / 4) * 4 + r.val / 8 % 4 = j.val ∧
      (scalingMap.get j).val + r.val % 8 % 4 = r.val := by
  decide

theorem octet_at (list : Vector UInt8 64) (start : Fin 61) {c r : Nat} (inside : r < 64)
    (small : c < 4) (place : start.val + c = r) :
    ([list[start.val].toNat, list[start.val + 1].toNat, list[start.val + 2].toNat,
      list[start.val + 3].toNat].getD c 0) = list[r].toNat := by
  subst place
  interval_cases c <;> rfl

theorem words8x8_getD (list : Vector UInt8 64) (j : Fin 16) :
    (words8x8 list).getD j.val 0 = wordAt scalingWord list (scalingMap.get j) := by
  have inside : j.val < (words8x8 list).length := by
    rw [words8x8, words8x8With, List.length_map, List.length_finRange]
    exact j.isLt
  rw [List.getD_eq_getElem _ _ inside]
  simp only [words8x8, words8x8With, List.getElem_map, List.getElem_finRange]
  rfl

theorem raster8x8_getElem (list : Vector UInt8 64) (r : Fin 64) :
    (scalingOctets ((words8x8 list).getD
      ((r.val / 8 / 4 * 2 + r.val % 8 / 4) * 4 + r.val / 8 % 4) 0)).getD (r.val % 8 % 4) 0 =
      list[r].toNat := by
  obtain ⟨j, word, start⟩ := scalingMap_place r
  rw [word, words8x8_getD, wordAt, scalingOctets_scalingWord]
  exact octet_at list (scalingMap.get j) r.isLt (Nat.mod_lt _ (by decide)) start

theorem raster8x8_words8x8 (list : Vector UInt8 64) :
    raster8x8 (words8x8 list) = list.toList.map UInt8.toNat := by
  apply List.ext_getElem
  · rw [raster8x8, List.length_map, List.length_range, List.length_map, Vector.length_toList]
  intro r inside _
  rw [raster8x8, List.length_map, List.length_range] at inside
  simp only [raster8x8, List.getElem_map, List.getElem_range, Vector.getElem_toList]
  exact raster8x8_getElem list ⟨r, inside⟩

theorem length_words4x4 (list : Vector UInt8 16) : (words4x4 list).length = 4 := by
  rw [words4x4, words4x4With, List.length_map, List.length_finRange]

theorem length_words8x8 (list : Vector UInt8 64) : (words8x8 list).length = 16 := by
  rw [words8x8, words8x8With, List.length_map, List.length_finRange]

theorem reads_words {n : Nat} {words : List Nat} (length : words.length = n) :
    Reads (times one n) words words := by
  subst length
  exact reads_skip words

theorem reads_lists4x4 (lists : List (Vector UInt8 16)) :
    Reads (times (times one 4) lists.length) (lists.flatMap words4x4) (lists.map words4x4) := by
  have each : List.Forall₂ (Reads (times (one : Reader Nat Nat) 4)) (lists.map words4x4)
      (lists.map words4x4) := by
    rw [List.forall₂_map_left_iff, List.forall₂_map_right_iff, List.forall₂_same]
    exact fun list _ => reads_words (length_words4x4 list)
  have all := Reads.times each
  rw [List.length_map, ← List.flatMap_def] at all
  exact all

theorem reads_lists8x8 (words more : List Nat) (length : words.length = 16)
    (lengthMore : more.length = 16) :
    Reads (times (times one 16) 2) (words ++ more) [words, more] := by
  have each : List.Forall₂ (Reads (times (one : Reader Nat Nat) 16)) [words, more]
      [words, more] :=
    .cons (reads_words length) (.cons (reads_words lengthMore) .nil)
  have all := Reads.times each
  rw [List.flatten_cons, List.flatten_singleton] at all
  exact all

theorem reads_scalingLists (run : FrameRun) :
    Reads readScalingLists
      (run.scaling_matrix.scaling_list_4x4.toList.flatMap words4x4 ++
        if run.transform_8x8_mode then
          words8x8 run.scaling_matrix.intra8x8 ++
            words8x8 run.scaling_matrix.inter8x8
        else
          default_8x8_intra ++ default_8x8_inter) run.scaling := by
  have lists4x4 := reads_lists4x4 run.scaling_matrix.scaling_list_4x4.toList
  rw [Vector.length_toList] at lists4x4
  have octets : (run.scaling_matrix.scaling_list_4x4.toList.map words4x4).map
      (·.flatMap scalingOctets) = run.scaling.lists4x4 := by
    rw [List.map_map]
    exact List.map_congr_left fun list _ => octets_words4x4 list
  cases transform : run.transform_8x8_mode with
  | true =>
      have whole := lists4x4.bind (f := fun lists4x4 => do
        let lists8x8 ← times (times one 16) 2
        return (⟨lists4x4.map (·.flatMap scalingOctets), lists8x8.map raster8x8⟩ : Scaling))
        (reads_lists8x8 _ _ (length_words8x8 run.scaling_matrix.intra8x8)
          (length_words8x8 run.scaling_matrix.inter8x8)).map
      rw [octets, List.map_cons, List.map_singleton, raster8x8_words8x8, raster8x8_words8x8]
        at whole
      have lists : run.scaling = ⟨run.scaling.lists4x4,
          [run.scaling_matrix.intra8x8.toList.map UInt8.toNat,
            run.scaling_matrix.inter8x8.toList.map UInt8.toNat]⟩ := by
        rw [FrameRun.scaling, transform]
        rfl
      rw [lists]
      exact whole
  | false =>
      have whole := lists4x4.bind (f := fun lists4x4 => do
        let lists8x8 ← times (times one 16) 2
        return (⟨lists4x4.map (·.flatMap scalingOctets), lists8x8.map raster8x8⟩ : Scaling))
        (reads_lists8x8 default_8x8_intra default_8x8_inter rfl rfl).map
      rw [octets, List.map_cons, List.map_singleton] at whole
      have lists : run.scaling = ⟨run.scaling.lists4x4,
          [raster8x8 default_8x8_intra, raster8x8 default_8x8_inter]⟩ := by
        rw [FrameRun.scaling, transform]
        rfl
      rw [lists]
      exact whole

theorem reads_scaling (v : StreamVariant) (run : FrameRun) :
    Reads readScaling (if run.scaling_matrix_present then scalingWords run else [0])
      (run.header v).scaling := by
  unfold FrameRun.header
  cases run.scaling_matrix_present with
  | true => exact (Reads.one H264_SCL_DIMS).bind (reads_scalingLists run).map
  | false => exact fun _ => rfl

theorem size54_eq (range : run.InRange v) :
    size54Word run.lumaWidth run.lumaHeight = sizeWord run.lumaWidth run.lumaHeight := by
  obtain ⟨wide, tall, _, _⟩ := luma_small range
  have prepared (n : Nat) (small : n < 2 ^ 16) : ((n : Int) % 2 ^ 16).toNat = n := by omega
  have upper : AVD_HDR_HEIGHT.prep (run.lumaHeight - 1 : Nat) = (run.lumaHeight - 1) <<< 16 := by
    rw [Nat.shiftLeft_eq]
    exact congrArg (· * 2 ^ 16) (prepared _ tall)
  have lower : AVD_HDR_WIDTH.prep (run.lumaWidth - 1 : Nat) = run.lumaWidth - 1 :=
    (Nat.mul_one _).trans (prepared _ wide)
  have bounded : (run.lumaHeight - 1) <<< 16 ||| (run.lumaWidth - 1) < 2 ^ 32 := by
    apply Nat.or_lt_two_pow
    · rw [Nat.shiftLeft_eq]
      omega
    · omega
  rw [size54Word, sizeWord, upper, lower, Nat.mod_eq_of_lt bounded]

/-- The header is read back whole, and the slices start where it ends. -/
theorem reads_hdr (range : run.InRange v) :
    Reads (readHdr v run.validEntries.length) (hdrWords v run) (run.header v) := by
  obtain ⟨wide, tall, positiveWidth, positiveHeight⟩ := luma_small range
  obtain ⟨height, width⟩ := size_fields (run.lumaHeight - 1) (run.lumaWidth - 1) tall wide
  have whole : Reads (readHdr v run.validEntries.length) _ _ :=
    (reads_params range).bind <| (reads_buffers range).bind <| (Reads.one 0).bind <|
    (Reads.one (size54Word run.lumaWidth run.lumaHeight)).bind <|
    (reads_refsUnless range).bind (reads_scaling v run).map
  have words : hdrWords v run = paramWords v run ++ (bufferWords v run ++ ([0] ++
      ([size54Word run.lumaWidth run.lumaHeight] ++
        ((if !run.decode_params.isIdr then refsWords v.lsr run else []) ++
          if run.scaling_matrix_present then scalingWords run else [0])))) := by
    simp only [hdrWords, List.append_assoc, List.cons_append, List.nil_append]
  have size : (AVD_HDR_WIDTH.get (size54Word run.lumaWidth run.lumaHeight) + 1,
      AVD_HDR_HEIGHT.get (size54Word run.lumaWidth run.lumaHeight) + 1) =
        (run.header v).size := by
    rw [size54_eq range, sizeWord, width, height, Nat.sub_add_cancel positiveWidth,
      Nat.sub_add_cancel positiveHeight]
    rfl
  rw [size] at whole
  rw [words]
  exact whole

/-- The fourth entry of the `dpb` is a long-term reference, and both are found nowhere. -/
def fadeFrame : FrameRun :=
  { Vp.fadeSlice with
    decode_params :=
      ⟨0, ((Vector.replicate _ ⟨0⟩).set 0 ⟨V4L2_H264_DPB_ENTRY_FLAG_VALID⟩).set 3
        ⟨V4L2_H264_DPB_ENTRY_FLAG_VALID ||| V4L2_H264_DPB_ENTRY_FLAG_LONG_TERM⟩⟩
    fifo_idx := 5
    chroma_format_idc := 1
    bit_depth_luma_minus8 := 0
    bit_depth_chroma_minus8 := 0
    direct_8x8_inference := true
    transform_8x8_mode := true
    constrained_intra_pred := false
    scaling_matrix_present := true
    chroma_qp_index_offset := -3
    second_chroma_qp_index_offset := 12
    scaling_matrix :=
      ⟨Vector.replicate _ (Vector.replicate _ 16), Vector.replicate _ (Vector.replicate _ 200)⟩
    top_field_order_cnt := (Vector.replicate _ 40).set 3 (-2)
    num_valid := 2
    cur_poc := 36
    pps_tile := #v[0x100, 0x400100, 0x800100, 0xc00100, 0x1000100]
    pipe_state := 0x2000000
    rvra := ⟨0x60000, #v[0, 0x1000, 0x20000, 0x21000]⟩
    bytesperline := 320
    height := 240 }

/-- The header format of the T8112. -/
def t8112 : StreamVariant := ⟨.rev4, true, false⟩

theorem fadeFrame_inRange : fadeFrame.InRange t8112 where
  fifo := by decide
  wide := by decide
  high := by decide
  chroma := by decide
  depthLuma := by decide
  depthChroma := by decide
  qpCb := by decide
  qpCr := by decide
  numValid := by decide
  poc := by decide
  tiles := by decide
  pipeState := by decide
  dst := by decide
  found := by
    intro ts vb found
    cases found

theorem reads_hdr_fade : Reads (readHdr t8112 fadeFrame.validEntries.length) (hdrWords t8112 fadeFrame)
    (fadeFrame.header t8112) :=
  reads_hdr fadeFrame_inRange

end Avd
