import FrigateAsahi.Avd.SliceStream
import Mathlib

/-!
# The words before the slices of a frame

What `stream_hdr` pushes for a frame, with `stream_refs` and `stream_scaling`, in the driver with the
macros of `avd-inst.h` and the fix of `transform_8x8_mode_flag`.
-/

namespace Avd

open BitField

/-! ## Fields -/

def AVD_OP_EXEC_FIFO_IDX : BitField := GENMASK 7 4
def AVD_OP_EXEC_FLAG_START_REV3 : BitField := BIT 8
def AVD_OP_EXEC_FLAG_START_REV4 : BitField := BIT 9

def AVD_OP_HDR : Nat := (GENMASK 31 20).prep 0x2db
def AVD_OP_HDR_CONST : Nat := (GENMASK 10 0).prep 0x2e0
def AVD_OP_HDR_FLAG0 : Nat := (BIT 12).prep 1
def AVD_OP_HDR_FLAG_INTRA : BitField := BIT 13
def AVD_OP_HDR_FLAG_PIPE_STATE : BitField := BIT 19

def AVD_HDR_CODEC_MODE : BitField := GENMASK 28 24
def AVD_HDR_WIDTH : BitField := GENMASK 15 0
def AVD_HDR_HEIGHT : BitField := GENMASK 31 16

def AVD_HDR_FEAT_H264 : Nat := (GENMASK 3 0).prep 10
def AVD_HDR_FEAT_PIPE_STATE_EN : BitField := GENMASK 7 4
def AVD_HDR_FEAT_H26X : Nat := (BIT 20).prep 1
def AVD_HDR_FEAT_COMMON : Nat := (BIT 21).prep 1

def AVD_HDR_COMMON_FLAG0 : BitField := BIT 0
def H264_TRANSFORM_8X8_MODE : BitField := BIT 7
def AVD_HDR_COMMON_LUMA_CBS : BitField := GENMASK 12 11
def AVD_HDR_COMMON_MIN_LUMA_CBS : BitField := GENMASK 14 13
def AVD_HDR_COMMON_BIT_DEPTH_L : BitField := GENMASK 18 15
def AVD_HDR_COMMON_BIT_DEPTH_C : BitField := GENMASK 23 19
def AVD_HDR_COMMON_CHROMA_FORMAT : BitField := GENMASK 26 24

def H264_FLAG_CI_PRED : BitField := BIT 19
def H264_FLAG_ENTROPY_CODING_MODE : BitField := BIT 20
def H264_FLAG_NOT_IDR : BitField := BIT 21

def AVD_HDR_H26X_QP_OFFSET_CR : BitField := GENMASK 4 0
def AVD_HDR_H26X_QP_OFFSET_CB : BitField := GENMASK 9 5

def AVD_SCALING_I0 : BitField := GENMASK 7 0
def AVD_SCALING_I1 : BitField := GENMASK 15 8
def AVD_SCALING_I2 : BitField := GENMASK 23 16
def AVD_SCALING_I3 : BitField := GENMASK 31 24

def AVD_REF_NUM : BitField := GENMASK 31 28
def AVD_REF_FLAG_CONST : Nat := (BIT 24).prep 1
def AVD_REF_FLAG_LONG : BitField := BIT 17
def AVD_REF_DELTA_POC : BitField := GENMASK 16 0

def H264_SCL_DIMS : Nat := 0x1000000 ||| (64 / 4) <<< 5 ||| ((16 / 4) <<< 5 - 1)

def INST_DMA1 : Nat := 0
def INST_DMA2 : Nat := 0
def INST_DMA3 : Nat := 0

/-! ## Controls -/

def V4L2_H264_DPB_ENTRY_FLAG_LONG_TERM : UInt32 := 0x04

/-- `enum avd_codec` -/
def AVD_CODEC_H264 : Nat := 1

inductive Revision
  | rev3 | rev4
  deriving DecidableEq, Repr

/-- Of a variant of the driver what the stream depends on. -/
structure StreamVariant : Type where
  revision : Revision
  lsr : Bool
  noPipeState : Bool
  deriving DecidableEq, Repr

structure ScalingMatrix : Type where
  scaling_list_4x4 : Vector (Vector UInt8 16) 6
  scaling_list_8x8 : Vector (Vector UInt8 64) 6
  deriving DecidableEq, Repr

def ScalingMatrix.intra8x8 (scaling : ScalingMatrix) : Vector UInt8 64 :=
  scaling.scaling_list_8x8.get 0

def ScalingMatrix.inter8x8 (scaling : ScalingMatrix) : Vector UInt8 64 :=
  scaling.scaling_list_8x8.get 1

structure Rvra : Type where
  size : UInt32
  offsets : Vector UInt32 4
  deriving DecidableEq, Repr

/-- The parameters of a frame beyond those of its slices. `num_valid` and `cur_poc` are those of the
builder of the reference lists. -/
structure FrameRun extends SliceRun where
  fifo_idx : Nat
  chroma_format_idc : UInt8
  bit_depth_luma_minus8 : UInt8
  bit_depth_chroma_minus8 : UInt8
  direct_8x8_inference : Bool
  transform_8x8_mode : Bool
  constrained_intra_pred : Bool
  scaling_matrix_present : Bool
  chroma_qp_index_offset : Int8
  second_chroma_qp_index_offset : Int8
  scaling_matrix : ScalingMatrix
  top_field_order_cnt : Vector Int32 V4L2_H264_NUM_DPB_ENTRIES
  num_valid : UInt8
  cur_poc : Int32
  pps_tile : Vector Nat 5
  pipe_state : Nat
  rvra : Rvra
  bytesperline : UInt32
  height : UInt32

/-! ## Addresses -/

/-- The tiles before the references are streamed. -/
def FrameRun.bufferTiles (run : FrameRun) : List Nat :=
  [run.pps_tile.get 0, run.pps_tile.get 1, run.pps_tile.get 2, run.pps_tile.get 3]

def FrameRun.refsTile (run : FrameRun) : Nat := run.pps_tile.get 4

/-- `ALIGN(height, 16)` -/
def align16 (height : UInt32) : UInt32 := (height + 15) / 16 * 16

def FrameRun.y (run : FrameRun) : Nat := run.dst.addr

def FrameRun.uv (run : FrameRun) : Nat :=
  run.dst.addr + (run.bytesperline * align16 run.height).toNat

/-- The reference planes of a picture are before its motion vectors. -/
def FrameRun.rvraAddr (run : FrameRun) (vb : CaptureBuffer) : Nat :=
  vb.addr + (vb.length - spsSize run.fmt_width run.fmt_height - run.rvra.size).toNat

/-- `push_rvra` -/
def pushRvra (lsr : Bool) (addr : Nat) (offsets : Vector UInt32 4) : List Nat :=
  offsets.toList.flatMap fun offset =>
    if lsr then
      [(addr + offset.toNat) / 2 ^ 7 % 2 ^ 32]
    else
      pushAddress lsr (addr + offset.toNat)

/-! ## Words -/

def startWord (v : StreamVariant) (run : FrameRun) : Nat :=
  AVD_OP_EXEC
    ||| AVD_OP_EXEC_FIFO_IDX.prep run.fifo_idx
    ||| AVD_OP_EXEC_FLAG_START_REV3.flag (v.revision == .rev3)
    ||| AVD_OP_EXEC_FLAG_START_REV4.flag (v.revision == .rev4)

def hdrWord (v : StreamVariant) (run : FrameRun) : Nat :=
  AVD_OP_HDR
    ||| AVD_OP_HDR_FLAG0
    ||| AVD_OP_HDR_FLAG_INTRA.flag run.decode_params.isIdr
    ||| AVD_OP_HDR_CONST
    ||| AVD_OP_HDR_FLAG_PIPE_STATE.flag (!v.noPipeState)

def FrameRun.lumaWidth (run : FrameRun) : Nat :=
  (run.controls.pic_width_in_mbs_minus1.toNat + 1) * 16

def FrameRun.lumaHeight (run : FrameRun) : Nat :=
  (run.controls.pic_height_in_map_units_minus1.toNat + 1) * 16

def sizeWord (width height : Nat) : Nat :=
  AVD_HDR_HEIGHT.prep (height - 1 : Nat) ||| AVD_HDR_WIDTH.prep (width - 1 : Nat)

def size8Word (width height : Nat) : Nat :=
  AVD_HDR_HEIGHT.prep ((height - 1) / 2 ^ 3 : Nat) |||
    AVD_HDR_WIDTH.prep ((width - 1) / 2 ^ 3 : Nat)

/-- The dimensions once more, without a macro. -/
def size54Word (width height : Nat) : Nat := ((height - 1) <<< 16 ||| (width - 1)) % 2 ^ 32

def spsParamWord (run : FrameRun) : Nat :=
  AVD_HDR_COMMON_CHROMA_FORMAT.prep run.chroma_format_idc.toNat
    ||| AVD_HDR_COMMON_BIT_DEPTH_L.prep run.bit_depth_luma_minus8.toNat
    ||| AVD_HDR_COMMON_BIT_DEPTH_C.prep run.bit_depth_chroma_minus8.toNat
    ||| AVD_HDR_COMMON_MIN_LUMA_CBS.prep 1
    ||| AVD_HDR_COMMON_LUMA_CBS.prep 1
    ||| H264_TRANSFORM_8X8_MODE.flag run.transform_8x8_mode
    ||| AVD_HDR_COMMON_FLAG0.flag run.direct_8x8_inference

def flagsWord (run : FrameRun) : Nat :=
  H264_FLAG_ENTROPY_CODING_MODE.flag run.coded.entropyCodingMode
    ||| H264_FLAG_NOT_IDR.flag (!run.decode_params.isIdr)
    ||| H264_FLAG_CI_PRED.flag run.constrained_intra_pred

def qpOffsetWord (run : FrameRun) : Nat :=
  AVD_HDR_H26X_QP_OFFSET_CB.prep run.chroma_qp_index_offset.toInt
    ||| AVD_HDR_H26X_QP_OFFSET_CR.prep run.second_chroma_qp_index_offset.toInt

def featWord (v : StreamVariant) : Nat :=
  AVD_HDR_FEAT_H26X
    ||| AVD_HDR_FEAT_COMMON
    ||| AVD_HDR_FEAT_H264
    ||| AVD_HDR_FEAT_PIPE_STATE_EN.prep (if !v.noPipeState then 3 else 0)

def refHdrWord (run : FrameRun) (i : Fin V4L2_H264_NUM_DPB_ENTRIES) : Nat :=
  AVD_REF_NUM.prep ((run.num_valid.toNat : Int) - 1)
    ||| AVD_REF_FLAG_CONST
    ||| AVD_REF_FLAG_LONG.flag
      ((run.decode_params.dpb.get i).flags &&& V4L2_H264_DPB_ENTRY_FLAG_LONG_TERM != 0)
    ||| AVD_REF_DELTA_POC.prep (run.cur_poc.toInt - (run.top_field_order_cnt.get i).toInt)

/-- The buffer of a reference, or that of the frame where it is not found. -/
def FrameRun.refBuffer (run : FrameRun) (i : Fin V4L2_H264_NUM_DPB_ENTRIES) : CaptureBuffer :=
  (run.findBuffer (run.reference_ts.get i)).getD run.dst

def refWordsOf (lsr : Bool) (run : FrameRun) (i : Fin V4L2_H264_NUM_DPB_ENTRIES) : List Nat :=
  refHdrWord run i :: pushRvra lsr (run.rvraAddr (run.refBuffer i)) run.rvra.offsets

/-- The entries that are `VALID`, from the first one on. -/
def FrameRun.validEntries (run : FrameRun) : List (Fin V4L2_H264_NUM_DPB_ENTRIES) :=
  (List.finRange V4L2_H264_NUM_DPB_ENTRIES).filter fun i => (run.decode_params.dpb.get i).isValid

/-- `stream_refs` -/
def refsWords (lsr : Bool) (run : FrameRun) : List Nat :=
  [INST_DMA2] ++ pushAddress lsr run.refsTile
    ++ pushAddress lsr (spsAddr run.toSliceRun run.dst)
    ++ [INST_DMA3, INST_DMA3, INST_DMA3, INST_DMA3]
    ++ run.validEntries.flatMap (refWordsOf lsr run)

def scalingWord (a b c d : UInt8) : Nat :=
  AVD_SCALING_I3.prep a.toNat ||| AVD_SCALING_I2.prep b.toNat ||| AVD_SCALING_I1.prep c.toNat |||
    AVD_SCALING_I0.prep d.toNat

/-- Instead of the raster order of 8x8 four subblocks. -/
def scalingMap : Vector (Fin 61) 16 :=
  #v[0, 8, 16, 24, 4, 12, 20, 28, 32, 40, 48, 56, 36, 44, 52, 60]

/-- Four octets at a time. -/
def words4x4With (word : UInt8 → UInt8 → UInt8 → UInt8 → Nat) (list : Vector UInt8 16) :
    List Nat :=
  (List.finRange 4).map fun j =>
    word list[4 * j.val] list[4 * j.val + 1] list[4 * j.val + 2] list[4 * j.val + 3]

def wordAt (word : UInt8 → UInt8 → UInt8 → UInt8 → Nat) (list : Vector UInt8 64)
    (start : Fin 61) : Nat :=
  word list[start.val] list[start.val + 1] list[start.val + 2] list[start.val + 3]

def words8x8With (word : UInt8 → UInt8 → UInt8 → UInt8 → Nat) (list : Vector UInt8 64) :
    List Nat :=
  (List.finRange 16).map fun j => wordAt word list (scalingMap.get j)

def words4x4 (list : Vector UInt8 16) : List Nat := words4x4With scalingWord list

def words8x8 (list : Vector UInt8 64) : List Nat := words8x8With scalingWord list

def default_8x8_intra : List Nat :=
  [0x060a0d10, 0x0a0b1012, 0x0d101217, 0x10121719, 0x1217191b, 0x17191b1d,
   0x191b1d1f, 0x1b1d1f21, 0x1217191b, 0x17191b1d, 0x191b1d1f, 0x1b1d1f21,
   0x1d1f2124, 0x1f212426, 0x21242628, 0x2426282a]

def default_8x8_inter : List Nat :=
  [0x090d0f11, 0x0d0d1113, 0x0f111315, 0x11131516, 0x13151618, 0x15161819,
   0x1618191b, 0x18191b1c, 0x13151618, 0x15161819, 0x1618191b, 0x18191b1c,
   0x191b1c1e, 0x1b1c1e20, 0x1c1e2021, 0x1e202123]

/-- `stream_scaling`: of the 8x8 lists two are used below 4:4:4. -/
def scalingWords (run : FrameRun) : List Nat :=
  [H264_SCL_DIMS] ++ run.scaling_matrix.scaling_list_4x4.toList.flatMap words4x4 ++
    if run.transform_8x8_mode then
      words8x8 run.scaling_matrix.intra8x8 ++
        words8x8 run.scaling_matrix.inter8x8
    else
      default_8x8_intra ++ default_8x8_inter

/-- Up to the first address. -/
def paramWords (v : StreamVariant) (run : FrameRun) : List Nat :=
  [startWord v run, hdrWord v run, AVD_HDR_CODEC_MODE.prep AVD_CODEC_H264,
   sizeWord run.lumaWidth run.lumaHeight, 0, size8Word run.lumaWidth run.lumaHeight,
   spsParamWord run, flagsWord run, qpOffsetWord run, featWord v]

def revisionWords (v : StreamVariant) : List Nat := if v.revision = .rev3 then [0] else []

def pipeStateWords (v : StreamVariant) (run : FrameRun) : List Nat :=
  if v.revision = .rev3 then [0]
  else if !v.noPipeState then pushAddress v.lsr run.pipe_state
  else []

def strideWord (v : StreamVariant) (run : FrameRun) : Nat :=
  if v.lsr then run.bytesperline.toNat / 2 ^ 4 else run.bytesperline.toNat

/-- The buffers of the frame. -/
def bufferWords (v : StreamVariant) (run : FrameRun) : List Nat :=
  [INST_DMA2, INST_DMA1] ++ revisionWords v ++ pushAddress v.lsr (run.pps_tile.get 0)
    ++ [INST_DMA2, INST_DMA2] ++ pipeStateWords v run
    ++ pushAddress v.lsr (run.pps_tile.get 1) ++ pushAddress v.lsr (run.pps_tile.get 2)
    ++ pushAddress v.lsr (run.pps_tile.get 3) ++ [INST_DMA3]
    ++ pushRvra v.lsr (run.rvraAddr run.dst) run.rvra.offsets
    ++ pushAddress v.lsr run.y ++ [strideWord v run]
    ++ pushAddress v.lsr run.uv ++ [strideWord v run]

/-- `stream_hdr` -/
def hdrWords (v : StreamVariant) (run : FrameRun) : List Nat :=
  paramWords v run ++ bufferWords v run ++ [0, size54Word run.lumaWidth run.lumaHeight]
    ++ (if !run.decode_params.isIdr then refsWords v.lsr run else [])
    ++ if run.scaling_matrix_present then scalingWords run else [0]

end Avd
