import FrigateAsahi.Avd.SliceStream
import Mathlib

/-!
# A reader of the instruction stream

The other side of the stream: a machine that takes one word after the other, tells the commands
apart by their upper bits and keeps what their fields say. It stands for what the VP is told, not for
what it does with that.
-/

namespace Avd

open BitField

/-! ## Effects of the commands -/

/-- What has been said of the slice at hand. A weight and its offset are by component, list and
index. -/
structure SliceState : Type where
  codedAddr : Nat
  codedBitOff : Nat
  codedSize : Nat
  mbX : Nat
  mbY : Nat
  qp : Int
  deblockFull : Bool
  deblockEnabled : Bool
  beta : Int
  alpha : Int
  refs : Nat → Nat → Option Nat
  implicitWeights : Bool
  explicitWeights : Bool
  lumaDenom : Nat
  chromaDenom : Nat
  weights : Nat → Nat → Nat → Option (Int × Int)
  dims : Nat × Nat
  cabacInit : Nat
  flag2 : Bool
  numL0 : Nat
  numL1 : Nat
  sliceP : Bool
  sliceI : Bool
  sliceB : Bool
  tile : Nat

namespace SliceState

variable (slice : SliceState)

def withAddr (bitOff addr : Nat) : SliceState :=
  { slice with codedBitOff := bitOff, codedAddr := addr }

def withSize (size : Nat) : SliceState := { slice with codedSize := size }

def located (x y : Nat) : SliceState := { slice with mbX := x, mbY := y }

def withQp (qp : Int) : SliceState := { slice with qp := qp }

def deblocked (full enabled : Bool) (beta alpha : Int) : SliceState :=
  { slice with deblockFull := full, deblockEnabled := enabled, beta := beta, alpha := alpha }

def withRef (y i index : Nat) : SliceState :=
  { slice with refs := fun y' i' => if y' = y ∧ i' = i then some index else slice.refs y' i' }

/-- The table of an earlier slice is no longer in force. -/
def weighted (implicit explicit : Bool) (lumaDenom chromaDenom : Nat) : SliceState :=
  { slice with
    implicitWeights := implicit
    explicitWeights := explicit
    lumaDenom := lumaDenom
    chromaDenom := chromaDenom
    weights := fun _ _ _ => none }

def withWeight (ident y i : Nat) (weight offset : Int) : SliceState :=
  { slice with
    weights := fun ident' y' i' =>
      if ident' = ident ∧ y' = y ∧ i' = i then some (weight, offset)
      else slice.weights ident' y' i' }

def withDims (x y : Nat) : SliceState := { slice with dims := (x, y) }

def typed (cabacInit : Nat) (flag2 : Bool) (numL0 numL1 : Nat) (p i b : Bool) : SliceState :=
  { slice with
    cabacInit := cabacInit
    flag2 := flag2
    numL0 := numL0
    numL1 := numL1
    sliceP := p
    sliceI := i
    sliceB := b }

def withTile (addr : Nat) : SliceState := { slice with tile := addr }

end SliceState

/-! ## The machine -/

/-- The four bits of the offset below the enable flag. -/
def deblockBeta : BitField := GENMASK 15 12

/-- The four bits of the number below `FLAG2`. -/
def refNumL0 : BitField := GENMASK 14 11

def refCabac : BitField := GENMASK 6 5

/-- What the next word is. -/
inductive Expected
  | command
  | addrLow (bitOff high : Nat)
  | size
  | offset (ident y i : Nat) (weight : Int)
  | mbDims
  | tile
  | tileHigh (low : Nat)
  deriving DecidableEq, Repr

/-- `executed` has the slices whose end has been read, and whether each was the last of its frame. -/
structure Vp : Type where
  expected : Expected
  slice : SliceState
  executed : List (SliceState × Bool)

namespace Vp

def put (vp : Vp) (expected : Expected) (slice : SliceState) : Vp :=
  { vp with expected := expected, slice := slice }

/-- The commands that begin with `0x2d`, by the four bits after that. -/
def sliceCommand (vp : Vp) (w : Nat) : Option Vp :=
  match (GENMASK 23 20).get w with
  | 0x0 =>
    let sliceB := AVD_OP_SL_REF_SLICE_B.isSet w
    some (vp.put (if sliceB then .tile else .command)
      (vp.slice.typed (refCabac.get w) (AVD_OP_SL_REF_FLAG2.isSet w) (refNumL0.get w)
        (AVD_OP_SL_REF_NUM_L1.get w) (AVD_OP_SL_REF_SLICE_P.isSet w)
        (AVD_OP_SL_REF_SLICE_I.isSet w) sliceB))
  | 0x8 =>
    some (vp.put (.addrLow (AVD_OP_CODED_DATA_BIT_OFF.get w) (AVD_OP_CODED_DATA_ADDR.get w))
      vp.slice)
  | 0x9 => some (vp.put .command (vp.slice.withQp (AVD_OP_QP_VAL.getSigned w)))
  | 0xa =>
    some (vp.put .command
      (vp.slice.deblocked (AVD_OP_DBLK_FLAG_FULL_EN.isSet w) (AVD_OP_DBLK_FLAG_EN.isSet w)
        (deblockBeta.getSigned w) (AVD_OP_DBLK_OFF0.getSigned w)))
  | 0xc =>
    some (vp.put .command
      (vp.slice.withRef (AVD_OP_REF_LIST_IDX.get w) (AVD_OP_REF_LOOP_IDX.get w)
        (AVD_OP_REF_DBP_IDX.get w)))
  | 0xd =>
    some (vp.put .command
      (vp.slice.weighted (AVD_OP_WEIGHTS_HDR_FLAG1.isSet w) (AVD_OP_WEIGHTS_HDR_FLAG0.isSet w)
        (AVD_OP_WEIGHTS_HDR_LUMA.get w) (AVD_OP_WEIGHTS_HDR_CHROMA.get w)))
  | 0xe =>
    some (vp.put
      (.offset (AVD_OP_WEIGHTS_IDENT.get w) (AVD_OP_WEIGHTS_LIST_IDX.get w)
        (AVD_OP_WEIGHTS_INDEX.get w) (AVD_OP_WEIGHTS_WEIGHT.getSigned w))
      vp.slice)
  | _ => none

def command (vp : Vp) (w : Nat) : Option Vp :=
  match (GENMASK 31 24).get w with
  | 0x2a => some (vp.put .mbDims vp.slice)
  | 0x2b =>
    some { vp with executed := vp.executed ++ [(vp.slice, AVD_OP_EXEC_FLAG_END.isSet w)] }
  | 0x2c =>
    some (vp.put .command (vp.slice.located (AVD_OP_SL_LOC_X.get w) (AVD_OP_SL_LOC_Y.get w)))
  | 0x2d => vp.sliceCommand w
  | _ => none

/-- One word. The address of a tile in one word is without its low eight bits. -/
def step (lsr : Bool) (vp : Vp) (w : Nat) : Option Vp :=
  match vp.expected with
  | .command => vp.command w
  | .addrLow bitOff high => some (vp.put .size (vp.slice.withAddr bitOff (high * 2 ^ 32 + w)))
  | .size => some (vp.put .command (vp.slice.withSize w))
  | .offset ident y i weight =>
    if (GENMASK 31 20).get w = 0x2df then
      some (vp.put .command
        (vp.slice.withWeight ident y i weight (AVD_OP_OFFSETS_OFFSET.getSigned w)))
    else
      none
  | .mbDims =>
    some (vp.put .command (vp.slice.withDims (AVD_SL_DIM_END_X.get w) (AVD_SL_DIM_END_Y.get w)))
  | .tile =>
    if lsr then
      some (vp.put .command (vp.slice.withTile (w * 2 ^ 8)))
    else
      some (vp.put (.tileHigh w) vp.slice)
  | .tileHigh low => some (vp.put .command (vp.slice.withTile (low + w * 2 ^ 32)))

def read (lsr : Bool) (vp : Vp) (words : List Nat) : Option Vp := words.foldlM (step lsr) vp

variable {lsr : Bool} {vp : Vp}

@[simp] theorem read_nil : read lsr vp [] = some vp := rfl

@[simp] theorem read_cons (w : Nat) (words : List Nat) :
    read lsr vp (w :: words) = (step lsr vp w).bind fun vp => read lsr vp words := rfl

theorem read_append (words more : List Nat) :
    read lsr vp (words ++ more) = (read lsr vp words).bind fun vp => read lsr vp more :=
  List.foldlM_append

@[simp] theorem put_expected (expected : Expected) (slice : SliceState) :
    (vp.put expected slice).expected = expected := rfl

@[simp] theorem put_slice (expected : Expected) (slice : SliceState) :
    (vp.put expected slice).slice = slice := rfl

@[simp] theorem put_executed (expected : Expected) (slice : SliceState) :
    (vp.put expected slice).executed = vp.executed := rfl

@[simp] theorem put_put (expected expected' : Expected) (slice slice' : SliceState) :
    (vp.put expected slice).put expected' slice' = vp.put expected' slice' := rfl

theorem step_command (ready : vp.expected = .command) (w : Nat) :
    step lsr vp w = vp.command w := by
  rw [step, ready]

theorem step_sliceCommand {w : Nat} (ready : vp.expected = .command)
    (opcode : (GENMASK 31 24).get w = 0x2d) : step lsr vp w = vp.sliceCommand w := by
  rw [step_command ready, command, opcode]
  rfl

theorem put_self (ready : vp.expected = .command) : vp.put .command vp.slice = vp := by
  rw [put, ← ready]

end Vp

/-- Whole commands: a reader that waits for a command waits for the next one after them, and this is
what they say of the slice. -/
def Says (lsr : Bool) (words : List Nat) (effect : SliceState → SliceState) : Prop :=
  ∀ vp : Vp, vp.expected = .command →
    vp.read lsr words = some (vp.put .command (effect vp.slice))

namespace Says

variable {lsr : Bool} {words more : List Nat} {effect after : SliceState → SliceState}

theorem nil : Says lsr [] id := by
  intro vp ready
  rw [Vp.read_nil, id, Vp.put_self ready]

theorem append (first : Says lsr words effect) (second : Says lsr more after) :
    Says lsr (words ++ more) (after ∘ effect) := by
  intro vp ready
  rw [Vp.read_append, first vp ready, Option.bind_some, second _ rfl, Vp.put_put, Vp.put_slice]
  rfl

theorem congr {effect' : SliceState → SliceState} (said : Says lsr words effect)
    (same : ∀ slice, effect' slice = effect slice) : Says lsr words effect' := by
  have equal : effect' = effect := funext same
  rw [equal]
  exact said

theorem of_step {w : Nat} (said : ∀ vp : Vp, vp.expected = .command →
    vp.step lsr w = some (vp.put .command (effect vp.slice))) : Says lsr [w] effect := by
  intro vp ready
  rw [Vp.read_cons, said vp ready]
  rfl

end Says

/-! ## Commands of one word -/

namespace Vp

variable {lsr : Bool} {vp : Vp} {run : SliceRun}

theorem step_locationWord (ready : vp.expected = .command)
    (wide : run.controls.pic_width_in_mbs_minus1.toNat < 2 ^ 12)
    (high : run.slice_params.first_mb_in_slice.toNat /
      (run.controls.pic_width_in_mbs_minus1.toNat + 1) < 2 ^ 12) :
    step lsr vp (locationWord run) = some (vp.put .command (vp.slice.located
      (run.slice_params.first_mb_in_slice.toNat %
        (run.controls.pic_width_in_mbs_minus1.toNat + 1))
      (run.slice_params.first_mb_in_slice.toNat /
        (run.controls.pic_width_in_mbs_minus1.toNat + 1)))) := by
  have opcode : (GENMASK 31 24).get (locationWord run) = 0x2c := by
    simp (disch := decide) only [locationWord, get_or, get_prep_of_apart, Nat.or_zero]
    rfl
  have x : AVD_OP_SL_LOC_X.get (locationWord run) =
      run.slice_params.first_mb_in_slice.toNat %
        (run.controls.pic_width_in_mbs_minus1.toNat + 1) := by
    simp (disch := decide) only [locationWord, AVD_OP_SL_LOC, get_or, get_prep_of_apart,
      Nat.zero_or]
    exact get_prep_nat (Nat.lt_of_lt_of_le (Nat.mod_lt _ (Nat.succ_pos _)) wide)
  have y : AVD_OP_SL_LOC_Y.get (locationWord run) =
      run.slice_params.first_mb_in_slice.toNat /
        (run.controls.pic_width_in_mbs_minus1.toNat + 1) := by
    simp (disch := decide) only [locationWord, AVD_OP_SL_LOC, get_or, get_prep_of_apart,
      Nat.zero_or, Nat.or_zero]
    exact get_prep_nat high
  rw [step_command ready, command, opcode, x, y]
  rfl

theorem step_qpWord {controls : SliceControls} (ready : vp.expected = .command)
    (low : -128 ≤ sliceQp controls) (high : sliceQp controls < 128) :
    step lsr vp (qpWord controls) =
      some (vp.put .command (vp.slice.withQp (sliceQp controls))) := by
  have opcode : (GENMASK 31 24).get (qpWord controls) = 0x2d := by
    simp (disch := decide) only [qpWord, get_or, get_prep_of_apart, Nat.or_zero]
    rfl
  have kind : (GENMASK 23 20).get (qpWord controls) = 0x9 := by
    simp (disch := decide) only [qpWord, get_or, get_prep_of_apart, Nat.or_zero]
    rfl
  have alone : AVD_OP_QP_VAL.get (qpWord controls) =
      AVD_OP_QP_VAL.get (AVD_OP_QP_VAL.prep (sliceQp controls)) := by
    simp (disch := decide) only [qpWord, AVD_OP_QP, get_or, get_prep_of_apart, Nat.zero_or]
  rw [step_sliceCommand ready opcode, sliceCommand, kind, getSigned_of_get alone low high]
  rfl

/-- A negative offset reaches into the enable flag. -/
theorem deblockEnabled_offset {beta : Int} (low : -8 ≤ beta) (high : beta < 8) :
    AVD_OP_DBLK_FLAG_EN.isSet (AVD_OP_DBLK_OFF1.prep beta) = decide (beta < 0) := by
  rw [isSet, get_prep_within (by decide) (by decide)]
  simp only [AVD_OP_DBLK_FLAG_EN, AVD_OP_DBLK_OFF1, BIT, GENMASK]
  by_cases negative : beta < 0
  · have sign : beta / 2 ^ (16 - 12) % 2 ^ 1 = 1 := by omega
    rw [sign, decide_eq_true negative]
    rfl
  · have sign : beta / 2 ^ (16 - 12) % 2 ^ 1 = 0 := by omega
    rw [sign, decide_eq_false negative]
    rfl

theorem step_deblockingWord {controls : SliceControls} (ready : vp.expected = .command)
    (betaLow : -8 ≤ controls.slice_beta_offset_div2.toInt)
    (betaHigh : controls.slice_beta_offset_div2.toInt < 8)
    (alphaLow : -8 ≤ controls.slice_alpha_c0_offset_div2.toInt)
    (alphaHigh : controls.slice_alpha_c0_offset_div2.toInt < 8) :
    step lsr vp (deblockingWord controls) = some (vp.put .command (vp.slice.deblocked
      (controls.disable_deblocking_filter_idc == 0)
      (controls.disable_deblocking_filter_idc != 1 ||
        decide (controls.slice_beta_offset_div2.toInt < 0))
      controls.slice_beta_offset_div2.toInt controls.slice_alpha_c0_offset_div2.toInt)) := by
  have opcode : (GENMASK 31 24).get (deblockingWord controls) = 0x2d := by
    simp (disch := decide) only [deblockingWord, get_or, get_prep_of_apart, get_flag_of_apart,
      Nat.or_zero]
    rfl
  have kind : (GENMASK 23 20).get (deblockingWord controls) = 0xa := by
    simp (disch := decide) only [deblockingWord, get_or, get_prep_of_apart, get_flag_of_apart,
      Nat.or_zero]
    rfl
  have full : AVD_OP_DBLK_FLAG_FULL_EN.isSet (deblockingWord controls) =
      (controls.disable_deblocking_filter_idc == 0) := by
    simp (disch := decide) only [deblockingWord, AVD_OP_DBLK, isSet_or, isSet_prep_of_apart,
      isSet_flag_of_apart, isSet_flag, Bool.false_or, Bool.or_false]
  have enabled : AVD_OP_DBLK_FLAG_EN.isSet (deblockingWord controls) =
      (controls.disable_deblocking_filter_idc != 1 ||
        decide (controls.slice_beta_offset_div2.toInt < 0)) := by
    simp (disch := decide) only [deblockingWord, AVD_OP_DBLK, isSet_or, isSet_prep_of_apart,
      isSet_flag_of_apart, isSet_flag, Bool.false_or, Bool.or_false]
    rw [deblockEnabled_offset betaLow betaHigh]
  have beta : deblockBeta.get (deblockingWord controls) =
      deblockBeta.get (deblockBeta.prep controls.slice_beta_offset_div2.toInt) := by
    simp (disch := decide) only [deblockingWord, AVD_OP_DBLK, get_or, get_prep_of_apart,
      get_flag_of_apart, Nat.zero_or, Nat.or_zero]
    rw [get_prep_within (by decide) (by decide), get_prep_within (by decide) (by decide)]
    rfl
  have alpha : AVD_OP_DBLK_OFF0.get (deblockingWord controls) =
      AVD_OP_DBLK_OFF0.get (AVD_OP_DBLK_OFF0.prep controls.slice_alpha_c0_offset_div2.toInt) := by
    simp (disch := decide) only [deblockingWord, AVD_OP_DBLK, get_or, get_prep_of_apart,
      get_flag_of_apart, Nat.zero_or]
  rw [step_sliceCommand ready opcode, sliceCommand, kind, full, enabled,
    getSigned_of_get beta betaLow betaHigh, getSigned_of_get alpha alphaLow alphaHigh]
  rfl

theorem step_endWord (ready : vp.expected = .command) :
    step lsr vp (endWord run) =
      some { vp with executed := vp.executed ++ [(vp.slice, !run.hold)] } := by
  have opcode : (GENMASK 31 24).get (endWord run) = 0x2b := by
    simp (disch := decide) only [endWord, get_or, get_flag_of_apart, Nat.or_zero]
    rfl
  have last : AVD_OP_EXEC_FLAG_END.isSet (endWord run) = !run.hold := by
    simp (disch := decide) only [endWord, AVD_OP_EXEC, isSet_or, isSet_prep_of_apart, isSet_flag,
      Bool.false_or]
  rw [step_command ready, command, opcode, last]
  rfl

/-- What a reader makes of the two flags for `cabac_init_idc`. -/
theorem refCabac_flags {idc : UInt8} (bound : idc ≤ 2) :
    refCabac.get (AVD_OP_SL_REF_FLAG_CABAC.flag (idc == 1)) |||
      refCabac.get (AVD_OP_SL_REF_FLAG1.flag (idc == 2)) = idc.toNat := by
  have cases : idc = 0 ∨ idc = 1 ∨ idc = 2 := by
    have small : idc.toNat ≤ 2 := bound
    have values : idc.toNat = 0 ∨ idc.toNat = 1 ∨ idc.toNat = 2 := by omega
    rcases values with zero | one | two
    · exact .inl (UInt8.toNat_inj.mp zero)
    · exact .inr (.inl (UInt8.toNat_inj.mp one))
    · exact .inr (.inr (UInt8.toNat_inj.mp two))
  rcases cases with rfl | rfl | rfl
  · rfl
  · rfl
  · rfl

theorem step_refTypeWord (ready : vp.expected = .command)
    (cabac : run.controls.cabac_init_idc ≤ 2)
    (short0 : run.slice_params.num_ref_idx_l0_active_minus1.toNat < 16)
    (short1 : run.slice_params.num_ref_idx_l1_active_minus1.toNat < 16) :
    step lsr vp (refTypeWord run) = some (vp.put
      (if run.slice_params.slice_type = V4L2_H264_SLICE_TYPE_B then .tile else .command)
      (vp.slice.typed run.controls.cabac_init_idc.toNat (!run.controls.direct_spatial_mv_pred)
        run.slice_params.num_ref_idx_l0_active_minus1.toNat
        run.slice_params.num_ref_idx_l1_active_minus1.toNat
        (run.slice_params.slice_type == V4L2_H264_SLICE_TYPE_P)
        (run.slice_params.slice_type == V4L2_H264_SLICE_TYPE_I)
        (run.slice_params.slice_type == V4L2_H264_SLICE_TYPE_B))) := by
  have opcode : (GENMASK 31 24).get (refTypeWord run) = 0x2d := by
    simp (disch := decide) only [refTypeWord, get_or, get_prep_of_apart, get_flag_of_apart,
      Nat.or_zero]
    rfl
  have kind : (GENMASK 23 20).get (refTypeWord run) = 0x0 := by
    simp (disch := decide) only [refTypeWord, get_or, get_prep_of_apart, get_flag_of_apart,
      Nat.or_zero]
    rfl
  have init : refCabac.get (refTypeWord run) = run.controls.cabac_init_idc.toNat := by
    simp (disch := decide) only [refTypeWord, AVD_OP_SL_REF, get_or, get_prep_of_apart,
      get_flag_of_apart, Nat.zero_or, Nat.or_zero]
    exact refCabac_flags cabac
  have flag2 : AVD_OP_SL_REF_FLAG2.isSet (refTypeWord run) =
      !run.controls.direct_spatial_mv_pred := by
    have short : AVD_OP_SL_REF_FLAG2.isSet (AVD_OP_SL_REF_NUM_L0.prep
        run.slice_params.num_ref_idx_l0_active_minus1.toNat) = false := by
      rw [isSet, get_prep_within (by decide) (by decide)]
      simp only [AVD_OP_SL_REF_FLAG2, AVD_OP_SL_REF_NUM_L0, BIT, GENMASK]
      have sign : (run.slice_params.num_ref_idx_l0_active_minus1.toNat : Int) / 2 ^ (15 - 11)
          % 2 ^ 1 = 0 := by omega
      rw [sign]
      rfl
    simp (disch := decide) only [refTypeWord, AVD_OP_SL_REF, isSet_or, isSet_prep_of_apart,
      isSet_flag_of_apart, isSet_flag, Bool.false_or, Bool.or_false, short]
  have numL0 : refNumL0.get (refTypeWord run) =
      run.slice_params.num_ref_idx_l0_active_minus1.toNat := by
    simp (disch := decide) only [refTypeWord, AVD_OP_SL_REF, get_or, get_prep_of_apart,
      get_flag_of_apart, Nat.zero_or, Nat.or_zero]
    rw [get_prep_within (by decide) (by decide)]
    simp only [refNumL0, AVD_OP_SL_REF_NUM_L0, GENMASK]
    omega
  have numL1 : AVD_OP_SL_REF_NUM_L1.get (refTypeWord run) =
      run.slice_params.num_ref_idx_l1_active_minus1.toNat := by
    simp (disch := decide) only [refTypeWord, AVD_OP_SL_REF, get_or, get_prep_of_apart,
      get_flag_of_apart, Nat.zero_or, Nat.or_zero]
    exact get_prep_nat short1
  have p : AVD_OP_SL_REF_SLICE_P.isSet (refTypeWord run) =
      (run.slice_params.slice_type == V4L2_H264_SLICE_TYPE_P) := by
    simp (disch := decide) only [refTypeWord, AVD_OP_SL_REF, isSet_or, isSet_prep_of_apart,
      isSet_flag_of_apart, isSet_flag, Bool.false_or, Bool.or_false]
  have i : AVD_OP_SL_REF_SLICE_I.isSet (refTypeWord run) =
      (run.slice_params.slice_type == V4L2_H264_SLICE_TYPE_I) := by
    simp (disch := decide) only [refTypeWord, AVD_OP_SL_REF, isSet_or, isSet_prep_of_apart,
      isSet_flag_of_apart, isSet_flag, Bool.false_or, Bool.or_false]
  have b : AVD_OP_SL_REF_SLICE_B.isSet (refTypeWord run) =
      (run.slice_params.slice_type == V4L2_H264_SLICE_TYPE_B) := by
    simp (disch := decide) only [refTypeWord, AVD_OP_SL_REF, isSet_or, isSet_prep_of_apart,
      isSet_flag_of_apart, isSet_flag, Bool.false_or, Bool.or_false]
  rw [step_sliceCommand ready opcode, sliceCommand, kind, init, flag2, numL0, numL1, p, i, b]
  simp only [beq_iff_eq]

end Vp

end Avd
