import FrigateAsahi.Avd.PredictionTables
import Mathlib

/-!
# A slice is read as it was streamed

The words of `stream_slice` say everything that the controls say of the slice, and nothing else: no
field reaches into another one, nothing is cut off, and no word is taken for part of another command.
The weights that are not pushed are those that a reader takes for the default anyway.
-/

namespace Avd

open BitField

/-! ## The whole slice -/

/-- The defaults of implicit weighting stand for the denominators only where they are in force. -/
def SliceRun.implicitWeights (run : SliceRun) : Bool :=
  run.controls.weighted_bipred_idc == 2 && !run.pred_weights_required

def SliceRun.lumaDenom (run : SliceRun) : Nat :=
  if run.implicitWeights then 5 else run.pred_weights.luma_log2_weight_denom.toNat

def SliceRun.chromaDenom (run : SliceRun) : Nat :=
  if run.implicitWeights then 5 else run.pred_weights.chroma_log2_weight_denom.toNat

/-- The active entries of a list. -/
def SliceRun.entries0 (run : SliceRun) : List Nat :=
  List.range (run.slice_params.num_ref_idx_l0_active_minus1.toNat + 1)

def SliceRun.entries1 (run : SliceRun) : List Nat :=
  List.range (run.slice_params.num_ref_idx_l1_active_minus1.toNat + 1)

def SliceRun.isB (run : SliceRun) : Prop := run.slice_params.slice_type = V4L2_H264_SLICE_TYPE_B

instance (run : SliceRun) : Decidable run.isB :=
  inferInstanceAs (Decidable (run.slice_params.slice_type = V4L2_H264_SLICE_TYPE_B))

/-- Whether the slice is predicted from other pictures. -/
def SliceRun.predicted (run : SliceRun) : Prop :=
  run.slice_params.slice_type = V4L2_H264_SLICE_TYPE_P ∨ run.isB

instance (run : SliceRun) : Decidable run.predicted := inferInstanceAs (Decidable (_ ∨ _))

def SliceRun.withList (run : SliceRun) (slice : SliceState) (factors : WeightFactors) (y : Nat)
    (is : List Nat) : SliceState :=
  slice.withFactors (2 ^ run.pred_weights.luma_log2_weight_denom.toNat)
    (2 ^ run.pred_weights.chroma_log2_weight_denom.toNat) factors y is

/-- What the weights say. -/
def SliceRun.weighted (run : SliceRun) (slice : SliceState) : SliceState :=
  let hdr := slice.weighted run.implicitWeights run.pred_weights_required run.lumaDenom
    run.chromaDenom
  if run.pred_weights_required then
    let list0 := run.withList hdr run.pred_weights.factors0 0 run.entries0
    if run.isB then
      run.withList list0 run.pred_weights.factors1 1 run.entries1
    else
      list0
  else
    hdr

/-- What the reference lists say. -/
def SliceRun.referenced (run : SliceRun) (slice : SliceState) : SliceState :=
  let list0 := slice.withRefs 0 run.slice_params.ref_pic_list0 run.entries0
  if run.isB then list0.withRefs 1 run.slice_params.ref_pic_list1 run.entries1 else list0

/-- The address as a reader gets it. -/
def tileRead (lsr : Bool) (addr : Nat) : Nat := if lsr then addr / 2 ^ 8 * 2 ^ 8 else addr

/-- The values for which the fields have room: those of progressive streams whose pictures are below
4096 macroblocks in both directions, at addresses below 2^45 where the coded slices are. -/
structure SliceRun.InRange (lsr : Bool) (run : SliceRun) : Prop where
  valid : run.RefsValid
  short0 : run.slice_params.num_ref_idx_l0_active_minus1.toNat < 16
  short1 : run.slice_params.num_ref_idx_l1_active_minus1.toNat < 16
  addr : run.sl + 2 ^ 32 ≤ 2 ^ 45
  wide : run.controls.pic_width_in_mbs_minus1.toNat < 2 ^ 12
  high : run.controls.pic_height_in_map_units_minus1.toNat < 2 ^ 12
  inside : run.slice_params.first_mb_in_slice.toNat <
    (run.controls.pic_width_in_mbs_minus1.toNat + 1) *
      (run.controls.pic_height_in_map_units_minus1.toNat + 1)
  qp : -128 ≤ sliceQp run.controls ∧ sliceQp run.controls < 128
  beta : -8 ≤ run.controls.slice_beta_offset_div2.toInt ∧
    run.controls.slice_beta_offset_div2.toInt < 8
  alpha : -8 ≤ run.controls.slice_alpha_c0_offset_div2.toInt ∧
    run.controls.slice_alpha_c0_offset_div2.toInt < 8
  cabac : run.controls.cabac_init_idc ≤ 2
  denoms : run.lumaDenom < 8 ∧ run.chromaDenom < 8
  weights0 : run.pred_weights_required = true → ∀ i ∈ run.entries0,
    run.pred_weights.factors0.Small i
  weights1 : run.pred_weights_required = true → run.isB → ∀ i ∈ run.entries1,
    run.pred_weights.factors1.Small i
  tile : ∀ addr, spsTileAddr run = some addr → addr < if lsr then 2 ^ 40 else 2 ^ 64

namespace Vp

variable {lsr : Bool} {vp : Vp} {run : SliceRun}

theorem weightsHdrWord_eq (run : SliceRun) :
    weightsHdrWord run = (AVD_OP_WEIGHTS_HDR
      ||| AVD_OP_WEIGHTS_HDR_FLAG1.flag run.implicitWeights
      ||| AVD_OP_WEIGHTS_HDR_FLAG0.flag run.pred_weights_required
      ||| AVD_OP_WEIGHTS_HDR_LUMA.prep run.lumaDenom
      ||| AVD_OP_WEIGHTS_HDR_CHROMA.prep run.chromaDenom) := by
  unfold weightsHdrWord SliceRun.lumaDenom SliceRun.chromaDenom SliceRun.implicitWeights
  cases run.controls.weighted_bipred_idc == 2 && !run.pred_weights_required with
  | true =>
      simp only [Bool.not_true, Bool.false_eq_true, if_false, if_true, prep_zero,
        Nat.or_zero, DEFAULT_WEIGHT_DENOM, Nat.or_assoc]
      rfl
  | false => simp only [Bool.not_false, if_true, Bool.false_eq_true, if_false, Nat.or_zero]

theorem step_weightsHdrWord (ready : vp.expected = .command) (range : run.InRange lsr) :
    step lsr vp (weightsHdrWord run) = some (vp.put .command (vp.slice.weighted
      run.implicitWeights run.pred_weights_required run.lumaDenom run.chromaDenom)) := by
  have opcode : (GENMASK 31 24).get (weightsHdrWord run) = 0x2d := by
    simp (disch := decide) only [weightsHdrWord_eq, get_or, get_prep_of_apart, get_flag_of_apart,
      Nat.or_zero]
    rfl
  have kind : (GENMASK 23 20).get (weightsHdrWord run) = 0xd := by
    simp (disch := decide) only [weightsHdrWord_eq, get_or, get_prep_of_apart, get_flag_of_apart,
      Nat.or_zero]
    rfl
  have implicit : AVD_OP_WEIGHTS_HDR_FLAG1.isSet (weightsHdrWord run) = run.implicitWeights := by
    simp (disch := decide) only [weightsHdrWord_eq, AVD_OP_WEIGHTS_HDR, isSet_or,
      isSet_prep_of_apart, isSet_flag_of_apart, isSet_flag, Bool.false_or, Bool.or_false]
  have explicit : AVD_OP_WEIGHTS_HDR_FLAG0.isSet (weightsHdrWord run) =
      run.pred_weights_required := by
    simp (disch := decide) only [weightsHdrWord_eq, AVD_OP_WEIGHTS_HDR, isSet_or,
      isSet_prep_of_apart, isSet_flag_of_apart, isSet_flag, Bool.false_or, Bool.or_false]
  have luma : AVD_OP_WEIGHTS_HDR_LUMA.get (weightsHdrWord run) = run.lumaDenom := by
    simp (disch := decide) only [weightsHdrWord_eq, AVD_OP_WEIGHTS_HDR, get_or,
      get_prep_of_apart, get_flag_of_apart, Nat.zero_or, Nat.or_zero]
    exact get_prep_nat range.denoms.1
  have chroma : AVD_OP_WEIGHTS_HDR_CHROMA.get (weightsHdrWord run) = run.chromaDenom := by
    simp (disch := decide) only [weightsHdrWord_eq, AVD_OP_WEIGHTS_HDR, get_or,
      get_prep_of_apart, get_flag_of_apart, Nat.zero_or]
    exact get_prep_nat range.denoms.2
  rw [step_sliceCommand ready opcode, sliceCommand, kind, implicit, explicit, luma, chroma]
  rfl

theorem entries_lt {num : UInt8} (short : num.toNat < 16) :
    ∀ i ∈ List.range (num.toNat + 1), i < 16 := by
  intro i mem
  have below := List.mem_range.mp mem
  omega

theorem says_list (lsr : Bool) (run : SliceRun) {factors : WeightFactors} {y : Nat} {is : List Nat} (number : y < 2)
    (positions : ∀ i ∈ is, i < 16) (small : ∀ i ∈ is, factors.Small i) :
    ∃ words, listWeights (2 ^ run.pred_weights.luma_log2_weight_denom.toNat)
        (2 ^ run.pred_weights.chroma_log2_weight_denom.toNat) factors y is = some words ∧
      Says lsr words fun slice => run.withList slice factors y is :=
  says_listWeights number positions small

/-- The header and, where it is required, the table. -/
theorem says_streamWeights (range : run.InRange lsr) :
    ∃ words, streamWeights run = some words ∧ Says lsr words run.weighted := by
  have hdr : Says lsr [weightsHdrWord run] fun slice => slice.weighted run.implicitWeights
      run.pred_weights_required run.lumaDenom run.chromaDenom :=
    Says.of_step fun vp ready => step_weightsHdrWord ready range
  cases required : run.pred_weights_required with
  | false =>
      refine ⟨[weightsHdrWord run], by simp [streamWeights, required], hdr.congr fun slice => ?_⟩
      rw [SliceRun.weighted, required]
      rfl
  | true =>
      obtain ⟨words0, streamed0, told0⟩ := says_list lsr run Nat.zero_lt_two
        (entries_lt range.short0) (range.weights0 required)
      by_cases b : run.isB
      · have isB : run.slice_params.slice_type = V4L2_H264_SLICE_TYPE_B := b
        obtain ⟨words1, streamed1, told1⟩ := says_list lsr run Nat.one_lt_two
          (entries_lt range.short1) (range.weights1 required b)
        refine ⟨weightsHdrWord run :: (words0 ++ words1), ?_,
          (hdr.append (told0.append told1)).congr fun slice => ?_⟩
        · simp [streamWeights, onlyB, required, isB, streamed0, streamed1]
        · simp only [SliceRun.weighted, required, if_true, if_pos b, Function.comp_apply]
          rfl
      · have notB : ¬ run.slice_params.slice_type = V4L2_H264_SLICE_TYPE_B := b
        refine ⟨weightsHdrWord run :: words0, ?_, (hdr.append told0).congr fun slice => ?_⟩
        · simp [streamWeights, onlyB, required, notB, streamed0]
        · simp only [SliceRun.weighted, required, if_true, if_neg b, Function.comp_apply]
          rfl

theorem references_lt (range : run.InRange lsr) {l : Vector UInt8 V4L2_H264_REF_LIST_LEN × Nat}
    (used : l ∈ run.slice_params.lists) {i : Nat} (active : i < l.2) {index : UInt8}
    (found : l.1[i]? = some index) : index.toNat < 16 := by
  have mem : index ∈ l.1.toList.take l.2 := by
    have there : (l.1.toList.take l.2)[i]? = some index := by
      rw [List.getElem?_take_of_lt active, ← found]
      simp
    exact List.mem_of_getElem? there
  apply hasValid_lt
  exact range.valid.has_valid index.toNat
    (List.mem_flatMap.mpr ⟨l, used, List.mem_map.mpr ⟨index, mem, rfl⟩⟩)

theorem says_list0 (range : run.InRange lsr)
    (predicted : run.slice_params.slice_type = V4L2_H264_SLICE_TYPE_P ∨
      run.slice_params.slice_type = V4L2_H264_SLICE_TYPE_B) :
    ∃ words, refWords 0 run.slice_params.ref_pic_list0 run.entries0 = some words ∧
      Says lsr words fun slice =>
        slice.withRefs 0 run.slice_params.ref_pic_list0 run.entries0 := by
  have used : (run.slice_params.ref_pic_list0,
      run.slice_params.num_ref_idx_l0_active_minus1.toNat + 1) ∈ run.slice_params.lists := by
    rcases predicted with p | b
    · simp [SliceParams.lists, p]
    · have other : ¬ V4L2_H264_SLICE_TYPE_B = V4L2_H264_SLICE_TYPE_P := by decide
      simp [SliceParams.lists, b, other]
  exact says_refWords (by decide) (entries_lt range.short0) fun i mem index found =>
    references_lt range used (List.mem_range.mp mem) found

theorem list1_used (b : run.isB) : (run.slice_params.ref_pic_list1,
    run.slice_params.num_ref_idx_l1_active_minus1.toNat + 1) ∈ run.slice_params.lists := by
  have isB : run.slice_params.slice_type = V4L2_H264_SLICE_TYPE_B := b
  have other : ¬ V4L2_H264_SLICE_TYPE_B = V4L2_H264_SLICE_TYPE_P := by decide
  simp [SliceParams.lists, isB, other]

theorem says_list1 (range : run.InRange lsr) (b : run.isB) :
    ∃ words, refWords 1 run.slice_params.ref_pic_list1 run.entries1 = some words ∧
      Says lsr words fun slice =>
        slice.withRefs 1 run.slice_params.ref_pic_list1 run.entries1 :=
  says_refWords (by decide) (entries_lt range.short1) fun _ mem _ found =>
    references_lt range (list1_used b) (List.mem_range.mp mem) found

/-- The lists and the weights. -/
theorem says_predictionWords (range : run.InRange lsr) :
    ∃ words, predictionWords run = some words ∧
      Says lsr words fun slice =>
        if run.predicted then run.weighted (run.referenced slice) else slice := by
  obtain ⟨weights, streamed, told⟩ := says_streamWeights range
  by_cases inter : run.slice_params.slice_type = V4L2_H264_SLICE_TYPE_P ∨
      run.slice_params.slice_type = V4L2_H264_SLICE_TYPE_B
  · obtain ⟨words0, streamed0, told0⟩ := says_list0 range inter
    have positive : run.predicted := inter
    by_cases b : run.isB
    · obtain ⟨words1, streamed1, told1⟩ := says_list1 range b
      have isB : run.slice_params.slice_type = V4L2_H264_SLICE_TYPE_B := b
      refine ⟨words0 ++ words1 ++ weights, ?_,
        ((told0.append told1).append told).congr fun slice => ?_⟩
      · unfold SliceRun.entries0 at streamed0
        unfold SliceRun.entries1 at streamed1
        simp [predictionWords, onlyB, isB, streamed0, streamed1, streamed]
      · rw [if_pos positive, SliceRun.referenced, if_pos b]
        rfl
    · have notB : ¬ run.slice_params.slice_type = V4L2_H264_SLICE_TYPE_B := b
      have isP := inter.resolve_right notB
      have other : ¬ V4L2_H264_SLICE_TYPE_P = V4L2_H264_SLICE_TYPE_B := by decide
      refine ⟨words0 ++ weights, ?_, (told0.append told).congr fun slice => ?_⟩
      · unfold SliceRun.entries0 at streamed0
        simp [predictionWords, onlyB, isP, other, streamed0, streamed]
      · rw [if_pos positive, SliceRun.referenced, if_neg b]
        rfl
  · have negative : ¬ run.predicted := inter
    refine ⟨[], by simp only [predictionWords, if_neg inter]; rfl, Says.nil.congr fun slice => ?_⟩
    rw [if_neg negative]
    rfl

/-- The high part of the address is in the word of the command. -/
theorem says_codedDataWords (off : UInt32) (range : run.InRange lsr) :
    Says lsr (codedDataWords run off) fun slice =>
      (slice.withAddr (codedBitOff run.coded) (run.sl + off.toNat)).withSize
        (run.coded.payloadLen - off).toNat := by
  intro vp ready
  have small := off.toNat_lt
  have below : run.sl + off.toNat < 2 ^ 45 := by
    have room := range.addr
    omega
  have fits : (run.sl + off.toNat) % 2 ^ 64 = run.sl + off.toNat :=
    Nat.mod_eq_of_lt (Nat.lt_trans below (by decide))
  have few : codedBitOff run.coded < 2 ^ 4 := by
    unfold codedBitOff
    split
    · rw [UInt32.toNat_mod]
      exact Nat.lt_trans (Nat.mod_lt _ (by decide)) (by decide)
    · decide
  have highSmall : (run.sl + off.toNat) / 2 ^ 32 < 2 ^ 13 := by omega
  rw [codedDataWords]
  simp only [fits]
  set w := AVD_OP_CODED_DATA ||| AVD_OP_CODED_DATA_BIT_OFF.prep (codedBitOff run.coded) |||
    AVD_OP_CODED_DATA_ADDR.prep ((run.sl + off.toNat) / 2 ^ 32 : Nat) with word
  have opcode : (GENMASK 31 24).get w = 0x2d := by
    simp (disch := decide) only [word, get_or, get_prep_of_apart, Nat.or_zero]
    rfl
  have kind : (GENMASK 23 20).get w = 0x8 := by
    simp (disch := decide) only [word, get_or, get_prep_of_apart, Nat.or_zero]
    rfl
  have bitOff : AVD_OP_CODED_DATA_BIT_OFF.get w = codedBitOff run.coded := by
    simp (disch := decide) only [word, AVD_OP_CODED_DATA, get_or, get_prep_of_apart,
      Nat.zero_or, Nat.or_zero]
    exact get_prep_nat few
  have high : AVD_OP_CODED_DATA_ADDR.get w = (run.sl + off.toNat) / 2 ^ 32 := by
    simp (disch := decide) only [word, AVD_OP_CODED_DATA, get_or, get_prep_of_apart,
      Nat.zero_or]
    exact get_prep_nat highSmall
  have first : step lsr vp w = some (vp.put (.addrLow (codedBitOff run.coded)
      ((run.sl + off.toNat) / 2 ^ 32)) vp.slice) := by
    rw [step_sliceCommand ready opcode, sliceCommand, kind, bitOff, high]
    rfl
  have whole : (run.sl + off.toNat) / 2 ^ 32 * 2 ^ 32 + (run.sl + off.toNat) % 2 ^ 32 =
      run.sl + off.toNat := Nat.div_add_mod' _ _
  rw [read_cons, first, Option.bind_some, read_cons, step, put_expected]
  simp only [whole, put_slice, put_put, Option.bind_some, read_cons]
  rfl

theorem says_dimsWords (range : run.InRange lsr) :
    Says lsr (dimsWords run) fun slice =>
      if run.slice_params.first_mb_in_slice = 0 then
        slice.withDims run.controls.pic_width_in_mbs_minus1.toNat
          run.controls.pic_height_in_map_units_minus1.toNat
      else
        slice := by
  by_cases first : run.slice_params.first_mb_in_slice = 0
  · have x : AVD_SL_DIM_END_X.get
        (AVD_SL_DIM_END_Y.prep run.controls.pic_height_in_map_units_minus1.toNat |||
          AVD_SL_DIM_END_X.prep run.controls.pic_width_in_mbs_minus1.toNat) =
        run.controls.pic_width_in_mbs_minus1.toNat := by
      simp (disch := decide) only [get_or, get_prep_of_apart, Nat.zero_or]
      exact get_prep_nat range.wide
    have y : AVD_SL_DIM_END_Y.get
        (AVD_SL_DIM_END_Y.prep run.controls.pic_height_in_map_units_minus1.toNat |||
          AVD_SL_DIM_END_X.prep run.controls.pic_width_in_mbs_minus1.toNat) =
        run.controls.pic_height_in_map_units_minus1.toNat := by
      simp (disch := decide) only [get_or, get_prep_of_apart, Nat.or_zero]
      exact get_prep_nat range.high
    intro vp ready
    have opcode : (GENMASK 31 24).get AVD_OP_SL_DIM_START = 0x2a := rfl
    have start : step lsr vp AVD_OP_SL_DIM_START = some (vp.put .mbDims vp.slice) := by
      rw [step_command ready, command, opcode]
      rfl
    simp only [dimsWords, if_pos first]
    rw [read_cons, start, Option.bind_some, read_cons, step, put_expected]
    simp only [x, y, put_slice, put_put, Option.bind_some]
    rfl
  · simp only [dimsWords, if_neg first]
    exact Says.nil

theorem read_pushAddress {addr : Nat} (waiting : vp.expected = .tile)
    (small : addr < if lsr then 2 ^ 40 else 2 ^ 64) :
    read lsr vp (pushAddress lsr addr) =
      some (vp.put .command (vp.slice.withTile (tileRead lsr addr))) := by
  cases lsr with
  | true =>
      have fits : addr / 2 ^ 8 % 2 ^ 32 = addr / 2 ^ 8 := by
        simp only [if_true] at small
        omega
      simp only [pushAddress, if_true, fits, read_cons, step, waiting, Option.bind_some]
      rfl
  | false =>
      have whole : addr % 2 ^ 32 + addr / 2 ^ 32 % 2 ^ 32 * 2 ^ 32 = addr := by
        simp only [Bool.false_eq_true, if_false] at small
        omega
      simp only [pushAddress, Bool.false_eq_true, if_false, read_cons, step, waiting,
        Option.bind_some, put_expected, put_slice, put_put, whole]
      rfl

theorem spsTileAddr_some (range : run.InRange lsr) (b : run.isB) :
    ∃ addr, spsTileAddr run = some addr := by
  have first : run.slice_params.ref_pic_list1[0]? = some run.slice_params.ref_pic_list1[0] :=
    Vector.getElem?_eq_getElem (by decide)
  have small := references_lt range (list1_used b) (Nat.succ_pos _) first
  have found : run.reference_ts[run.slice_params.ref_pic_list1[0].toNat]? =
      some (run.reference_ts.get ⟨run.slice_params.ref_pic_list1[0].toNat, small⟩) :=
    Vector.getElem?_eq_getElem small
  simp [spsTileAddr, first, found]

/-- A slice of type B is followed by an address. -/
theorem says_typeWords (range : run.InRange lsr) :
    ∃ tile, tileWords lsr run = some tile ∧
      Says lsr (refTypeWord run :: tile) fun slice =>
        let typed := slice.typed run.controls.cabac_init_idc.toNat
          (!run.controls.direct_spatial_mv_pred)
          run.slice_params.num_ref_idx_l0_active_minus1.toNat
          run.slice_params.num_ref_idx_l1_active_minus1.toNat
          (run.slice_params.slice_type == V4L2_H264_SLICE_TYPE_P)
          (run.slice_params.slice_type == V4L2_H264_SLICE_TYPE_I)
          (run.slice_params.slice_type == V4L2_H264_SLICE_TYPE_B)
        if run.isB then typed.withTile (tileRead lsr ((spsTileAddr run).getD 0)) else typed := by
  by_cases b : run.isB
  · have isB : run.slice_params.slice_type = V4L2_H264_SLICE_TYPE_B := b
    obtain ⟨addr, address⟩ := spsTileAddr_some range b
    refine ⟨pushAddress lsr addr, by simp [tileWords, onlyB, isB, address], ?_⟩
    intro vp ready
    rw [read_cons, step_refTypeWord ready range.cabac range.short0 range.short1, if_pos isB,
      Option.bind_some, read_pushAddress rfl (range.tile addr address)]
    simp only [if_pos b, address, Option.getD_some]
    rfl
  · have notB : ¬ run.slice_params.slice_type = V4L2_H264_SLICE_TYPE_B := b
    refine ⟨[], by simp [tileWords, onlyB, notB], ?_⟩
    apply Says.of_step
    intro vp ready
    rw [step_refTypeWord ready range.cabac range.short0 range.short1, if_neg notB, if_neg b]

end Vp

/-- What the words of a slice say of it, from the end of its header on. -/
def SliceRun.told (lsr : Bool) (run : SliceRun) (off : UInt32) (slice : SliceState) :
    SliceState where
  codedAddr := run.sl + off.toNat
  codedBitOff := codedBitOff run.coded
  codedSize := (run.coded.payloadLen - off).toNat
  mbX := run.slice_params.first_mb_in_slice.toNat %
    (run.controls.pic_width_in_mbs_minus1.toNat + 1)
  mbY := run.slice_params.first_mb_in_slice.toNat /
    (run.controls.pic_width_in_mbs_minus1.toNat + 1)
  qp := sliceQp run.controls
  deblockFull := run.controls.disable_deblocking_filter_idc == 0
  deblockEnabled := run.controls.disable_deblocking_filter_idc != 1 ||
    decide (run.controls.slice_beta_offset_div2.toInt < 0)
  beta := run.controls.slice_beta_offset_div2.toInt
  alpha := run.controls.slice_alpha_c0_offset_div2.toInt
  refs := if run.predicted then (run.referenced slice).refs else slice.refs
  implicitWeights := if run.predicted then run.implicitWeights else slice.implicitWeights
  explicitWeights := if run.predicted then run.pred_weights_required else slice.explicitWeights
  lumaDenom := if run.predicted then run.lumaDenom else slice.lumaDenom
  chromaDenom := if run.predicted then run.chromaDenom else slice.chromaDenom
  weights := if run.predicted then (run.weighted slice).weights else slice.weights
  dims :=
    if run.slice_params.first_mb_in_slice = 0 then
      (run.controls.pic_width_in_mbs_minus1.toNat,
        run.controls.pic_height_in_map_units_minus1.toNat)
    else
      slice.dims
  cabacInit := run.controls.cabac_init_idc.toNat
  flag2 := !run.controls.direct_spatial_mv_pred
  numL0 := run.slice_params.num_ref_idx_l0_active_minus1.toNat
  numL1 := run.slice_params.num_ref_idx_l1_active_minus1.toNat
  sliceP := run.slice_params.slice_type == V4L2_H264_SLICE_TYPE_P
  sliceI := run.slice_params.slice_type == V4L2_H264_SLICE_TYPE_I
  sliceB := run.slice_params.slice_type == V4L2_H264_SLICE_TYPE_B
  tile := if run.isB then tileRead lsr ((spsTileAddr run).getD 0) else slice.tile

namespace Vp

variable {lsr : Bool} {vp : Vp} {run : SliceRun}

theorem location_small (range : run.InRange lsr) :
    run.slice_params.first_mb_in_slice.toNat /
      (run.controls.pic_width_in_mbs_minus1.toNat + 1) < 2 ^ 12 := by
  have inside := range.inside
  rw [Nat.div_lt_iff_lt_mul (Nat.succ_pos _), Nat.mul_comm]
  exact Nat.lt_of_lt_of_le inside (Nat.mul_le_mul_left _ range.high)

/-- The part before the end. -/
theorem says_sliceWords {off : UInt32} (range : run.InRange lsr)
    (ended : run.coded.headerEnd = some off) :
    ∃ words, sliceWords lsr run = some (words ++ [endWord run]) ∧
      Says lsr words (run.told lsr off) := by
  obtain ⟨prediction, streamed, inter⟩ := says_predictionWords range
  obtain ⟨tile, tiled, typed⟩ := says_typeWords range
  have located : Says lsr [locationWord run] fun slice => slice.located
      (run.slice_params.first_mb_in_slice.toNat %
        (run.controls.pic_width_in_mbs_minus1.toNat + 1))
      (run.slice_params.first_mb_in_slice.toNat /
        (run.controls.pic_width_in_mbs_minus1.toNat + 1)) :=
    Says.of_step fun vp ready => step_locationWord ready range.wide (location_small range)
  have quantised : Says lsr [qpWord run.controls] fun slice =>
      slice.withQp (sliceQp run.controls) :=
    Says.of_step fun vp ready => step_qpWord ready range.qp.1 range.qp.2
  have filtered : Says lsr [deblockingWord run.controls] fun slice => slice.deblocked
      (run.controls.disable_deblocking_filter_idc == 0)
      (run.controls.disable_deblocking_filter_idc != 1 ||
        decide (run.controls.slice_beta_offset_div2.toInt < 0))
      run.controls.slice_beta_offset_div2.toInt run.controls.slice_alpha_c0_offset_div2.toInt :=
    Says.of_step fun vp ready => step_deblockingWord ready range.beta.1 range.beta.2 range.alpha.1
      range.alpha.2
  have whole := ((((says_codedDataWords off range).append
    ((located.append quantised).append filtered)).append inter).append
      (says_dimsWords range)).append typed
  refine ⟨_, ?_, whole.congr fun slice => ?_⟩
  · rw [sliceWords, ended, streamed, tiled]
    simp
  · unfold SliceRun.told SliceRun.weighted SliceRun.referenced
    by_cases inter : run.predicted <;> by_cases b : run.isB <;>
      by_cases first : run.slice_params.first_mb_in_slice = 0 <;>
      cases required : run.pred_weights_required <;>
      simp only [inter, b, first, if_true, if_false, Function.comp_apply, Bool.false_eq_true] <;>
      rfl

/-- One slice: the reader has one more of them, and waits for the next command. -/
theorem read_sliceWords {off : UInt32} (range : run.InRange lsr)
    (ended : run.coded.headerEnd = some off) :
    ∃ words, sliceWords lsr run = some words ∧
      ∀ vp : Vp, vp.expected = .command → vp.read lsr words =
        some { expected := .command
               slice := run.told lsr off vp.slice
               executed := vp.executed ++ [(run.told lsr off vp.slice, !run.hold)] } := by
  obtain ⟨words, streamed, said⟩ := says_sliceWords range ended
  refine ⟨words ++ [endWord run], streamed, fun vp ready => ?_⟩
  rw [read_append, said vp ready, Option.bind_some, read_cons, step_endWord rfl]
  rfl

end Vp

/-! ## Slices one after the other -/

/-- The weight and the offset that are in force for an entry: those of the table, or else one and
zero. -/
def SliceState.weightAt (slice : SliceState) (ident y i : Nat) : Int × Int :=
  (slice.weights ident y i).getD
    (2 ^ (if ident = 1 then slice.lumaDenom else slice.chromaDenom), 0)

/-- What a reader has been told is the slice: where its data is, where in the picture it begins, and
all parameters of its decoding. The one flag that does not come back alone is the enabling of the
deblocking filter, into which the sign of the first offset reaches. -/
structure SliceRun.ToldBy (lsr : Bool) (run : SliceRun) (off : UInt32) (slice : SliceState) :
    Prop where
  coded : slice.codedAddr = run.sl + off.toNat ∧ slice.codedBitOff = codedBitOff run.coded ∧
    slice.codedSize = (run.coded.payloadLen - off).toNat
  location : slice.mbX ≤ run.controls.pic_width_in_mbs_minus1.toNat ∧
    slice.mbY * (run.controls.pic_width_in_mbs_minus1.toNat + 1) + slice.mbX =
      run.slice_params.first_mb_in_slice.toNat
  qp : slice.qp = sliceQp run.controls
  deblocking : slice.deblockFull = (run.controls.disable_deblocking_filter_idc == 0) ∧
    slice.deblockEnabled = (run.controls.disable_deblocking_filter_idc != 1 ||
      decide (run.controls.slice_beta_offset_div2.toInt < 0)) ∧
    slice.beta = run.controls.slice_beta_offset_div2.toInt ∧
    slice.alpha = run.controls.slice_alpha_c0_offset_div2.toInt
  type : slice.sliceP = (run.slice_params.slice_type == V4L2_H264_SLICE_TYPE_P) ∧
    slice.sliceI = (run.slice_params.slice_type == V4L2_H264_SLICE_TYPE_I) ∧
    slice.sliceB = (run.slice_params.slice_type == V4L2_H264_SLICE_TYPE_B)
  numbers : slice.numL0 = run.slice_params.num_ref_idx_l0_active_minus1.toNat ∧
    slice.numL1 = run.slice_params.num_ref_idx_l1_active_minus1.toNat
  cabac : slice.cabacInit = run.controls.cabac_init_idc.toNat
  direct : slice.flag2 = !run.controls.direct_spatial_mv_pred
  refs0 : run.predicted → ∀ i ∈ run.entries0,
    slice.refs 0 i = run.slice_params.ref_pic_list0[i]?.map UInt8.toNat
  refs1 : run.isB → ∀ i ∈ run.entries1,
    slice.refs 1 i = run.slice_params.ref_pic_list1[i]?.map UInt8.toNat
  weighting : run.predicted → slice.explicitWeights = run.pred_weights_required ∧
    slice.implicitWeights = run.implicitWeights ∧ slice.lumaDenom = run.lumaDenom ∧
      slice.chromaDenom = run.chromaDenom
  weights0 : run.predicted → run.pred_weights_required = true → ∀ i ∈ run.entries0,
    ∀ ident ∈ [1, 2, 3],
      some (slice.weightAt ident 0 i) = run.pred_weights.factors0.component ident i
  weights1 : run.isB → run.pred_weights_required = true → ∀ i ∈ run.entries1,
    ∀ ident ∈ [1, 2, 3],
      some (slice.weightAt ident 1 i) = run.pred_weights.factors1.component ident i
  dims : run.slice_params.first_mb_in_slice = 0 →
    slice.dims = (run.controls.pic_width_in_mbs_minus1.toNat,
      run.controls.pic_height_in_map_units_minus1.toNat)
  tile : run.isB → ∃ addr, spsTileAddr run = some addr ∧ slice.tile = tileRead lsr addr

theorem WeightFactors.default_of_not_differs {factors : WeightFactors}
    {luma_denom chroma_denom : Int} {ident i : Nat} (known : ident ∈ [1, 2, 3])
    (same : factors.differs luma_denom chroma_denom ident i = false) :
    factors.component ident i = some (if ident = 1 then luma_denom else chroma_denom, 0) := by
  simp only [List.mem_cons, List.not_mem_nil, or_false] at known
  rcases known with rfl | rfl | rfl
  · simpa [differs] using same
  · simp only [differs, Bool.or_eq_false_iff, bne_eq_false_iff_eq] at same
    exact same.1
  · simp only [differs, Bool.or_eq_false_iff, bne_eq_false_iff_eq] at same
    exact same.2

/-- What is not in the table is the default. -/
theorem SliceState.weightAt_of_table {slice : SliceState} {factors : WeightFactors}
    (luma_denom chroma_denom : Int) {ident y i : Nat} (known : ident ∈ [1, 2, 3])
    (inside : i < V4L2_H264_REF_LIST_LEN)
    (table : slice.weights ident y i =
      if factors.differs luma_denom chroma_denom ident i = true then factors.component ident i
      else none)
    (luma : luma_denom = 2 ^ slice.lumaDenom) (chroma : chroma_denom = 2 ^ slice.chromaDenom) :
    some (slice.weightAt ident y i) = factors.component ident i := by
  rw [weightAt, table]
  cases pushed : factors.differs luma_denom chroma_denom ident i with
  | true =>
      obtain ⟨l, cb, cr, one, two, three⟩ := factors.component_inside inside
      simp only [List.mem_cons, List.not_mem_nil, or_false] at known
      rw [if_pos rfl]
      rcases known with rfl | rfl | rfl
      · rw [one, Option.getD_some]
      · rw [two, Option.getD_some]
      · rw [three, Option.getD_some]
  | false =>
      rw [WeightFactors.default_of_not_differs known pushed, if_neg Bool.false_ne_true,
        Option.getD_none, luma, chroma]
      split
      · rfl
      · rfl

namespace SliceRun

variable {lsr : Bool} {run : SliceRun} {off : UInt32} {slice : SliceState}

/-- The table of a list after the words of the slice. -/
theorem weights_told (inter : run.predicted) (required : run.pred_weights_required = true)
    (ident y i : Nat) :
    (run.told lsr off slice).weights ident y i =
      let luma_denom : Int := 2 ^ run.pred_weights.luma_log2_weight_denom.toNat
      let chroma_denom : Int := 2 ^ run.pred_weights.chroma_log2_weight_denom.toNat
      if y = 1 ∧ run.isB then
        if i ∈ run.entries1 ∧
            run.pred_weights.factors1.differs luma_denom chroma_denom ident i = true then
          run.pred_weights.factors1.component ident i
        else
          none
      else if y = 0 ∧ i ∈ run.entries0 ∧
          run.pred_weights.factors0.differs luma_denom chroma_denom ident i = true then
        run.pred_weights.factors0.component ident i
      else
        none := by
  simp only [told, if_pos inter, weighted, required, if_true, withList]
  by_cases b : run.isB
  · by_cases one : y = 1
    · simp [b, one, SliceState.withFactors, SliceState.weighted]
    · simp [b, one, SliceState.withFactors, SliceState.weighted]
  · simp [b, SliceState.withFactors, SliceState.weighted]

theorem denoms_told (inter : run.predicted) (required : run.pred_weights_required = true) :
    (run.told lsr off slice).lumaDenom = run.pred_weights.luma_log2_weight_denom.toNat ∧
      (run.told lsr off slice).chromaDenom =
        run.pred_weights.chroma_log2_weight_denom.toNat := by
  have explicit : run.implicitWeights = false := by
    rw [implicitWeights, required, Bool.not_true, Bool.and_false]
  simp [told, inter, lumaDenom, chromaDenom, explicit]

theorem toldBy_told (range : run.InRange lsr) : run.ToldBy lsr off (run.told lsr off slice) where
  coded := ⟨rfl, rfl, rfl⟩
  location := ⟨Nat.le_of_lt_succ (Nat.mod_lt _ (Nat.succ_pos _)), Nat.div_add_mod' _ _⟩
  qp := rfl
  deblocking := ⟨rfl, rfl, rfl, rfl⟩
  type := ⟨rfl, rfl, rfl⟩
  numbers := ⟨rfl, rfl⟩
  cabac := rfl
  direct := rfl
  refs0 := by
    intro inter i active
    simp only [told, if_pos inter, referenced]
    split
    · simp [SliceState.withRefs, active]
    · simp [SliceState.withRefs, active]
  refs1 := by
    intro b i active
    have inter : run.predicted := .inr b
    simp [told, inter, referenced, b, SliceState.withRefs, active]
  weighting := by
    intro inter
    simp [told, inter]
  weights0 := by
    intro inter required i active ident known
    have inside : i < V4L2_H264_REF_LIST_LEN :=
      Nat.lt_trans (Vp.entries_lt range.short0 i active) (by decide)
    refine SliceState.weightAt_of_table (2 ^ run.pred_weights.luma_log2_weight_denom.toNat)
      (2 ^ run.pred_weights.chroma_log2_weight_denom.toNat) known inside ?_
      (by rw [(denoms_told inter required).1]) (by rw [(denoms_told inter required).2])
    rw [weights_told inter required]
    simp [active]
  weights1 := by
    intro b required i active ident known
    have inter : run.predicted := .inr b
    have inside : i < V4L2_H264_REF_LIST_LEN :=
      Nat.lt_trans (Vp.entries_lt range.short1 i active) (by decide)
    refine SliceState.weightAt_of_table (2 ^ run.pred_weights.luma_log2_weight_denom.toNat)
      (2 ^ run.pred_weights.chroma_log2_weight_denom.toNat) known inside ?_
      (by rw [(denoms_told inter required).1]) (by rw [(denoms_told inter required).2])
    rw [weights_told inter required]
    simp [b, active]
  dims := by
    intro first
    simp [told, first]
  tile := by
    intro b
    obtain ⟨addr, address⟩ := Vp.spsTileAddr_some range b
    exact ⟨addr, address, by simp [told, b, address]⟩

end SliceRun

/-- The dimensions of the picture, as the parameter set has them. -/
def SliceRun.dims (run : SliceRun) : Nat × Nat :=
  (run.controls.pic_width_in_mbs_minus1.toNat, run.controls.pic_height_in_map_units_minus1.toNat)

/-- A slice of the stream and what a reader has of it. -/
structure SliceRun.Seen (lsr : Bool) (run : SliceRun) (got : SliceState × Bool) : Prop where
  told : ∃ off, run.coded.headerEnd = some off ∧ run.ToldBy lsr off got.1
  dims : got.1.dims = run.dims
  last : got.2 = !run.hold

namespace Vp

variable {lsr : Bool}

/-- Slices whose first one says the dimensions, if they have not been said before. -/
theorem read_slices {runs : List SliceRun} {size : Nat × Nat}
    (range : ∀ run ∈ runs, run.InRange lsr)
    (headers : ∀ run ∈ runs, run.coded.headerEnd.isSome = true)
    (same : ∀ run ∈ runs, run.dims = size) :
    ∃ streams, runs.mapM (sliceWords lsr) = some streams ∧ Fit streams.flatten ∧
      ∀ vp : Vp, vp.expected = .command →
        (∀ run ∈ runs.head?, run.slice_params.first_mb_in_slice = 0 ∨ vp.slice.dims = size) →
        ∃ vp' seen, vp.read lsr streams.flatten = some vp' ∧ vp'.expected = .command ∧
          vp'.executed = vp.executed ++ seen ∧
          List.Forall₂ (fun run got => run.Seen lsr got) runs seen := by
  induction runs with
  | nil => exact ⟨[], rfl, Fit.nil, fun vp ready _ => ⟨vp, [], rfl, ready, by simp, .nil⟩⟩
  | cons run runs ih =>
      obtain ⟨streams, streamed, fit, rest⟩ := ih (fun r mem => range r (List.mem_cons_of_mem run mem))
        (fun r mem => headers r (List.mem_cons_of_mem run mem))
        (fun r mem => same r (List.mem_cons_of_mem run mem))
      have inRange := range run List.mem_cons_self
      obtain ⟨off, ended⟩ := Option.isSome_iff_exists.mp (headers run List.mem_cons_self)
      obtain ⟨words, first, told⟩ := read_sliceWords inRange ended
      refine ⟨words :: streams, by simp [List.mapM_cons, first, streamed],
        (fit_sliceWords first).append fit, ?_⟩
      intro vp ready sized
      have dims : (run.told lsr off vp.slice).dims = size := by
        have size := same run List.mem_cons_self
        rcases sized run rfl with begins | said
        · simp only [SliceRun.told, if_pos begins]
          exact size
        · simp only [SliceRun.told, said]
          split
          · exact size
          · rfl
      obtain ⟨vp', seen, readRest, waiting, executed, all⟩ := rest
        { expected := .command
          slice := run.told lsr off vp.slice
          executed := vp.executed ++ [(run.told lsr off vp.slice, !run.hold)] } rfl
        (fun _ _ => .inr dims)
      refine ⟨vp', (run.told lsr off vp.slice, !run.hold) :: seen, ?_, waiting, ?_, ?_⟩
      · rw [List.flatten_cons, read_append, told vp ready, Option.bind_some, readRest]
      · rw [executed]
        simp
      · refine .cons ⟨⟨off, ended, SliceRun.toldBy_told inRange⟩, ?_, rfl⟩ all
        rw [dims, same run List.mem_cons_self]

/-- Every word of the slices of a frame fits, and the slices are read back one by one, whatever was
read before: each with all that `ToldBy` says of it, the dimensions of the picture, and whether it is
the last one. -/
theorem read_frame {first : SliceRun} {rest : List SliceRun}
    (range : ∀ run ∈ first :: rest, run.InRange lsr)
    (headers : ∀ run ∈ first :: rest, run.coded.headerEnd.isSome = true)
    (begins : first.slice_params.first_mb_in_slice = 0)
    (same : ∀ run ∈ rest, run.dims = first.dims) :
    ∃ streams, (first :: rest).mapM (sliceWords lsr) = some streams ∧
      Fit streams.flatten ∧
      ∀ vp : Vp, vp.expected = .command →
        ∃ vp' seen, vp.read lsr streams.flatten = some vp' ∧ vp'.expected = .command ∧
          vp'.executed = vp.executed ++ seen ∧
          List.Forall₂ (fun run got => run.Seen lsr got) (first :: rest) seen := by
  have size : ∀ run ∈ first :: rest, run.dims = first.dims := by
    intro run mem
    rcases List.mem_cons.mp mem with rfl | later
    · rfl
    · exact same run later
  obtain ⟨streams, streamed, fit, read⟩ := read_slices range headers size
  refine ⟨streams, streamed, fit, fun vp ready => ?_⟩
  apply read vp ready
  intro run head
  cases head
  exact .inl begins

/-- The second reference is darkened. -/
def fadeFactors : WeightFactors where
  luma_weight := (Vector.replicate _ 32).set 1 (-40)
  luma_offset := (Vector.replicate _ 0).set 1 (-3)
  chroma_weight := Vector.replicate _ (32, 32)
  chroma_offset := (Vector.replicate _ (0, 0)).set 0 (0, 7)

/-- A slice of type P with two references, in CAVLC. -/
def fadeSlice : SliceRun where
  decode_params := ⟨0, Vector.replicate _ ⟨V4L2_H264_DPB_ENTRY_FLAG_VALID⟩⟩
  slice_params :=
    { first_mb_in_slice := 0
      slice_type := V4L2_H264_SLICE_TYPE_P
      num_ref_idx_l0_active_minus1 := 1
      num_ref_idx_l1_active_minus1 := 0
      ref_pic_list0 := (Vector.replicate _ 0).set 1 3
      ref_pic_list1 := Vector.replicate _ 0 }
  hold := true
  coded := ⟨[0x41, 0x9a, 0x22, 0, 0, 3, 1, 0x9a], 8, 20, false, by decide, by decide⟩
  controls := ⟨19, 14, -3, 2, 1, -4, 0, 6, -6, false⟩
  pred_weights := ⟨5, 5, Vector.replicate _ fadeFactors⟩
  pred_weights_required := true
  reference_ts := Vector.replicate _ 0
  findBuffer := fun _ => none
  sl := 0x12300000000
  dst := ⟨0x10000000, 0x100000⟩
  fmt_width := 320
  fmt_height := 240

/-- The last slice of its frame, from the third row on. -/
def lastSlice : SliceRun :=
  { fadeSlice with
    slice_params := { fadeSlice.slice_params with first_mb_in_slice := 45 }
    hold := false }

theorem fadeSlice_inRange : fadeSlice.InRange true where
  valid := check_passes_iff.mp (by decide)
  short0 := by decide
  short1 := by decide
  addr := by decide
  wide := by decide
  high := by decide
  inside := by decide
  qp := by decide
  beta := by decide
  alpha := by decide
  cabac := by decide
  denoms := by decide
  weights0 := fun _ => by decide
  weights1 := by
    intro _ b
    exact absurd b (by decide)
  tile := by
    intro addr found
    cases found
    decide

theorem lastSlice_inRange : lastSlice.InRange true :=
  { fadeSlice_inRange with
    valid := check_passes_iff.mp (by decide)
    inside := by decide }

theorem read_frame_fade : ∃ streams,
    [fadeSlice, lastSlice].mapM (sliceWords true) = some streams ∧ Fit streams.flatten ∧
      ∀ vp : Vp, vp.expected = .command →
        ∃ vp' seen, vp.read true streams.flatten = some vp' ∧ vp'.expected = .command ∧
          vp'.executed = vp.executed ++ seen ∧
          List.Forall₂ (fun run got => run.Seen true got) [fadeSlice, lastSlice] seen := by
  apply read_frame
  · intro run mem
    simp only [List.mem_cons, List.not_mem_nil, or_false] at mem
    rcases mem with rfl | rfl
    · exact fadeSlice_inRange
    · exact lastSlice_inRange
  · decide
  · rfl
  · intro run mem
    rw [List.mem_singleton.mp mem]
    rfl

end Vp

end Avd
