import Mathlib

/-!
# Slices of H.264 frames in the decoder driver

`avd_h264_run` as it stands in the base driver with the check on references applied: the controls
that a request carries, the slot bitmaps, and of the instruction stream the reference headers and
the reference lists. A read of a C array is an `Option` here, `none` where the index lies outside.
-/

namespace Avd

/-! ## Controls -/

def V4L2_H264_NUM_DPB_ENTRIES : Nat := 16

def V4L2_H264_REF_LIST_LEN : Nat := 32

def V4L2_H264_DPB_ENTRY_FLAG_VALID : UInt32 := 0x01

def V4L2_H264_DECODE_PARAM_FLAG_IDR_PIC : UInt32 := 0x01

def V4L2_H264_SLICE_TYPE_P : UInt8 := 0

def V4L2_H264_SLICE_TYPE_B : UInt8 := 1

structure DpbEntry : Type where
  flags : UInt32
  deriving DecidableEq, Repr

def DpbEntry.isValid (entry : DpbEntry) : Bool :=
  entry.flags &&& V4L2_H264_DPB_ENTRY_FLAG_VALID != 0

structure DecodeParams : Type where
  flags : UInt32
  dpb : Vector DpbEntry V4L2_H264_NUM_DPB_ENTRIES
  deriving DecidableEq, Repr

def DecodeParams.isIdr (decode : DecodeParams) : Bool :=
  decode.flags &&& V4L2_H264_DECODE_PARAM_FLAG_IDR_PIC != 0

/-- The DPB has an entry `i` and it is `VALID`. -/
def DecodeParams.hasValid (decode : DecodeParams) (i : Nat) : Bool :=
  (decode.dpb[i]?.map DpbEntry.isValid).getD false

/-- Of a reference in the lists only its `index`. -/
structure SliceParams : Type where
  first_mb_in_slice : UInt32
  slice_type : UInt8
  num_ref_idx_l0_active_minus1 : UInt8
  num_ref_idx_l1_active_minus1 : UInt8
  ref_pic_list0 : Vector UInt8 V4L2_H264_REF_LIST_LEN
  ref_pic_list1 : Vector UInt8 V4L2_H264_REF_LIST_LEN
  deriving DecidableEq, Repr

/-- One slice request. `hold` is `V4L2_BUF_FLAG_M2M_HOLD_CAPTURE_BUF`: more slices of the frame
follow. -/
structure Run : Type where
  decode_params : DecodeParams
  slice_params : SliceParams
  hold : Bool
  deriving DecidableEq, Repr

def isNewFrame (sl : SliceParams) : Bool := sl.first_mb_in_slice == 0

/-! ## The check on references -/

/-- One list of the check, from the entries that are still to be looked at. -/
def entriesValid (dpb : Vector DpbEntry V4L2_H264_NUM_DPB_ENTRIES)
    (list : Vector UInt8 V4L2_H264_REF_LIST_LEN) : List Nat → Option Bool
  | [] => some true
  | i :: rest => do
      let idx ← list[i]?
      if V4L2_H264_NUM_DPB_ENTRIES ≤ idx.toNat then
        return false
      let entry ← dpb[idx.toNat]?
      if !entry.isValid then
        return false
      entriesValid dpb list rest

def listsValid (dpb : Vector DpbEntry V4L2_H264_NUM_DPB_ENTRIES) :
    List (Vector UInt8 V4L2_H264_REF_LIST_LEN × Nat) → Option Bool
  | [] => some true
  | (list, num) :: rest => do
      if V4L2_H264_REF_LIST_LEN < num then
        return false
      if !(← entriesValid dpb list (List.range num)) then
        return false
      listsValid dpb rest

/-- The lists that the slice type uses, each with its number of active entries. -/
def SliceParams.lists (sl : SliceParams) : List (Vector UInt8 V4L2_H264_REF_LIST_LEN × Nat) :=
  let list0 := (sl.ref_pic_list0, sl.num_ref_idx_l0_active_minus1.toNat + 1)
  let list1 := (sl.ref_pic_list1, sl.num_ref_idx_l1_active_minus1.toNat + 1)
  if sl.slice_type = V4L2_H264_SLICE_TYPE_P then
    [list0]
  else if sl.slice_type = V4L2_H264_SLICE_TYPE_B then
    [list0, list1]
  else
    []

def avdH264RefsValid (run : Run) : Option Bool :=
  listsValid run.decode_params.dpb run.slice_params.lists

/-- The DPB indices that the slice refers to. -/
def Run.references (run : Run) : List Nat :=
  run.slice_params.lists.flatMap fun (list, num) => (list.toList.take num).map UInt8.toNat

/-- No list is longer than its array, and every reference is to a `VALID` entry. -/
structure Run.RefsValid (run : Run) : Prop where
  length_le : ∀ l ∈ run.slice_params.lists, l.2 ≤ V4L2_H264_REF_LIST_LEN
  has_valid : ∀ i ∈ run.references, run.decode_params.hasValid i = true

variable {dpb : Vector DpbEntry V4L2_H264_NUM_DPB_ENTRIES}
  {list : Vector UInt8 V4L2_H264_REF_LIST_LEN}

theorem hasValid_lt {decode : DecodeParams} {i : Nat} (h : decode.hasValid i = true) :
    i < V4L2_H264_NUM_DPB_ENTRIES := by
  unfold DecodeParams.hasValid at h
  cases found : decode.dpb[i]? with
  | none => simp [found] at h
  | some entry => exact (Vector.getElem?_eq_some_iff.mp found).1

/-- One round of the check reads inside both arrays. -/
theorem entriesValid_eq (decode : DecodeParams) : ∀ is : List Nat,
    (∀ i ∈ is, i < V4L2_H264_REF_LIST_LEN) →
      entriesValid decode.dpb list is =
        some (is.all fun i => decode.hasValid ((list[i]?.map UInt8.toNat).getD 0))
  | [], _ => rfl
  | i :: is, bound => by
      have inside : i < V4L2_H264_REF_LIST_LEN := bound i List.mem_cons_self
      have rest := entriesValid_eq decode is fun j hj => bound j (List.mem_cons_of_mem i hj)
      unfold entriesValid
      rw [Vector.getElem?_eq_getElem inside, List.all_cons, Vector.getElem?_eq_getElem inside]
      by_cases big : V4L2_H264_NUM_DPB_ENTRIES ≤ (list[i]).toNat
      · have none : decode.hasValid (list[i]).toNat = false := by
          apply Bool.eq_false_iff.mpr
          intro h
          exact absurd (hasValid_lt h) (by omega)
        simp [big, none]
      · have small : (list[i]).toNat < V4L2_H264_NUM_DPB_ENTRIES := by omega
        have valid : decode.hasValid (list[i]).toNat = (decode.dpb[(list[i]).toNat]).isValid := by
          unfold DecodeParams.hasValid
          rw [Vector.getElem?_eq_getElem small]
          rfl
        cases entry : (decode.dpb[(list[i]).toNat]).isValid with
        | false => simp [big, small, entry, valid]
        | true => simp [big, small, entry, valid, rest]

/-- The active entries of a list, one by one and as a whole. -/
theorem map_range_active {num : Nat} (bound : num ≤ V4L2_H264_REF_LIST_LEN) :
    ((List.range num).map fun i => (list[i]?.map UInt8.toNat).getD 0) =
      (list.toList.take num).map UInt8.toNat := by
  apply List.ext_getElem
  · simp [bound]
  · intro i left right
    have inside : i < V4L2_H264_REF_LIST_LEN := by
      rw [List.length_map, List.length_range] at left
      omega
    simp [inside]

theorem listsValid_eq (decode : DecodeParams) :
    ∀ ls : List (Vector UInt8 V4L2_H264_REF_LIST_LEN × Nat), listsValid decode.dpb ls =
      some (ls.all fun l => decide (l.2 ≤ V4L2_H264_REF_LIST_LEN) &&
        ((l.1.toList.take l.2).map UInt8.toNat).all decode.hasValid)
  | [] => rfl
  | (list, num) :: rest => by
      have tail := listsValid_eq decode rest
      unfold listsValid
      by_cases long : V4L2_H264_REF_LIST_LEN < num
      · have refused : ¬ num ≤ V4L2_H264_REF_LIST_LEN := by omega
        simp [long, refused]
      · have short : num ≤ V4L2_H264_REF_LIST_LEN := by omega
        have entries := @entriesValid_eq list decode (List.range num) fun i hi =>
          lt_of_lt_of_le (List.mem_range.mp hi) short
        have active : ((List.range num).all fun i =>
            decode.hasValid ((list[i]?.map UInt8.toNat).getD 0)) =
              ((list.toList.take num).map UInt8.toNat).all decode.hasValid := by
          rw [← map_range_active short, List.all_map]
          rfl
        rw [active] at entries
        rw [if_neg long, entries, List.all_cons, tail]
        cases ((list.toList.take num).map UInt8.toNat).all decode.hasValid with
        | false => simp
        | true => simp [short]

/-- The check never reads outside an array, and passes exactly the slices with valid references. -/
theorem avdH264RefsValid_eq (run : Run) :
    ∃ valid, avdH264RefsValid run = some valid ∧ (valid = true ↔ run.RefsValid) := by
  refine ⟨_, listsValid_eq run.decode_params run.slice_params.lists, ?_⟩
  rw [List.all_eq_true]
  constructor
  · intro all
    constructor
    · intro l member
      have passed := all l member
      rw [Bool.and_eq_true, decide_eq_true_eq] at passed
      exact passed.1
    · intro i member
      obtain ⟨l, listed, active⟩ := List.mem_flatMap.mp member
      have passed := all l listed
      rw [Bool.and_eq_true, List.all_eq_true] at passed
      exact passed.2 i active
  · intro valid l member
    rw [Bool.and_eq_true, decide_eq_true_eq, List.all_eq_true]
    exact ⟨valid.length_le l member,
      fun i active => valid.has_valid i (List.mem_flatMap.mpr ⟨l, member, active⟩)⟩

theorem check_passes_iff {run : Run} : avdH264RefsValid run = some true ↔ run.RefsValid := by
  obtain ⟨valid, checked, valid_iff⟩ := avdH264RefsValid_eq run
  rw [checked, Option.some.injEq]
  exact valid_iff

instance (run : Run) : Decidable run.RefsValid := decidable_of_iff _ check_passes_iff

/-! ## The instruction stream -/

/-- What is pushed for references: for a DPB entry its `hdr_d0_ref_hdr` word with the addresses that
follow it, and the word of a `slc_6e8_cmd_ref_list_0` command. -/
inductive Instruction
  | refHdr (entry : Nat)
  | refList (word : UInt32)
  deriving DecidableEq, Repr

def streamRefs (decode : DecodeParams) : List Instruction :=
  ((List.range V4L2_H264_NUM_DPB_ENTRIES).filter decode.hasValid).map .refHdr

def streamHdr (run : Run) : List Instruction :=
  if !run.decode_params.isIdr then
    streamRefs run.decode_params
  else
    []

/-- The low four bits are the DPB index. -/
def refListWord (y : UInt32) (i : Nat) (index : UInt8) : UInt32 :=
  (0x2dc00000 : UInt32) ||| (y <<< 8) ||| ((UInt32.ofNat i &&& 0xf) <<< 4) ||| (index.toUInt32 &&& 0xf)

def streamList (y : UInt32) (list : Vector UInt8 V4L2_H264_REF_LIST_LEN) (num : Nat) :
    Option (List Instruction) :=
  (List.range num).mapM fun i => do
    let index ← list[i]?
    return .refList (refListWord y i index)

def streamSlice (run : Run) : Option (List Instruction) := do
  let sl := run.slice_params
  let pushed ←
    if sl.slice_type = V4L2_H264_SLICE_TYPE_P ∨ sl.slice_type = V4L2_H264_SLICE_TYPE_B then do
      let list0 ← streamList 0 sl.ref_pic_list0 (sl.num_ref_idx_l0_active_minus1.toNat + 1)
      let list1 ←
        if sl.slice_type = V4L2_H264_SLICE_TYPE_B then
          streamList 1 sl.ref_pic_list1 (sl.num_ref_idx_l1_active_minus1.toNat + 1)
        else
          pure []
      pure (list0 ++ list1)
    else
      pure []
  -- the motion vectors of the first picture of list 1
  if sl.slice_type = V4L2_H264_SLICE_TYPE_B then
    let first ← sl.ref_pic_list1[0]?
    let _ ← run.decode_params.dpb[first.toNat]?
  return pushed

/-- The DPB entry that a header is for. -/
def Instruction.header : Instruction → Option Nat
  | .refHdr entry => some entry
  | .refList _ => none

/-- The DPB index that a reference-list command carries. -/
def Instruction.reference : Instruction → Option Nat
  | .refHdr _ => none
  | .refList word => some (word &&& 0xf).toNat

theorem low_bits (x : UInt32) : (x &&& 0xf).toNat = x.toNat % 16 := by
  rw [UInt32.toNat_and]
  exact Nat.and_two_pow_sub_one_eq_mod x.toNat 4

theorem refListWord_index (y : UInt32) (i : Nat) {index : UInt8}
    (small : index.toNat < V4L2_H264_NUM_DPB_ENTRIES) :
    (refListWord y i index &&& 0xf).toNat = index.toNat := by
  have number : (y <<< 8).toNat % 2 ^ 4 = 0 := by
    rw [UInt32.toNat_shiftLeft, Nat.shiftLeft_eq]
    simp only [UInt32.toNat_ofNat, Nat.reducePow, Nat.reduceMod]
    omega
  have position : ((UInt32.ofNat i &&& 0xf) <<< 4).toNat % 2 ^ 4 = 0 := by
    rw [UInt32.toNat_shiftLeft, Nat.shiftLeft_eq]
    simp only [UInt32.toNat_ofNat, Nat.reducePow, Nat.reduceMod]
    omega
  have last : (index.toUInt32 &&& 0xf).toNat % 2 ^ 4 = index.toNat := by
    have bound : index.toNat < 16 := small
    rw [low_bits, UInt8.toNat_toUInt32]
    omega
  unfold refListWord
  rw [low_bits, show 16 = 2 ^ 4 from rfl]
  simp only [UInt32.toNat_or, Nat.or_mod_two_pow, number, position, last]
  simp

/-- What is pushed carries these indices and is no header. -/
structure Pushes (pushed : List Instruction) (indices : List Nat) : Prop where
  references : pushed.filterMap Instruction.reference = indices
  headers : pushed.filterMap Instruction.header = []

theorem Pushes.nil : Pushes [] [] := ⟨rfl, rfl⟩

theorem Pushes.append {p q : List Instruction} {is js : List Nat} (left : Pushes p is)
    (right : Pushes q js) : Pushes (p ++ q) (is ++ js) := by
  constructor
  · rw [List.filterMap_append, left.references, right.references]
  · rw [List.filterMap_append, left.headers, right.headers]
    rfl

/-- Short enough a list of indices inside the DPB is pushed as it is. -/
theorem streamList_eq (y : UInt32) {num : Nat} (short : num ≤ V4L2_H264_REF_LIST_LEN)
    (small : ∀ i ∈ (list.toList.take num).map UInt8.toNat, i < V4L2_H264_NUM_DPB_ENTRIES) :
    ∃ pushed, streamList y list num = some pushed ∧
      Pushes pushed ((list.toList.take num).map UInt8.toNat) := by
  rw [← map_range_active short] at small ⊢
  have bound : ∀ i ∈ List.range num, i < V4L2_H264_REF_LIST_LEN := fun i hi =>
    lt_of_lt_of_le (List.mem_range.mp hi) short
  unfold streamList
  generalize List.range num = is at small bound ⊢
  induction is with
  | nil => exact ⟨[], rfl, Pushes.nil⟩
  | cons i is ih =>
      obtain ⟨pushed, streamed, pushes⟩ := ih
        (fun j hj => small j (List.mem_cons_of_mem _ hj))
        fun j hj => bound j (List.mem_cons_of_mem _ hj)
      have inside : i < V4L2_H264_REF_LIST_LEN := bound i List.mem_cons_self
      have index : (list[i]?.map UInt8.toNat).getD 0 = (list[i]).toNat := by
        rw [Vector.getElem?_eq_getElem inside]
        rfl
      have fits : (list[i]).toNat < V4L2_H264_NUM_DPB_ENTRIES := by
        rw [← index]
        exact small _ List.mem_cons_self
      refine ⟨.refList (refListWord y i list[i]) :: pushed, ?_, ?_⟩
      · simp only [List.mapM_cons, streamed]
        rw [Vector.getElem?_eq_getElem inside]
        rfl
      · rw [List.map_cons, index]
        have front : Pushes [.refList (refListWord y i list[i])] [(list[i]).toNat] := by
          constructor
          · simp [Instruction.reference, refListWord_index y i fits]
          · rfl
        exact front.append pushes

/-- A slice whose references are valid is pushed without a read outside an array. -/
theorem streamSlice_eq {run : Run} (valid : run.RefsValid) :
    ∃ pushed, streamSlice run = some pushed ∧ Pushes pushed run.references := by
  have small : ∀ i ∈ run.references, i < V4L2_H264_NUM_DPB_ENTRIES :=
    fun i hi => hasValid_lt (valid.has_valid i hi)
  have short := valid.length_le
  unfold Run.references SliceParams.lists at small
  unfold SliceParams.lists at short
  unfold streamSlice Run.references SliceParams.lists
  by_cases p : run.slice_params.slice_type = V4L2_H264_SLICE_TYPE_P
  · have notB : ¬ run.slice_params.slice_type = V4L2_H264_SLICE_TYPE_B := by
      rw [p]
      decide
    rw [if_pos p] at small short ⊢
    simp only [List.flatMap_cons, List.flatMap_nil, List.append_nil] at small ⊢
    obtain ⟨pushed, streamed, pushes⟩ := streamList_eq 0 (short _ List.mem_cons_self) small
    exact ⟨pushed, by simp [p, streamed, V4L2_H264_SLICE_TYPE_P, V4L2_H264_SLICE_TYPE_B], pushes⟩
  by_cases b : run.slice_params.slice_type = V4L2_H264_SLICE_TYPE_B
  · rw [if_neg p, if_pos b] at small short ⊢
    simp only [List.flatMap_cons, List.flatMap_nil, List.append_nil, List.mem_append] at small ⊢
    obtain ⟨pushed0, streamed0, pushes0⟩ :=
      streamList_eq 0 (short _ List.mem_cons_self) fun i hi => small i (.inl hi)
    obtain ⟨pushed1, streamed1, pushes1⟩ :=
      streamList_eq 1 (short _ (List.mem_cons_of_mem _ List.mem_cons_self)) fun i hi =>
        small i (.inr hi)
    -- list 1 has at least one active entry
    have first : (run.slice_params.ref_pic_list1[0]).toNat < V4L2_H264_NUM_DPB_ENTRIES := by
      apply small
      refine .inr (List.mem_map.mpr ⟨_, ?_, rfl⟩)
      have long : 0 < run.slice_params.ref_pic_list1.toList.length := by
        rw [Vector.length_toList]
        decide
      exact List.mem_take_iff_getElem.mpr ⟨0, by omega, by simp⟩
    have none : ¬ V4L2_H264_SLICE_TYPE_B = V4L2_H264_SLICE_TYPE_P := by decide
    have read : run.slice_params.ref_pic_list1[0]? = some run.slice_params.ref_pic_list1[0] :=
      Vector.getElem?_eq_getElem (by decide)
    refine ⟨pushed0 ++ pushed1, ?_, pushes0.append pushes1⟩
    simp [b, none, streamed0, streamed1, read, first]
  · rw [if_neg p, if_neg b]
    exact ⟨[], by simp [p, b], Pushes.nil⟩

/-! ## Slots -/

inductive Codec
  | HEVC | H264 | VP9 | AV1
  deriving DecidableEq, Repr

/-- The codecs with a smaller number. -/
def Codec.before : Codec → List Codec
  | HEVC => []
  | H264 => [HEVC]
  | VP9 => [HEVC, H264]
  | AV1 => [HEVC, H264, VP9]

/-- Every variant of the driver can decode one H.264 frame. -/
structure Variant : Type where
  vp_slots : Codec → Nat
  fifo_slots : Nat
  vp_slots_pos : 0 < vp_slots .H264
  fifo_slots_pos : 0 < fifo_slots

def avd_t8103_variant : Variant where
  vp_slots
    | .HEVC => 2
    | .H264 => 1
    | .VP9 => 1
    | .AV1 => 0
  fifo_slots := 7
  vp_slots_pos := by decide
  fifo_slots_pos := by decide

/-- The bitmaps `vp_slots` and `inst_fifo_slots`, as the sets of their bits. -/
structure Dev : Type where
  vp_slots : Finset Nat
  inst_fifo_slots : Finset Nat
  deriving DecidableEq

/-- `none` stands for `VP_SLOT_NONE` and `INST_FIFO_SLOT_NONE`. -/
structure Ctx : Type where
  vp_slot : Option Nat
  fifo_idx : Option Nat
  deriving DecidableEq, Repr

/-- `kzalloc` in `avd_open`: both fields are zero, not `NONE`. -/
def avdOpen : Ctx := ⟨some 0, some 0⟩

inductive Errno
  | ENOMEM | EINVAL
  deriving DecidableEq, Repr

/-- `size` if every bit from `offset` on is set. -/
def findNextZeroBit (bits : Finset Nat) (size offset : Nat) : Nat :=
  ((List.range' offset (size - offset)).find? fun i => decide (i ∉ bits)).getD size

def clearBit (bits : Finset Nat) : Option Nat → Finset Nat
  | some i => bits.erase i
  | none => bits

def allocSlots (v : Variant) (avd : Dev) (ctx : Ctx) (codec : Codec) :
    Except Errno Unit × Dev × Ctx :=
  let offset := (codec.before.map v.vp_slots).sum
  let free := findNextZeroBit avd.vp_slots (offset + v.vp_slots codec) offset
  if offset + v.vp_slots codec ≤ free then
    (.error .ENOMEM, avd, ctx)
  else
    let set := { avd with vp_slots := insert free avd.vp_slots }
    let fifo := findNextZeroBit set.inst_fifo_slots v.fifo_slots 0
    let ctx := { ctx with vp_slot := some free, fifo_idx := some fifo }
    if v.fifo_slots ≤ fifo then
      (.error .ENOMEM, { set with vp_slots := set.vp_slots.erase free }, ctx)
    else
      (.ok (), { set with inst_fifo_slots := insert fifo set.inst_fifo_slots }, ctx)

theorem findNextZeroBit_not_mem {bits : Finset Nat} {size offset : Nat}
    (found : findNextZeroBit bits size offset < size) :
    findNextZeroBit bits size offset ∉ bits := by
  unfold findNextZeroBit at found ⊢
  cases searched : (List.range' offset (size - offset)).find? fun i => decide (i ∉ bits) with
  | none =>
      rw [searched] at found
      exact absurd found (lt_irrefl size)
  | some i =>
      have clear := List.find?_some searched
      exact of_decide_eq_true clear

theorem findNextZeroBit_lt_iff {bits : Finset Nat} {size offset : Nat} :
    findNextZeroBit bits size offset < size ↔ ∃ i, offset ≤ i ∧ i < size ∧ i ∉ bits := by
  unfold findNextZeroBit
  cases searched : (List.range' offset (size - offset)).find? fun i => decide (i ∉ bits) with
  | none =>
      constructor
      · intro found
        exact absurd found (lt_irrefl size)
      · rintro ⟨i, low, high, clear⟩
        have passed := List.find?_eq_none.mp searched i (by rw [List.mem_range'_1]; omega)
        exact absurd (decide_eq_true clear) passed
  | some i =>
      have listed := List.mem_of_find?_eq_some searched
      have clear := List.find?_some searched
      rw [decide_eq_true_eq] at clear
      rw [List.mem_range'_1] at listed
      constructor
      · intro _
        exact ⟨i, listed.1, by omega, clear⟩
      · intro _
        rw [Option.getD_some]
        omega

/-- A VP slot of the codec is free. -/
def VpSlotFree (v : Variant) (avd : Dev) (codec : Codec) : Prop :=
  ∃ i, (codec.before.map v.vp_slots).sum ≤ i ∧
    i < (codec.before.map v.vp_slots).sum + v.vp_slots codec ∧ i ∉ avd.vp_slots

instance (v : Variant) (avd : Dev) (codec : Codec) : Decidable (VpSlotFree v avd codec) :=
  decidable_of_iff _ findNextZeroBit_lt_iff

/-- A slot of the codec and an instruction FIFO are free. -/
structure SlotsFree (v : Variant) (avd : Dev) (codec : Codec) : Prop where
  vp : VpSlotFree v avd codec
  fifo : ∃ j < v.fifo_slots, j ∉ avd.inst_fifo_slots

/-- Where a VP slot is free and no FIFO is, the context is left with the number of a slot that it was
not given. -/
theorem allocSlots_cases (v : Variant) (avd : Dev) (ctx : Ctx) (codec : Codec) :
    (¬ SlotsFree v avd codec ∧ ∃ ctx', (¬ VpSlotFree v avd codec → ctx' = ctx) ∧
      allocSlots v avd ctx codec = (.error .ENOMEM, avd, ctx')) ∨
    (SlotsFree v avd codec ∧ ∃ i j, i ∉ avd.vp_slots ∧ j ∉ avd.inst_fifo_slots ∧
      allocSlots v avd ctx codec =
        (.ok (), ⟨insert i avd.vp_slots, insert j avd.inst_fifo_slots⟩, ⟨some i, some j⟩)) := by
  unfold allocSlots
  dsimp only
  split
  · rename_i full
    refine .inl ⟨fun free => ?_, ctx, fun _ => rfl, rfl⟩
    have found := findNextZeroBit_lt_iff.mpr free.vp
    omega
  · rename_i vp
    have vpLt := Nat.lt_of_not_ge vp
    have vpClear := findNextZeroBit_not_mem vpLt
    split
    · rename_i full
      refine .inl ⟨fun free => ?_, _, fun none => absurd (findNextZeroBit_lt_iff.mp vpLt) none,
        by rw [Finset.erase_insert vpClear]⟩
      obtain ⟨j, below, clear⟩ := free.fifo
      have found := findNextZeroBit_lt_iff.mpr ⟨j, Nat.zero_le j, below, clear⟩
      omega
    · rename_i fifo
      have fifoLt := Nat.lt_of_not_ge fifo
      obtain ⟨j, _, below, clear⟩ := findNextZeroBit_lt_iff.mp fifoLt
      exact .inr ⟨⟨findNextZeroBit_lt_iff.mp vpLt, j, below, clear⟩, _, _, vpClear,
        findNextZeroBit_not_mem fifoLt, rfl⟩

def freeVpSlot (avd : Dev) (ctx : Ctx) : Dev × Ctx :=
  ({ avd with vp_slots := clearBit avd.vp_slots ctx.vp_slot }, { ctx with vp_slot := none })

def freeInstSlot (avd : Dev) (ctx : Ctx) : Dev × Ctx :=
  ({ avd with inst_fifo_slots := clearBit avd.inst_fifo_slots ctx.fifo_idx },
    { ctx with fifo_idx := none })

/-! ## One slice -/

/-- How a slice that was accepted leaves its job: a held slice that the hardware has parsed finishes
it, one that it has not parsed in time leaves it to the watchdog, and the last slice of a frame to
the interrupts or the watchdog. -/
inductive Accepted
  | parsed | timedOut | submitted
  deriving DecidableEq, Repr

def Run.accepted (run : Run) (polled : Bool) : Accepted :=
  if run.hold then
    if polled then .parsed else .timedOut
  else
    .submitted

structure Outcome : Type where
  ret : Except Errno Accepted
  avd : Dev
  ctx : Ctx
  pushed : List Instruction

/-- `polled` is whether `readl_poll_timeout` sees the slice parsed. The work of the watchdog is due
long after the poll has ended, so that cancelling it succeeds. -/
def avdH264Run (v : Variant) (avd : Dev) (ctx : Ctx) (run : Run) (polled : Bool) :
    Option Outcome := do
  if !(← avdH264RefsValid run) then
    return ⟨.error .EINVAL, avd, ctx, []⟩
  let (opened, avd, ctx) :=
    if isNewFrame run.slice_params then allocSlots v avd ctx .H264 else (.ok (), avd, ctx)
  if let .error e := opened then
    return ⟨.error e, avd, ctx, []⟩
  let header := if isNewFrame run.slice_params then streamHdr run else []
  if ctx.vp_slot = none then
    return ⟨.error .ENOMEM, avd, ctx, header⟩
  let slice ← streamSlice run
  return ⟨.ok (run.accepted polled), avd, ctx, header ++ slice⟩

/-- What `avd_h264_run` can do with a slice. -/
inductive Handled (v : Variant) (avd : Dev) (ctx : Ctx) (run : Run) (polled : Bool) : Outcome → Prop
  | refused : ¬ run.RefsValid → Handled v avd ctx run polled ⟨.error .EINVAL, avd, ctx, []⟩
  | full (ctx' : Ctx) : run.RefsValid → isNewFrame run.slice_params = true →
    ¬ SlotsFree v avd .H264 → (¬ VpSlotFree v avd .H264 → ctx' = ctx) →
    Handled v avd ctx run polled ⟨.error .ENOMEM, avd, ctx', []⟩
  | opened (i j : Nat) (pushed : List Instruction) : run.RefsValid →
    isNewFrame run.slice_params = true → SlotsFree v avd .H264 →
    i ∉ avd.vp_slots → j ∉ avd.inst_fifo_slots → Pushes pushed run.references →
    Handled v avd ctx run polled ⟨.ok (run.accepted polled),
      ⟨insert i avd.vp_slots, insert j avd.inst_fifo_slots⟩, ⟨some i, some j⟩,
      streamHdr run ++ pushed⟩
  | unassigned : run.RefsValid → isNewFrame run.slice_params = false → ctx.vp_slot = none →
    Handled v avd ctx run polled ⟨.error .ENOMEM, avd, ctx, []⟩
  | continued (pushed : List Instruction) : run.RefsValid → isNewFrame run.slice_params = false →
    ctx.vp_slot ≠ none → Pushes pushed run.references →
    Handled v avd ctx run polled ⟨.ok (run.accepted polled), avd, ctx, pushed⟩

/-- Whatever the controls of a slice say, it is handled in one of these ways, without a read outside
an array. -/
theorem avdH264Run_handled (v : Variant) (avd : Dev) (ctx : Ctx) (run : Run) (polled : Bool) :
    ∃ outcome, avdH264Run v avd ctx run polled = some outcome ∧
      Handled v avd ctx run polled outcome := by
  obtain ⟨valid, checked, valid_iff⟩ := avdH264RefsValid_eq run
  unfold avdH264Run
  rw [checked]
  cases valid with
  | false =>
      refine ⟨_, rfl, .refused fun valid => ?_⟩
      exact absurd (valid_iff.mpr valid) Bool.false_ne_true
  | true =>
      have valid : run.RefsValid := valid_iff.mp rfl
      obtain ⟨pushed, streamed, pushes⟩ := streamSlice_eq valid
      cases new : isNewFrame run.slice_params with
      | true =>
          rcases allocSlots_cases v avd ctx .H264 with
            ⟨full, ctx', same, alloc⟩ | ⟨free, i, j, clearVp, clearFifo, alloc⟩
          · refine ⟨_, ?_, .full ctx' valid new full same⟩
            simp [alloc]
          · refine ⟨_, ?_, .opened i j pushed valid new free clearVp clearFifo pushes⟩
            simp [alloc, streamed]
      | false =>
          cases slot : ctx.vp_slot with
          | none =>
              refine ⟨_, ?_, .unassigned valid new slot⟩
              simp [slot]
          | some i =>
              refine ⟨_, ?_, .continued pushed valid new ?_ pushes⟩
              · simp [slot, streamed]
              · rw [slot]
                exact Option.some_ne_none i

end Avd
