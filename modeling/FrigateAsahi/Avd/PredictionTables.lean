import FrigateAsahi.Avd.VideoProcessor
import Mathlib

/-!
# Reference lists and weights in the stream

The loops of `stream_slice` and `stream_weights` push one command after the other, and what a reader
is told by them is the list, and the table of those weights that are not the default.
-/

namespace Avd

open BitField

/-! ## Reference lists -/

/-- The entries `is` of a list. -/
def SliceState.withRefs (slice : SliceState) (y : Nat)
    (list : Vector UInt8 V4L2_H264_REF_LIST_LEN) (is : List Nat) : SliceState :=
  { slice with
    refs := fun y' i' =>
      if y' = y ∧ i' ∈ is then list[i']?.map UInt8.toNat else slice.refs y' i' }

theorem SliceState.withRefs_cons {slice : SliceState} {y i : Nat} {index : UInt8}
    {list : Vector UInt8 V4L2_H264_REF_LIST_LEN} {is : List Nat} (found : list[i]? = some index) :
    (slice.withRef y i index.toNat).withRefs y list is = slice.withRefs y list (i :: is) := by
  have refs : ((slice.withRef y i index.toNat).withRefs y list is).refs =
      (slice.withRefs y list (i :: is)).refs := by
    funext y' i'
    simp only [withRefs, withRef, List.mem_cons]
    by_cases there : y' = y ∧ i' ∈ is
    · rw [if_pos there, if_pos ⟨there.1, .inr there.2⟩]
    · rw [if_neg there]
      by_cases first : y' = y ∧ i' = i
      · rw [if_pos first, if_pos ⟨first.1, .inl first.2⟩, first.2, found]
        rfl
      · rw [if_neg first, if_neg (by tauto)]
  unfold withRefs withRef at refs ⊢
  simp only at refs ⊢
  rw [refs]

namespace Vp

variable {lsr : Bool} {vp : Vp} {run : SliceRun}

theorem step_refWord {y i : Nat} {index : UInt8} (ready : vp.expected = .command) (number : y < 16)
    (position : i < 16) (small : index.toNat < 16) :
    step lsr vp (refWord y i index) =
      some (vp.put .command (vp.slice.withRef y i index.toNat)) := by
  have opcode : (GENMASK 31 24).get (refWord y i index) = 0x2d := by
    simp (disch := decide) only [refWord, get_or, get_prep_of_apart, Nat.or_zero]
    rfl
  have kind : (GENMASK 23 20).get (refWord y i index) = 0xc := by
    simp (disch := decide) only [refWord, get_or, get_prep_of_apart, Nat.or_zero]
    rfl
  have listIdx : AVD_OP_REF_LIST_IDX.get (refWord y i index) = y := by
    simp (disch := decide) only [refWord, AVD_OP_REF, get_or, get_prep_of_apart, Nat.zero_or,
      Nat.or_zero]
    exact get_prep_nat number
  have loopIdx : AVD_OP_REF_LOOP_IDX.get (refWord y i index) = i := by
    simp (disch := decide) only [refWord, AVD_OP_REF, get_or, get_prep_of_apart, Nat.zero_or,
      Nat.or_zero]
    exact get_prep_nat position
  have dpbIdx : AVD_OP_REF_DBP_IDX.get (refWord y i index) = index.toNat := by
    simp (disch := decide) only [refWord, AVD_OP_REF, get_or, get_prep_of_apart, Nat.zero_or]
    exact get_prep_nat small
  rw [step_sliceCommand ready opcode, sliceCommand, kind, listIdx, loopIdx, dpbIdx]
  rfl

theorem says_refWords {y : Nat} {list : Vector UInt8 V4L2_H264_REF_LIST_LEN} {is : List Nat}
    (number : y < 16) (positions : ∀ i ∈ is, i < 16)
    (small : ∀ i ∈ is, ∀ index, list[i]? = some index → index.toNat < 16) :
    ∃ words, refWords y list is = some words ∧
      Says lsr words fun slice => slice.withRefs y list is := by
  induction is with
  | nil =>
      have same : (fun slice : SliceState => slice.withRefs y list []) = id := by
        funext slice
        simp [SliceState.withRefs]
      refine ⟨[], rfl, ?_⟩
      rw [same]
      exact Says.nil
  | cons i is ih =>
      have position := positions i List.mem_cons_self
      have inside : i < V4L2_H264_REF_LIST_LEN := Nat.lt_trans position (by decide)
      have found : list[i]? = some list[i] := Vector.getElem?_eq_getElem inside
      have first : Says lsr [refWord y i list[i]] fun slice => slice.withRef y i list[i].toNat :=
        Says.of_step fun vp ready =>
          step_refWord ready number position (small i List.mem_cons_self _ found)
      obtain ⟨words, streamed, told⟩ := ih
        (fun j mem => positions j (List.mem_cons_of_mem i mem))
        (fun j mem => small j (List.mem_cons_of_mem i mem))
      refine ⟨refWord y i list[i] :: words, ?_, ?_⟩
      · simp [refWords, found, streamed]
      · have composed := first.append told
        simp only [Function.comp_def, SliceState.withRefs_cons found] at composed
        exact composed

end Vp

/-! ## Weights -/

section Weights

/-- A weight and its offset: 1 is luma, 2 and 3 are chroma. -/
def WeightFactors.component (factors : WeightFactors) (ident i : Nat) : Option (Int × Int) :=
  match ident with
  | 1 => do return ((← factors.luma_weight[i]?).toInt, (← factors.luma_offset[i]?).toInt)
  | 2 => do return ((← factors.chroma_weight[i]?).1.toInt, (← factors.chroma_offset[i]?).1.toInt)
  | 3 => do return ((← factors.chroma_weight[i]?).2.toInt, (← factors.chroma_offset[i]?).2.toInt)
  | _ => none

/-- The weights of an entry fit into their nine bits. -/
def WeightFactors.Small (factors : WeightFactors) (i : Nat) : Prop :=
  ∀ ident ∈ [1, 2, 3], ∀ c ∈ factors.component ident i, -256 ≤ c.1 ∧ c.1 < 256

instance (factors : WeightFactors) (i : Nat) : Decidable (factors.Small i) :=
  inferInstanceAs (Decidable (∀ ident ∈ [1, 2, 3], ∀ c ∈ factors.component ident i, _ ∧ _))

/-- Whether it is pushed: both chroma components are where one of them is not the default. -/
def WeightFactors.differs (factors : WeightFactors) (luma_denom chroma_denom : Int)
    (ident i : Nat) : Bool :=
  match ident with
  | 1 => factors.component 1 i != some (luma_denom, 0)
  | 2 | 3 =>
    factors.component 2 i != some (chroma_denom, 0) ||
      factors.component 3 i != some (chroma_denom, 0)
  | _ => false

/-- What is pushed for the entries `is` of a list. -/
def SliceState.withFactors (slice : SliceState) (luma_denom chroma_denom : Int)
    (factors : WeightFactors) (y : Nat) (is : List Nat) : SliceState :=
  { slice with
    weights := fun ident y' i =>
      if y' = y ∧ i ∈ is ∧ factors.differs luma_denom chroma_denom ident i = true then
        factors.component ident i
      else
        slice.weights ident y' i }

variable {slice : SliceState} {luma_denom chroma_denom : Int} {factors : WeightFactors}

theorem SliceState.weights_congr {table table' : Nat → Nat → Nat → Option (Int × Int)}
    (same : ∀ ident y i, table ident y i = table' ident y i) :
    { slice with weights := table } = { slice with weights := table' } := by
  have equal : table = table' := funext fun ident => funext fun y => funext fun i => same ident y i
  rw [equal]

@[simp] theorem SliceState.weights_withWeight (ident y i ident' y' i' : Nat)
    (weight offset : Int) :
    (slice.withWeight ident y i weight offset).weights ident' y' i' =
      if ident' = ident ∧ y' = y ∧ i' = i then some (weight, offset)
      else slice.weights ident' y' i' := rfl

theorem SliceState.withFactors_nil (y : Nat) :
    slice.withFactors luma_denom chroma_denom factors y [] = slice := by
  simp [withFactors]

theorem SliceState.withFactors_cons (y i : Nat) (is : List Nat) :
    (slice.withFactors luma_denom chroma_denom factors y [i]).withFactors luma_denom chroma_denom
        factors y is =
      slice.withFactors luma_denom chroma_denom factors y (i :: is) := by
  refine weights_congr fun ident y' i' => ?_
  simp only [withFactors, List.mem_cons, List.not_mem_nil, or_false]
  by_cases later : y' = y ∧ i' ∈ is ∧ factors.differs luma_denom chroma_denom ident i' = true
  · rw [if_pos later, if_pos ⟨later.1, .inr later.2.1, later.2.2⟩]
  · rw [if_neg later]
    by_cases first : y' = y ∧ i' = i ∧ factors.differs luma_denom chroma_denom ident i' = true
    · rw [if_pos first, if_pos ⟨first.1, .inl first.2.1, first.2.2⟩]
    · rw [if_neg first, if_neg (by tauto)]

/-- One entry: luma first, then both chroma components. -/
theorem SliceState.withFactors_one {y i : Nat} {luma cb cr : Int × Int}
    (one : factors.component 1 i = some luma) (two : factors.component 2 i = some cb)
    (three : factors.component 3 i = some cr) :
    slice.withFactors luma_denom chroma_denom factors y [i] =
      let first :=
        if factors.differs luma_denom chroma_denom 1 i then
          slice.withWeight 1 y i luma.1 luma.2
        else
          slice
      if factors.differs luma_denom chroma_denom 2 i then
        (first.withWeight 2 y i cb.1 cb.2).withWeight 3 y i cr.1 cr.2
      else
        first := by
  have other (n : Nat) : factors.differs luma_denom chroma_denom (n + 4) i = false := rfl
  have zero : factors.differs luma_denom chroma_denom 0 i = false := rfl
  have both : factors.differs luma_denom chroma_denom 3 i =
      factors.differs luma_denom chroma_denom 2 i := rfl
  have entry (ident y' i' : Nat) :
      (y' = y ∧ i' ∈ [i] ∧ factors.differs luma_denom chroma_denom ident i' = true) ↔
        (y' = y ∧ i' = i) ∧ factors.differs luma_denom chroma_denom ident i = true := by
    rw [List.mem_singleton]
    constructor
    · rintro ⟨number, rfl, pushed⟩
      exact ⟨⟨number, rfl⟩, pushed⟩
    · rintro ⟨⟨number, rfl⟩, pushed⟩
      exact ⟨number, rfl, pushed⟩
  cases lumaPushed : factors.differs luma_denom chroma_denom 1 i <;>
    cases chromaPushed : factors.differs luma_denom chroma_denom 2 i <;>
    refine weights_congr fun ident y' i' => ?_
  all_goals
    simp only [entry]
    by_cases here : y' = y ∧ i' = i
    · obtain ⟨rfl, rfl⟩ := here
      match ident with
      | 0 => simp [zero]
      | 1 => simp [lumaPushed, one]
      | 2 => simp [chromaPushed, two]
      | 3 => simp [both, chromaPushed, three]
      | n + 4 => simp [other]
    · simp [here]

theorem WeightFactors.component_inside {i : Nat} (inside : i < V4L2_H264_REF_LIST_LEN) :
    ∃ luma cb cr, factors.component 1 i = some luma ∧ factors.component 2 i = some cb ∧
      factors.component 3 i = some cr := by
  have lumaWeight : factors.luma_weight[i]? = some factors.luma_weight[i] :=
    Vector.getElem?_eq_getElem inside
  have lumaOffset : factors.luma_offset[i]? = some factors.luma_offset[i] :=
    Vector.getElem?_eq_getElem inside
  have chromaWeight : factors.chroma_weight[i]? = some factors.chroma_weight[i] :=
    Vector.getElem?_eq_getElem inside
  have chromaOffset : factors.chroma_offset[i]? = some factors.chroma_offset[i] :=
    Vector.getElem?_eq_getElem inside
  simp [component, lumaWeight, lumaOffset, chromaWeight, chromaOffset]

theorem WeightFactors.component_offset {ident i : Nat} {c : Int × Int}
    (found : factors.component ident i = some c) : -32768 ≤ c.2 ∧ c.2 < 32768 := by
  have bounds (v : Int16) : -32768 ≤ v.toInt ∧ v.toInt < 32768 := ⟨v.le_toInt, v.toInt_lt⟩
  unfold component at found
  split at found
  all_goals
    simp only [Option.bind_eq_bind, Option.pure_def, Option.bind_eq_some_iff, Option.some.injEq,
      reduceCtorEq] at found
  all_goals
    obtain ⟨weight, -, offset, -, rfl⟩ := found
    exact bounds _

theorem factorWords_eq {y i : Nat} {luma cb cr : Int × Int}
    (one : factors.component 1 i = some luma) (two : factors.component 2 i = some cb)
    (three : factors.component 3 i = some cr) :
    factorWords luma_denom chroma_denom factors y i =
      some ((if factors.differs luma_denom chroma_denom 1 i then
          weightWords 1 y i luma.1 luma.2 else []) ++
        (if factors.differs luma_denom chroma_denom 2 i then
          weightWords 2 y i cb.1 cb.2 ++ weightWords 3 y i cr.1 cr.2 else [])) := by
  have lumaPushed : factors.differs luma_denom chroma_denom 1 i =
      decide (luma.1 ≠ luma_denom ∨ luma.2 ≠ 0) := by
    rw [WeightFactors.differs, one, Bool.eq_iff_iff, bne_iff_ne, decide_eq_true_iff, Ne,
      Option.some.injEq, Prod.ext_iff]
    tauto
  have chromaPushed : factors.differs luma_denom chroma_denom 2 i =
      decide (cb.1 ≠ chroma_denom ∨ cb.2 ≠ 0 ∨ cr.1 ≠ chroma_denom ∨ cr.2 ≠ 0) := by
    rw [WeightFactors.differs, two, three, Bool.eq_iff_iff, Bool.or_eq_true, bne_iff_ne,
      bne_iff_ne, decide_eq_true_iff, Ne, Ne, Option.some.injEq, Option.some.injEq, Prod.ext_iff,
      Prod.ext_iff]
    tauto
  simp only [WeightFactors.component, Option.bind_eq_bind, Option.pure_def,
    Option.bind_eq_some_iff, Option.some.injEq] at one two three
  obtain ⟨lumaWeight, weightAt, lumaOffset, offsetAt, rfl⟩ := one
  obtain ⟨chromaWeight, chromaWeightAt, chromaOffset, chromaOffsetAt, rfl⟩ := two
  obtain ⟨chromaWeight', again, chromaOffset', again', rfl⟩ := three
  cases again.symm.trans chromaWeightAt
  cases again'.symm.trans chromaOffsetAt
  rw [factorWords, weightAt, offsetAt, chromaWeightAt, chromaOffsetAt, lumaPushed, chromaPushed]
  simp only [Option.bind_eq_bind, Option.bind_some, Option.pure_def, decide_eq_true_iff]

namespace Vp

variable {lsr : Bool} {vp : Vp} {run : SliceRun}

theorem says_weightWords {ident y i : Nat} {weight offset : Int} (component : ident < 8)
    (number : y < 2) (position : i < 16) (weightLow : -256 ≤ weight) (weightHigh : weight < 256)
    (offsetLow : -32768 ≤ offset) (offsetHigh : offset < 32768) :
    Says lsr (weightWords ident y i weight offset) fun slice =>
      slice.withWeight ident y i weight offset := by
  intro vp ready
  set w := AVD_OP_WEIGHTS ||| AVD_OP_WEIGHTS_IDENT.prep ident ||| AVD_OP_WEIGHTS_LIST_IDX.prep y
    ||| AVD_OP_WEIGHTS_INDEX.prep i ||| AVD_OP_WEIGHTS_WEIGHT.prep weight with word
  set w' := AVD_OP_OFFSETS ||| AVD_OP_OFFSETS_OFFSET.prep offset with word'
  have opcode : (GENMASK 31 24).get w = 0x2d := by
    simp (disch := decide) only [word, get_or, get_prep_of_apart, Nat.or_zero]
    rfl
  have kind : (GENMASK 23 20).get w = 0xe := by
    simp (disch := decide) only [word, get_or, get_prep_of_apart, Nat.or_zero]
    rfl
  have identRead : AVD_OP_WEIGHTS_IDENT.get w = ident := by
    simp (disch := decide) only [word, AVD_OP_WEIGHTS, get_or, get_prep_of_apart, Nat.zero_or,
      Nat.or_zero]
    exact get_prep_nat component
  have listRead : AVD_OP_WEIGHTS_LIST_IDX.get w = y := by
    simp (disch := decide) only [word, AVD_OP_WEIGHTS, get_or, get_prep_of_apart, Nat.zero_or,
      Nat.or_zero]
    exact get_prep_nat number
  have indexRead : AVD_OP_WEIGHTS_INDEX.get w = i := by
    simp (disch := decide) only [word, AVD_OP_WEIGHTS, get_or, get_prep_of_apart, Nat.zero_or,
      Nat.or_zero]
    exact get_prep_nat position
  have weightAlone : AVD_OP_WEIGHTS_WEIGHT.get w =
      AVD_OP_WEIGHTS_WEIGHT.get (AVD_OP_WEIGHTS_WEIGHT.prep weight) := by
    simp (disch := decide) only [word, AVD_OP_WEIGHTS, get_or, get_prep_of_apart, Nat.zero_or]
  have behind : (GENMASK 31 20).get w' = 0x2df := by
    simp (disch := decide) only [word', get_or, get_prep_of_apart, Nat.or_zero]
    rfl
  have offsetAlone : AVD_OP_OFFSETS_OFFSET.get w' =
      AVD_OP_OFFSETS_OFFSET.get (AVD_OP_OFFSETS_OFFSET.prep offset) := by
    simp (disch := decide) only [word', AVD_OP_OFFSETS, get_or, get_prep_of_apart, Nat.zero_or]
  have first : step lsr vp w = some (vp.put (.offset ident y i weight) vp.slice) := by
    rw [step_sliceCommand ready opcode, sliceCommand, kind, identRead, listRead, indexRead,
      getSigned_of_get weightAlone weightLow weightHigh]
    rfl
  have second : step lsr (vp.put (.offset ident y i weight) vp.slice) w' =
      some (vp.put .command (vp.slice.withWeight ident y i weight offset)) := by
    rw [step, put_expected]
    simp only
    rw [if_pos behind, getSigned_of_get offsetAlone offsetLow offsetHigh, put_put, put_slice]
  rw [weightWords, ← word, ← word', read_cons, first, Option.bind_some, read_cons, second]
  rfl

theorem says_factorWords (lsr : Bool) {y i : Nat} {luma cb cr : Int × Int} (number : y < 2)
    (position : i < 16) (one : factors.component 1 i = some luma)
    (two : factors.component 2 i = some cb) (three : factors.component 3 i = some cr)
    (small : ∀ c ∈ [luma, cb, cr], (-256 ≤ c.1 ∧ c.1 < 256) ∧ -32768 ≤ c.2 ∧ c.2 < 32768) :
    ∃ words, factorWords luma_denom chroma_denom factors y i = some words ∧
      Says lsr words fun slice =>
        slice.withFactors luma_denom chroma_denom factors y [i] := by
  have pushed (ident : Nat) {c : Int × Int} (mem : c ∈ [luma, cb, cr]) (component : ident < 8) :
      Says lsr (weightWords ident y i c.1 c.2) fun slice => slice.withWeight ident y i c.1 c.2 :=
    says_weightWords component number position (small c mem).1.1 (small c mem).1.2
      (small c mem).2.1 (small c mem).2.2
  have lumaSaid := pushed 1 (List.mem_cons_self : luma ∈ [luma, cb, cr]) (by decide)
  have chromaSaid := (pushed 2 (by simp : cb ∈ [luma, cb, cr]) (by decide)).append
    (pushed 3 (by simp : cr ∈ [luma, cb, cr]) (by decide))
  refine ⟨_, factorWords_eq one two three, ?_⟩
  simp only [SliceState.withFactors_one one two three]
  cases factors.differs luma_denom chroma_denom 1 i with
  | true =>
      cases factors.differs luma_denom chroma_denom 2 i with
      | true => exact lumaSaid.append chromaSaid
      | false =>
          simp only [if_true, Bool.false_eq_true, if_false, List.append_nil]
          exact lumaSaid
  | false =>
      cases factors.differs luma_denom chroma_denom 2 i with
      | true => exact chromaSaid
      | false => exact Says.nil

theorem says_listWeights {y : Nat} {is : List Nat} (number : y < 2) (positions : ∀ i ∈ is, i < 16)
    (small : ∀ i ∈ is, factors.Small i) :
    ∃ words, listWeights luma_denom chroma_denom factors y is = some words ∧
      Says lsr words fun slice =>
        slice.withFactors luma_denom chroma_denom factors y is := by
  induction is with
  | nil =>
      refine ⟨[], rfl, ?_⟩
      simp only [SliceState.withFactors_nil]
      exact Says.nil
  | cons i is ih =>
      have position := positions i List.mem_cons_self
      obtain ⟨luma, cb, cr, one, two, three⟩ :=
        factors.component_inside (Nat.lt_trans position (by decide))
      have range {ident : Nat} (known : ident ∈ [1, 2, 3]) {c : Int × Int}
          (found : factors.component ident i = some c) :
          (-256 ≤ c.1 ∧ c.1 < 256) ∧ -32768 ≤ c.2 ∧ c.2 < 32768 :=
        ⟨small i List.mem_cons_self ident known c found, WeightFactors.component_offset found⟩
      have each : ∀ c ∈ [luma, cb, cr],
          (-256 ≤ c.1 ∧ c.1 < 256) ∧ -32768 ≤ c.2 ∧ c.2 < 32768 := by
        simp only [List.forall_mem_cons, List.not_mem_nil, false_implies, implies_true, and_true]
        exact ⟨range (by simp) one, range (by simp) two, range (by simp) three⟩
      obtain ⟨first, pushed, told⟩ := says_factorWords lsr number position one two three
        each
      obtain ⟨words, streamed, toldRest⟩ := ih
        (fun j mem => positions j (List.mem_cons_of_mem i mem))
        (fun j mem => small j (List.mem_cons_of_mem i mem))
      refine ⟨first ++ words, ?_, ?_⟩
      · rw [listWeights, pushed, streamed]
        rfl
      · have composed := told.append toldRest
        simp only [Function.comp_def, SliceState.withFactors_cons] at composed
        exact composed

end Vp

end Weights

end Avd
