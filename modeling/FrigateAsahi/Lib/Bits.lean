import Mathlib.Data.Nat.Bitwise
import Mathlib.Data.Nat.Log
import Mathlib.Data.List.Basic
import Mathlib.Tactic.Ring

/-!
# Bit strings

Octets as bits, the most significant one first, and the codes of a bit stream: numbers of a fixed
width, Exp-Golomb codes of the natural numbers and of the integers. `pack` goes back from bits to
octets. `escape` keeps two zero octets from being followed by a small one, and `unescape` undoes
that (`unescape_escape`).
-/

namespace Bits

/-! ## Octets -/

def ofByte (b : UInt8) : List Bool := (List.range 8).map fun k => b.toNat.testBit (7 - k)

def ofBytes (data : List UInt8) : List Bool := data.flatMap ofByte

@[simp] theorem length_ofByte (b : UInt8) : (ofByte b).length = 8 := by
  rw [ofByte, List.length_map, List.length_range]

@[simp] theorem ofBytes_nil : ofBytes [] = [] := rfl

@[simp] theorem ofBytes_cons (b : UInt8) (data : List UInt8) :
    ofBytes (b :: data) = ofByte b ++ ofBytes data := rfl

@[simp] theorem length_ofBytes (data : List UInt8) : (ofBytes data).length = 8 * data.length := by
  induction data with
  | nil => rfl
  | cons b data ih =>
      rw [ofBytes_cons, List.length_append, length_ofByte, ih, List.length_cons]
      omega

/-- The bit at a position is in the octet of that position. -/
theorem getElem?_ofBytes (data : List UInt8) (pos : Nat) :
    (ofBytes data)[pos]? = data[pos / 8]?.map fun b => b.toNat.testBit (7 - pos % 8) := by
  induction data generalizing pos with
  | nil => rfl
  | cons b data ih =>
      rw [ofBytes_cons]
      by_cases inside : pos < 8
      · have first : pos / 8 = 0 := Nat.div_eq_of_lt inside
        have same : pos % 8 = pos := Nat.mod_eq_of_lt inside
        rw [List.getElem?_append_left (by rw [length_ofByte]; exact inside), first, same, ofByte,
          List.getElem?_map, List.getElem?_range inside]
        rfl
      · have later : pos / 8 = (pos - 8) / 8 + 1 := by omega
        have same : pos % 8 = (pos - 8) % 8 := by omega
        rw [List.getElem?_append_right (by rw [length_ofByte]; omega), length_ofByte, ih, later, same,
          List.getElem?_cons_succ]

/-! ## Numbers -/

/-- The number that bits stand for. -/
def value (code : List Bool) : Nat := code.foldl (fun v b => 2 * v + b.toNat) 0

/-- A number in `n` bits. -/
def fixed : Nat → Nat → List Bool
  | 0, _ => []
  | n + 1, v => v.testBit n :: fixed n v

@[simp] theorem length_fixed (n v : Nat) : (fixed n v).length = n := by
  induction n with
  | zero => rfl
  | succ n ih => rw [fixed, List.length_cons, ih]

theorem foldl_value (code : List Bool) (v : Nat) :
    code.foldl (fun v b => 2 * v + b.toNat) v = 2 ^ code.length * v + value code := by
  induction code generalizing v with
  | nil => simp [value]
  | cons b code ih =>
      have whole : value (b :: code) = 2 ^ code.length * (2 * 0 + b.toNat) + value code := by
        rw [value, List.foldl_cons, ih]
      rw [List.foldl_cons, ih, whole, List.length_cons, pow_succ]
      ring

theorem value_cons (b : Bool) (code : List Bool) :
    value (b :: code) = 2 ^ code.length * b.toNat + value code := by
  rw [value, List.foldl_cons, foldl_value]
  ring

theorem value_lt (code : List Bool) : value code < 2 ^ code.length := by
  induction code with
  | nil => exact Nat.zero_lt_one
  | cons b code ih =>
      rw [value_cons, List.length_cons, pow_succ]
      cases b with
      | false =>
          rw [Bool.toNat_false]
          omega
      | true =>
          rw [Bool.toNat_true]
          omega

theorem value_fixed (n v : Nat) : value (fixed n v) = v % 2 ^ n := by
  induction n with
  | zero => rw [fixed, pow_zero, Nat.mod_one]; rfl
  | succ n ih =>
      rw [fixed, value_cons, length_fixed, ih, Nat.mod_pow_succ, Nat.toNat_testBit]
      ring

theorem value_fixed_of_lt {n v : Nat} (fits : v < 2 ^ n) : value (fixed n v) = v := by
  rw [value_fixed, Nat.mod_eq_of_lt fits]

theorem fixed_congr {n v w : Nat} (same : ∀ i < n, v.testBit i = w.testBit i) :
    fixed n v = fixed n w := by
  induction n with
  | zero => rfl
  | succ n ih =>
      rw [fixed, fixed, same n (by omega), ih fun i below => same i (by omega)]

/-- Bits are the code of the number they stand for. -/
theorem fixed_value (code : List Bool) : fixed code.length (value code) = code := by
  induction code with
  | nil => rfl
  | cons b code ih =>
      have bit (i : Nat) : (value (b :: code)).testBit i =
          if i < code.length then (value code).testBit i else b.toNat.testBit (i - code.length) := by
        rw [value_cons, Nat.testBit_two_pow_mul_add _ (value_lt code)]
      have first : (value (b :: code)).testBit code.length = b := by
        rw [bit, if_neg (Nat.lt_irrefl _), Nat.sub_self]
        cases b with
        | false => rfl
        | true => rfl
      have lower : fixed code.length (value (b :: code)) = fixed code.length (value code) :=
        fixed_congr fun i below => by rw [bit, if_pos below]
      rw [List.length_cons, fixed, first, lower, ih]

theorem ofByte_eq_fixed (b : UInt8) : ofByte b = fixed 8 b.toNat := by
  simp [ofByte, fixed, List.range_succ]

/-! ## Exp-Golomb codes -/

/-- The code of a natural number: as many zeros as bits follow the one. -/
def golomb (k : Nat) : List Bool :=
  List.replicate (Nat.log2 (k + 1)) false ++
    true :: fixed (Nat.log2 (k + 1)) (k + 1 - 2 ^ Nat.log2 (k + 1))

/-- The natural number in whose place an integer is coded. -/
def codeNumber (v : Int) : Nat := if 0 < v then 2 * v.toNat - 1 else 2 * (-v).toNat

def signedGolomb (v : Int) : List Bool := golomb (codeNumber v)

theorem length_golomb (k : Nat) : (golomb k).length = 2 * Nat.log2 (k + 1) + 1 := by
  rw [golomb, List.length_append, List.length_replicate, List.length_cons, length_fixed]
  omega

theorem golomb_suffix_lt (k : Nat) :
    k + 1 - 2 ^ Nat.log2 (k + 1) < 2 ^ Nat.log2 (k + 1) := by
  have upper := Nat.lt_log2_self (n := k + 1)
  rw [pow_succ] at upper
  omega

/-- Every code of that shape is the code of a number. -/
theorem golomb_of_suffix (suffix : List Bool) :
    golomb (2 ^ suffix.length - 1 + value suffix) =
      List.replicate suffix.length false ++ true :: suffix := by
  have small := value_lt suffix
  have pos := Nat.two_pow_pos suffix.length
  have next : 2 ^ suffix.length - 1 + value suffix + 1 = 2 ^ suffix.length + value suffix := by omega
  have exponent : Nat.log2 (2 ^ suffix.length + value suffix) = suffix.length := by
    have upper : 2 ^ suffix.length + value suffix < 2 ^ (suffix.length + 1) := by
      rw [pow_succ]
      omega
    have below := (Nat.log2_lt (by omega)).mpr upper
    have above := (Nat.le_log2 (by omega)).mpr (Nat.le_add_right (2 ^ suffix.length) (value suffix))
    omega
  rw [golomb, next, exponent, Nat.add_sub_cancel_left, fixed_value]

/-- The integer of a code number. -/
theorem exists_codeNumber (k : Nat) : ∃ v, codeNumber v = k := by
  rcases Nat.even_or_odd' k with ⟨m, even | odd⟩
  · refine ⟨-m, ?_⟩
    rw [codeNumber, if_neg (by omega)]
    omega
  · refine ⟨m + 1, ?_⟩
    rw [codeNumber, if_pos (by omega)]
    omega

theorem golomb_value (k : Nat) :
    2 ^ Nat.log2 (k + 1) - 1 + (k + 1 - 2 ^ Nat.log2 (k + 1)) = k := by
  have lower := Nat.log2_self_le (Nat.succ_ne_zero k)
  have pos := Nat.two_pow_pos (Nat.log2 (k + 1))
  rw [Nat.succ_eq_add_one] at lower
  omega

/-! ## Octets from bits -/

/-- The octets of bits that fill them. -/
def pack : List Bool → List UInt8
  | b₇ :: b₆ :: b₅ :: b₄ :: b₃ :: b₂ :: b₁ :: b₀ :: rest =>
    UInt8.ofNat (value [b₇, b₆, b₅, b₄, b₃, b₂, b₁, b₀]) :: pack rest
  | _ => []

theorem ofByte_ofNat {code : List Bool} (eight : code.length = 8) :
    ofByte (UInt8.ofNat (value code)) = code := by
  have small := value_lt code
  rw [eight] at small
  have octet : (UInt8.ofNat (value code)).toNat = value code := by
    rw [UInt8.toNat_ofNat']
    exact Nat.mod_eq_of_lt small
  rw [ofByte_eq_fixed, octet, ← eight, fixed_value]

theorem ofBytes_pack {code : List Bool} (full : 8 ∣ code.length) : ofBytes (pack code) = code := by
  induction code using pack.induct with
  | case1 b₇ b₆ b₅ b₄ b₃ b₂ b₁ b₀ rest ih =>
      have eight : ofByte (UInt8.ofNat (value [b₇, b₆, b₅, b₄, b₃, b₂, b₁, b₀])) =
          [b₇, b₆, b₅, b₄, b₃, b₂, b₁, b₀] := ofByte_ofNat rfl
      rw [pack, ofBytes_cons, eight, ih]
      · rfl
      · simp only [List.length_cons] at full
        omega
  | case2 code short =>
      rcases code with - | ⟨b₇, - | ⟨b₆, - | ⟨b₅, - | ⟨b₄, - | ⟨b₃, - | ⟨b₂, - | ⟨b₁, - | ⟨b₀, rest⟩⟩⟩⟩⟩⟩⟩⟩
      · rfl
      all_goals first
        | exact absurd rfl (short _ _ _ _ _ _ _ _ _)
        | (simp only [List.length_cons, List.length_nil] at full; omega)

/-- A one and as many zeros as fill the last octet. -/
def stop (length : Nat) : List Bool := true :: List.replicate (7 - length % 8) false

/-- The octets of bits that are closed by a stop bit. -/
def close (code : List Bool) : List UInt8 := pack (code ++ stop code.length)

theorem ofBytes_close (code : List Bool) : ofBytes (close code) = code ++ stop code.length := by
  refine ofBytes_pack ?_
  rw [List.length_append, stop, List.length_cons, List.length_replicate]
  omega

/-! ## Escaping -/

/-- Octets in which no octet below four follows two zeros, after `zeros` of them. -/
def escape : Nat → List UInt8 → List UInt8
  | _, [] => []
  | zeros, b :: data =>
    if 2 ≤ zeros ∧ b ≤ 3 then 3 :: b :: escape (if b = 0 then 1 else 0) data
    else b :: escape (if b = 0 then zeros + 1 else 0) data

/-- Drop each three that follows two or more zeros since the last one that was dropped. -/
def unescape : Nat → List UInt8 → List UInt8
  | _, [] => []
  | zeros, b :: data =>
    if b = 3 ∧ 2 ≤ zeros then unescape 0 data
    else b :: unescape (if b = 0 then zeros + 1 else 0) data

theorem unescape_escape (zeros : Nat) (data : List UInt8) :
    unescape zeros (escape zeros data) = data := by
  induction data generalizing zeros with
  | nil => rfl
  | cons b data ih =>
      rw [escape]
      split
      · next small =>
          have kept : ¬ (b = 3 ∧ 2 ≤ 0) := by omega
          have count : (if b = 0 then 0 + 1 else 0) = if b = 0 then 1 else 0 := rfl
          rw [unescape, if_pos ⟨rfl, small.1⟩, unescape, if_neg kept, count, ih]
      · next free =>
          have kept : ¬ (b = 3 ∧ 2 ≤ zeros) := by
            rintro ⟨rfl, many⟩
            exact free ⟨many, by decide⟩
          rw [unescape, if_neg kept, ih]

/-- What the front of the octets unescapes to does not depend on the rest. -/
theorem unescape_append_prefix (zeros : Nat) (front rest : List UInt8) :
    unescape zeros front <+: unescape zeros (front ++ rest) := by
  induction front generalizing zeros with
  | nil => exact List.nil_prefix
  | cons b front ih =>
      rw [List.cons_append, unescape, unescape]
      split
      · exact ih 0
      · exact List.cons_prefix_cons.mpr ⟨rfl, ih _⟩

/-- The zeros that `unescape` has counted behind the octets. -/
def zerosAfter : Nat → List UInt8 → Nat
  | zeros, [] => zeros
  | zeros, b :: data =>
    if b = 3 ∧ 2 ≤ zeros then zerosAfter 0 data
    else zerosAfter (if b = 0 then zeros + 1 else 0) data

theorem unescape_append (zeros : Nat) (front rest : List UInt8) :
    unescape zeros (front ++ rest) =
      unescape zeros front ++ unescape (zerosAfter zeros front) rest := by
  induction front generalizing zeros with
  | nil => rfl
  | cons b front ih =>
      rw [List.cons_append, unescape, unescape, zerosAfter]
      split
      · exact ih 0
      · rw [ih, List.cons_append]

theorem zerosAfter_append (zeros : Nat) (front rest : List UInt8) :
    zerosAfter zeros (front ++ rest) = zerosAfter (zerosAfter zeros front) rest := by
  induction front generalizing zeros with
  | nil => rfl
  | cons b front ih =>
      rw [List.cons_append, zerosAfter, zerosAfter]
      split
      · exact ih 0
      · exact ih _

/-- Two zeros have been counted exactly where the last two octets are zeros. -/
theorem two_le_zerosAfter_iff (zeros : Nat) (front : List UInt8) (a b : UInt8) :
    2 ≤ zerosAfter zeros (front ++ [a, b]) ↔ a = 0 ∧ b = 0 := by
  rw [zerosAfter_append]
  generalize zerosAfter zeros front = counted
  have three : ¬ (3 : UInt8) = 0 := by decide
  by_cases first : a = 0
  · have kept : ¬ a = 3 := by
      rw [first]
      decide
    by_cases second : b = 0
    · have keptToo : ¬ b = 3 := by
        rw [second]
        decide
      simp [zerosAfter, first, second]
    · simp [zerosAfter, first, second]
  · by_cases dropped : a = 3 ∧ 2 ≤ counted
    · simp only [zerosAfter, if_pos dropped]
      by_cases second : b = 0
      · simp [first, second]
      · simp [first, second]
    · simp only [zerosAfter, if_neg dropped, if_neg first]
      by_cases second : b = 0
      · simp [first, second]
      · simp [first, second]

theorem one_le_zerosAfter_iff (zeros : Nat) (front : List UInt8) (b : UInt8) :
    1 ≤ zerosAfter zeros (front ++ [b]) ↔ b = 0 := by
  rw [zerosAfter_append]
  generalize zerosAfter zeros front = counted
  by_cases dropped : b = 3 ∧ 2 ≤ counted
  · simp [zerosAfter, dropped]
  · by_cases zero : b = 0
    · simp [zerosAfter, zero]
    · simp [zerosAfter, zero]

theorem unescape_dropped {zeros : Nat} (two : 2 ≤ zeros) (data : List UInt8) :
    unescape zeros (3 :: data) = unescape 0 data := by
  rw [unescape, if_pos ⟨rfl, two⟩]

theorem unescape_three {zeros : Nat} (few : zeros < 2) (data : List UInt8) :
    unescape zeros (3 :: data) = 3 :: unescape 0 data := by
  rw [unescape, if_neg (fun both => Nat.not_le_of_lt few both.2)]
  rfl

theorem unescape_zero (zeros : Nat) (data : List UInt8) :
    unescape zeros (0 :: data) = 0 :: unescape (zeros + 1) data := by
  have kept : ¬ ((0 : UInt8) = 3 ∧ 2 ≤ zeros) := fun both => absurd both.1 (by decide)
  rw [unescape, if_neg kept, if_pos rfl]

theorem unescape_other {b : UInt8} (three : b ≠ 3) (zero : b ≠ 0) (zeros : Nat)
    (data : List UInt8) : unescape zeros (b :: data) = b :: unescape 0 data := by
  have kept : ¬ (b = 3 ∧ 2 ≤ zeros) := fun both => three both.1
  rw [unescape, if_neg kept, if_neg zero]

/-- From two zeros on it does not matter how many. -/
theorem unescape_of_two_le {zeros zeros' : Nat} (two : 2 ≤ zeros) (two' : 2 ≤ zeros')
    (data : List UInt8) : unescape zeros data = unescape zeros' data := by
  induction data generalizing zeros zeros' with
  | nil => rfl
  | cons b data ih =>
      by_cases three : b = 3
      · rw [three, unescape_dropped two, unescape_dropped two']
      · by_cases zero : b = 0
        · rw [zero, unescape_zero, unescape_zero,
            ih (Nat.le_succ_of_le two) (Nat.le_succ_of_le two')]
        · rw [unescape_other three zero, unescape_other three zero]

theorem unescape_one_iff {zeros : Nat} (two : 2 ≤ zeros) (data : List UInt8) :
    unescape 1 data = unescape zeros data ↔ ¬ data[0]? = some 3 := by
  cases data with
  | nil => simp [unescape]
  | cons b data =>
      by_cases three : b = 3
      · rw [three, unescape_three (by decide), unescape_dropped two]
        exact iff_of_false (List.cons_ne_self _ _) (by simp)
      · refine iff_of_true ?_ (by simp [three])
        by_cases zero : b = 0
        · rw [zero, unescape_zero, unescape_zero,
            unescape_of_two_le (Nat.le_refl 2) (Nat.le_succ_of_le two)]
        · rw [unescape_other three zero, unescape_other three zero]

/-- Counting afresh makes no difference but for a three that the zeros before would have dropped. -/
theorem unescape_fresh_iff (zeros : Nat) (data : List UInt8) :
    unescape 0 data = unescape zeros data ↔
      ¬ (2 ≤ zeros ∧ data[0]? = some 3) ∧
        ¬ (1 ≤ zeros ∧ data[0]? = some 0 ∧ data[1]? = some 3) := by
  cases data with
  | nil => simp [unescape]
  | cons b data =>
      by_cases three : b = 3
      · rw [three, unescape_three (by decide)]
        by_cases two : 2 ≤ zeros
        · rw [unescape_dropped two]
          exact iff_of_false (List.cons_ne_self _ _) (fun none => none.1 ⟨two, rfl⟩)
        · rw [unescape_three (Nat.lt_of_not_le two)]
          exact iff_of_true rfl ⟨fun both => two both.1, fun both => by simp at both⟩
      · by_cases zero : b = 0
        · rw [zero, unescape_zero, unescape_zero]
          cases zeros with
          | zero => simp
          | succ zeros =>
              have later := unescape_one_iff (show 2 ≤ zeros + 1 + 1 by omega) data
              simp [later]
        · rw [unescape_other three zero, unescape_other three zero]
          simp [three, zero]

/-- At most one octet in three is dropped. -/
theorem length_unescape (zeros : Nat) (data : List UInt8) :
    2 * data.length ≤ 3 * (unescape zeros data).length + zeros := by
  induction data generalizing zeros with
  | nil => exact Nat.zero_le _
  | cons b data ih =>
      rw [unescape]
      split
      · next drop =>
          have rest := ih 0
          rw [List.length_cons]
          omega
      · have rest := ih (if b = 0 then zeros + 1 else 0)
        have count : (if b = 0 then zeros + 1 else 0) ≤ zeros + 1 := by
          split
          · omega
          · omega
        rw [List.length_cons, List.length_cons]
        omega

theorem drop_ofBytes (n : Nat) (data : List UInt8) :
    (ofBytes data).drop (8 * n) = ofBytes (data.drop n) := by
  induction n generalizing data with
  | zero => rfl
  | succ n ih =>
      cases data with
      | nil => simp
      | cons b data =>
          rw [ofBytes_cons, List.drop_succ_cons, ← ih, Nat.mul_succ, Nat.add_comm,
            ← List.drop_drop, List.drop_left' (length_ofByte b)]

/-- Counting afresh keeps one octet more or none. -/
theorem length_unescape_fresh {zeros : Nat} {data : List UInt8}
    (split : unescape 0 data ≠ unescape zeros data) :
    (unescape 0 data).length = (unescape zeros data).length + 1 := by
  have cases := mt (unescape_fresh_iff zeros data).mpr split
  rw [not_and_or, not_not, not_not] at cases
  rcases cases with ⟨two, three⟩ | ⟨one, zero, three⟩
  · cases data with
    | nil => cases three
    | cons b data =>
        cases three
        rw [unescape_three (by decide), unescape_dropped two, List.length_cons]
  · match data with
    | [] => cases zero
    | [_] => cases three
    | b :: c :: data =>
        cases zero
        cases three
        rw [unescape_zero, unescape_zero, unescape_three (by decide),
          unescape_dropped (Nat.succ_le_succ one)]
        rfl

theorem prefix_ofBytes {front data : List UInt8} (isFront : front <+: data) :
    ofBytes front <+: ofBytes data := by
  obtain ⟨rest, rfl⟩ := isFront
  exact ⟨ofBytes rest, by rw [ofBytes, ofBytes, ofBytes, List.flatMap_append]⟩

end Bits
