import Mathlib

/-!
# Fields of machine words

A word is put together with `|||` from fields, each a run of bits with a number in it: `prep` cuts the
number to the bits of its field, so a negative one goes in as its two's complement, and a number that
is too large loses its upper bits. `get` reads a field. In a word whose fields lie apart each field is
read as if it were alone (`get_or`, `get_prep_of_apart`), as the number that was put there if that was
in range (`get_prep_nat`, `getSigned_prep`).
-/

/-- The `len` bits from bit `lo` on. -/
structure BitField : Type where
  lo : Nat
  len : Nat
  deriving DecidableEq, Repr

namespace BitField

/-- The lowest bits of a number, moved up to the field. -/
def prep (f : BitField) (v : Int) : Nat := (v % 2 ^ f.len).toNat * 2 ^ f.lo

def get (f : BitField) (w : Nat) : Nat := w / 2 ^ f.lo % 2 ^ f.len

/-- The same as a two's complement. -/
def getSigned (f : BitField) (w : Nat) : Int := (f.get w : Int).bmod (2 ^ f.len)

def flag (f : BitField) (b : Bool) : Nat := f.prep (if b then 1 else 0)

def isSet (f : BitField) (w : Nat) : Bool := f.get w != 0

def Apart (f g : BitField) : Prop := f.lo + f.len ≤ g.lo ∨ g.lo + g.len ≤ f.lo

instance (f g : BitField) : Decidable (f.Apart g) :=
  inferInstanceAs (Decidable (_ ∨ _))

variable {f g : BitField} {v : Int}

/-! ## What stands in a word -/

theorem residue_lt (len : Nat) (v : Int) : (v % 2 ^ len).toNat < 2 ^ len := by
  have positive : (0 : Int) < 2 ^ len := by positivity
  have below := Int.emod_lt_of_pos v positive
  rw [Int.toNat_lt (Int.emod_nonneg v positive.ne')]
  exact_mod_cast below

@[simp] theorem prep_zero (f : BitField) : f.prep 0 = 0 := by
  rw [prep, Int.zero_emod, Int.toNat_zero, Nat.zero_mul]

@[simp] theorem flag_false (f : BitField) : f.flag false = 0 := prep_zero f

theorem prep_lt (f : BitField) (v : Int) : f.prep v < 2 ^ (f.lo + f.len) := by
  calc f.prep v < 2 ^ f.len * 2 ^ f.lo :=
        Nat.mul_lt_mul_of_pos_right (residue_lt f.len v) (Nat.two_pow_pos f.lo)
    _ = 2 ^ (f.lo + f.len) := by rw [Nat.add_comm, Nat.pow_add]

theorem prep_lt_of_le {n : Nat} (f : BitField) (v : Int) (inside : f.lo + f.len ≤ n) :
    f.prep v < 2 ^ n :=
  Nat.lt_of_lt_of_le (prep_lt f v) (Nat.pow_le_pow_right Nat.two_pos inside)

theorem testBit_get (f : BitField) (w i : Nat) :
    (f.get w).testBit i = (decide (i < f.len) && w.testBit (f.lo + i)) := by
  rw [get, Nat.testBit_mod_two_pow, Nat.testBit_div_two_pow, Nat.add_comm]

/-- A field of a word is put together from the same field of its parts. -/
theorem get_or (f : BitField) (a b : Nat) : f.get (a ||| b) = f.get a ||| f.get b := by
  apply Nat.eq_of_testBit_eq
  intro i
  simp only [testBit_get, Nat.testBit_or]
  cases decide (i < f.len) with
  | true => simp
  | false => simp

@[simp] theorem get_zero (f : BitField) : f.get 0 = 0 := by
  rw [get, Nat.zero_div, Nat.zero_mod]

theorem get_prep (f : BitField) (v : Int) : f.get (f.prep v) = (v % 2 ^ f.len).toNat := by
  rw [get, prep, Nat.mul_div_cancel _ (Nat.two_pow_pos f.lo), Nat.mod_eq_of_lt (residue_lt f.len v)]

/-- Below and above a field there is nothing of it. -/
theorem get_prep_of_apart (apart : f.Apart g) : f.get (g.prep v) = 0 := by
  rcases apart with below | above
  · obtain ⟨more, start⟩ := Nat.exists_eq_add_of_le below
    have split : (v % 2 ^ g.len).toNat * 2 ^ g.lo =
        2 ^ f.lo * (2 ^ f.len * ((v % 2 ^ g.len).toNat * 2 ^ more)) := by
      rw [start, Nat.pow_add, Nat.pow_add]
      ring
    rw [get, prep, split, Nat.mul_div_cancel_left _ (Nat.two_pow_pos f.lo), Nat.mul_mod_right]
  · rw [get, Nat.div_eq_of_lt (prep_lt_of_le g v above), Nat.zero_mod]

/-- A field inside of another one has these bits of the number. -/
theorem get_prep_within (low : g.lo ≤ f.lo) (high : f.lo + f.len ≤ g.lo + g.len) :
    f.get (g.prep v) = (v / 2 ^ (f.lo - g.lo) % 2 ^ f.len).toNat := by
  obtain ⟨d, start⟩ := Nat.exists_eq_add_of_le low
  obtain ⟨more, room⟩ := Nat.exists_eq_add_of_le (show d + f.len ≤ g.len by omega)
  have residue : ((v % 2 ^ g.len).toNat : Int) = v % 2 ^ g.len :=
    Int.toNat_of_nonneg (Int.emod_nonneg v (by positivity))
  have upper : v = v % 2 ^ g.len + v / 2 ^ g.len * 2 ^ (f.len + more) * 2 ^ d := by
    have power : (2 : Int) ^ (f.len + more) * 2 ^ d = 2 ^ g.len := by
      rw [room, ← pow_add]
      congr 1
      omega
    rw [mul_assoc, power, mul_comm (v / 2 ^ g.len)]
    exact (Int.emod_add_mul_ediv v _).symm
  have shifted : v / 2 ^ d % 2 ^ f.len = v % 2 ^ g.len / 2 ^ d % 2 ^ f.len := by
    have quotient : v / 2 ^ d =
        v % 2 ^ g.len / 2 ^ d + v / 2 ^ g.len * 2 ^ more * 2 ^ f.len := by
      conv_lhs => rw [upper]
      rw [Int.add_mul_ediv_right _ _ (by positivity), pow_add]
      ring
    rw [quotient, Int.add_mul_emod_self_right]
  have value : f.get (g.prep v) = (v % 2 ^ g.len).toNat / 2 ^ d % 2 ^ f.len := by
    rw [get, prep, start, Nat.pow_add, Nat.mul_comm (2 ^ g.lo), ← Nat.div_div_eq_div_mul,
      Nat.div_right_comm, Nat.mul_div_cancel _ (Nat.two_pow_pos g.lo)]
  rw [value, start, Nat.add_sub_cancel_left, shifted, ← residue]
  norm_cast

/-- What was put into a shorter field at the same place. -/
theorem get_prep_of_le (start : f.lo = g.lo) (short : g.len ≤ f.len) :
    f.get (g.prep v) = (v % 2 ^ g.len).toNat := by
  have fits : (v % 2 ^ g.len).toNat < 2 ^ f.len :=
    Nat.lt_of_lt_of_le (residue_lt g.len v) (Nat.pow_le_pow_right Nat.two_pos short)
  rw [get, prep, start, Nat.mul_div_cancel _ (Nat.two_pow_pos g.lo), Nat.mod_eq_of_lt fits]

/-! ## Reading back what was put there -/

theorem get_prep_nat {n : Nat} (fits : n < 2 ^ f.len) : f.get (f.prep n) = n := by
  have residue : (n : Int) % 2 ^ f.len = n :=
    Int.emod_eq_of_lt (by positivity) (by exact_mod_cast fits)
  rw [get_prep, residue, Int.toNat_natCast]

theorem getSigned_prep (low : -(2 ^ f.len / 2 : Int) ≤ v) (high : v < (2 ^ f.len + 1) / 2) :
    f.getSigned (f.prep v) = v := by
  have residue : ((v % 2 ^ f.len).toNat : Int) = v % 2 ^ f.len :=
    Int.toNat_of_nonneg (Int.emod_nonneg v (by positivity))
  have cast : (2 : Int) ^ f.len = ((2 ^ f.len : Nat) : Int) := by push_cast; rfl
  rw [getSigned, get_prep, residue, cast, Int.emod_bmod]
  apply Int.bmod_eq_of_le
  · rw [← cast]
    exact low
  · rw [← cast]
    exact high

/-- In a word whose other parts lie apart. -/
theorem getSigned_of_get {w : Nat} (alone : f.get w = f.get (f.prep v))
    (low : -(2 ^ f.len / 2 : Int) ≤ v) (high : v < (2 ^ f.len + 1) / 2) : f.getSigned w = v := by
  rw [getSigned, alone, ← getSigned]
  exact getSigned_prep low high

theorem get_flag (inhabited : 0 < f.len) (b : Bool) : f.get (f.flag b) = if b then 1 else 0 := by
  have room : 1 < 2 ^ f.len := Nat.one_lt_two_pow inhabited.ne'
  cases b with
  | true => exact get_prep_nat room
  | false => exact get_prep_nat (Nat.lt_of_succ_lt room)

theorem isSet_or (f : BitField) (a b : Nat) : f.isSet (a ||| b) = (f.isSet a || f.isSet b) := by
  have split : f.get a ||| f.get b = 0 ↔ f.get a = 0 ∧ f.get b = 0 := Nat.or_eq_zero_iff
  rw [isSet, isSet, isSet, get_or, Bool.eq_iff_iff, Bool.or_eq_true, bne_iff_ne, bne_iff_ne,
    bne_iff_ne, Ne, split]
  tauto

theorem isSet_prep_of_apart (apart : f.Apart g) : f.isSet (g.prep v) = false := by
  rw [isSet, get_prep_of_apart apart]
  rfl

theorem isSet_flag (inhabited : 0 < f.len) (b : Bool) : f.isSet (f.flag b) = b := by
  rw [isSet, get_flag inhabited]
  cases b with
  | true => rfl
  | false => rfl

theorem get_flag_of_apart (apart : f.Apart g) (b : Bool) : f.get (g.flag b) = 0 :=
  get_prep_of_apart apart

theorem isSet_flag_of_apart (apart : f.Apart g) (b : Bool) : f.isSet (g.flag b) = false :=
  isSet_prep_of_apart apart

/-! ## Fields put together with shifts -/

theorem prep_of_lt {n : Nat} (fits : n < 2 ^ f.len) : f.prep n = n * 2 ^ f.lo := by
  have residue : (n : Int) % 2 ^ f.len = n :=
    Int.emod_eq_of_lt (by positivity) (by exact_mod_cast fits)
  rw [prep, residue, Int.toNat_natCast]

/-- A number that has room is shifted to its field. -/
theorem toNat_shiftLeft (f : BitField) {x k : UInt32} (start : k.toNat = f.lo)
    (inside : f.lo + f.len ≤ 32) (nonempty : 0 < f.len) (fits : x.toNat < 2 ^ f.len) :
    (x <<< k).toNat = f.prep x.toNat := by
  have room : x.toNat * 2 ^ f.lo < 2 ^ 32 := by
    calc x.toNat * 2 ^ f.lo < 2 ^ f.len * 2 ^ f.lo :=
          Nat.mul_lt_mul_of_pos_right fits (Nat.two_pow_pos f.lo)
      _ = 2 ^ (f.lo + f.len) := by rw [Nat.add_comm, Nat.pow_add]
      _ ≤ 2 ^ 32 := Nat.pow_le_pow_right Nat.two_pos inside
  rw [UInt32.toNat_shiftLeft, start, Nat.mod_eq_of_lt (by omega : f.lo < 32), Nat.shiftLeft_eq,
    Nat.mod_eq_of_lt room, prep_of_lt fits]

/-- The lowest bits of a number of either sign, from its two's complement. -/
theorem toNat_mask (len : Nat) {x m : UInt32} (word : (x.toNat : Int) = v % 2 ^ 32)
    (mask : m.toNat = 2 ^ len - 1) (inside : len ≤ 32) :
    (x &&& m).toNat = (v % 2 ^ len).toNat := by
  obtain ⟨more, split⟩ := Nat.exists_eq_add_of_le inside
  have divides : (2 : Int) ^ len ∣ 2 ^ 32 := by
    rw [split, pow_add]
    exact dvd_mul_right _ _
  have residue : ((x.toNat % 2 ^ len : Nat) : Int) = v % 2 ^ len := by
    rw [Int.natCast_mod, word, Nat.cast_pow, Nat.cast_ofNat, Int.emod_emod_of_dvd _ divides]
  rw [UInt32.toNat_and, mask, Nat.and_two_pow_sub_one_eq_mod, ← residue, Int.toNat_natCast]

/-- They are shifted to their field. -/
theorem toNat_masked (f : BitField) {x m k : UInt32} (word : (x.toNat : Int) = v % 2 ^ 32)
    (mask : m.toNat = 2 ^ f.len - 1) (start : k.toNat = f.lo) (inside : f.lo + f.len ≤ 32)
    (nonempty : 0 < f.len) : ((x &&& m) <<< k).toNat = f.prep v := by
  have bits := toNat_mask f.len word mask (by omega)
  have fits : (x &&& m).toNat < 2 ^ f.len := by
    rw [bits]
    exact residue_lt f.len v
  rw [toNat_shiftLeft f start inside nonempty fits, prep_of_lt fits, bits, prep]

theorem toNat_toUInt32 (b : Int32) : (b.toUInt32.toNat : Int) = b.toInt % 2 ^ 32 := by
  have small := b.toUInt32.toNat_lt
  have bits : b.toBitVec.toNat = b.toUInt32.toNat := rfl
  rw [← Int32.toInt_toBitVec, BitVec.toInt_eq_toNat_bmod, Int.bmod_def, bits]
  norm_num
  split <;> omega

end BitField
