import FrigateAsahi.Lib.Bits
import FrigateAsahi.Lib.Python

/-!
# The bit reader

`BR` strips the emulation prevention from a NAL unit and reads numbers off its bits. `Reads` says
that a method takes one code off the front of what is left and returns one value. It composes along
the `do` notation, so what a parser makes of a whole syntax structure follows from its elements.
-/

namespace NalInfo

open Text (Bytes)
open Python Bits

/-! ## The class -/

structure BR : Type where
  d : Bytes
  pos : Nat

/-- A method of the reader. -/
abbrev BRM (α : Type) : Type := StateT BR (Except PyErr) α

def indexError : PyErr := exception "index out of range"

/-- The loop of the constructor. -/
def strip : Bytes → Bytes
  | 0 :: 0 :: 3 :: data => 0 :: 0 :: strip data
  | b :: data => b :: strip data
  | [] => []

def BR.new (data : Bytes) : BR := ⟨strip data, 0⟩

/-- One round of the loop in `u`. -/
def nextBit : BRM Nat := fun br =>
  match br.d[br.pos >>> 3]? with
  | none => .error indexError
  | some byte => .ok ((byte.toNat >>> (7 - (br.pos &&& 7))) &&& 1, { br with pos := br.pos + 1 })

def uLoop : Nat → Nat → BRM Nat
  | 0, v => pure v
  | n + 1, v => do
    let bit ← nextBit
    uLoop n ((v <<< 1) ||| bit)

def u (n : Nat) : BRM Nat := uLoop n 0

/-- `while self.u(1) == 0: lz += 1`, where so many bits are left. -/
def countZeros : Nat → Nat → BRM Nat
  | 0, _ => throw indexError
  | left + 1, lz => do
    let bit ← u 1
    if bit = 0 then countZeros left (lz + 1) else pure lz

def ue : BRM Nat := do
  let br ← get
  let lz ← countZeros (8 * br.d.length - br.pos) 0
  let suffix ← u lz
  pure ((1 <<< lz) - 1 + suffix)

def se : BRM Int := do
  let k ← ue
  pure (if k &&& 1 ≠ 0 then ((k + 1) / 2 : Nat) else -((k / 2 : Nat) : Int))

/-- The position of the last one in the first `i` octets. -/
def lastOne (d : Bytes) : Nat → Option Nat
  | 0 => none
  | i + 1 =>
    let b := d.getD i 0
    if b ≠ 0 then some (i * 8 + 7 - Nat.log2 (b &&& -b).toNat) else lastOne d i

def moreRbspData (br : BR) : Bool :=
  match lastOne br.d br.d.length with
  | none => false
  | some last => decide (br.pos < last)

/-! ## Reading codes -/

/-- The bits that are left. -/
def BR.left (br : BR) : List Bool := (ofBytes br.d).drop br.pos

def BR.skip (br : BR) (n : Nat) : BR := { br with pos := br.pos + n }

@[simp] theorem BR.left_skip (br : BR) (n : Nat) : (br.skip n).left = br.left.drop n :=
  (List.drop_drop ..).symm

@[simp] theorem BR.d_skip (br : BR) (n : Nat) : (br.skip n).d = br.d := rfl

theorem BR.skip_skip (br : BR) (m n : Nat) : (br.skip m).skip n = br.skip (m + n) := by
  rw [skip, skip, skip, Nat.add_assoc]

/-- The method reads a code off the front of the bits that are left, and returns a value. -/
def Reads {α : Type} (p : BRM α) (code : List Bool) (a : α) : Prop :=
  ∀ br rest, br.left = code ++ rest → p br = .ok (a, br.skip code.length)

namespace Reads

variable {α β : Type}

theorem pure (a : α) : Reads (pure a) [] a := fun _ _ _ => rfl

theorem bind {p : BRM α} {f : α → BRM β} {first next : List Bool} {a : α} {b : β}
    (head : Reads p first a) (tail : Reads (f a) next b) : Reads (p >>= f) (first ++ next) b := by
  intro br rest held
  rw [List.append_assoc] at held
  have left : (br.skip first.length).left = next ++ rest := by
    rw [BR.left_skip, held, List.drop_left]
  change (p br).bind (fun x => f x.1 x.2) = _
  rw [head br _ held]
  change f a (br.skip first.length) = _
  rw [tail _ _ left, BR.skip_skip, List.length_append]

/-- A last step that reads nothing. -/
theorem map {p : BRM α} {f : α → BRM β} {code : List Bool} {a : α} {b : β} (head : Reads p code a)
    (tail : Reads (f a) [] b) : Reads (p >>= f) code b := by
  have both := head.bind tail
  rwa [List.append_nil] at both

end Reads

theorem reads_nextBit (b : Bool) : Reads nextBit [b] b.toNat := by
  intro br rest held
  have bit : (ofBytes br.d)[br.pos]? = some b := by
    rw [← List.head?_drop]
    exact congrArg List.head? held
  rw [getElem?_ofBytes] at bit
  obtain ⟨byte, found, same⟩ := Option.map_eq_some_iff.mp bit
  have shifted : br.pos >>> 3 = br.pos / 8 := Nat.shiftRight_eq_div_pow _ 3
  have low : br.pos &&& 7 = br.pos % 8 := Nat.and_two_pow_sub_one_eq_mod _ 3
  have number : (byte.toNat >>> (7 - br.pos % 8)) &&& 1 = b.toNat := by
    rw [Nat.and_one_is_mod, Nat.shiftRight_eq_div_pow, ← Nat.toNat_testBit, same]
  rw [nextBit, shifted, found, low]
  dsimp only
  rw [number]
  rfl

theorem reads_uLoop (code : List Bool) (v : Nat) :
    Reads (uLoop code.length v) code (2 ^ code.length * v + value code) := by
  induction code generalizing v with
  | nil =>
      have same : 2 ^ ([] : List Bool).length * v + value [] = v := by simp [value]
      rw [same]
      exact Reads.pure v
  | cons b code ih =>
      have joined : (v <<< 1) ||| b.toNat = 2 * v + b.toNat := by
        rw [← Nat.shiftLeft_add_eq_or_of_lt (i := 1) (Bool.toNat_lt b), Nat.shiftLeft_eq, pow_one,
          Nat.mul_comm]
      have same : 2 ^ (b :: code).length * v + value (b :: code) =
          2 ^ code.length * (2 * v + b.toNat) + value code := by
        rw [value_cons, List.length_cons, pow_succ]
        ring
      rw [same, ← joined]
      exact (reads_nextBit b).bind (ih _)

/-- Any bits, as one number. -/
theorem reads_bits (code : List Bool) : Reads (u code.length) code (value code) := by
  have whole := reads_uLoop code 0
  rwa [Nat.mul_zero, Nat.zero_add] at whole

theorem reads_u {n v : Nat} (fits : v < 2 ^ n) : Reads (u n) (fixed n v) v := by
  have whole := reads_bits (fixed n v)
  rwa [length_fixed, value_fixed_of_lt fits] at whole

theorem reads_countZeros {zeros left : Nat} (enough : zeros < left) (lz : Nat) :
    Reads (countZeros left lz) (List.replicate zeros false ++ [true]) (lz + zeros) := by
  induction zeros generalizing left lz with
  | zero =>
      obtain ⟨left, rfl⟩ : ∃ l, left = l + 1 := ⟨left - 1, by omega⟩
      rw [countZeros]
      exact (reads_bits [true]).map (Reads.pure lz)
  | succ zeros ih =>
      obtain ⟨left, rfl⟩ : ∃ l, left = l + 1 := ⟨left - 1, by omega⟩
      have count : lz + (zeros + 1) = lz + 1 + zeros := by omega
      rw [countZeros, count]
      exact (reads_bits [false]).bind (ih (by omega) (lz + 1))

theorem BR.length_left (br : BR) : br.left.length = 8 * br.d.length - br.pos := by
  rw [left, List.length_drop, length_ofBytes]

/-- `ue` of every code of the shape of an Exp-Golomb code. -/
theorem reads_ue_suffix (suffix : List Bool) :
    Reads ue (List.replicate suffix.length false ++ true :: suffix)
      (2 ^ suffix.length - 1 + value suffix) := by
  intro br rest held
  have enough : suffix.length < 8 * br.d.length - br.pos := by
    rw [← br.length_left, held]
    simp only [List.length_append, List.length_replicate, List.length_cons]
    omega
  have zeros := reads_countZeros enough 0
  rw [Nat.zero_add] at zeros
  have number : Reads (do let v ← u suffix.length; pure ((1 <<< suffix.length) - 1 + v)) suffix
      (2 ^ suffix.length - 1 + value suffix) := by
    rw [← Nat.one_shiftLeft]
    exact (reads_bits suffix).map (Reads.pure _)
  have both := Reads.bind (f := fun lz => do
    let suffix ← u lz
    pure ((1 <<< lz) - 1 + suffix)) zeros number
  rw [List.append_assoc] at both
  exact both br rest held

theorem reads_ue (k : Nat) : Reads ue (golomb k) k := by
  have whole := reads_ue_suffix (fixed (Nat.log2 (k + 1)) (k + 1 - 2 ^ Nat.log2 (k + 1)))
  rwa [length_fixed, value_fixed_of_lt (golomb_suffix_lt k), golomb_value] at whole

/-- `se` turns code numbers back into integers. -/
theorem integer_codeNumber (v : Int) :
    (if codeNumber v &&& 1 ≠ 0 then (((codeNumber v + 1) / 2 : Nat) : Int)
      else -((codeNumber v / 2 : Nat) : Int)) = v := by
  rw [Nat.and_one_is_mod, codeNumber]
  by_cases pos : 0 < v
  · rw [if_pos pos, if_pos (by omega)]
    omega
  · rw [if_neg pos, if_neg (by omega)]
    omega

theorem reads_se (v : Int) : Reads se (signedGolomb v) v := by
  have last : Reads (pure (if codeNumber v &&& 1 ≠ 0 then (((codeNumber v + 1) / 2 : Nat) : Int)
      else -((codeNumber v / 2 : Nat) : Int))) [] v := by
    rw [integer_codeNumber]
    exact Reads.pure v
  exact (reads_ue (codeNumber v)).map last

theorem reads_flag (b : Bool) : Reads (u 1) [b] b.toNat := by
  have number : value [b] = b.toNat := by
    rw [value, List.foldl_cons, List.foldl_nil, Nat.mul_zero, Nat.zero_add]
  have whole := reads_bits [b]
  rwa [number] at whole

theorem reads_byte (b : UInt8) : Reads (u 8) (fixed 8 b.toNat) b.toNat := reads_u b.toNat_lt

/-! ## Statements -/

/-- `if c: p` -/
def onlyIf (c : Prop) [Decidable c] {α : Type} (p : BRM α) : BRM Unit :=
  if c then do
    let _ ← p
    pure ()
  else pure ()

/-- `for _ in range(n): body` -/
def forRange {α : Type} (body : BRM α) : Nat → BRM Unit
  | 0 => pure ()
  | n + 1 => do
    let _ ← body
    forRange body n

theorem reads_onlyIf {α : Type} {c : Prop} [Decidable c] {p : BRM α} {code : List Bool} {a : α}
    (body : Reads p code a) : Reads (onlyIf c p) (if c then code else []) () := by
  rw [onlyIf]
  split
  · exact body.map (Reads.pure ())
  · exact Reads.pure ()

theorem reads_forRange {α β : Type} {body : BRM α} {code : β → List Bool} {items : List β}
    (each : ∀ x ∈ items, ∃ a, Reads body (code x) a) :
    Reads (forRange body items.length) (items.flatMap code) () := by
  induction items with
  | nil => exact Reads.pure ()
  | cons x items ih =>
      obtain ⟨a, here⟩ := each x (by simp)
      exact here.bind (ih fun y member => each y (by simp [member]))

/-! ## What was read -/

/-- The reader has moved over these bits. -/
def Took (br : BR) (code : List Bool) (br' : BR) : Prop :=
  code <+: br.left ∧ br' = br.skip code.length

theorem Took.nil (br : BR) : Took br [] br := ⟨List.nil_prefix, rfl⟩

theorem Took.append {br br' br'' : BR} {first next : List Bool} (head : Took br first br')
    (tail : Took br' next br'') : Took br (first ++ next) br'' := by
  obtain ⟨⟨rest, left⟩, rfl⟩ := head
  obtain ⟨more, rfl⟩ := tail
  rw [BR.left_skip, ← left, List.drop_left] at more
  refine ⟨?_, by rw [BR.skip_skip, List.length_append]⟩
  rw [← left]
  exact (List.prefix_append_right_inj first).mpr more

theorem ran_bind {α β : Type} {p : BRM α} {f : α → BRM β} {br br'' : BR} {b : β}
    (ran : (p >>= f) br = .ok (b, br'')) :
    ∃ a br', p br = .ok (a, br') ∧ f a br' = .ok (b, br'') := by
  change (p br).bind (fun x => f x.1 x.2) = _ at ran
  cases first : p br with
  | error e =>
      rw [first] at ran
      cases ran
  | ok x =>
      rw [first] at ran
      exact ⟨x.1, x.2, rfl, ran⟩

theorem ran_pure {α : Type} {a b : α} {br br' : BR} (ran : (pure a : BRM α) br = .ok (b, br')) :
    b = a ∧ br' = br := by
  cases ran
  exact ⟨rfl, rfl⟩

theorem took_nextBit {br br' : BR} {v : Nat} (ran : nextBit br = .ok (v, br')) :
    ∃ b : Bool, v = b.toNat ∧ Took br [b] br' := by
  cases left : br.left with
  | nil =>
      have beyond : (ofBytes br.d)[br.pos]? = none := by
        rw [← List.head?_drop]
        exact congrArg List.head? left
      rw [getElem?_ofBytes, Option.map_eq_none_iff] at beyond
      have shifted : br.pos >>> 3 = br.pos / 8 := Nat.shiftRight_eq_div_pow _ 3
      rw [nextBit, shifted, beyond] at ran
      cases ran
  | cons b rest =>
      have read := reads_nextBit b br rest left
      rw [ran] at read
      cases read
      exact ⟨b, rfl, ⟨rest, left.symm⟩, rfl⟩

theorem took_uLoop {n v w : Nat} {br br' : BR} (ran : uLoop n v br = .ok (w, br')) :
    ∃ code, code.length = n ∧ w = 2 ^ n * v + value code ∧ Took br code br' := by
  induction n generalizing v br with
  | zero =>
      obtain ⟨rfl, rfl⟩ := ran_pure ran
      exact ⟨[], rfl, by simp [value], Took.nil _⟩
  | succ n ih =>
      obtain ⟨bit, middle, first, rest⟩ := ran_bind ran
      obtain ⟨b, rfl, head⟩ := took_nextBit first
      obtain ⟨code, rfl, number, tail⟩ := ih rest
      refine ⟨b :: code, rfl, ?_, head.append tail⟩
      have joined : (v <<< 1) ||| b.toNat = 2 * v + b.toNat := by
        rw [← Nat.shiftLeft_add_eq_or_of_lt (i := 1) (Bool.toNat_lt b), Nat.shiftLeft_eq, pow_one,
          Nat.mul_comm]
      rw [number, joined, value_cons, pow_succ]
      ring

theorem took_u {n v : Nat} {br br' : BR} (ran : u n br = .ok (v, br')) :
    ∃ code, code.length = n ∧ v = value code ∧ Took br code br' := by
  obtain ⟨code, length, number, took⟩ := took_uLoop ran
  rw [Nat.mul_zero, Nat.zero_add] at number
  exact ⟨code, length, number, took⟩

theorem took_flag {v : Nat} {br br' : BR} (ran : u 1 br = .ok (v, br')) :
    ∃ b : Bool, v = b.toNat ∧ Took br [b] br' := by
  obtain ⟨code, one, number, took⟩ := took_u ran
  obtain ⟨b, rfl⟩ := List.length_eq_one_iff.mp one
  refine ⟨b, ?_, took⟩
  rw [number, value, List.foldl_cons, List.foldl_nil, Nat.mul_zero, Nat.zero_add]

theorem took_countZeros {left lz w : Nat} {br br' : BR} (ran : countZeros left lz br = .ok (w, br')) :
    ∃ zeros, w = lz + zeros ∧ Took br (List.replicate zeros false ++ [true]) br' := by
  induction left generalizing lz br with
  | zero => cases ran
  | succ left ih =>
      obtain ⟨bit, middle, first, rest⟩ := ran_bind ran
      obtain ⟨b, rfl, head⟩ := took_flag first
      cases b with
      | false =>
          obtain ⟨zeros, rfl, tail⟩ := ih rest
          exact ⟨zeros + 1, by omega, head.append tail⟩
      | true =>
          obtain ⟨rfl, rfl⟩ := ran_pure rest
          exact ⟨0, rfl, head⟩

theorem took_ue {k : Nat} {br br' : BR} (ran : ue br = .ok (k, br')) : Took br (golomb k) br' := by
  obtain ⟨held, same, got, ran⟩ := ran_bind ran
  cases got
  obtain ⟨lz, middle, zeros, rest⟩ := ran_bind ran
  obtain ⟨count, same, head⟩ := took_countZeros zeros
  obtain ⟨number, after, suffix, last⟩ := ran_bind rest
  obtain ⟨code, length, rfl, tail⟩ := took_u suffix
  obtain ⟨rfl, rfl⟩ := ran_pure last
  rw [Nat.zero_add] at same
  rw [← length, Nat.one_shiftLeft, golomb_of_suffix, length, same]
  have both := head.append tail
  rwa [List.append_assoc] at both

theorem took_se {v : Int} {br br' : BR} (ran : se br = .ok (v, br')) :
    Took br (signedGolomb v) br' := by
  obtain ⟨k, middle, number, last⟩ := ran_bind ran
  have took := took_ue number
  obtain ⟨w, rfl⟩ := exists_codeNumber k
  rw [integer_codeNumber] at last
  obtain ⟨rfl, rfl⟩ := ran_pure last
  exact took

/-! ## The stop bit -/

theorem log2_lowest (b : UInt8) {k : Nat} (below : k < 8) (one : b.toNat.testBit k = true)
    (zeros : ∀ j < k, b.toNat.testBit j = false) : Nat.log2 (b &&& -b).toNat = k := by
  have all : ∀ n < 256, ∀ k < 8, Nat.testBit n k = true → (∀ j < k, Nat.testBit n j = false) →
      Nat.log2 (UInt8.ofNat n &&& -UInt8.ofNat n).toNat = k := by decide +kernel
  have found := all b.toNat b.toNat_lt k below one zeros
  rwa [UInt8.ofNat_toNat] at found

theorem eq_zero_of_bits {b : UInt8} (zeros : ∀ j < 8, b.toNat.testBit j = false) : b = 0 := by
  refine UInt8.toNat_inj.mp (Nat.eq_of_testBit_eq fun j => ?_)
  rw [UInt8.toNat_zero, Nat.zero_testBit]
  by_cases inside : j < 8
  · exact zeros j inside
  · have large : 2 ^ 8 ≤ 2 ^ j := Nat.pow_le_pow_right (by omega) (by omega)
    exact Nat.testBit_lt_two_pow (Nat.lt_of_lt_of_le b.toNat_lt large)

theorem lastOne_eq {d : Bytes} {pos i : Nat} (one : (ofBytes d)[pos]? = some true)
    (zeros : ∀ q, pos < q → q < 8 * i → (ofBytes d)[q]? = some false) (inside : pos < 8 * i) :
    lastOne d i = some pos := by
  induction i with
  | zero => omega
  | succ i ih =>
      have octet (j : Nat) (below : j < 8) :
          (ofBytes d)[8 * i + 7 - j]? = d[i]?.map fun b => b.toNat.testBit j := by
        have place : (8 * i + 7 - j) / 8 = i := by omega
        have bit : 7 - (8 * i + 7 - j) % 8 = j := by omega
        rw [getElem?_ofBytes, place, bit]
      rw [lastOne]
      by_cases here : 8 * i ≤ pos
      · obtain ⟨k, below, rfl⟩ : ∃ k, k < 8 ∧ pos = 8 * i + 7 - k :=
          ⟨8 * i + 7 - pos, by omega, by omega⟩
        rw [octet k below] at one
        obtain ⟨b, found, set⟩ := Option.map_eq_some_iff.mp one
        have clear : ∀ j < k, b.toNat.testBit j = false := by
          intro j lower
          have later := zeros (8 * i + 7 - j) (by omega) (by omega)
          rw [octet j (by omega), found] at later
          exact Option.some.inj later
        have held : d.getD i 0 = b := by rw [List.getD_eq_getElem?_getD, found]; rfl
        have filled : b ≠ 0 := by
          rintro rfl
          rw [UInt8.toNat_zero, Nat.zero_testBit] at set
          cases set
        rw [held, if_pos filled, log2_lowest b below set clear, Nat.mul_comm]
      · have empty : d.getD i 0 = 0 := by
          rw [List.getD_eq_getElem?_getD]
          cases found : d[i]? with
          | none => rfl
          | some b =>
              refine eq_zero_of_bits fun j below => ?_
              have later := zeros (8 * i + 7 - j) (by omega) (by omega)
              rw [octet j below, found] at later
              exact Option.some.inj later
        rw [empty, if_neg (fun differ => differ rfl)]
        exact ih (fun q after before => zeros q after (by omega)) (by omega)

/-- The stop bit is the last one of a closed code. -/
theorem moreRbspData_eq {br : BR} {code : List Bool} (held : br.d = close code) :
    moreRbspData br = decide (br.pos < code.length) := by
  have bits := ofBytes_close code
  have size := congrArg List.length bits
  rw [length_ofBytes, List.length_append, stop, List.length_cons, List.length_replicate] at size
  have last : lastOne (close code) (close code).length = some code.length := by
    refine lastOne_eq ?_ (fun q after inside => ?_) (by omega)
    · rw [bits, List.getElem?_append_right (Nat.le_refl _), Nat.sub_self]
      rfl
    · obtain ⟨k, rfl⟩ : ∃ k, q = code.length + (k + 1) := ⟨q - code.length - 1, by omega⟩
      rw [bits, List.getElem?_append_right (by omega), Nat.add_sub_cancel_left, stop,
        List.getElem?_cons_succ, List.getElem?_replicate, if_pos (by omega)]
  rw [moreRbspData, held, last]

/-! ## Emulation prevention -/

/-- Octets at which no three is due to be dropped before the next two zeros. -/
def Settled (zeros : Nat) (data : Bytes) : Prop :=
  (1 ≤ zeros → ¬ [0, 3] <+: data) ∧ (2 ≤ zeros → ¬ [3] <+: data)

theorem strip_eq_unescape {zeros : Nat} {data : Bytes} (settled : Settled zeros data) :
    strip data = unescape zeros data := by
  induction data using strip.induct generalizing zeros with
  | case1 data ih =>
      have fresh : Settled 0 data := ⟨fun some => by omega, fun two => by omega⟩
      rw [strip, ih fresh]
      simp [unescape]
  | case2 b data other ih =>
      have kept : ¬ (b = 3 ∧ 2 ≤ zeros) := by
        rintro ⟨rfl, two⟩
        exact settled.2 two ⟨data, rfl⟩
      have next : Settled (if b = 0 then zeros + 1 else 0) data := by
        split
        · next zero =>
            subst zero
            refine ⟨?_, fun two start => settled.1 (by omega) ?_⟩
            · rintro - ⟨rest, rfl⟩
              exact other rest rfl rfl
            · obtain ⟨rest, rfl⟩ := start
              exact ⟨rest, rfl⟩
        · exact ⟨fun some => by omega, fun two => by omega⟩
      rw [strip, unescape, if_neg kept, ih next]
      exact fun rest => other rest
  | case3 => rfl

theorem strip_eq (data : Bytes) : strip data = unescape 0 data :=
  strip_eq_unescape ⟨fun some => by omega, fun two => by omega⟩

theorem strip_escape (data : Bytes) : strip (escape 0 data) = data := by
  rw [strip_eq, unescape_escape]

/-! ## Raw byte sequence payloads -/

/-- A syntax element with its value. -/
inductive Element : Type
  | u (n v : Nat) (fits : v < 2 ^ n)
  | ue (k : Nat)
  | se (v : Int)

namespace Element

def code : Element → List Bool
  | u n v _ => fixed n v
  | ue k => golomb k
  | se v => signedGolomb v

def value : Element → Int
  | u _ v _ => v
  | ue k => k
  | se v => v

/-- The call of the reader for such an element. -/
def read : Element → BRM Int
  | u n _ _ => do
    let v ← NalInfo.u n
    pure v
  | ue _ => do
    let v ← NalInfo.ue
    pure v
  | se _ => NalInfo.se

theorem reads (e : Element) : Reads e.read e.code e.value := by
  cases e with
  | u n v fits => exact (reads_u fits).map (Reads.pure _)
  | ue k => exact (reads_ue k).map (Reads.pure _)
  | se v => exact reads_se v

end Element

def codes (elements : List Element) : List Bool := elements.flatMap Element.code

def readAll : List Element → BRM (List Int)
  | [] => pure []
  | e :: elements => do
    let v ← e.read
    let vs ← readAll elements
    pure (v :: vs)

theorem reads_readAll (elements : List Element) :
    Reads (readAll elements) (codes elements) (elements.map Element.value) := by
  induction elements with
  | nil => exact Reads.pure []
  | cons e elements ih => exact e.reads.bind (ih.map (Reads.pure _))

/-- The octets of a payload as the writer puts them into a NAL unit. -/
def payload (elements : List Element) : Bytes := escape 0 (close (codes elements))

/-- The reader gives back what the writer wrote, at every position of the payload, and unescapes
every octet string by the rule of the syntax. -/
theorem bitReader_undoes_writer :
    (∀ elements : List Element,
      (BR.new (payload elements)).d = close (codes elements) ∧
      (∀ front back, elements = front ++ back →
        readAll front (BR.new (payload elements)) =
          .ok (front.map Element.value, (BR.new (payload elements)).skip (codes front).length)) ∧
      ∀ pos ≤ (codes elements).length,
        moreRbspData { BR.new (payload elements) with pos } =
          decide (pos < (codes elements).length)) ∧
    ∀ data : Bytes, (BR.new data).d = unescape 0 data := by
  refine ⟨fun elements => ?_, strip_eq⟩
  have held : (BR.new (payload elements)).d = close (codes elements) := strip_escape _
  refine ⟨held, fun front back split => ?_, fun pos _ => moreRbspData_eq held⟩
  have bits : (BR.new (payload elements)).left =
      codes front ++ (codes back ++ stop (codes elements).length) := by
    rw [BR.left, held, ofBytes_close, ← List.append_assoc, split, codes, List.flatMap_append]
    rfl
  exact reads_readAll front _ _ bits

end NalInfo
