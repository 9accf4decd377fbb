import FrigateAsahi.Avd.SliceStream
import FrigateAsahi.Lib.Bits
import Mathlib

/-!
# Where the slice data begins

The header's size is counted in bits without the octets that keep start codes out of the payload, the
address that the VP gets is one in the payload. The loop that goes from one to the other counts
exactly the octets that are left of the header when those are taken out.
-/

namespace Avd

open Text (Bytes)

namespace CodedSlice

variable {slice : CodedSlice} {off : UInt32}

/-- The payload without the octets that keep start codes out of it. -/
def rbsp (slice : CodedSlice) : Bytes := Bits.unescape 0 slice.payload

/-- The zeros that stand before an offset. -/
def zerosBefore (slice : CodedSlice) (off : UInt32) : Nat :=
  Bits.zerosAfter 0 (slice.payload.take off.toNat)

/-- How much of the header the octets before an offset are. -/
def taken (slice : CodedSlice) (off : UInt32) : Nat :=
  (Bits.unescape 0 (slice.payload.take off.toNat)).length

/-! ## One round of the loop -/

theorem two_le_zerosBefore_iff (two : 2 ≤ off.toNat) (inside : off.toNat ≤ slice.payload.length) :
    2 ≤ slice.zerosBefore off ↔
      slice.payload[off.toNat - 2]? = some 0 ∧ slice.payload[off.toNat - 1]? = some 0 := by
  obtain ⟨n, count⟩ := Nat.exists_eq_add_of_le' two
  have first : slice.payload[n]? = some slice.payload[n] := List.getElem?_eq_getElem (by omega)
  have second : slice.payload[n + 1]? = some slice.payload[n + 1] :=
    List.getElem?_eq_getElem (by omega)
  have front : slice.payload.take (n + 2) =
      slice.payload.take n ++ [slice.payload[n], slice.payload[n + 1]] := by
    rw [List.take_add_one, List.take_add_one, first, second, List.append_assoc]
    rfl
  rw [zerosBefore, count, front, Bits.two_le_zerosAfter_iff]
  simp [first, second]

theorem counts_eq (two : 2 ≤ off.toNat) {c : UInt8} (here : slice.payload[off.toNat]? = some c) :
    slice.counts off = some (decide ¬ (2 ≤ slice.zerosBefore off ∧ c = 3)) := by
  have inside := (List.getElem?_eq_some_iff.mp here).1
  have back2 : (off - 2).toNat = off.toNat - 2 :=
    UInt32.toNat_sub_of_le _ _ (UInt32.le_iff_toNat_le.mpr two)
  have back1 : (off - 1).toNat = off.toNat - 1 :=
    UInt32.toNat_sub_of_le _ _ (UInt32.le_iff_toNat_le.mpr (Nat.le_of_succ_le two))
  have zeros := slice.two_le_zerosBefore_iff two (Nat.le_of_lt inside)
  have first : slice.payload[off.toNat - 2]? = some slice.payload[off.toNat - 2] :=
    List.getElem?_eq_getElem (by omega)
  have second : slice.payload[off.toNat - 1]? = some slice.payload[off.toNat - 1] :=
    List.getElem?_eq_getElem (by omega)
  rw [first, second, Option.some.injEq, Option.some.injEq] at zeros
  rw [counts, back2, back1, plane_of_payload first, plane_of_payload second, plane_of_payload here]
  simp only [zeros]
  by_cases a : slice.payload[off.toNat - 2] = 0
  · by_cases b : slice.payload[off.toNat - 1] = 0
    · simp [a, b]
    · simp [a, b]
  · simp [a]

theorem taken_succ {c : UInt8} (here : slice.payload[off.toNat]? = some c)
    (next : (off + 1).toNat = off.toNat + 1) :
    slice.taken (off + 1) =
      slice.taken off + if 2 ≤ slice.zerosBefore off ∧ c = 3 then 0 else 1 := by
  rw [taken, next, List.take_add_one, here, Option.toList_some, Bits.unescape_append,
    List.length_append, ← taken, ← zerosBefore]
  congr 1
  by_cases drop : 2 ≤ slice.zerosBefore off ∧ c = 3
  · rw [if_pos drop, drop.2, Bits.unescape_dropped drop.1]
    rfl
  · have keep : ¬ (c = 3 ∧ 2 ≤ slice.zerosBefore off) := fun both => drop ⟨both.2, both.1⟩
    rw [if_neg drop, Bits.unescape, if_neg keep]
    rfl

/-! ## The loop -/

theorem taken_all (slice : CodedSlice) (whole : slice.payload.length ≤ off.toNat) :
    slice.taken off = slice.rbsp.length := by
  rw [taken, List.take_of_length_le whole, rbsp]

theorem toNat_succ (slice : CodedSlice) (before : off.toNat < slice.payload.length) :
    (off + 1).toNat = off.toNat + 1 := by
  have used := slice.used
  have small := slice.small
  rw [length_payload] at before
  rw [UInt32.toNat_add, UInt32.toNat_one]
  exact Nat.mod_eq_of_lt (by omega)

/-- The loop has taken the number of octets that it was to take, and it ends inside the payload if
that has so many of the header. -/
theorem emulationLoop_spec {left : Nat} {bytesRead : UInt32} (two : 2 ≤ off.toNat)
    (inside : off.toNat ≤ slice.payload.length) (counted : bytesRead.toNat = slice.taken off)
    (enough : slice.payload.length ≤ off.toNat + left)
    (fits : slice.minOff.toNat ≤ slice.rbsp.length) :
    ∃ last, slice.emulationLoop left bytesRead off = some last ∧ off.toNat ≤ last.toNat ∧
      last.toNat ≤ slice.payload.length ∧
      slice.taken last = max bytesRead.toNat slice.minOff.toNat := by
  induction left generalizing bytesRead off with
  | zero =>
      have stop : ¬ bytesRead < slice.minOff := by
        rw [UInt32.lt_iff_toNat_lt, counted, slice.taken_all (by omega)]
        omega
      refine ⟨off, by rw [emulationLoop, if_neg stop], Nat.le_refl _, inside, ?_⟩
      rw [← counted, Nat.max_eq_left (UInt32.le_iff_toNat_le.mp (UInt32.not_lt.mp stop))]
  | succ left ih =>
      by_cases more : bytesRead < slice.minOff
      · have order := UInt32.lt_iff_toNat_lt.mp more
        have before : off.toNat < slice.payload.length := by
          by_contra whole
          rw [counted, slice.taken_all (Nat.le_of_not_lt whole)] at order
          omega
        have next : (off + 1).toNat = off.toNat + 1 := slice.toNat_succ before
        have here : slice.payload[off.toNat]? = some slice.payload[off.toNat] :=
          List.getElem?_eq_getElem before
        have grown := slice.taken_succ here next
        rw [emulationLoop, if_pos more, slice.counts_eq two here]
        by_cases drop : 2 ≤ slice.zerosBefore off ∧ slice.payload[off.toNat] = 3
        · rw [if_pos drop, Nat.add_zero, ← counted] at grown
          obtain ⟨last, ended, forward, within, all⟩ :=
            ih (by omega) (by omega) grown.symm (by omega)
          refine ⟨last, ?_, by omega, within, all⟩
          rw [decide_eq_false (not_not_intro drop)]
          exact ended
        · have one : (bytesRead + 1).toNat = bytesRead.toNat + 1 := by
            have limit := slice.minOff.toNat_lt
            rw [UInt32.toNat_add, UInt32.toNat_one]
            exact Nat.mod_eq_of_lt (by omega)
          rw [if_neg drop, ← counted, ← one] at grown
          obtain ⟨last, ended, forward, within, all⟩ :=
            ih (by omega) (by omega) grown.symm (by omega)
          refine ⟨last, ?_, by omega, within, ?_⟩
          · rw [decide_eq_true drop]
            exact ended
          · rw [all, one]
            omega
      · refine ⟨off, by rw [emulationLoop, if_neg more], Nat.le_refl _, inside, ?_⟩
        rw [← counted, Nat.max_eq_left (UInt32.le_iff_toNat_le.mp (UInt32.not_lt.mp more))]

/-! ## The address and the bit -/

/-- The octets from an offset on, as a reader takes them that starts there. -/
def readFrom (slice : CodedSlice) (off : UInt32) : Bytes :=
  Bits.unescape 0 (slice.payload.drop off.toNat)

/-- The bit where the slice data begins: behind the header, with CABAC at the next octet. -/
def dataBegin (slice : CodedSlice) : Nat :=
  if slice.entropyCodingMode then 8 * ((slice.headerBitSize.toNat + 7) / 8)
  else slice.headerBitSize.toNat

/-- An octet behind the offset is one of those to be taken out because of zeros before the offset. -/
def SplitsEscape (slice : CodedSlice) (off : UInt32) : Prop :=
  (slice.payload[off.toNat - 2]? = some 0 ∧ slice.payload[off.toNat - 1]? = some 0 ∧
      slice.payload[off.toNat]? = some 3) ∨
    slice.payload[off.toNat - 1]? = some 0 ∧ slice.payload[off.toNat]? = some 0 ∧
      slice.payload[off.toNat + 1]? = some 3

instance (slice : CodedSlice) (off : UInt32) : Decidable (slice.SplitsEscape off) :=
  inferInstanceAs (Decidable (_ ∨ _))

theorem one_le_zerosBefore_iff (two : 2 ≤ off.toNat) (inside : off.toNat ≤ slice.payload.length) :
    1 ≤ slice.zerosBefore off ↔ slice.payload[off.toNat - 1]? = some 0 := by
  obtain ⟨n, count⟩ := Nat.exists_eq_add_of_le' (Nat.le_of_succ_le two)
  have last : slice.payload[n]? = some slice.payload[n] := List.getElem?_eq_getElem (by omega)
  have front : slice.payload.take (n + 1) = slice.payload.take n ++ [slice.payload[n]] := by
    rw [List.take_add_one, last]
    rfl
  rw [zerosBefore, count, front, Bits.one_le_zerosAfter_iff]
  simp [last]

/-- A reader that starts at the offset takes the octets for what they are in the payload, exactly
where it need not know of zeros before the offset. -/
theorem readFrom_eq_iff (two : 2 ≤ off.toNat) (inside : off.toNat ≤ slice.payload.length) :
    slice.readFrom off = Bits.unescape (slice.zerosBefore off) (slice.payload.drop off.toNat) ↔
      ¬ slice.SplitsEscape off := by
  rw [readFrom, Bits.unescape_fresh_iff, two_le_zerosBefore_iff two inside,
    one_le_zerosBefore_iff two inside, SplitsEscape, List.getElem?_drop, List.getElem?_drop,
    Nat.add_zero]
  tauto

/-- No octet is taken out of the first two. -/
theorem taken_two (slice : CodedSlice) (two : 2 ≤ slice.payload.length) :
    (2 : UInt32).toNat = slice.taken 2 := by
  match front : slice.payload, two with
  | a :: b :: rest, _ =>
      have kept : ¬ (b = 3 ∧ 2 ≤ if a = 0 then 0 + 1 else 0) := by
        split
        · omega
        · omega
      rw [taken, front]
      simp [Bits.unescape, kept]

theorem headerEnd_eq (two : 2 ≤ slice.payload.length)
    (fits : slice.minOff.toNat ≤ slice.rbsp.length) :
    ∃ off, slice.headerEnd = some off ∧ 2 ≤ off.toNat ∧ off.toNat ≤ slice.payload.length ∧
      slice.taken off = max 2 slice.minOff.toNat := by
  have first : 2 ≤ (2 : UInt32).toNat := Nat.le_refl 2
  have enough : slice.payload.length ≤ (2 : UInt32).toNat + slice.plane.length := by
    rw [length_payload]
    exact Nat.le_add_left_of_le slice.used
  exact emulationLoop_spec first two (slice.taken_two two) enough fits

theorem length_rbsp_le (slice : CodedSlice) : slice.rbsp.length ≤ slice.payload.length := by
  have shorter (zeros : Nat) (data : Bytes) : (Bits.unescape zeros data).length ≤ data.length := by
    induction data generalizing zeros with
    | nil => exact Nat.le_refl 0
    | cons b data ih =>
        rw [Bits.unescape]
        split
        · exact Nat.le_succ_of_le (ih 0)
        · exact Nat.succ_le_succ (ih _)
  exact shorter 0 slice.payload

theorem toNat_minOff (small : slice.headerBitSize.toNat + 7 < 2 ^ 32) :
    slice.minOff.toNat =
      (slice.headerBitSize.toNat + if slice.entropyCodingMode then 7 else 0) / 8 := by
  have eight : (8 : UInt32).toNat = 8 := rfl
  rw [minOff, UInt32.toNat_div, eight, UInt32.toNat_add]
  cases slice.entropyCodingMode with
  | true => exact congrArg (· / 8) (Nat.mod_eq_of_lt small)
  | false => exact congrArg (· / 8) (Nat.mod_eq_of_lt (by simpa using UInt32.toNat_lt _))

/-- The octets of the header and the bits in the next one. -/
theorem dataBegin_eq (small : slice.headerBitSize.toNat + 7 < 2 ^ 32) :
    slice.dataBegin = 8 * slice.minOff.toNat + codedBitOff slice := by
  rw [toNat_minOff small, dataBegin, codedBitOff]
  cases slice.entropyCodingMode with
  | true => simp
  | false =>
      have eight : (8 : UInt32).toNat = 8 := rfl
      simp only [Bool.false_eq_true, if_false, Bool.not_false, if_true, UInt32.toNat_mod, eight,
        Nat.add_zero]
      omega

/-- From the address on, the bits behind those that the VP is told to skip are the slice data, exactly
where no octet that is to be taken out depends on zeros before the address. The loop does not read
outside of the payload. -/
theorem sliceData_iff (whole : 16 ≤ slice.headerBitSize.toNat)
    (small : slice.headerBitSize.toNat + 7 < 2 ^ 32)
    (fits : slice.minOff.toNat ≤ slice.rbsp.length) :
    ∃ off, slice.headerEnd = some off ∧ off.toNat ≤ slice.payload.length ∧
      ((Bits.ofBytes (slice.readFrom off)).drop (codedBitOff slice) =
          (Bits.ofBytes slice.rbsp).drop slice.dataBegin ↔ ¬ slice.SplitsEscape off) := by
  have two : 2 ≤ slice.minOff.toNat := by
    rw [toNat_minOff small]
    omega
  have room : 2 ≤ slice.payload.length := by
    have shorter := slice.length_rbsp_le
    omega
  obtain ⟨off, ended, back, inside, all⟩ := headerEnd_eq room fits
  refine ⟨off, ended, inside, ?_⟩
  rw [Nat.max_eq_right two] at all
  have rest : slice.rbsp.drop slice.minOff.toNat =
      Bits.unescape (slice.zerosBefore off) (slice.payload.drop off.toNat) := by
    have split : slice.rbsp = Bits.unescape 0 (slice.payload.take off.toNat) ++
        Bits.unescape (slice.zerosBefore off) (slice.payload.drop off.toNat) := by
      rw [zerosBefore, ← Bits.unescape_append, List.take_append_drop, rbsp]
    rw [split]
    exact List.drop_left' all
  have behind : (Bits.ofBytes slice.rbsp).drop slice.dataBegin = (Bits.ofBytes
      (Bits.unescape (slice.zerosBefore off) (slice.payload.drop off.toNat))).drop
        (codedBitOff slice) := by
    rw [dataBegin_eq small, ← List.drop_drop, Bits.drop_ofBytes, rest]
  rw [behind, ← readFrom_eq_iff back inside]
  constructor
  · intro same
    by_contra split
    have longer := Bits.length_unescape_fresh split
    have few : codedBitOff slice < 8 := by
      rw [codedBitOff]
      split
      · rw [UInt32.toNat_mod]
        exact Nat.mod_lt _ (by decide)
      · decide
    have lengths := congrArg List.length same
    rw [List.length_drop, List.length_drop, Bits.length_ofBytes, Bits.length_ofBytes, readFrom,
      longer] at lengths
    omega
  · intro same
    rw [same]

theorem sliceData_iff_twenty :
    let slice : CodedSlice := ⟨[0x41, 0x9a, 0x22, 0, 0, 3, 1, 0x9a], 8, 20, false, by decide, by decide⟩
    ∃ off, slice.headerEnd = some off ∧ off.toNat ≤ slice.payload.length ∧
      ((Bits.ofBytes (slice.readFrom off)).drop (codedBitOff slice) =
          (Bits.ofBytes slice.rbsp).drop slice.dataBegin ↔ ¬ slice.SplitsEscape off) :=
  sliceData_iff (by decide) (by decide) (by decide)

end CodedSlice

end Avd
