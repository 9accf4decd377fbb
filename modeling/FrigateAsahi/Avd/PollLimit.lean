import FrigateAsahi.Avd.SliceData
import Mathlib

/-!
# The limit of the parse poll

How long `avd_h264_run` polls for the octets that the VP is told to parse, and which slices make
that number wrap around: those whose header does not end within the payload, of which at least two
octets are always taken off.
-/

namespace Avd

open Text (Bytes)

/-- `max_t(u32, 1000, slice_size / 4)` -/
def pollLimit (sliceSize : UInt32) : UInt32 := max 1000 (sliceSize / 4)

/-- The time that `schedule_delayed_work` gives a slice, in microseconds. -/
def watchdogTimeout : Nat := 2000000

/-! ## Where the header ends -/

namespace CodedSlice

variable {slice : CodedSlice}

/-- The loop terminates inside the buffer, or it is not entered. -/
def EndsInside (slice : CodedSlice) (off : UInt32) : Prop :=
  slice.headerEnd = some off ∧ (off.toNat ≤ slice.plane.length ∨ slice.minOff ≤ 2)

/-- The header, and the two octets that are taken off without one, end within the payload: so many
octets are left of it without those that keep start codes out. -/
def HeaderFits (slice : CodedSlice) : Prop := max 2 slice.minOff.toNat ≤ slice.rbsp.length

instance (slice : CodedSlice) : Decidable slice.HeaderFits := inferInstanceAs (Decidable (_ ≤ _))

theorem taken_le (slice : CodedSlice) (off : UInt32) : slice.taken off ≤ slice.rbsp.length := by
  have split : slice.rbsp = Bits.unescape 0 (slice.payload.take off.toNat) ++
      Bits.unescape (slice.zerosBefore off) (slice.payload.drop off.toNat) := by
    rw [zerosBefore, ← Bits.unescape_append, List.take_append_drop, rbsp]
  rw [split, List.length_append, ← taken]
  exact Nat.le_add_right _ _

/-- A loop that ends within the payload has counted all octets of the header by then. -/
theorem minOff_le_taken {left : Nat} {bytesRead off last : UInt32} (two : 2 ≤ off.toNat)
    (counted : bytesRead.toNat = slice.taken off)
    (ended : slice.emulationLoop left bytesRead off = some last)
    (inside : last.toNat ≤ slice.payload.length) (room : off.toNat + left < 2 ^ 32) :
    slice.minOff.toNat ≤ slice.taken last := by
  have forward := (emulationLoop_forward ended room).1
  induction left generalizing bytesRead off with
  | zero =>
      rw [emulationLoop] at ended
      split at ended
      · cases ended
      · next stop =>
          cases ended
          rw [← counted]
          exact UInt32.le_iff_toNat_le.mp (UInt32.not_lt.mp stop)
  | succ left ih =>
      rw [emulationLoop] at ended
      split at ended
      · next more =>
          have next : (off + 1).toNat = off.toNat + 1 := by
            rw [UInt32.toNat_add, UInt32.toNat_one]
            exact Nat.mod_eq_of_lt (by omega)
          have before : off.toNat < slice.payload.length := by
            split at ended
            · cases ended
            · have rest := (emulationLoop_forward ended (by omega)).1
              omega
            · have rest := (emulationLoop_forward ended (by omega)).1
              omega
          have here : slice.payload[off.toNat]? = some slice.payload[off.toNat] :=
            List.getElem?_eq_getElem before
          have grown := slice.taken_succ here next
          rw [slice.counts_eq two here] at ended
          by_cases drop : 2 ≤ slice.zerosBefore off ∧ slice.payload[off.toNat] = 3
          · rw [decide_eq_false (not_not_intro drop)] at ended
            rw [if_pos drop, Nat.add_zero, ← counted] at grown
            exact ih (by omega) grown.symm ended (by omega) (emulationLoop_forward ended (by omega)).1
          · have order := UInt32.lt_iff_toNat_lt.mp more
            have limit := slice.minOff.toNat_lt
            have one : (bytesRead + 1).toNat = bytesRead.toNat + 1 := by
              rw [UInt32.toNat_add, UInt32.toNat_one]
              exact Nat.mod_eq_of_lt (by omega)
            rw [decide_eq_true drop] at ended
            rw [if_neg drop, ← counted, ← one] at grown
            exact ih (by omega) grown.symm ended (by omega) (emulationLoop_forward ended (by omega)).1
      · next stop =>
          cases ended
          rw [← counted]
          exact UInt32.le_iff_toNat_le.mp (UInt32.not_lt.mp stop)

/-- The loop ends within the payload exactly where the header does. -/
theorem headerFits_iff {off : UInt32} (ended : slice.headerEnd = some off) :
    slice.HeaderFits ↔ off.toNat ≤ slice.payload.length := by
  have shorter := slice.length_rbsp_le
  constructor
  · intro fits
    have both := max_le_iff.mp fits
    obtain ⟨off', ended', -, inside, -⟩ := headerEnd_eq (Nat.le_trans both.1 shorter) both.2
    rw [ended] at ended'
    cases ended'
    exact inside
  · intro inside
    have two := two_le_headerEnd ended
    have start := slice.taken_two (Nat.le_trans two inside)
    have small := slice.small
    have room : (2 : UInt32).toNat + slice.plane.length < 2 ^ 32 := by
      have first : (2 : UInt32).toNat = 2 := rfl
      omega
    have first : 2 ≤ (2 : UInt32).toNat := Nat.le_refl 2
    have counted := minOff_le_taken first start ended inside room
    have begin : slice.taken 2 ≤ slice.rbsp.length := slice.taken_le 2
    have all := slice.taken_le off
    rw [← start] at begin
    exact max_le_iff.mpr ⟨begin, Nat.le_trans counted all⟩

end CodedSlice

/-! ## The limit -/

theorem toNat_pollLimit (size : UInt32) : (pollLimit size).toNat = max 1000 (size.toNat / 4) := by
  have quarter : (size / 4).toNat = size.toNat / 4 := UInt32.toNat_div size 4
  have floor : (1000 : UInt32).toNat = 1000 := rfl
  change (if (1000 : UInt32) ≤ size / 4 then size / 4 else 1000).toNat = _
  split
  · next large =>
      have order := UInt32.le_iff_toNat_le.mp large
      rw [quarter, floor] at order
      rw [quarter]
      exact (Nat.max_eq_right order).symm
  · next small =>
      have order := UInt32.lt_iff_toNat_lt.mp (UInt32.not_le.mp small)
      rw [quarter, floor] at order
      rw [floor]
      exact (Nat.max_eq_left (Nat.le_of_lt order)).symm

/-- The limit grows with the payload and stays below the watchdog's time, exactly where the header ends
within the payload. A header that the client makes longer, up to the end of the buffer, is not looked
at by the driver: the number of octets to parse then wraps around. -/
theorem pollLimit_sane_iff {slice : CodedSlice} (coded : 1 ≤ slice.bytesUsed) {off : UInt32}
    (inside : slice.EndsInside off) :
    ∃ size, streamSliceSize slice = some size ∧
      ((pollLimit size).toNat ≤ max 1000 (slice.bytesUsed / 4) ∧
        (slice.bytesUsed ≤ 8000000 → (pollLimit size).toNat < watchdogTimeout) ↔
      slice.HeaderFits) := by
  obtain ⟨ended, within⟩ := inside
  refine ⟨slice.payloadLen - off, by rw [streamSliceSize, ended]; rfl, ?_⟩
  have length := slice.toNat_payloadLen
  have two := CodedSlice.two_le_headerEnd ended
  have used := slice.used
  have small := slice.small
  rw [CodedSlice.length_payload] at length
  rw [toNat_pollLimit, CodedSlice.headerFits_iff ended, CodedSlice.length_payload]
  by_cases fits : off.toNat ≤ slice.bytesUsed
  · refine iff_of_true ?_ fits
    have size : (slice.payloadLen - off).toNat = slice.bytesUsed - off.toNat := by
      rw [UInt32.toNat_sub_of_le _ _ (UInt32.le_iff_toNat_le.mpr (by rw [length]; exact fits)), length]
    rw [size]
    refine ⟨?_, fun bounded => ?_⟩
    · omega
    · rw [watchdogTimeout]
      omega
  · refine iff_of_false ?_ fits
    have bound : off.toNat ≤ slice.plane.length + 1 := by
      rcases within with ends | short
      · exact Nat.le_succ_of_le ends
      · have immediate := CodedSlice.headerEnd_immediate short
        rw [ended] at immediate
        cases immediate
        change 2 ≤ _
        omega
    have wrapped : (slice.payloadLen - off).toNat = 2 ^ 32 + slice.bytesUsed - off.toNat := by
      rw [UInt32.toNat_sub, length]
      omega
    rw [wrapped]
    rintro ⟨limit, -⟩
    omega

/-- A payload of two octets, of which the header has none. -/
theorem pollLimit_sane_iff_two :
    ∃ size, streamSliceSize ⟨[0x65, 0x88], 2, 0, false, by decide, by decide⟩ = some size ∧
      ((pollLimit size).toNat ≤ max 1000 (2 / 4) ∧
        (2 ≤ 8000000 → (pollLimit size).toNat < watchdogTimeout) ↔
      (⟨[0x65, 0x88], 2, 0, false, by decide, by decide⟩ : CodedSlice).HeaderFits) :=
  @pollLimit_sane_iff ⟨[0x65, 0x88], 2, 0, false, by decide, by decide⟩ (by decide) 2
    ⟨rfl, Or.inr (by decide)⟩

/-- Of a payload of one octet the VP is told to parse almost four gigabytes, and as many of a longer
one in a larger buffer whose header is said to end behind it. -/
theorem single_octet_wraps :
    (⟨[0x65], 1, 0, false, by decide, by decide⟩ : CodedSlice).EndsInside 2 ∧
      streamSliceSize ⟨[0x65], 1, 0, false, by decide, by decide⟩ = some 0xFFFFFFFF ∧
      ¬ (pollLimit 0xFFFFFFFF).toNat ≤ max 1000 (1 / 4) ∧
      ¬ (pollLimit 0xFFFFFFFF).toNat < watchdogTimeout ∧
      (⟨[0x65, 0x88, 0x84, 0, 0, 0], 3, 32, false, by decide, by decide⟩ : CodedSlice).EndsInside 4 ∧
      streamSliceSize ⟨[0x65, 0x88, 0x84, 0, 0, 0], 3, 32, false, by decide, by decide⟩ =
        some 0xFFFFFFFF :=
  ⟨⟨rfl, Or.inr (by decide)⟩, rfl, by decide, by decide, ⟨rfl, Or.inl (by decide)⟩, rfl⟩

end Avd
