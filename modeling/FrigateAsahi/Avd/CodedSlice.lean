import FrigateAsahi.Lib.Text
import Mathlib

/-!
# A coded slice and the end of its header

The address that the VP gets is one in the coded buffer, while the header's size is counted without
the octets that keep start codes out of it. The loop of `stream_slice` goes from one to the other; it
reads the buffer, and how much of the buffer is the payload matters only to the number of octets
that the VP is told to parse, which is a difference of 32-bit unsigned numbers.
-/

namespace Avd

open Text (Bytes)

/-- A slice as it is queued: the plane of the coded buffer, how many of its octets are in use, and
what the controls say of the header. videobuf2 takes no buffer with more octets in use than the
plane has, and no plane whose length would wrap around when it is rounded up to pages. -/
structure CodedSlice : Type where
  plane : Bytes
  bytesUsed : Nat
  headerBitSize : UInt32
  entropyCodingMode : Bool
  used : bytesUsed ≤ plane.length
  small : plane.length + 4096 ≤ 2 ^ 32

namespace CodedSlice

/-- The coded payload is what is in use of the plane. -/
def payload (slice : CodedSlice) : Bytes := slice.plane.take slice.bytesUsed

/-- `vb2_get_plane_payload(&src->vb2_buf, 0)` -/
def payloadLen (slice : CodedSlice) : UInt32 := UInt32.ofNat slice.bytesUsed

def minOff (slice : CodedSlice) : UInt32 :=
  (slice.headerBitSize + if slice.entropyCodingMode then 7 else 0) / 8

/-- Whether the octet at `off` counts, which an emulation byte does not. It is `none` where the
condition reads past the plane. -/
def counts (slice : CodedSlice) (off : UInt32) : Option Bool := do
  let a ← slice.plane[(off - 2).toNat]?
  if a ≠ 0 then
    return true
  let b ← slice.plane[(off - 1).toNat]?
  if b ≠ 0 then
    return true
  let c ← slice.plane[off.toNat]?
  return decide (c ≠ 3)

/-- The loop with the octets that it may still look behind. -/
def emulationLoop (slice : CodedSlice) : Nat → UInt32 → UInt32 → Option UInt32
  | 0, bytesRead, off => if bytesRead < slice.minOff then none else some off
  | left + 1, bytesRead, off =>
    if bytesRead < slice.minOff then
      match slice.counts off with
      | none => none
      | some true => emulationLoop slice left (bytesRead + 1) (off + 1)
      | some false => emulationLoop slice left bytesRead (off + 1)
    else some off

/-- `off` behind the loop. -/
def headerEnd (slice : CodedSlice) : Option UInt32 :=
  slice.emulationLoop slice.plane.length 2 2

end CodedSlice

/-- What `stream_slice` returns. -/
def streamSliceSize (slice : CodedSlice) : Option UInt32 := do
  let off ← slice.headerEnd
  return slice.payloadLen - off

namespace CodedSlice

variable {slice : CodedSlice}

theorem length_payload (slice : CodedSlice) : slice.payload.length = slice.bytesUsed := by
  rw [payload, List.length_take, Nat.min_eq_left slice.used]

theorem toNat_payloadLen (slice : CodedSlice) : slice.payloadLen.toNat = slice.payload.length := by
  have used := slice.used
  have small := slice.small
  rw [payloadLen, UInt32.toNat_ofNat', length_payload]
  exact Nat.mod_eq_of_lt (by omega)

/-- What the loop reads of the payload is what is there in the plane. -/
theorem plane_of_payload {i : Nat} {b : UInt8} (here : slice.payload[i]? = some b) :
    slice.plane[i]? = some b := by
  rw [payload, List.getElem?_take] at here
  split at here
  · exact here
  · cases here

/-- The loop goes forward, one octet a round. -/
theorem emulationLoop_forward {left : Nat} {bytesRead off last : UInt32}
    (ended : slice.emulationLoop left bytesRead off = some last)
    (room : off.toNat + left < 2 ^ 32) : off.toNat ≤ last.toNat ∧ last.toNat ≤ off.toNat + left := by
  induction left generalizing bytesRead off with
  | zero =>
      rw [emulationLoop] at ended
      split at ended
      · cases ended
      · cases ended
        exact ⟨Nat.le_refl _, Nat.le_refl _⟩
  | succ left ih =>
      have next : (off + 1).toNat = off.toNat + 1 := by
        rw [UInt32.toNat_add, UInt32.toNat_one]
        exact Nat.mod_eq_of_lt (by omega)
      rw [emulationLoop] at ended
      split at ended
      · split at ended
        · cases ended
        · have rest := ih ended (by omega)
          omega
        · have rest := ih ended (by omega)
          omega
      · cases ended
        omega

/-- A short header has the offset that the loop starts with. -/
theorem headerEnd_immediate (short : slice.minOff ≤ 2) : slice.headerEnd = some 2 := by
  have enough : ¬ (2 : UInt32) < slice.minOff := UInt32.not_lt.mpr short
  rw [headerEnd]
  cases slice.plane.length with
  | zero => rw [emulationLoop, if_neg enough]
  | succ length => rw [emulationLoop, if_neg enough]

/-- At least two octets are before the end of the header. -/
theorem two_le_headerEnd {off : UInt32} (ended : slice.headerEnd = some off) : 2 ≤ off.toNat := by
  have small := slice.small
  have two : (2 : UInt32).toNat = 2 := rfl
  have forward := emulationLoop_forward ended (by rw [two]; omega)
  rw [two] at forward
  exact forward.1

end CodedSlice

end Avd
