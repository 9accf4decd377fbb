import Mathlib.Data.List.Basic
import Mathlib.Data.Nat.Digits.Defs

/-!
# Text and octets

A `str` is a list of code points in which surrogates may stand alone; octets are decoded by the
strict UTF-8 rule, which never produces a surrogate. Text that is all ASCII survives the way to
octets and back (`decodeUtf8_ascii`).
-/

namespace Text

instance neZero_codePoints : NeZero 0x110000 := ⟨by decide⟩

/-- A code point, surrogates included. -/
abbrev CodePoint : Type := Fin 0x110000

abbrev PyStr : Type := List CodePoint

abbrev Bytes : Type := List UInt8

def chr (c : Char) : CodePoint := Fin.ofNat _ c.toNat

/-- A string literal. -/
def py (s : String) : PyStr := s.toList.map chr

def IsAscii (s : PyStr) : Prop := ∀ c ∈ s, c.val < 0x80

-- Over the list: the instance found by default runs over every code point.
instance (s : PyStr) : Decidable (IsAscii s) :=
  List.decidableBAll (fun c : CodePoint => c.val < 0x80) s

@[simp] theorem isAscii_nil : IsAscii [] := by simp [IsAscii]

@[simp] theorem isAscii_cons {c : CodePoint} {s : PyStr} :
    IsAscii (c :: s) ↔ c.val < 0x80 ∧ IsAscii s := by
  simp [IsAscii]

@[simp] theorem isAscii_append {s t : PyStr} :
    IsAscii (s ++ t) ↔ IsAscii s ∧ IsAscii t := by
  simp only [IsAscii, List.mem_append, or_imp, forall_and]

/-- The octets of a text that is all ASCII. -/
def encodeAscii (s : PyStr) : Bytes := s.map fun c => UInt8.ofNat c.val

/-- A continuation octet in a range. -/
def Within (low high b : UInt8) : Prop := low ≤ b ∧ b ≤ high

instance (low high b : UInt8) : Decidable (Within low high b) :=
  inferInstanceAs (Decidable (low ≤ b ∧ b ≤ high))

/-- The least and the greatest second octet after a leading octet; the exceptions rule out
overlong forms, surrogates and what lies above the last code point. -/
def secondRange (lead : UInt8) : UInt8 × UInt8 :=
  if lead = 0xE0 then (0xA0, 0xBF)
  else if lead = 0xED then (0x80, 0x9F)
  else if lead = 0xF0 then (0x90, 0xBF)
  else if lead = 0xF4 then (0x80, 0x8F)
  else (0x80, 0xBF)

/-- The code point of a leading octet's bits followed by the bits of continuation octets. -/
def assemble (lead : Nat) (tail : List UInt8) : CodePoint :=
  Fin.ofNat _ (tail.foldl (fun n b => 64 * n + b.toNat % 64) lead)

/-- `octets.decode("utf-8")`; `none` stands for `UnicodeDecodeError`. -/
def decodeUtf8 : Bytes → Option PyStr
  | [] => some []
  | b :: rest =>
    if b < 0x80 then (Fin.ofNat _ b.toNat :: ·) <$> decodeUtf8 rest
    else match rest with
      | [] => none
      | b₁ :: rest₁ =>
        if Within 0xC2 0xDF b then
          if Within 0x80 0xBF b₁ then (assemble (b.toNat % 32) [b₁] :: ·) <$> decodeUtf8 rest₁
          else none
        else if ¬ Within (secondRange b).1 (secondRange b).2 b₁ then none
        else match rest₁ with
          | [] => none
          | b₂ :: rest₂ =>
            if ¬ Within 0x80 0xBF b₂ then none
            else if Within 0xE0 0xEF b then
              (assemble (b.toNat % 16) [b₁, b₂] :: ·) <$> decodeUtf8 rest₂
            else match rest₂ with
              | [] => none
              | b₃ :: rest₃ =>
                if Within 0xF0 0xF4 b ∧ Within 0x80 0xBF b₃ then
                  (assemble (b.toNat % 8) [b₁, b₂, b₃] :: ·) <$> decodeUtf8 rest₃
                else none

theorem decodeUtf8_ascii {s : PyStr} (ascii : IsAscii s) :
    decodeUtf8 (encodeAscii s) = some s := by
  induction s with
  | nil => rfl
  | cons c s ih =>
      obtain ⟨small, rest⟩ := isAscii_cons.mp ascii
      have octet : (UInt8.ofNat c.val).toNat = c.val := by
        rw [UInt8.toNat_ofNat']
        omega
      have below : UInt8.ofNat c.val < 0x80 := by
        rw [UInt8.lt_iff_toNat_lt, octet]
        exact small
      have back : (Fin.ofNat 0x110000 c.val : CodePoint) = c := Fin.ofNat_val_eq_self c
      change decodeUtf8 (UInt8.ofNat c.val :: encodeAscii s) = _
      rw [decodeUtf8.eq_def]
      simp only [if_pos below, ih rest, octet, back]
      rfl

end Text
