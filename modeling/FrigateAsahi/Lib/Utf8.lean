import FrigateAsahi.Lib.Text
import Mathlib.Tactic.Common

/-!
# Text has one form in octets

Strict decoding accepts one form of a code point only, since overlong forms, surrogates and what
lies above the last code point are ruled out by the range of the second octet.
-/

namespace Text

/-- The octets of a code point, as the ranges of their values and what they stand for. -/
inductive Encodes (c : Nat) : Bytes → Prop
  | one {b : UInt8} (lead : b.toNat < 0x80) (value : c = b.toNat) : Encodes c [b]
  | two {b b₁ : UInt8} (lead : 0xC2 ≤ b.toNat ∧ b.toNat ≤ 0xDF)
      (second : 0x80 ≤ b₁.toNat ∧ b₁.toNat ≤ 0xBF)
      (value : c = 64 * (b.toNat % 32) + b₁.toNat % 64) : Encodes c [b, b₁]
  | three {b b₁ b₂ : UInt8} (lead : 0xE0 ≤ b.toNat ∧ b.toNat ≤ 0xEF)
      (second : 0x80 ≤ b₁.toNat ∧ b₁.toNat ≤ 0xBF) (long : b.toNat = 0xE0 → 0xA0 ≤ b₁.toNat)
      (third : 0x80 ≤ b₂.toNat ∧ b₂.toNat ≤ 0xBF)
      (value : c = 64 * (64 * (b.toNat % 16) + b₁.toNat % 64) + b₂.toNat % 64) :
      Encodes c [b, b₁, b₂]
  | four {b b₁ b₂ b₃ : UInt8} (lead : 0xF0 ≤ b.toNat ∧ b.toNat ≤ 0xF4)
      (second : 0x80 ≤ b₁.toNat ∧ b₁.toNat ≤ 0xBF) (long : b.toNat = 0xF0 → 0x90 ≤ b₁.toNat)
      (third : 0x80 ≤ b₂.toNat ∧ b₂.toNat ≤ 0xBF) (fourth : 0x80 ≤ b₃.toNat ∧ b₃.toNat ≤ 0xBF)
      (value : c = 64 * (64 * (64 * (b.toNat % 8) + b₁.toNat % 64) + b₂.toNat % 64) +
        b₃.toNat % 64) : Encodes c [b, b₁, b₂, b₃]

theorem Encodes.unique {c : Nat} {first second : Bytes} (one : Encodes c first)
    (other : Encodes c second) : first = second := by
  cases one with
  | one lead value =>
      cases other with
      | one lead' value' => rw [UInt8.toNat_inj.mp (value.symm.trans value')]
      | two => omega
      | three => omega
      | four => omega
  | @two a a₁ lead second value =>
      cases other with
      | one => omega
      | @two b b₁ lead' second' value' =>
          have first : a = b := UInt8.toNat_inj.mp (by omega)
          have next : a₁ = b₁ := UInt8.toNat_inj.mp (by omega)
          rw [first, next]
      | three => omega
      | four => omega
  | @three a a₁ a₂ lead second long third value =>
      cases other with
      | one => omega
      | two => omega
      | @three b b₁ b₂ lead' second' long' third' value' =>
          have first : a = b := UInt8.toNat_inj.mp (by omega)
          have next : a₁ = b₁ := UInt8.toNat_inj.mp (by omega)
          have last : a₂ = b₂ := UInt8.toNat_inj.mp (by omega)
          rw [first, next, last]
      | four => omega
  | @four a a₁ a₂ a₃ lead second long third fourth value =>
      cases other with
      | one => omega
      | two => omega
      | three => omega
      | @four b b₁ b₂ b₃ lead' second' long' third' fourth' value' =>
          have first : a = b := UInt8.toNat_inj.mp (by omega)
          have next : a₁ = b₁ := UInt8.toNat_inj.mp (by omega)
          have after : a₂ = b₂ := UInt8.toNat_inj.mp (by omega)
          have last : a₃ = b₃ := UInt8.toNat_inj.mp (by omega)
          rw [first, next, after, last]

theorem within_iff {low high b : UInt8} :
    Within low high b ↔ low.toNat ≤ b.toNat ∧ b.toNat ≤ high.toNat := Iff.rfl

/-- The second octet, where the leading one is neither ASCII nor that of a pair. -/
theorem second_bounds {b b₁ : UInt8} (second : Within (secondRange b).1 (secondRange b).2 b₁) :
    (0x80 ≤ b₁.toNat ∧ b₁.toNat ≤ 0xBF) ∧ (b.toNat = 0xE0 → 0xA0 ≤ b₁.toNat) ∧
      (b.toNat = 0xF0 → 0x90 ≤ b₁.toNat) ∧ (b.toNat = 0xF4 → b₁.toNat ≤ 0x8F) := by
  have value : ∀ x : UInt8, b = x → b.toNat = x.toNat := fun x same => by rw [same]
  have apart : ∀ x : UInt8, b ≠ x → b.toNat ≠ x.toNat := fun x other same =>
    other (UInt8.toNat_inj.mp same)
  unfold secondRange at second
  split at second
  · next same =>
      have here := value _ same
      have range := within_iff.mp second
      simp only [UInt8.reduceToNat] at here range
      omega
  · next e0 =>
      have e0 := apart _ e0
      split at second
      · next same =>
          have here := value _ same
          have range := within_iff.mp second
          simp only [UInt8.reduceToNat] at here range
          omega
      · split at second
        · next same =>
            have here := value _ same
            have range := within_iff.mp second
            simp only [UInt8.reduceToNat] at here range
            omega
        · next f0 =>
            have f0 := apart _ f0
            split at second
            · next same =>
                have here := value _ same
                have range := within_iff.mp second
                simp only [UInt8.reduceToNat] at here range
                omega
            · next f4 =>
                have f4 := apart _ f4
                have range := within_iff.mp second
                simp only [UInt8.reduceToNat] at e0 f0 f4 range
                omega

/-- What decodes begins with the octets of its first code point. -/
theorem decodeUtf8_cons {b : UInt8} {rest : Bytes} {s : PyStr}
    (decoded : decodeUtf8 (b :: rest) = some s) :
    ∃ c t head tail, s = c :: t ∧ b :: rest = head ++ tail ∧ Encodes c.val head ∧
      decodeUtf8 tail = some t := by
  have point {n : Nat} (small : n < 0x110000) : (Fin.ofNat 0x110000 n : CodePoint).val = n :=
    Nat.mod_eq_of_lt small
  have bound := b.toNat_lt
  rw [decodeUtf8.eq_def] at decoded
  dsimp only at decoded
  split at decoded
  · next ascii =>
      obtain ⟨t, tail, rfl⟩ := Option.map_eq_some_iff.mp decoded
      refine ⟨_, t, [b], rest, rfl, rfl, .one (UInt8.lt_iff_toNat_lt.mp ascii) ?_, tail⟩
      exact point (by omega)
  · split at decoded
    · cases decoded
    · next b₁ rest₁ =>
        split at decoded
        · next pair =>
            split at decoded
            · next second =>
                obtain ⟨t, tail, rfl⟩ := Option.map_eq_some_iff.mp decoded
                refine ⟨_, t, [b, b₁], rest₁, rfl, rfl,
                  .two (within_iff.mp pair) (within_iff.mp second) ?_, tail⟩
                exact point (by simp only [List.foldl_cons, List.foldl_nil]; omega)
            · cases decoded
        · split at decoded
          · cases decoded
          · next second =>
              obtain ⟨second, e0, f0, f4⟩ := second_bounds (not_not.mp second)
              split at decoded
              · cases decoded
              · next b₂ rest₂ =>
                  split at decoded
                  · cases decoded
                  · next third =>
                      have third := within_iff.mp (not_not.mp third)
                      split at decoded
                      · next lead =>
                          obtain ⟨t, tail, rfl⟩ := Option.map_eq_some_iff.mp decoded
                          refine ⟨_, t, [b, b₁, b₂], rest₂, rfl, rfl,
                            .three (within_iff.mp lead) second e0 third ?_, tail⟩
                          exact point (by simp only [List.foldl_cons, List.foldl_nil]; omega)
                      · split at decoded
                        · cases decoded
                        · next b₃ rest₃ =>
                            split at decoded
                            · next both =>
                                obtain ⟨t, tail, rfl⟩ := Option.map_eq_some_iff.mp decoded
                                have lead := within_iff.mp both.1
                                simp only [UInt8.reduceToNat] at lead
                                refine ⟨_, t, [b, b₁, b₂, b₃], rest₃, rfl, rfl,
                                  .four lead second f0 third (within_iff.mp both.2) ?_, tail⟩
                                exact point (by simp only [List.foldl_cons, List.foldl_nil]; omega)
                            · cases decoded

theorem decodeUtf8_inj {first second : Bytes} {s : PyStr} (one : decodeUtf8 first = some s)
    (other : decodeUtf8 second = some s) : first = second := by
  induction s generalizing first second with
  | nil =>
      have none : ∀ {octets : Bytes}, decodeUtf8 octets = some [] → octets = [] := by
        intro octets decoded
        cases octets with
        | nil => rfl
        | cons b rest =>
            obtain ⟨c, t, head, tail, same, -⟩ := decodeUtf8_cons decoded
            cases same
      rw [none one, none other]
  | cons c s ih =>
      have split : ∀ {octets : Bytes}, decodeUtf8 octets = some (c :: s) →
          ∃ head tail, octets = head ++ tail ∧ Encodes c.val head ∧ decodeUtf8 tail = some s := by
        intro octets decoded
        cases octets with
        | nil => cases decoded
        | cons b rest =>
            obtain ⟨c', t, head, tail, same, whole, encodes, decoded⟩ := decodeUtf8_cons decoded
            cases same
            exact ⟨head, tail, whole, encodes, decoded⟩
      obtain ⟨head, tail, rfl, encodes, decoded⟩ := split one
      obtain ⟨head', tail', rfl, encodes', decoded'⟩ := split other
      rw [encodes.unique encodes', ih decoded decoded']

end Text
