import FrigateAsahi.Lib.Json
import Mathlib.Data.Nat.Digits.Lemmas

/-!
# Reading back what was printed

`loads_dumps`: parsing a printed value that keeps the limits (`Json.Within`) gives the value back,
except that two escaped surrogates
that stood side by side come back as the one code point they spell, and of several equal keys of an
object the last one wins (`Json.norm`). `decodeJson_encodeJson` is the same through octets.
-/

namespace Text

/-! ## Digits -/

@[simp] theorem digitChar_val {d : Nat} (small : d < 10) : (digitChar d).val = 48 + d := by
  simp only [digitChar, Fin.ofNat]
  omega

theorem isDigit_digitChar {d : Nat} (small : d < 10) : IsDigit (digitChar d) := by
  simp only [IsDigit, digitChar_val small]
  omega

/-- The text does not go on with a digit. -/
def NoDigit (s : PyStr) : Prop := ∀ c ∈ s.head?, ¬ IsDigit c

theorem takeDigits_of_noDigit {s : PyStr} (stop : NoDigit s) : takeDigits s = ([], s) := by
  cases s with
  | nil => rfl
  | cons c s => rw [takeDigits, if_neg (stop c rfl)]

theorem takeDigits_map (ds : List (Fin 10)) {rest : PyStr} (stop : NoDigit rest) :
    takeDigits ((ds.map fun d => digitChar d.val) ++ rest) = (ds, rest) := by
  induction ds with
  | nil => exact takeDigits_of_noDigit stop
  | cons d ds ih =>
      have back : Fin.ofNat 10 ((digitChar d.val).val - 48) = d := by
        rw [digitChar_val d.isLt, Nat.add_sub_cancel_left]
        exact Fin.ofNat_val_eq_self d
      rw [List.map_cons, List.cons_append, takeDigits, if_pos (isDigit_digitChar d.isLt), ih, back]

/-- The digits of a positive number, as elements of `Fin 10`. -/
def digitsOf (n : Nat) : List (Fin 10) := (Nat.digits 10 n).reverse.map (Fin.ofNat 10)

theorem decimal_eq_map {n : Nat} (pos : n ≠ 0) :
    decimal n = (digitsOf n).map fun d => digitChar d.val := by
  rw [decimal, if_neg pos, digitsOf, List.map_map]
  refine List.map_congr_left fun d mem => ?_
  have small : d < 10 := Nat.digits_lt_base (by omega) (List.mem_reverse.mp mem)
  simp [Fin.ofNat, Nat.mod_eq_of_lt small]

theorem natOfDigits_eq (ds : List (Fin 10)) :
    natOfDigits ds = Nat.ofDigits 10 (ds.map Fin.val).reverse := by
  have general : ∀ (ds : List (Fin 10)) (n : Nat),
      ds.foldl (fun n d => 10 * n + d.val) n =
        n * 10 ^ ds.length + Nat.ofDigits 10 (ds.map Fin.val).reverse := by
    intro ds
    induction ds with
    | nil => simp
    | cons d ds ih =>
        intro n
        rw [List.foldl_cons, ih, List.map_cons, List.reverse_cons, Nat.ofDigits_append]
        simp only [List.length_reverse, List.length_map, Nat.ofDigits_singleton, List.length_cons,
          pow_succ]
        ring
  simpa [natOfDigits] using general ds 0

theorem natOfDigits_digitsOf (n : Nat) : natOfDigits (digitsOf n) = n := by
  rw [natOfDigits_eq, digitsOf, List.map_map]
  have same : (Nat.digits 10 n).reverse.map (Fin.val ∘ Fin.ofNat 10) = (Nat.digits 10 n).reverse := by
    conv_rhs => rw [← List.map_id (Nat.digits 10 n).reverse]
    refine List.map_congr_left fun d mem => ?_
    have small : d < 10 := Nat.digits_lt_base (by omega) (List.mem_reverse.mp mem)
    simp [Fin.ofNat, Nat.mod_eq_of_lt small]
  rw [same, List.reverse_reverse, Nat.ofDigits_digits]

theorem digitChar_eq_zero_iff {d : Nat} (small : d < 10) : digitChar d = chr '0' ↔ d = 0 := by
  rw [Fin.ext_iff, digitChar_val small]
  have zero : (chr '0').val = 48 := by decide
  omega

/-- A printed natural number starts with a digit, and with `0` only when it is zero. -/
theorem decimal_cons (n : Nat) :
    ∃ d t, decimal n = digitChar d :: t ∧ d < 10 ∧ (d = 0 → n = 0) := by
  by_cases zero : n = 0
  · exact ⟨0, [], by rw [decimal, if_pos zero], by omega, fun _ => zero⟩
  · have last := Nat.getLast_digit_ne_zero 10 zero
    have nonempty : Nat.digits 10 n ≠ [] := Nat.digits_ne_nil_iff_ne_zero.mpr zero
    refine ⟨(Nat.digits 10 n).getLast nonempty, (Nat.digits 10 n).reverse.tail.map digitChar,
      ?_, Nat.digits_lt_base (by omega) (List.getLast_mem nonempty), fun h => absurd h last⟩
    rw [decimal, if_neg zero, ← List.map_cons]
    congr 1
    have front : (Nat.digits 10 n).reverse ≠ [] := by simpa using nonempty
    conv_lhs => rw [← List.cons_head_tail front, List.head_reverse]

theorem parseNat_decimal (n : Nat) {rest : PyStr} (stop : NoDigit rest) :
    parseNat (decimal n ++ rest) = some (n, rest) := by
  by_cases zero : n = 0
  · subst zero
    rfl
  · obtain ⟨d, t, shape, small, lead⟩ := decimal_cons n
    have run : takeDigits (decimal n ++ rest) = (digitsOf n, rest) := by
      rw [decimal_eq_map zero]
      exact takeDigits_map _ stop
    rw [shape, List.cons_append] at run ⊢
    have notZero : ¬ digitChar d = chr '0' := fun h =>
      zero (lead ((digitChar_eq_zero_iff small).mp h))
    rw [parseNat, if_neg notZero, if_pos (isDigit_digitChar small), run, natOfDigits_digitsOf]

/-! ## Numbers -/

/-- The text does not go on with a character a number could use. -/
def Ends (s : PyStr) : Prop :=
  ∀ c ∈ s.head?, ¬ IsDigit c ∧ c ≠ chr '.' ∧ c ≠ chr 'e' ∧ c ≠ chr 'E'

theorem Ends.noDigit {s : PyStr} (ends : Ends s) : NoDigit s := fun c mem => (ends c mem).1

theorem noDigit_cons {c : CodePoint} {s : PyStr} (other : ¬ IsDigit c) : NoDigit (c :: s) := by
  intro d mem
  simp only [List.head?_cons, Option.mem_def, Option.some.injEq] at mem
  exact mem ▸ other

theorem parseFrac_of_ne {s : PyStr} (other : ∀ c ∈ s.head?, c ≠ chr '.') :
    parseFrac s = ([], s) := by
  cases s with
  | nil => rfl
  | cons c s => rw [parseFrac, if_neg fun h => other c rfl h.1]

theorem parseExp_of_ends {s : PyStr} (ends : Ends s) : parseExp s = (none, s) := by
  cases s with
  | nil => rfl
  | cons c s =>
      obtain ⟨-, -, lower, upper⟩ := ends c rfl
      rw [parseExp, if_neg fun h => h.1.elim lower upper]

theorem takeMinus_digit {d : Nat} (small : d < 10) (s : PyStr) :
    takeMinus (digitChar d :: s) = (false, digitChar d :: s) := by
  have other : digitChar d ≠ chr '-' := by
    intro h
    have := congrArg Fin.val h
    rw [digitChar_val small, show (chr '-').val = 45 by decide] at this
    omega
  rw [takeMinus, if_neg other]

theorem takeMinus_decimal (neg : Bool) (n : Nat) (rest : PyStr) :
    takeMinus ((if neg then [chr '-'] else []) ++ decimal n ++ rest) = (neg, decimal n ++ rest) := by
  cases neg with
  | true => rfl
  | false =>
      obtain ⟨d, t, shape, small, -⟩ := decimal_cons n
      simp only [Bool.false_eq_true, if_false, List.nil_append, shape, List.cons_append]
      exact takeMinus_digit small _

theorem printInt_eq (n : Int) :
    printInt n = (if decide (n < 0) then [chr '-'] else []) ++ decimal n.natAbs := by
  simp only [printInt, decide_eq_true_eq]

theorem signed_natAbs (n : Int) : signed (decide (n < 0)) n.natAbs = n := by
  by_cases neg : n < 0 <;> simp only [signed, neg, decide_true, decide_false, if_true, if_false,
    Bool.false_eq_true] <;> omega

theorem parseNumber_printInt (n : Int) {rest : PyStr} (ends : Ends rest) :
    parseNumber (printInt n ++ rest) = some (.int n, rest) := by
  have noFrac : parseFrac rest = ([], rest) := parseFrac_of_ne fun c mem => (ends c mem).2.1
  rw [parseNumber, printInt_eq, takeMinus_decimal, parseNat_decimal _ ends.noDigit,
    Option.map_some]
  simp only [noFrac, parseExp_of_ends ends, mkNumber, ne_eq, not_true_eq_false,
    Option.isSome_none, Bool.false_eq_true, or_self, ↓reduceDIte, signed_natAbs]

theorem takeSign_printInt (n : Int) (rest : PyStr) :
    takeSign (printInt n ++ rest) = (decide (n < 0), decimal n.natAbs ++ rest) := by
  rw [printInt_eq]
  by_cases neg : n < 0
  · simp only [neg, decide_true, if_true]
    rfl
  · obtain ⟨d, t, shape, small, -⟩ := decimal_cons n.natAbs
    have minus : (chr '-').val = 45 := by decide
    have plus : (chr '+').val = 43 := by decide
    simp only [neg, decide_false, Bool.false_eq_true, if_false, List.nil_append, shape,
      List.cons_append, takeSign]
    rw [if_neg, if_neg] <;>
    · intro h
      have := congrArg Fin.val h
      rw [digitChar_val small] at this
      omega

theorem takeDigits_decimal (n : Nat) {rest : PyStr} (stop : NoDigit rest) :
    ∃ ds, takeDigits (decimal n ++ rest) = (ds, rest) ∧ ds ≠ [] ∧ natOfDigits ds = n := by
  by_cases zero : n = 0
  · subst zero
    refine ⟨[0], ?_, by simp, rfl⟩
    exact takeDigits_map [0] stop
  · refine ⟨digitsOf n, ?_, ?_, natOfDigits_digitsOf n⟩
    · rw [decimal_eq_map zero]
      exact takeDigits_map _ stop
    · intro empty
      have value := natOfDigits_digitsOf n
      rw [empty] at value
      exact zero value.symm

theorem parseExp_print (e : Int) {rest : PyStr} (ends : Ends rest) :
    parseExp (chr 'e' :: (printInt e ++ rest)) = (some e, rest) := by
  obtain ⟨ds, run, nonempty, value⟩ := takeDigits_decimal e.natAbs ends.noDigit
  rw [parseExp, takeSign_printInt]
  simp only [run, ne_eq, nonempty, not_false_eq_true, true_or, and_self, if_true, value,
    signed_natAbs]

theorem parseNumber_printFloat (x : FloatLit) {rest : PyStr} (ends : Ends rest) :
    parseNumber (printFloat x ++ rest) = some (.float x, rest) := by
  obtain ⟨neg, int, frac, exp, wf⟩ := x
  -- What follows the integer part, and what follows the fraction.
  let expText : PyStr := match exp with
    | none => rest
    | some e => chr 'e' :: (printInt e ++ rest)
  let fracText : PyStr := (if frac = [] then [] else chr '.' :: frac.map fun d => digitChar d.val)
    ++ expText
  have text : printFloat ⟨neg, int, frac, exp, wf⟩ ++ rest =
      (if neg then [chr '-'] else []) ++ decimal int ++ fracText := by
    cases exp <;> simp [printFloat, fracText, expText]
  have readExp : parseExp expText = (exp, rest) := by
    cases exp with
    | none => exact parseExp_of_ends ends
    | some e => exact parseExp_print e ends
  have expStops : NoDigit expText ∧ ∀ c ∈ expText.head?, c ≠ chr '.' := by
    cases exp with
    | none => exact ⟨ends.noDigit, fun c mem => (ends c mem).2.1⟩
    | some e =>
        refine ⟨noDigit_cons (by decide), fun c mem => ?_⟩
        simp only [expText, List.head?_cons, Option.mem_def, Option.some.injEq] at mem
        exact mem ▸ by decide
  have readFrac : parseFrac fracText = (frac, expText) := by
    by_cases empty : frac = []
    · simp only [fracText, empty, if_true, List.nil_append]
      exact parseFrac_of_ne expStops.2
    · simp only [fracText, empty, if_false, List.cons_append]
      have run := takeDigits_map frac expStops.1
      rw [parseFrac, run, if_pos ⟨rfl, empty⟩]
  have fracStops : NoDigit fracText := by
    by_cases empty : frac = []
    · simpa only [fracText, empty, if_true, List.nil_append] using expStops.1
    · simp only [fracText, empty, if_false, List.cons_append]
      exact noDigit_cons (by decide)
  rw [parseNumber, text, takeMinus_decimal, parseNat_decimal _ fracStops, Option.map_some]
  simp only [readFrac, readExp, mkNumber, wf, ↓reduceDIte]

/-! ## Strings -/

theorem hexVal_hexDigit {d : Nat} (small : d < 16) : hexVal (hexDigit d) = some d := by
  revert small
  revert d
  decide

theorem parseHex4_hex4 {u : Nat} (small : u < 0x10000) :
    parseHex4 (hexDigit (u / 4096 % 16)) (hexDigit (u / 256 % 16)) (hexDigit (u / 16 % 16))
      (hexDigit (u % 16)) = some (Fin.ofNat _ u) := by
  have bound : ∀ n, n % 16 < 16 := fun n => Nat.mod_lt _ (by omega)
  simp only [parseHex4, hexVal_hexDigit (bound _), Option.bind_eq_bind, Option.bind_some]
  have value : 4096 * (u / 4096 % 16) + 256 * (u / 256 % 16) + 16 * (u / 16 % 16) + u % 16 = u := by
    omega
  rw [value]

theorem unescape_escapeUnit {u : Nat} (small : u < 0x10000) (s : PyStr) :
    unescape (escapeUnit u ++ s) = (unescape s).map fun (t, r) => (Fin.ofNat _ u :: t, r) := by
  simp only [escapeUnit, hex4, List.cons_append, List.nil_append]
  rw [unescape.eq_def]
  simp only [show ¬ chr '\\' = chr '"' by decide, if_false, if_true, parseHex4_hex4 small,
    Option.bind_some]

/-- The units an escaped character is read as. -/
def unitsOf (c : CodePoint) : PyStr :=
  if c.val < 0x10000 then [c]
  else [Fin.ofNat _ (highSurrogate c.val), Fin.ofNat _ (lowSurrogate c.val)]

theorem unescape_simple {e u : CodePoint} (simple : simpleEscape e = some u) (notU : e ≠ chr 'u')
    (s : PyStr) :
    unescape (chr '\\' :: e :: s) = (unescape s).map fun (t, r) => (u :: t, r) := by
  rw [unescape.eq_def]
  simp only [show ¬ chr '\\' = chr '"' by decide, if_false, if_true, notU, simple,
    Option.bind_some]

theorem unescape_escapeChar (c : CodePoint) (s : PyStr) :
    unescape (escapeChar c ++ s) = (unescape s).map fun (t, r) => (unitsOf c ++ t, r) := by
  have basic : c.val < 0x10000 → unitsOf c = [c] := fun small => if_pos small
  unfold escapeChar
  split_ifs with h₁ h₂ h₃ h₄ h₅ h₆ h₇ h₈ h₉
  · subst h₁; exact unescape_simple rfl (by decide) s
  · subst h₂; exact unescape_simple rfl (by decide) s
  · subst h₃; exact unescape_simple rfl (by decide) s
  · subst h₄; exact unescape_simple rfl (by decide) s
  · subst h₅; exact unescape_simple rfl (by decide) s
  · rw [basic (by omega)]
    have self : c = Fin.ofNat _ 12 := Fin.ext h₆
    exact self ▸ unescape_simple rfl (by decide) s
  · rw [basic (by omega)]
    have self : c = Fin.ofNat _ 8 := Fin.ext h₇
    exact self ▸ unescape_simple rfl (by decide) s
  · rw [basic (by omega), List.singleton_append, unescape.eq_def]
    simp only [h₁, h₂, if_false, show ¬ c.val < 0x20 by omega, List.singleton_append]
  · rw [basic h₉, unescape_escapeUnit h₉, Fin.ofNat_val_eq_self]
    rfl
  · have high : highSurrogate c.val < 0x10000 := by unfold highSurrogate; omega
    have low : lowSurrogate c.val < 0x10000 := by unfold lowSurrogate; omega
    rw [List.append_assoc, unescape_escapeUnit high, unescape_escapeUnit low, unitsOf, if_neg h₉,
      Option.map_map]
    rfl

theorem unescape_printed (s rest : PyStr) :
    unescape (s.flatMap escapeChar ++ chr '"' :: rest) = some (s.flatMap unitsOf, rest) := by
  induction s with
  | nil =>
      rw [List.flatMap_nil, List.nil_append, unescape.eq_def]
      simp only [if_true, List.flatMap_nil]
  | cons c s ih =>
      rw [List.flatMap_cons, List.append_assoc, unescape_escapeChar, ih, Option.map_some,
        List.flatMap_cons]

/-- A code point above the basic plane is no surrogate, and its two surrogates join to it. -/
theorem join_surrogates {c : CodePoint} (astral : 0x10000 ≤ c.val) :
    IsHigh (Fin.ofNat _ (highSurrogate c.val)) ∧ IsLow (Fin.ofNat _ (lowSurrogate c.val)) ∧
      join (Fin.ofNat _ (highSurrogate c.val)) (Fin.ofNat _ (lowSurrogate c.val)) = c := by
  have bound := c.isLt
  have high : (Fin.ofNat 0x110000 (highSurrogate c.val)).val = highSurrogate c.val := by
    simp only [Fin.ofNat, highSurrogate]
    omega
  have low : (Fin.ofNat 0x110000 (lowSurrogate c.val)).val = lowSurrogate c.val := by
    simp only [Fin.ofNat, lowSurrogate]
    omega
  refine ⟨?_, ?_, ?_⟩
  · rw [IsHigh, high, highSurrogate]
    omega
  · rw [IsLow, low, lowSurrogate]
    omega
  · rw [Fin.ext_iff, join, high, low]
    simp only [Fin.ofNat, highSurrogate, lowSurrogate]
    omega

theorem joinSurrogates_cons_of_not {c : CodePoint} {s : PyStr}
    (apart : ∀ d ∈ s.head?, ¬ (IsHigh c ∧ IsLow d)) :
    joinSurrogates (c :: s) = c :: joinSurrogates s := by
  cases s with
  | nil => rfl
  | cons d s => rw [joinSurrogates, if_neg (apart d rfl)]

theorem joinSurrogates_pair {c d : CodePoint} (high : IsHigh c) (low : IsLow d) (s : PyStr) :
    joinSurrogates (c :: d :: s) = join c d :: joinSurrogates s := by
  rw [joinSurrogates, if_pos ⟨high, low⟩]

/-- Splitting into units and joining is joining: a printed text loses nothing else. -/
theorem joinSurrogates_units (s : PyStr) :
    joinSurrogates (s.flatMap unitsOf) = joinSurrogates s := by
  induction s using joinSurrogates.induct with
  | case1 => rfl
  | case2 c =>
      by_cases small : c.val < 0x10000
      · simp [unitsOf, small]
      · obtain ⟨high, low, joined⟩ := join_surrogates (c := c) (by omega)
        simp only [List.flatMap_cons, unitsOf, small, if_false, List.flatMap_nil, List.append_nil]
        rw [joinSurrogates_pair high low, joined]
        rfl
  | case3 c d s pair ih =>
      have smallC : unitsOf c = [c] := if_pos (by have := pair.1; unfold IsHigh at this; omega)
      have smallD : unitsOf d = [d] := if_pos (by have := pair.2; unfold IsLow at this; omega)
      simp only [List.flatMap_cons, smallC, smallD, List.singleton_append]
      rw [joinSurrogates_pair pair.1 pair.2, ih, joinSurrogates_pair pair.1 pair.2]
  | case4 c d s apart ih =>
      by_cases small : c.val < 0x10000
      · have unitC : unitsOf c = [c] := if_pos small
        rw [List.flatMap_cons, unitC, List.singleton_append]
        have next : ∀ e ∈ ((d :: s).flatMap unitsOf).head?, ¬ (IsHigh c ∧ IsLow e) := by
          intro e mem
          rw [List.flatMap_cons] at mem
          by_cases smallD : d.val < 0x10000
          · simp only [unitsOf, smallD, if_true, List.singleton_append, List.head?_cons,
              Option.mem_def, Option.some.injEq] at mem
            exact mem ▸ apart
          · obtain ⟨high, -, -⟩ := join_surrogates (c := d) (by omega)
            simp only [unitsOf, smallD, if_false, List.cons_append, List.head?_cons,
              Option.mem_def, Option.some.injEq] at mem
            rw [← mem]
            rintro ⟨-, low⟩
            unfold IsHigh at high
            unfold IsLow at low
            omega
        rw [joinSurrogates_cons_of_not next, ih, ← joinSurrogates_cons_of_not]
        exact fun e mem => by
          simp only [List.head?_cons, Option.mem_def, Option.some.injEq] at mem
          exact mem ▸ apart
      · obtain ⟨high, low, joined⟩ := join_surrogates (c := c) (by omega)
        rw [List.flatMap_cons, unitsOf, if_neg small, List.cons_append, List.cons_append,
          List.nil_append, joinSurrogates_pair high low, joined, ih, ← joinSurrogates_cons_of_not]
        exact fun e mem => by
          simp only [List.head?_cons, Option.mem_def, Option.some.injEq] at mem
          exact mem ▸ apart

theorem parseStr_printed (s rest : PyStr) :
    parseStr (s.flatMap escapeChar ++ chr '"' :: rest) = some (joinSurrogates s, rest) := by
  rw [parseStr, unescape_printed, Option.map_some]
  change some (joinSurrogates (s.flatMap unitsOf), rest) = _
  rw [joinSurrogates_units]

/-- ASCII text is its own joined form. -/
theorem joinSurrogates_ascii {s : PyStr} (ascii : IsAscii s) : joinSurrogates s = s := by
  induction s with
  | nil => rfl
  | cons c s ih =>
      obtain ⟨small, rest⟩ := isAscii_cons.mp ascii
      rw [joinSurrogates_cons_of_not fun d _ high => by
        have := high.1
        unfold IsHigh at this
        omega, ih rest]

/-! ## Values -/

mutual

/-- The value a printed value is read back as. -/
def Json.norm : Json → Json
  | .str s => .str (joinSurrogates s)
  | .arr elems => .arr (normElems elems)
  | .obj members => .obj (dict (normMembers members))
  | v => v

def normElems : List Json → List Json
  | [] => []
  | v :: elems => v.norm :: normElems elems

def normMembers : List (PyStr × Json) → List (PyStr × Json)
  | [] => []
  | (k, v) :: members => (joinSurrogates k, v.norm) :: normMembers members

end

/-- A dictionary display without a repeated key keeps its members in order. -/
theorem dict_of_nodup {members : List (PyStr × Json)} (nodup : (members.map Prod.fst).Nodup) :
    dict members = members := by
  have general : ∀ (front back : List (PyStr × Json)),
      ((front ++ back).map Prod.fst).Nodup → back.foldl insertMember front = front ++ back := by
    intro front back
    induction back generalizing front with
    | nil => intro _; exact (List.append_nil front).symm
    | cons m back ih =>
        intro distinct
        have fresh : insertMember front m = front ++ [m] := by
          rw [insertMember, if_neg]
          simp only [List.any_eq_true, decide_eq_true_eq, not_exists, not_and]
          intro m' mem same
          rw [List.map_append, List.map_cons, List.nodup_append] at distinct
          exact distinct.2.2 m'.1 (List.mem_map_of_mem mem) m.1 (List.mem_cons_self ..) same
        rw [List.foldl_cons, fresh, ih _ (by simpa using distinct), List.append_assoc,
          List.singleton_append]
  exact general [] members nodup

/-- The first characters of values. -/
def starters : PyStr := py "nftNI-0123456789\"[\x7b"

theorem digitChar_mem_starters {d : Nat} (small : d < 10) : digitChar d ∈ starters := by
  revert small
  revert d
  decide

theorem quote_mem_starters : chr '"' ∈ starters := by decide

theorem printInt_cons (n : Int) : ∃ c t, printInt n = c :: t ∧ c ∈ starters := by
  obtain ⟨d, t, shape, small, -⟩ := decimal_cons n.natAbs
  by_cases neg : n < 0
  · exact ⟨chr '-', decimal n.natAbs, by simp [printInt, neg], by decide⟩
  · exact ⟨digitChar d, t, by simp [printInt, neg, shape], digitChar_mem_starters small⟩

theorem printFloat_cons (x : FloatLit) : ∃ c t, printFloat x = c :: t ∧ c ∈ starters := by
  obtain ⟨d, t, shape, small, -⟩ := decimal_cons x.int
  cases neg : x.neg with
  | true => exact ⟨chr '-', _, by simp only [printFloat, neg, if_true]; rfl, by decide⟩
  | false =>
      rw [printFloat, neg, shape]
      exact ⟨digitChar d, _, rfl, digitChar_mem_starters small⟩

theorem dumps_cons (v : Json) : ∃ c t, dumps v = c :: t ∧ c ∈ starters := by
  cases v with
  | null => exact ⟨_, _, by rw [dumps]; rfl, by decide⟩
  | bool b => cases b <;> exact ⟨_, _, by rw [dumps]; rfl, by decide⟩
  | int n => rw [dumps]; exact printInt_cons n
  | float x => rw [dumps]; exact printFloat_cons x
  | nan => exact ⟨_, _, by rw [dumps]; rfl, by decide⟩
  | infinity neg => cases neg <;> exact ⟨_, _, by rw [dumps]; rfl, by decide⟩
  | str s => exact ⟨_, _, by rw [dumps, printStr]; rfl, by decide⟩
  | arr elems => exact ⟨_, _, by rw [dumps]; rfl, by decide⟩
  | obj members => exact ⟨_, _, by rw [dumps]; rfl, by decide⟩

theorem skipSpace_cons {c : CodePoint} (s : PyStr) (solid : ¬ IsSpace c) :
    skipSpace (c :: s) = c :: s := by
  rw [skipSpace, List.dropWhile_cons_of_neg (by simpa using solid)]

theorem expect_cons {c : CodePoint} (d : Char) (s : PyStr) (solid : ¬ IsSpace c) :
    expect d (c :: s) = if c = chr d then some s else none := by
  rw [expect, skipSpace_cons s solid]

theorem not_isSpace_of_starter {c : CodePoint} (mem : c ∈ starters) : ¬ IsSpace c := by
  have all : starters.all (fun c => !decide (IsSpace c)) = true := by decide +kernel
  simpa using List.all_eq_true.mp all c mem

theorem skipSpace_starter {c : CodePoint} (s : PyStr) (mem : c ∈ starters) :
    skipSpace (c :: s) = c :: s := skipSpace_cons s (not_isSpace_of_starter mem)

theorem expect_starter {c : CodePoint} {d : Char} (s : PyStr) (mem : c ∈ starters)
    (other : chr d ∉ starters) : expect d (c :: s) = none := by
  rw [expect_cons d s (not_isSpace_of_starter mem), if_neg]
  rintro rfl
  exact other mem

/-- Numbers are not mistaken for words. -/
theorem parseWord_digit {d : Nat} (small : d < 10) (s : PyStr) :
    parseWord (digitChar d :: s) = none := by
  have first : ∀ d < 10, ∀ p ∈ words.map Prod.fst, p.head? ≠ some (digitChar d) := by
    have list : words.map Prod.fst =
        [py "null", py "true", py "false", py "NaN", py "Infinity", py "-Infinity"] := rfl
    rw [list]
    decide
  rw [parseWord, List.find?_eq_none.mpr, Option.map_none]
  intro w mem isPrefix
  have nonempty : ∃ c t, w.1 = c :: t := by
    simp only [words, List.mem_cons, List.not_mem_nil, or_false] at mem
    rcases mem with rfl | rfl | rfl | rfl | rfl | rfl <;> exact ⟨_, _, rfl⟩
  obtain ⟨c, t, shape⟩ := nonempty
  rw [shape, List.isPrefixOf_cons_cons, Bool.and_eq_true, beq_iff_eq] at isPrefix
  refine first d small w.1 (List.mem_map_of_mem mem) ?_
  rw [shape, List.head?_cons, isPrefix.1]

theorem parseWord_minus_digit {d : Nat} (small : d < 10) (s : PyStr) :
    parseWord (chr '-' :: digitChar d :: s) = none := by
  have letter : chr 'I' ≠ digitChar d := by
    revert small
    revert d
    decide
  rw [parseWord, List.find?_eq_none.mpr, Option.map_none]
  intro w mem isPrefix
  simp only [words, List.mem_cons, List.not_mem_nil, or_false] at mem
  rcases mem with rfl | rfl | rfl | rfl | rfl | rfl
  case inr.inr.inr.inr.inr =>
    have shape : py "-Infinity" = chr '-' :: chr 'I' :: py "nfinity" := rfl
    rw [shape, List.isPrefixOf_cons_cons, List.isPrefixOf_cons_cons] at isPrefix
    simp only [beq_self_eq_true, Bool.true_and, Bool.and_eq_true, beq_iff_eq] at isPrefix
    exact letter isPrefix.1
  all_goals
    revert isPrefix
    rw [imp_false, Bool.not_eq_true]
    rfl

theorem parseWord_number (neg : Bool) (n : Nat) (s : PyStr) :
    parseWord ((if neg then [chr '-'] else []) ++ decimal n ++ s) = none := by
  obtain ⟨d, t, shape, small, -⟩ := decimal_cons n
  cases neg with
  | true => simpa [shape] using parseWord_minus_digit small (t ++ s)
  | false => simpa [shape] using parseWord_digit small (t ++ s)

/-- What is neither a string nor a list is read as a word or a number. -/
theorem parseValue_scalar {lim : Limits} {n depth : Nat} {c : CodePoint} {s : PyStr} {v : Json}
    {r : PyStr} (other : c ≠ chr '"' ∧ c ≠ chr '[' ∧ c ≠ chr '{')
    (read : (parseWord (c :: s)).or ((parseNumber (c :: s)).filter fun x => lim.reads x.1) =
      some (v, r)) :
    parseValue lim (n + 1) depth (c :: s) = some (v, r) := by
  rw [parseValue, if_neg other.1, if_neg other.2.1, if_neg other.2.2, read]

theorem digitChar_other {d : Nat} (small : d < 10) :
    digitChar d ≠ chr '"' ∧ digitChar d ≠ chr '[' ∧ digitChar d ≠ chr '{' := by
  revert small
  revert d
  decide

theorem parseValue_number {lim : Limits} {n depth : Nat} (neg : Bool) (m : Nat) {s : PyStr}
    {v : Json} {r : PyStr}
    (number : parseNumber ((if neg then [chr '-'] else []) ++ decimal m ++ s) = some (v, r))
    (short : lim.reads v = true) :
    parseValue lim (n + 1) depth ((if neg then [chr '-'] else []) ++ decimal m ++ s) =
      some (v, r) := by
  have read : (parseNumber ((if neg then [chr '-'] else []) ++ decimal m ++ s)).filter
      (fun x => lim.reads x.1) = some (v, r) := by
    rw [number, Option.filter_some, if_pos short]
  obtain ⟨d, t, shape, small, -⟩ := decimal_cons m
  have word := parseWord_number neg m s
  cases neg with
  | true =>
      refine parseValue_scalar (by decide) ?_
      simp only [if_true, List.cons_append, List.nil_append] at word read
      simp only [List.append_eq, List.nil_append]
      rw [word, Option.none_or, read]
  | false =>
      simp only [Bool.false_eq_true, if_false, List.nil_append, shape, List.cons_append] at word read ⊢
      exact parseValue_scalar (digitChar_other small) (by rw [word, Option.none_or, read])

theorem ends_cons {c : CodePoint} {s : PyStr}
    (other : ¬ IsDigit c ∧ c ≠ chr '.' ∧ c ≠ chr 'e' ∧ c ≠ chr 'E') : Ends (c :: s) := by
  intro d mem
  simp only [List.head?_cons, Option.mem_def, Option.some.injEq] at mem
  exact mem ▸ other

theorem dumpsElemsTail_cons (v : Json) (elems : List Json) :
    dumpsElemsTail (v :: elems) = chr ',' :: chr ' ' :: dumpsElems (v :: elems) := by
  rw [dumpsElemsTail, dumpsElems]
  rfl

theorem dumpsMembersTail_cons (m : PyStr × Json) (members : List (PyStr × Json)) :
    dumpsMembersTail (m :: members) = chr ',' :: chr ' ' :: dumpsMembers (m :: members) := by
  rw [dumpsMembersTail, dumpsMembers]
  rfl

/-- After an element comes the end of the list or a comma; both stop a number. -/
theorem ends_elemsTail (elems : List Json) (rest : PyStr) :
    Ends (dumpsElemsTail elems ++ chr ']' :: rest) := by
  cases elems with
  | nil => exact ends_cons (by decide)
  | cons v elems => rw [dumpsElemsTail_cons]; exact ends_cons (by decide)

theorem ends_membersTail (members : List (PyStr × Json)) (rest : PyStr) :
    Ends (dumpsMembersTail members ++ chr '}' :: rest) := by
  cases members with
  | nil => exact ends_cons (by decide)
  | cons m members => rw [dumpsMembersTail_cons]; exact ends_cons (by decide)

theorem dumps_pos (v : Json) : 0 < (dumps v).length := by
  obtain ⟨c, t, shape, -⟩ := dumps_cons v
  rw [shape]
  exact Nat.succ_pos _

mutual

/-- Inside `depth` lists, a value is nested no deeper and has no longer integers than the limits
allow. -/
def Json.Within (lim : Limits) (depth : Nat) : Json → Prop
  | .int n => lim.reads (.int n) = true
  | .arr elems => lim.deep depth = false ∧ WithinElems lim (depth + 1) elems
  | .obj members => lim.deep depth = false ∧ WithinMembers lim (depth + 1) members
  | _ => True

def WithinElems (lim : Limits) (depth : Nat) : List Json → Prop
  | [] => True
  | v :: elems => v.Within lim depth ∧ WithinElems lim depth elems

def WithinMembers (lim : Limits) (depth : Nat) : List (PyStr × Json) → Prop
  | [] => True
  | m :: members => m.2.Within lim depth ∧ WithinMembers lim depth members

end

mutual

/-- A printed value is read back in place, whatever follows that cannot belong to a number. -/
theorem parseValue_dumps {lim : Limits} (v : Json) (rest : PyStr) {n depth : Nat}
    (within : v.Within lim depth) (fuel : 2 * (dumps v).length ≤ n) (ends : Ends rest) :
    parseValue lim n depth (dumps v ++ rest) = some (v.norm, rest) := by
  have pos := dumps_pos v
  obtain ⟨n, rfl⟩ : ∃ m, n = m + 1 := ⟨n - 1, by omega⟩
  cases v with
  | null => rw [dumps]; exact parseValue_scalar (by decide) rfl
  | bool b => cases b <;> (rw [dumps]; exact parseValue_scalar (by decide) rfl)
  | nan => rw [dumps]; exact parseValue_scalar (by decide) rfl
  | infinity neg => cases neg <;> (rw [dumps]; exact parseValue_scalar (by decide) rfl)
  | int m =>
      have read := parseNumber_printInt m ends
      rw [dumps]
      rw [printInt_eq] at read ⊢
      exact parseValue_number _ _ read within
  | float x =>
      have read := parseNumber_printFloat x ends
      rw [dumps]
      rw [printFloat, List.append_assoc, List.append_assoc] at read ⊢
      exact parseValue_number _ _ read rfl
  | str s =>
      rw [dumps, printStr, List.cons_append, List.cons_append, List.append_assoc,
        List.singleton_append, parseValue, if_pos rfl, parseStr_printed, Json.norm]
      rfl
  | arr elems =>
      obtain ⟨shallow, within⟩ := within
      rw [dumps, List.cons_append, List.cons_append, List.append_assoc, List.singleton_append,
        parseValue, if_neg (by decide), if_pos rfl, if_neg (by simp [shallow]), Json.norm]
      rw [dumps, List.length_append, List.length_cons, List.length_singleton] at fuel
      cases elems with
      | nil =>
          rw [dumpsElems, List.nil_append, expect_cons _ _ (by decide), if_pos rfl, normElems]
      | cons v elems =>
          obtain ⟨c, t, shape, mem⟩ := dumps_cons v
          have text : dumpsElems (v :: elems) ++ chr ']' :: rest =
              c :: (t ++ dumpsElemsTail elems ++ chr ']' :: rest) := by
            rw [dumpsElems, shape]
            simp only [List.cons_append, List.append_assoc]
          have read := parseElems_dumps v elems rest (n := n) within (by omega)
          rw [text] at read ⊢
          rw [expect_starter _ mem (by decide), skipSpace_starter _ mem, read, Option.map_some]
  | obj members =>
      obtain ⟨shallow, within⟩ := within
      rw [dumps, List.cons_append, List.cons_append, List.append_assoc, List.singleton_append,
        parseValue, if_neg (by decide), if_neg (by decide), if_pos rfl, if_neg (by simp [shallow]),
        Json.norm]
      rw [dumps, List.length_append, List.length_cons, List.length_singleton] at fuel
      cases members with
      | nil =>
          rw [dumpsMembers, List.nil_append, expect_cons _ _ (by decide), if_pos rfl, normMembers]
          rfl
      | cons m members =>
          have text : dumpsMembers (m :: members) ++ chr '}' :: rest =
              chr '"' :: (m.1.flatMap escapeChar ++ [chr '"'] ++ py ": " ++ dumps m.2 ++
                dumpsMembersTail members ++ chr '}' :: rest) := by
            rw [dumpsMembers, printStr]
            simp only [List.cons_append, List.append_assoc]
          have read := parseMembers_dumps m members rest (n := n) within (by omega)
          rw [text] at read ⊢
          rw [expect_starter _ quote_mem_starters (by decide),
            skipSpace_starter _ quote_mem_starters, read, Option.map_some]
termination_by n

theorem parseElems_dumps {lim : Limits} (v : Json) (elems : List Json) (rest : PyStr)
    {n depth : Nat} (within : WithinElems lim depth (v :: elems))
    (fuel : 2 * (dumpsElems (v :: elems)).length + 1 ≤ n) :
    parseElems lim n depth (dumpsElems (v :: elems) ++ chr ']' :: rest) =
      some (normElems (v :: elems), rest) := by
  obtain ⟨first, within⟩ := within
  obtain ⟨n, rfl⟩ : ∃ m, n = m + 1 := ⟨n - 1, by omega⟩
  rw [dumpsElems, List.length_append] at fuel
  rw [dumpsElems, List.append_assoc, parseElems,
    parseValue_dumps v _ first (by omega) (ends_elemsTail elems rest), Option.bind_some,
    normElems]
  simp only []
  cases elems with
  | nil => rw [dumpsElemsTail, List.nil_append, expect_cons _ _ (by decide), if_pos rfl, normElems]
  | cons w elems =>
      rw [dumpsElemsTail_cons, List.length_cons, List.length_cons] at fuel
      obtain ⟨c, t, shape, mem⟩ := dumps_cons w
      have text : dumpsElems (w :: elems) ++ chr ']' :: rest =
          c :: (t ++ dumpsElemsTail elems ++ chr ']' :: rest) := by
        rw [dumpsElems, shape]
        simp only [List.cons_append, List.append_assoc]
      have read := parseElems_dumps w elems rest (n := n) within (by omega)
      have skip : skipSpace (chr ' ' :: (dumpsElems (w :: elems) ++ chr ']' :: rest)) =
          dumpsElems (w :: elems) ++ chr ']' :: rest := by
        rw [text]
        exact skipSpace_starter _ mem
      rw [dumpsElemsTail_cons, List.cons_append, List.cons_append, expect_cons _ _ (by decide),
        if_neg (by decide), expect_cons _ _ (by decide), if_pos rfl, Option.bind_some, skip, read,
        Option.map_some]
termination_by n

theorem parseMembers_dumps {lim : Limits} (m : PyStr × Json) (members : List (PyStr × Json))
    (rest : PyStr) {n depth : Nat} (within : WithinMembers lim depth (m :: members))
    (fuel : 2 * (dumpsMembers (m :: members)).length + 1 ≤ n) :
    parseMembers lim n depth (dumpsMembers (m :: members) ++ chr '}' :: rest) =
      some (normMembers (m :: members), rest) := by
  obtain ⟨first, within⟩ := within
  obtain ⟨n, rfl⟩ : ∃ m, n = m + 1 := ⟨n - 1, by omega⟩
  obtain ⟨k, v⟩ := m
  rw [dumpsMembers, List.length_append, List.length_append, List.length_append] at fuel
  obtain ⟨c, t, shape, mem⟩ := dumps_cons v
  have skip : ∀ s, skipSpace (chr ' ' :: (dumps v ++ s)) = dumps v ++ s := by
    intro s
    rw [shape]
    exact skipSpace_starter _ mem
  have colon : py ": " = [chr ':', chr ' '] := rfl
  rw [dumpsMembers, printStr]
  simp only [List.append_assoc, List.cons_append, List.nil_append, colon]
  rw [parseMembers, expect_cons _ _ (by decide), if_pos rfl, Option.bind_some, parseStr_printed,
    Option.bind_some]
  simp only []
  rw [expect_cons _ _ (by decide), if_pos rfl, Option.bind_some, skip,
    parseValue_dumps v _ first (by omega) (ends_membersTail members rest), Option.bind_some,
    normMembers]
  cases members with
  | nil =>
      simp only []
      rw [dumpsMembersTail, List.nil_append, expect_cons _ _ (by decide), if_pos rfl, normMembers]
  | cons m members =>
      rw [dumpsMembersTail_cons, List.length_cons, List.length_cons] at fuel
      have read := parseMembers_dumps m members rest (n := n) within (by omega)
      have text : dumpsMembers (m :: members) ++ chr '}' :: rest =
          chr '"' :: (m.1.flatMap escapeChar ++ [chr '"'] ++ py ": " ++ dumps m.2 ++
            dumpsMembersTail members ++ chr '}' :: rest) := by
        rw [dumpsMembers, printStr]
        simp only [List.cons_append, List.append_assoc]
      have skipNext : skipSpace (chr ' ' :: (dumpsMembers (m :: members) ++ chr '}' :: rest)) =
          dumpsMembers (m :: members) ++ chr '}' :: rest := by
        rw [text]
        exact skipSpace_starter _ quote_mem_starters
      simp only []
      rw [dumpsMembersTail_cons, List.cons_append, List.cons_append, expect_cons _ _ (by decide),
        if_neg (by decide), expect_cons _ _ (by decide), if_pos rfl, Option.bind_some, skipNext,
        read, Option.map_some]
termination_by n

end

theorem skipSpace_dumps (v : Json) : skipSpace (dumps v) = dumps v := by
  obtain ⟨c, t, shape, mem⟩ := dumps_cons v
  rw [shape]
  exact skipSpace_starter t mem

/-- `json.loads(json.dumps(v))` -/
theorem loads_dumps {lim : Limits} {v : Json} (within : v.Within lim 0) :
    loads lim (dumps v) = some v.norm := by
  have read := parseValue_dumps v [] (n := 2 * (dumps v).length + 2) within (by omega)
    (by simp [Ends])
  rw [List.append_nil] at read
  rw [loads, skipSpace_dumps, read]
  rfl

/-! ## Through octets -/

theorem isAscii_decimal (n : Nat) : IsAscii (decimal n) := by
  by_cases zero : n = 0
  · subst zero
    decide
  · rw [decimal_eq_map zero]
    intro c mem
    obtain ⟨d, -, rfl⟩ := List.mem_map.mp mem
    rw [digitChar_val d.isLt]
    omega

theorem isAscii_printInt (n : Int) : IsAscii (printInt n) := by
  rw [printInt, isAscii_append]
  refine ⟨?_, isAscii_decimal _⟩
  split
  · decide
  · exact isAscii_nil

theorem isAscii_printFloat (x : FloatLit) : IsAscii (printFloat x) := by
  have digits : IsAscii (x.frac.map fun d => digitChar d.val) := by
    intro c mem
    obtain ⟨d, -, rfl⟩ := List.mem_map.mp mem
    rw [digitChar_val d.isLt]
    omega
  simp only [printFloat, isAscii_append]
  refine ⟨⟨⟨?_, isAscii_decimal _⟩, ?_⟩, ?_⟩
  · split
    · decide
    · exact isAscii_nil
  · split
    · exact isAscii_nil
    · exact isAscii_cons.mpr ⟨by decide, digits⟩
  · cases x.exp with
    | none => exact isAscii_nil
    | some e => exact isAscii_cons.mpr ⟨by decide, isAscii_printInt e⟩

theorem hexDigit_lt {d : Nat} (small : d < 16) : (hexDigit d).val < 0x80 := by
  revert small
  revert d
  decide

theorem isAscii_escapeUnit (u : Nat) : IsAscii (escapeUnit u) := by
  have bound : ∀ n, (hexDigit (n % 16)).val < 0x80 := fun n => hexDigit_lt (Nat.mod_lt _ (by omega))
  simp only [escapeUnit, hex4, isAscii_cons, bound, isAscii_nil, and_true]
  decide

theorem isAscii_escapeChar (c : CodePoint) : IsAscii (escapeChar c) := by
  unfold escapeChar
  split_ifs with h₁ h₂ h₃ h₄ h₅ h₆ h₇ h₈ h₉
  · decide
  · decide
  · decide
  · decide
  · decide
  · decide
  · decide
  · simp only [isAscii_cons, isAscii_nil, and_true]
    omega
  · exact isAscii_escapeUnit _
  · exact isAscii_append.mpr ⟨isAscii_escapeUnit _, isAscii_escapeUnit _⟩

theorem isAscii_printStr (s : PyStr) : IsAscii (printStr s) := by
  have body : IsAscii (s.flatMap escapeChar) := by
    intro c mem
    obtain ⟨d, -, mem⟩ := List.mem_flatMap.mp mem
    exact isAscii_escapeChar d c mem
  rw [printStr, isAscii_append, isAscii_cons]
  exact ⟨⟨by decide, body⟩, by decide⟩

mutual

theorem isAscii_dumps (v : Json) : IsAscii (dumps v) := by
  cases v with
  | null => rw [dumps]; decide
  | bool b => cases b <;> (rw [dumps]; decide)
  | nan => rw [dumps]; decide
  | infinity neg => cases neg <;> (rw [dumps]; decide)
  | int n => rw [dumps]; exact isAscii_printInt n
  | float x => rw [dumps]; exact isAscii_printFloat x
  | str s => rw [dumps]; exact isAscii_printStr s
  | arr elems =>
      rw [dumps, isAscii_append, isAscii_cons]
      refine ⟨⟨by decide, ?_⟩, by decide⟩
      cases elems with
      | nil => rw [dumpsElems]; exact isAscii_nil
      | cons v elems =>
          rw [dumpsElems, isAscii_append]
          exact ⟨isAscii_dumps v, isAscii_elemsTail elems⟩
  | obj members =>
      rw [dumps, isAscii_append, isAscii_cons]
      refine ⟨⟨by decide, ?_⟩, by decide⟩
      cases members with
      | nil => rw [dumpsMembers]; exact isAscii_nil
      | cons m members =>
          obtain ⟨k, v⟩ := m
          rw [dumpsMembers, isAscii_append, isAscii_append, isAscii_append]
          exact ⟨⟨⟨isAscii_printStr k, by decide⟩, isAscii_dumps v⟩, isAscii_membersTail members⟩

theorem isAscii_elemsTail (elems : List Json) : IsAscii (dumpsElemsTail elems) := by
  cases elems with
  | nil => rw [dumpsElemsTail]; exact isAscii_nil
  | cons v elems =>
      rw [dumpsElemsTail, isAscii_append, isAscii_append]
      exact ⟨⟨by decide, isAscii_dumps v⟩, isAscii_elemsTail elems⟩

theorem isAscii_membersTail (members : List (PyStr × Json)) :
    IsAscii (dumpsMembersTail members) := by
  cases members with
  | nil => rw [dumpsMembersTail]; exact isAscii_nil
  | cons m members =>
      obtain ⟨k, v⟩ := m
      rw [dumpsMembersTail, isAscii_append, isAscii_append, isAscii_append, isAscii_append]
      exact ⟨⟨⟨⟨by decide, isAscii_printStr k⟩, by decide⟩, isAscii_dumps v⟩,
        isAscii_membersTail members⟩

end

mutual

/-- Without limits, every value keeps them. -/
theorem within_none (depth : Nat) (v : Json) : v.Within .none depth := by
  cases v with
  | null => exact trivial
  | bool b => exact trivial
  | int n => exact rfl
  | float x => exact trivial
  | nan => exact trivial
  | infinity neg => exact trivial
  | str s => exact trivial
  | arr elems => exact ⟨rfl, withinElems_none (depth + 1) elems⟩
  | obj members => exact ⟨rfl, withinMembers_none (depth + 1) members⟩

theorem withinElems_none (depth : Nat) (elems : List Json) : WithinElems .none depth elems := by
  cases elems with
  | nil => exact trivial
  | cons v elems => exact ⟨within_none depth v, withinElems_none depth elems⟩

theorem withinMembers_none (depth : Nat) (members : List (PyStr × Json)) :
    WithinMembers .none depth members := by
  cases members with
  | nil => exact trivial
  | cons m members =>
      obtain ⟨k, v⟩ := m
      exact ⟨within_none depth v, withinMembers_none depth members⟩

end

/-- What one program prints and encodes, another decodes and parses to the same value. -/
theorem decodeJson_encodeJson {lim : Limits} {v : Json} (within : v.Within lim 0) :
    decodeJson lim (encodeJson v) = .ok v.norm := by
  rw [decodeJson, encodeJson, decodeUtf8_ascii (isAscii_dumps v)]
  simp only [loads_dumps within]

/-- The same for an object that repeats no key. -/
theorem decodeJson_encodeJson_obj {lim : Limits} {members : List (PyStr × Json)}
    (within : (Json.obj members).Within lim 0)
    (keys : ((normMembers members).map Prod.fst).Nodup) :
    decodeJson lim (encodeJson (.obj members)) = .ok (.obj (normMembers members)) := by
  rw [decodeJson_encodeJson within, Json.norm, dict_of_nodup keys]

end Text
