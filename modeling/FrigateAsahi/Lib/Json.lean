import FrigateAsahi.Lib.Text
import Mathlib.Data.Nat.Digits.Defs

/-!
# JSON values, `json.dumps` and `json.loads`

The printer follows the default settings of `json.dumps` (ASCII escapes, `", "` and `": "` as
separators), the parser follows the strict scanner of `json.loads`: literals with the three
non-finite constants, surrogate pairs joined, control characters refused in strings, the last of
several equal keys winning. An interpreter may limit the digits of an integer and the depth of
nested lists (`Limits`), and raises another exception than for a mistake in the text when a limit is
met.

A number with a fraction or an exponent is kept as its literal; only whether it is zero is ever
asked of it (`FloatLit.isZero`).
-/

namespace Text

instance neZero_digits : NeZero 10 := ⟨by decide⟩

/-- A number literal with a fraction or an exponent. -/
structure FloatLit : Type where
  neg : Bool
  int : Nat
  frac : List (Fin 10)
  exp : Option Int
  wf : frac ≠ [] ∨ exp.isSome = true

/-- `0.0` -/
def FloatLit.zero : FloatLit := ⟨false, 0, [0], none, .inl (List.cons_ne_nil _ _)⟩

inductive Json : Type
  | null
  | bool (b : Bool)
  | int (n : Int)
  | float (x : FloatLit)
  | nan
  | infinity (neg : Bool)
  | str (s : PyStr)
  | arr (elems : List Json)
  | obj (members : List (PyStr × Json))

/-! ## Reading values -/

def natOfDigits (ds : List (Fin 10)) : Nat := ds.foldl (fun n d => 10 * n + d.val) 0

/-- Whether the nearest double is zero: the magnitude is at most half the least positive double,
`2 ^ (-1075)`. -/
def FloatLit.isZero (x : FloatLit) : Bool :=
  let mantissa := natOfDigits x.frac + x.int * 10 ^ x.frac.length
  let scale : Int := x.exp.getD 0 - x.frac.length
  mantissa = 0 || (scale < 0 && mantissa * 2 ^ 1075 ≤ 10 ^ scale.natAbs)

namespace Json

/-- The truth value of a decoded value. -/
def truthy : Json → Bool
  | .null => false
  | .bool b => b
  | .int n => n ≠ 0
  | .float x => !x.isZero
  | .nan => true
  | .infinity _ => true
  | .str s => !s.isEmpty
  | .arr elems => !elems.isEmpty
  | .obj members => !members.isEmpty

end Json

/-- `d.get(key)` on the members of a decoded object. -/
def lookup (key : PyStr) (members : List (PyStr × Json)) : Option Json :=
  (members.find? fun m => m.1 = key).map Prod.snd

@[simp] theorem lookup_nil (key : PyStr) : lookup key [] = none := rfl

theorem lookup_cons (key k : PyStr) (v : Json) (members : List (PyStr × Json)) :
    lookup key ((k, v) :: members) = if k = key then some v else lookup key members := by
  unfold lookup
  by_cases same : k = key <;> simp [same]

/-! ## Printing -/

def digitChar (d : Nat) : CodePoint := Fin.ofNat _ (48 + d)

/-- A natural number in base ten. -/
def decimal (n : Nat) : PyStr :=
  if n = 0 then [digitChar 0] else (Nat.digits 10 n).reverse.map digitChar

def printInt (n : Int) : PyStr :=
  (if n < 0 then [chr '-'] else []) ++ decimal n.natAbs

def printFloat (x : FloatLit) : PyStr :=
  (if x.neg then [chr '-'] else []) ++ decimal x.int ++
    (if x.frac = [] then [] else chr '.' :: x.frac.map fun d => digitChar d.val) ++
    match x.exp with
    | none => []
    | some e => chr 'e' :: printInt e

def hexDigit (d : Nat) : CodePoint :=
  Fin.ofNat _ (if d < 10 then 48 + d else 87 + d)

/-- Four hexadecimal digits. -/
def hex4 (u : Nat) : PyStr :=
  [hexDigit (u / 4096 % 16), hexDigit (u / 256 % 16), hexDigit (u / 16 % 16), hexDigit (u % 16)]

def escapeUnit (u : Nat) : PyStr := chr '\\' :: chr 'u' :: hex4 u

/-- The two surrogates of a code point above the basic plane. -/
def highSurrogate (c : Nat) : Nat := 0xD800 + (c - 0x10000) / 0x400
def lowSurrogate (c : Nat) : Nat := 0xDC00 + (c - 0x10000) % 0x400

/-- One character inside a printed string. -/
def escapeChar (c : CodePoint) : PyStr :=
  if c = chr '"' then [chr '\\', chr '"']
  else if c = chr '\\' then [chr '\\', chr '\\']
  else if c = chr '\n' then [chr '\\', chr 'n']
  else if c = chr '\r' then [chr '\\', chr 'r']
  else if c = chr '\t' then [chr '\\', chr 't']
  else if c.val = 12 then [chr '\\', chr 'f']
  else if c.val = 8 then [chr '\\', chr 'b']
  else if 0x20 ≤ c.val ∧ c.val ≤ 0x7E then [c]
  else if c.val < 0x10000 then escapeUnit c.val
  else escapeUnit (highSurrogate c.val) ++ escapeUnit (lowSurrogate c.val)

def printStr (s : PyStr) : PyStr := chr '"' :: s.flatMap escapeChar ++ [chr '"']

mutual

/-- `json.dumps` -/
def dumps : Json → PyStr
  | .null => py "null"
  | .bool true => py "true"
  | .bool false => py "false"
  | .int n => printInt n
  | .float x => printFloat x
  | .nan => py "NaN"
  | .infinity false => py "Infinity"
  | .infinity true => py "-Infinity"
  | .str s => printStr s
  | .arr elems => chr '[' :: dumpsElems elems ++ [chr ']']
  | .obj members => chr '{' :: dumpsMembers members ++ [chr '}']

def dumpsElems : List Json → PyStr
  | [] => []
  | v :: elems => dumps v ++ dumpsElemsTail elems

def dumpsElemsTail : List Json → PyStr
  | [] => []
  | v :: elems => py ", " ++ dumps v ++ dumpsElemsTail elems

def dumpsMembers : List (PyStr × Json) → PyStr
  | [] => []
  | (k, v) :: members => printStr k ++ py ": " ++ dumps v ++ dumpsMembersTail members

def dumpsMembersTail : List (PyStr × Json) → PyStr
  | [] => []
  | (k, v) :: members => py ", " ++ printStr k ++ py ": " ++ dumps v ++ dumpsMembersTail members

end

/-! ## Parsing -/

def IsDigit (c : CodePoint) : Prop := 48 ≤ c.val ∧ c.val ≤ 57

instance (c : CodePoint) : Decidable (IsDigit c) :=
  inferInstanceAs (Decidable (48 ≤ c.val ∧ c.val ≤ 57))

/-- The longest run of digits at the front. -/
def takeDigits : PyStr → List (Fin 10) × PyStr
  | [] => ([], [])
  | c :: s => if IsDigit c then (Fin.ofNat 10 (c.val - 48) :: (takeDigits s).1, (takeDigits s).2)
    else ([], c :: s)

def parseNat : PyStr → Option (Nat × PyStr)
  | [] => none
  | c :: s =>
    if c = chr '0' then some (0, s)
    else if IsDigit c then some (natOfDigits (takeDigits (c :: s)).1, (takeDigits (c :: s)).2)
    else none

def parseFrac : PyStr → List (Fin 10) × PyStr
  | [] => ([], [])
  | c :: s =>
    if c = chr '.' ∧ (takeDigits s).1 ≠ [] then takeDigits s else ([], c :: s)

/-- The sign in front of an exponent. -/
def takeSign : PyStr → Bool × PyStr
  | [] => (false, [])
  | c :: s => if c = chr '-' then (true, s) else if c = chr '+' then (false, s) else (false, c :: s)

def signed (neg : Bool) (n : Nat) : Int := if neg then -n else n

def parseExp : PyStr → Option Int × PyStr
  | [] => (none, [])
  | c :: s =>
    if (c = chr 'e' ∨ c = chr 'E') ∧ (takeDigits (takeSign s).2).1 ≠ [] then
      (some (signed (takeSign s).1 (natOfDigits (takeDigits (takeSign s).2).1)),
        (takeDigits (takeSign s).2).2)
    else (none, c :: s)

def takeMinus : PyStr → Bool × PyStr
  | [] => (false, [])
  | c :: s => if c = chr '-' then (true, s) else (false, c :: s)

def mkNumber (neg : Bool) (n : Nat) (frac : List (Fin 10)) (exp : Option Int) : Json :=
  if h : frac ≠ [] ∨ exp.isSome = true then .float ⟨neg, n, frac, exp, h⟩ else .int (signed neg n)

def parseNumber (s : PyStr) : Option (Json × PyStr) :=
  (parseNat (takeMinus s).2).map fun (n, s₁) =>
    (mkNumber (takeMinus s).1 n (parseFrac s₁).1 (parseExp (parseFrac s₁).2).1,
      (parseExp (parseFrac s₁).2).2)

/-- The words of the grammar; no one is a prefix of another. -/
def words : List (PyStr × Json) :=
  [(py "null", .null), (py "true", .bool true), (py "false", .bool false), (py "NaN", .nan),
    (py "Infinity", .infinity false), (py "-Infinity", .infinity true)]

def parseWord (s : PyStr) : Option (Json × PyStr) :=
  (words.find? fun w => w.1.isPrefixOf s).map fun w => (w.2, s.drop w.1.length)

def hexVal (c : CodePoint) : Option Nat :=
  if IsDigit c then some (c.val - 48)
  else if 97 ≤ c.val ∧ c.val ≤ 102 then some (c.val - 87)
  else if 65 ≤ c.val ∧ c.val ≤ 70 then some (c.val - 55)
  else none

def parseHex4 (a b c d : CodePoint) : Option CodePoint := do
  let a ← hexVal a
  let b ← hexVal b
  let c ← hexVal c
  let d ← hexVal d
  some (Fin.ofNat _ (4096 * a + 256 * b + 16 * c + d))

def simpleEscape (c : CodePoint) : Option CodePoint :=
  if c = chr '"' ∨ c = chr '\\' ∨ c = chr '/' then some c
  else if c = chr 'n' then some (chr '\n')
  else if c = chr 'r' then some (chr '\r')
  else if c = chr 't' then some (chr '\t')
  else if c = chr 'f' then some (Fin.ofNat _ 12)
  else if c = chr 'b' then some (Fin.ofNat _ 8)
  else none

/-- The code units of a string up to its closing quote, and what follows the quote. -/
def unescape : PyStr → Option (PyStr × PyStr)
  | [] => none
  | c :: s =>
    if c = chr '"' then some ([], s)
    else if c = chr '\\' then
      match s with
      | [] => none
      | e :: s₁ =>
        if e = chr 'u' then
          match s₁ with
          | h₁ :: h₂ :: h₃ :: h₄ :: s₂ =>
            (parseHex4 h₁ h₂ h₃ h₄).bind fun u =>
              (unescape s₂).map fun (t, r) => (u :: t, r)
          | _ => none
        else (simpleEscape e).bind fun u => (unescape s₁).map fun (t, r) => (u :: t, r)
    else if c.val < 0x20 then none
    else (unescape s).map fun (t, r) => (c :: t, r)

def IsHigh (c : CodePoint) : Prop := 0xD800 ≤ c.val ∧ c.val ≤ 0xDBFF
def IsLow (c : CodePoint) : Prop := 0xDC00 ≤ c.val ∧ c.val ≤ 0xDFFF

instance (c : CodePoint) : Decidable (IsHigh c) :=
  inferInstanceAs (Decidable (0xD800 ≤ c.val ∧ c.val ≤ 0xDBFF))

instance (c : CodePoint) : Decidable (IsLow c) :=
  inferInstanceAs (Decidable (0xDC00 ≤ c.val ∧ c.val ≤ 0xDFFF))

def join (high low : CodePoint) : CodePoint :=
  Fin.ofNat _ (0x10000 + (high.val - 0xD800) * 0x400 + (low.val - 0xDC00))

/-- Join each high surrogate to a low surrogate right behind it. Decoded UTF-8 holds no surrogate,
so the only ones are those that were escaped. -/
def joinSurrogates : PyStr → PyStr
  | [] => []
  | [c] => [c]
  | c :: d :: s =>
    if IsHigh c ∧ IsLow d then join c d :: joinSurrogates s else c :: joinSurrogates (d :: s)

def parseStr (s : PyStr) : Option (PyStr × PyStr) :=
  (unescape s).map fun (t, r) => (joinSurrogates t, r)

def IsSpace (c : CodePoint) : Prop :=
  c = chr ' ' ∨ c = chr '\t' ∨ c = chr '\n' ∨ c = chr '\r'

instance (c : CodePoint) : Decidable (IsSpace c) :=
  inferInstanceAs (Decidable (c = chr ' ' ∨ c = chr '\t' ∨ c = chr '\n' ∨ c = chr '\r'))

def skipSpace (s : PyStr) : PyStr := s.dropWhile fun c => IsSpace c

/-- `d[key] = v`: an old key keeps its place. -/
def insertMember (members : List (PyStr × Json)) (m : PyStr × Json) : List (PyStr × Json) :=
  if members.any fun m' => m'.1 = m.1 then
    members.map fun m' => if m'.1 = m.1 then m else m'
  else members ++ [m]

def dict (members : List (PyStr × Json)) : List (PyStr × Json) := members.foldl insertMember []

/-- What must come next, white space aside. -/
def expect (c : Char) (s : PyStr) : Option PyStr :=
  match skipSpace s with
  | [] => none
  | d :: t => if d = chr c then some t else none

/-- What an interpreter accepts: the most digits of an integer, and the most lists or objects one
inside the other. -/
structure Limits : Type where
  digits : Option Nat
  depth : Option Nat

namespace Limits

def none : Limits := ⟨.none, .none⟩

/-- Inside so many lists, one more is too many. -/
def deep (lim : Limits) (depth : Nat) : Bool := lim.depth.any fun n => decide (n ≤ depth)

/-- An integer does not have too many digits. -/
def reads (lim : Limits) : Json → Bool
  | .int n => !lim.digits.any fun d => decide (d < (decimal n.natAbs).length)
  | _ => true

end Limits

mutual

/-- The value at the front of a text, inside `depth` lists. The fuel bounds the recursion; twice the
length of the text is always enough, since a list and its first element start at one place and
every other step consumes a character. -/
def parseValue (lim : Limits) : Nat → Nat → PyStr → Option (Json × PyStr)
  | 0, _, _ => none
  | _ + 1, _, [] => none
  | n + 1, depth, c :: s =>
    if c = chr '"' then (parseStr s).map fun (t, r) => (.str t, r)
    else if c = chr '[' then
      if lim.deep depth then none
      else match expect ']' s with
      | some r => some (.arr [], r)
      | none => (parseElems lim n (depth + 1) (skipSpace s)).map fun (elems, r) => (.arr elems, r)
    else if c = chr '{' then
      if lim.deep depth then none
      else match expect '}' s with
      | some r => some (.obj [], r)
      | none => (parseMembers lim n (depth + 1) (skipSpace s)).map
          fun (members, r) => (.obj (dict members), r)
    else (parseWord (c :: s)).or ((parseNumber (c :: s)).filter fun x => lim.reads x.1)

def parseElems (lim : Limits) : Nat → Nat → PyStr → Option (List Json × PyStr)
  | 0, _, _ => none
  | n + 1, depth, s =>
    (parseValue lim n depth s).bind fun (v, s₁) =>
      match expect ']' s₁ with
      | some r => some ([v], r)
      | none => (expect ',' s₁).bind fun s₂ =>
          (parseElems lim n depth (skipSpace s₂)).map fun (elems, r) => (v :: elems, r)

def parseMembers (lim : Limits) : Nat → Nat → PyStr → Option (List (PyStr × Json) × PyStr)
  | 0, _, _ => none
  | n + 1, depth, s =>
    (expect '"' s).bind fun s₁ => (parseStr s₁).bind fun (k, s₂) =>
      (expect ':' s₂).bind fun s₃ => (parseValue lim n depth (skipSpace s₃)).bind fun (v, s₄) =>
        match expect '}' s₄ with
        | some r => some ([(k, v)], r)
        | none => (expect ',' s₄).bind fun s₅ =>
            (parseMembers lim n depth (skipSpace s₅)).map fun (members, r) => ((k, v) :: members, r)

end

/-- `json.loads(s)`; `none` stands for an exception. -/
def loads (lim : Limits) (s : PyStr) : Option Json :=
  match parseValue lim (2 * s.length + 2) 0 (skipSpace s) with
  | some (v, r) => if skipSpace r = [] then some v else none
  | none => none

/-- Why `json.loads(octets.decode("utf-8"))` failed: the octets, the text, or a limit that a text
without mistakes exceeds. -/
inductive DecodeError : Type
  | unicode
  | json
  | limit
  deriving DecidableEq

/-- `json.loads(octets.decode("utf-8"))` -/
def decodeJson (lim : Limits) (octets : Bytes) : Except DecodeError Json :=
  match decodeUtf8 octets with
  | none => .error .unicode
  | some s => match loads lim s with
    | none => if (loads .none s).isSome then .error .limit else .error .json
    | some v => .ok v

example : loads ⟨none, some 3⟩ (py "[[[]]]") = some (.arr [.arr [.arr []]]) := by rfl

example : loads ⟨none, some 2⟩ (py "[[[]]]") = none ∧ loads ⟨some 2, none⟩ (py "123") = none := by
  exact ⟨rfl, rfl⟩

/-- `json.dumps(v).encode("utf-8")` -/
def encodeJson (v : Json) : Bytes := encodeAscii (dumps v)

end Text
