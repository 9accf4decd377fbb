import FrigateAsahi.Lib.Interaction
import FrigateAsahi.Lib.Json
import Mathlib.Data.List.Infix
import Mathlib.Data.List.TakeWhile

/-!
# Exceptions, paths and JSON objects of the source language

`PyErr` keeps of an exception what handlers look at: which `except` clauses catch it (`ErrKind`)
and its text. `exceptException` is the clause `except Exception`, which lets an exit request pass.
The path functions are those of `posixpath`.
-/

namespace Python

open Text Interaction

/-! ## Exceptions -/

/-- The classes that some handler tells apart. `again` is a subclass of `zmqError`, and
`systemExit`, which stands for `KeyboardInterrupt` too, is not an `Exception`. -/
inductive ErrKind : Type
  | again
  | zmqError
  | jsonDecode
  | osError
  | exception
  | systemExit
  deriving DecidableEq

structure PyErr : Type where
  kind : ErrKind
  msg : PyStr
  deriving DecidableEq

namespace PyErr

/-- Caught by `except Exception`. -/
def IsException (e : PyErr) : Prop := e.kind ≠ .systemExit

/-- Caught by `except zmq.ZMQError`. -/
def IsZmqError (e : PyErr) : Prop := e.kind = .again ∨ e.kind = .zmqError

instance (e : PyErr) : Decidable e.IsException := inferInstanceAs (Decidable (e.kind ≠ .systemExit))

instance (e : PyErr) : Decidable e.IsZmqError :=
  inferInstanceAs (Decidable (e.kind = .again ∨ e.kind = .zmqError))

theorem IsZmqError.isException {e : PyErr} (zmq : e.IsZmqError) : e.IsException := by
  rcases zmq with kind | kind <;> simp [IsException, kind]

end PyErr

def exception (msg : String) : PyErr := ⟨.exception, py msg⟩

@[simp] theorem isException_exception (msg : String) : (exception msg).IsException := by
  simp [exception, PyErr.IsException]

/-- The exception of a failed decoding. -/
def decodeErr : DecodeError → PyErr
  | .unicode => exception "'utf-8' codec can't decode byte"
  | .json => ⟨.jsonDecode, py "Expecting value"⟩
  | .limit => exception "maximum recursion depth exceeded"

@[simp] theorem isException_decodeErr (e : DecodeError) : (decodeErr e).IsException := by
  cases e <;> simp [decodeErr, PyErr.IsException, exception]

theorem bind_eq_ok {ε α β : Type} {r : Except ε β} {f : β → Except ε α} {a : α} :
    (r >>= f) = .ok a ↔ ∃ b, r = .ok b ∧ f b = .ok a := by
  cases r <;> simp [Bind.bind, Except.bind]

theorem mapError_eq_ok {ε ε' α : Type} {r : Except ε α} {f : ε → ε'} {a : α} :
    r.mapError f = .ok a ↔ r = .ok a := by
  cases r <;> simp [Except.mapError]

theorem elim_eq_ok {ε α : Type} {x : Option α} {e : ε} {a : α} :
    x.elim (.error e) .ok = (.ok a : Except ε α) ↔ x = some a := by
  cases x <;> simp

variable {P : PFunctor.{0, 0}} {W σ α : Type}

/-- `try: p` / `except Exception as e: h(e)`. -/
def exceptException (p : Py P σ PyErr α) (h : PyErr → Py P σ PyErr α) : Py P σ PyErr α :=
  Py.catching p fun e => if e.IsException then h e else throw e

/-- `b and p()` -/
def andAlso (b : Bool) (p : Py P σ PyErr Bool) : Py P σ PyErr Bool := if b then p else pure false

variable {E : Env P W} {C : W → Prop} {Q : Except PyErr α → σ → W → Prop} {s : σ} {w : W}

@[simp] theorem wpc_exceptException (p : Py P σ PyErr α) (h : PyErr → Py P σ PyErr α) :
    (exceptException p h).wpc E C Q s w ↔ p.wpc E C (fun r s' w' =>
      Py.either (fun a => Q (.ok a) s' w')
        (fun e => if e.IsException then (h e).wpc E C Q s' w' else Q (.error e) s' w') r) s w := by
  simp only [exceptException, Py.wpc_catching, Py.wpc_ite, Py.wpc_throw]

/-- The exceptions that the programs raise by themselves, as opposed to those of their calls. -/
def PyErr.IsPlain (e : PyErr) : Prop := e.kind = .exception ∨ e.kind = .jsonDecode

theorem isPlain_exception (msg : String) : (exception msg).IsPlain := .inl rfl

theorem isPlain_decodeErr (e : DecodeError) : (decodeErr e).IsPlain := by
  cases e with
  | unicode => exact .inl rfl
  | json => exact .inr rfl
  | limit => exact .inl rfl

theorem PyErr.IsPlain.isException {e : PyErr} (plain : e.IsPlain) : e.IsException := by
  rcases plain with kind | kind <;> simp [IsException, kind]

theorem PyErr.IsPlain.not_isZmqError {e : PyErr} (plain : e.IsPlain) : ¬ e.IsZmqError := by
  rcases plain with kind | kind <;> simp [IsZmqError, kind]

theorem raises_exceptException {φ : PyErr → Prop} {p : Py P σ PyErr α}
    {h : PyErr → Py P σ PyErr α} (body : Py.Raises E φ p)
    (handler : ∀ e, Py.Raises E φ (h e)) : Py.Raises E φ (exceptException p h) := by
  intro s w
  rw [wpc_exceptException]
  refine Py.wpc_mono (fun _ _ => trivial) (fun r s' w' raised => ?_) (body s w)
  cases r with
  | ok b => trivial
  | error e =>
      rw [Py.either_error]
      split
      · exact handler e s' w'
      · exact raised

/-- Whatever the body does, an exit request is all that leaves it. -/
theorem raises_guarded {φ : PyErr → Prop} {p : Py P σ PyErr α} {h : PyErr → Py P σ PyErr α}
    (exits : ∀ e, ¬ e.IsException → φ e) (handler : ∀ e, Py.Raises E φ (h e)) :
    Py.Raises E φ (exceptException p h) := by
  intro s w
  rw [wpc_exceptException]
  refine Py.wpc_mono (fun _ _ => trivial) (fun r s' w' _ => ?_)
    (Py.wpc_invariant (fun _ _ _ _ _ _ => trivial) p trivial)
  cases r with
  | ok b => trivial
  | error e =>
      rw [Py.either_error]
      split
      · exact handler e s' w'
      · next exit => exact exits e exit

theorem within_andAlso {R : σ × W → σ × W → Prop} [IsPreorder (σ × W) R] (b : Bool)
    {p : Py P σ PyErr Bool} (inner : Py.Within E R p) : Py.Within E R (andAlso b p) :=
  .ite inner (.pure false)

theorem within_exceptException {R : σ × W → σ × W → Prop} [IsPreorder (σ × W) R]
    {p : Py P σ PyErr α} {h : PyErr → Py P σ PyErr α} (body : Py.Within E R p)
    (handler : ∀ e, Py.Within E R (h e)) : Py.Within E R (exceptException p h) :=
  body.catching fun e => Py.Within.ite (handler e) (Py.Within.throw e)

theorem returns_exceptException {ψ : α → Prop} {p : Py P σ PyErr α} {h : PyErr → Py P σ PyErr α}
    (body : Py.Returns E ψ p) (handler : ∀ e, Py.Returns E ψ (h e)) :
    Py.Returns E ψ (exceptException p h) :=
  body.catching fun e => .ite (fun _ => handler e) fun _ => .throw e

/-- Only exceptions of the programs' own. -/
abbrev Plain {α : Type} (r : Except PyErr α) : Prop := Py.ErrorIn PyErr.IsPlain r

theorem plain_exception (msg : String) : Plain (.error (exception msg) : Except PyErr α) :=
  .error (isPlain_exception msg)

/-! ## Paths -/

/-- The part of a path after its last separator. -/
def basename (p : PyStr) : PyStr := (p.reverse.takeWhile (· ≠ chr '/')).reverse

/-- The part of a path up to its last separator, the separator included. -/
def dirPart (p : PyStr) : PyStr := (p.reverse.dropWhile (· ≠ chr '/')).reverse

theorem dirPart_append_basename (p : PyStr) : dirPart p ++ basename p = p := by
  rw [dirPart, basename, ← List.reverse_append, List.takeWhile_append_dropWhile,
    List.reverse_reverse]

/-- `os.path.join(a, b)` -/
def pathJoin (a b : PyStr) : PyStr :=
  if b.head? = some (chr '/') ∨ a = [] then b
  else if a.getLast? = some (chr '/') then a ++ b
  else a ++ chr '/' :: b

/-- `os.path.splitext(p)`: the extension starts at the last dot of the last component, unless
there are only dots in front of it. -/
def splitext (p : PyStr) : PyStr × PyStr :=
  match (basename p).reverse.dropWhile (· ≠ chr '.') with
  | [] => (p, [])
  | dot :: stem =>
    if stem.all (· = chr '.') then (p, [])
    else (dirPart p ++ stem.reverse,
      dot :: ((basename p).reverse.takeWhile (· ≠ chr '.')).reverse)

theorem splitext_append (p : PyStr) : (splitext p).1 ++ (splitext p).2 = p := by
  unfold splitext
  split
  · exact List.append_nil p
  · next dot stem split =>
      split
      · exact List.append_nil p
      · have whole := List.takeWhile_append_dropWhile
          (p := fun c => decide (c ≠ chr '.')) (l := (basename p).reverse)
        rw [split] at whole
        have name : basename p = stem.reverse ++
            dot :: ((basename p).reverse.takeWhile (· ≠ chr '.')).reverse := by
          have back := congrArg List.reverse whole
          rw [List.reverse_reverse, List.reverse_append, List.reverse_cons,
            List.append_assoc] at back
          exact back.symm
        calc (dirPart p ++ stem.reverse) ++
              dot :: ((basename p).reverse.takeWhile (· ≠ chr '.')).reverse
            = dirPart p ++ basename p := by rw [List.append_assoc, ← name]
          _ = p := dirPart_append_basename p

/-- An extension has one dot. -/
theorem dot_not_mem_splitext (p : PyStr) : chr '.' ∉ (splitext p).2.tail := by
  unfold splitext
  split
  · exact List.not_mem_nil
  · next dot stem split =>
      split
      · exact List.not_mem_nil
      · intro member
        rw [List.tail_cons, List.mem_reverse] at member
        have other := List.mem_takeWhile_imp member
        simp at other

/-- So a path is not its stem with a suffix of several dots. -/
theorem ne_splitext_append {p suffix : PyStr} (dots : chr '.' ∈ suffix.tail) :
    p ≠ (splitext p).1 ++ suffix := by
  intro same
  have whole := (splitext_append p).trans same
  rw [← List.append_cancel_left whole] at dots
  exact dot_not_mem_splitext p dots

/-! ## Objects from the wire -/

/-- The interpreter, as far as its answers depend on its version and its settings. The limit of
digits can be turned off, but not set below 640; the stack has room for two containers. -/
class Interpreter where
  limits : Limits
  digits_ge : ∀ n ∈ limits.digits, 640 ≤ n
  depth_ge : ∀ n ∈ limits.depth, 2 ≤ n

section Limits

variable [Interpreter]

/-- `json.loads(octets.decode("utf-8"))`, with the exception that it raises. -/
def jsonLoads (octets : Bytes) : Except PyErr Json :=
  (decodeJson Interpreter.limits octets).mapError decodeErr

theorem plain_jsonLoads (octets : Bytes) : Plain (jsonLoads octets) := by
  unfold jsonLoads
  cases decodeJson Interpreter.limits octets with
  | ok v => exact .ok v
  | error e => exact .error (isPlain_decodeErr e)

theorem not_deep {depth : Nat} (small : depth < 2) : Interpreter.limits.deep depth = false := by
  unfold Limits.deep
  cases limit : Interpreter.limits.depth with
  | none => rfl
  | some n =>
      have room := Interpreter.depth_ge n limit
      rw [Option.any_some, decide_eq_false_iff_not]
      omega

/-- An integer of at most 640 digits can be read. -/
theorem reads_int {n : Int} (short : (decimal n.natAbs).length ≤ 640) :
    Interpreter.limits.reads (.int n) = true := by
  unfold Limits.reads
  cases limit : Interpreter.limits.digits with
  | none => rfl
  | some d =>
      have room := Interpreter.digits_ge d limit
      simp only [Option.any_some, Bool.not_eq_true', decide_eq_false_iff_not]
      omega

end Limits

/-- `text in value`; a `TypeError` where the value is no container. -/
def contains (text : PyStr) : Json → Except PyErr Bool
  | .obj members => .ok ((lookup text members).isSome)
  | .arr elems => .ok (elems.any fun | .str s => decide (s = text) | _ => false)
  | .str s => .ok (decide (text <:+: s))
  | _ => .error (exception "argument is not iterable")

/-- The members of a value on which `.get` is called. -/
def members : Json → Except PyErr (List (PyStr × Json))
  | .obj members => .ok members
  | _ => .error (exception "object has no attribute 'get'")

theorem members_eq_ok {v : Json} {fields : List (PyStr × Json)} :
    members v = .ok fields ↔ v = .obj fields := by
  cases v <;> simp [members]

theorem plain_contains (text : PyStr) (v : Json) : Plain (contains text v) := by
  unfold contains
  split
  · exact .ok _
  · exact .ok _
  · exact .ok _
  · exact plain_exception _

theorem plain_members (v : Json) : Plain (members v) := by
  cases v with
  | obj fields => exact .ok fields
  | _ => exact plain_exception _

/-- `members.get(key, default)` -/
def getD (members : List (PyStr × Json)) (key : String) (default : Json) : Json :=
  (lookup (py key) members).getD default

/-- `tuple(value)` -/
def tuple : Json → Except PyErr (List Json)
  | .arr elems => .ok elems
  | .str s => .ok (s.map fun c => .str [c])
  | .obj members => .ok (members.map fun m => .str m.1)
  | _ => .error (exception "object is not iterable")

theorem plain_tuple (v : Json) : Plain (tuple v) := by
  unfold tuple
  split
  · exact .ok _
  · exact .ok _
  · exact .ok _
  · exact plain_exception _

/-! ## Numbers from the wire -/

/-- The quotient, rounded half to even. -/
def roundDiv (num den : Nat) : Nat :=
  if 2 * (num % den) < den ∨ (2 * (num % den) = den ∧ num / den % 2 = 0) then num / den
  else num / den + 1

/-- The exponent `l` with `2 ^ l ≤ num / den < 2 ^ (l + 1)`. -/
def binaryExponent (num den : Nat) : Int :=
  let l : Int := num.log2 - den.log2
  if num * 2 ^ (-l).toNat < den * 2 ^ l.toNat then l - 1 else l

/-- The magnitude of the nearest double as `(m, e)` for `m * 2 ^ e`; `none` when it is infinite. -/
def nearestDouble (x : FloatLit) : Option (Nat × Int) :=
  let scale : Int := x.exp.getD 0 - x.frac.length
  let num := (natOfDigits x.frac + x.int * 10 ^ x.frac.length) * 10 ^ scale.toNat
  let den := 10 ^ (-scale).toNat
  let e : Int := max (binaryExponent num den - 52) (-1074)
  let m := roundDiv (num * 2 ^ (-e).toNat) (den * 2 ^ e.toNat)
  if m * 2 ^ e.toNat < 2 ^ 1024 then some (m, e) else none

def isDigitRun (s : PyStr) : Bool := !s.isEmpty && s.all fun c => decide (IsDigit c)

/-- The digits of an integer literal, in which single underscores may stand between digits. -/
def intDigits (s : PyStr) : Option Nat :=
  let groups := s.splitOn (chr '_')
  if groups.all isDigitRun then some (natOfDigits (takeDigits groups.flatten).1) else none

/-- `int(text)`. Digits and white space outside ASCII are not modelled. -/
def intOfStr (s : PyStr) : Option Int :=
  let blank : CodePoint → Bool := fun c => decide (c.val = 32 ∨ (9 ≤ c.val ∧ c.val ≤ 13))
  let body := ((s.dropWhile blank).reverse.dropWhile blank).reverse
  match body with
  | [] => none
  | c :: rest =>
    if c = chr '-' then (intDigits rest).map fun n => -n
    else if c = chr '+' then (intDigits rest).map fun n => n
    else (intDigits body).map fun n => n

/-- `int(value)`: a number with a fraction is cut towards zero. -/
def int : Json → Except PyErr Int
  | .int n => .ok n
  | .bool b => .ok (if b then 1 else 0)
  | .float x =>
    match nearestDouble x with
    | some (m, e) =>
      let magnitude : Nat := m * 2 ^ e.toNat / 2 ^ (-e).toNat
      .ok (if x.neg then -magnitude else magnitude)
    | none => .error (exception "cannot convert float infinity to integer")
  | .nan => .error (exception "cannot convert float NaN to integer")
  | .infinity _ => .error (exception "cannot convert float infinity to integer")
  | .str s =>
    match intOfStr s with
    | some n => .ok n
    | none => .error (exception "invalid literal for int() with base 10")
  | _ => .error (exception "int() argument must be a string or a number")

/-- `value == n` for a positive number `n`. -/
def equalsNat (n : Nat) : Json → Bool
  | .int m => m = n
  | .bool b => b && n = 1
  | .float x =>
    match nearestDouble x with
    | some (m, e) => !x.neg && m * 2 ^ e.toNat = n * 2 ^ (-e).toNat
    | none => false
  | _ => false

/-- `str(value).upper() == word` for a word of ASCII capitals. No letter outside ASCII has one of
the capitals that the layouts use as its upper case, and the printed form of a value that is no
string never is such a word. -/
def upperIs (word : String) : Json → Bool
  | .str s => s.map (fun c => if 97 ≤ c.val ∧ c.val ≤ 122 then Fin.ofNat _ (c.val - 32) else c)
      = py word
  | _ => false

/-! ## Printing -/

/-- One character of a `repr`. Characters outside ASCII are printed as they are. -/
def reprChar (quote c : CodePoint) : PyStr :=
  if c = quote ∨ c = chr '\\' then [chr '\\', c]
  else if c = chr '\n' then py "\\n"
  else if c = chr '\r' then py "\\r"
  else if c = chr '\t' then py "\\t"
  else if c.val < 32 ∨ c.val = 127 then
    [chr '\\', chr 'x', hexDigit (c.val / 16), hexDigit (c.val % 16)]
  else [c]

def reprStr (s : PyStr) : PyStr :=
  let quote := if chr '\'' ∈ s ∧ chr '"' ∉ s then chr '"' else chr '\''
  quote :: s.flatMap (reprChar quote) ++ [quote]

/-- `sep.join(parts)` -/
def joinWith (sep : PyStr) : List PyStr → PyStr
  | [] => []
  | [part] => part
  | part :: parts => part ++ sep ++ joinWith sep parts

mutual

/-- `repr(value)` of a decoded value. A float is printed as it was written. -/
def repr : Json → PyStr
  | .null => py "None"
  | .bool true => py "True"
  | .bool false => py "False"
  | .int n => printInt n
  | .float x => printFloat x
  | .nan => py "nan"
  | .infinity false => py "inf"
  | .infinity true => py "-inf"
  | .str s => reprStr s
  | .arr elems => chr '[' :: joinWith (py ", ") (reprElems elems) ++ [chr ']']
  | .obj members => chr '{' :: joinWith (py ", ") (reprMembers members) ++ [chr '}']

def reprElems : List Json → List PyStr
  | [] => []
  | v :: elems => repr v :: reprElems elems

def reprMembers : List (PyStr × Json) → List PyStr
  | [] => []
  | (k, v) :: members => (reprStr k ++ py ": " ++ repr v) :: reprMembers members

end

/-- `str(value)` -/
def str : Json → PyStr
  | .str s => s
  | v => repr v

end Python
