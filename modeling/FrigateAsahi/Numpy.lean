import FrigateAsahi.Lib.Python
import Mathlib.Algebra.BigOperators.Group.List.Basic

/-!
# Arrays

The part of NumPy that both programs use. An array is its shape, its element type and its elements
in C order, so that every array has as many octets as its shape says. What NumPy makes of a type
description and how it converts numbers is a parameter, the class `NumPy`; how a buffer is read
(`frombuffer`) and how a shape is resolved (`reshape`) is defined here as NumPy documents it.
-/

namespace Numpy

open Text Python Interaction

/-- The type of an element. -/
structure Dtype : Type where
  name : PyStr
  itemsize : Nat
  /-- Whether the elements are in the byte order of the machine. -/
  native : Bool
  hasobject : Bool
  deriving DecidableEq

def Dtype.number (name : String) (itemsize : Nat) : Dtype := ⟨py name, itemsize, true, false⟩

def Dtype.float32 : Dtype := .number "float32" 4
def Dtype.int64 : Dtype := .number "int64" 8

/-- The boolean, integer and floating-point types. -/
def Dtype.numbers : List Dtype :=
  [.number "bool" 1, .number "int8" 1, .number "int16" 2, .number "int32" 4, .int64,
    .number "uint8" 1, .number "uint16" 2, .number "uint32" 4, .number "uint64" 8,
    .number "float16" 2, .float32, .number "float64" 8]

/-- What `np.dtype(..)` stands for: an element type, possibly in a fixed block of them. -/
structure Descr : Type where
  base : Dtype
  sub : List Nat
  deriving DecidableEq

def Descr.itemsize (d : Descr) : Nat := d.sub.prod * d.base.itemsize

structure NdArray : Type where
  shape : List Nat
  dtype : Dtype
  data : Bytes
  size_eq : data.length = shape.prod * dtype.itemsize

namespace NdArray

theorem ext' {a b : NdArray} (shape : a.shape = b.shape) (dtype : a.dtype = b.dtype)
    (data : a.data = b.data) : a = b := by
  cases a
  cases b
  simp_all

def ndim (a : NdArray) : Nat := a.shape.length

def size (a : NdArray) : Nat := a.shape.prod

end NdArray

/-- `list(shape)`, to be printed. -/
def jsonShape (shape : List Nat) : Json := .arr (shape.map fun d : Nat => .int (d : Int))

/-- The library, as far as its answers depend on its version, on some interpreter. -/
class NumPy extends Interpreter where
  /-- `np.dtype(value)`; `none` is an exception. -/
  dtype : Json → Option Descr
  /-- The greatest number of dimensions. -/
  maxdims : Nat
  /-- The octets of `a.astype(np.float32)`; `none` is an exception. -/
  float32Data : (a : NdArray) → Option {octets : Bytes // octets.length = a.shape.prod * 4}
  dtype_number : ∀ d ∈ Dtype.numbers, dtype (.str d.name) = some ⟨d, []⟩
  two_le_maxdims : 2 ≤ maxdims
  float32Data_float32 : ∀ a, a.dtype = .float32 → (float32Data a).map Subtype.val = some a.data

/-! ## Shapes -/

/-- `operator.index(value)` as NumPy reads a dimension: booleans are refused. -/
def asDim : Json → Except PyErr Int
  | .int n => if -2 ^ 63 ≤ n ∧ n < 2 ^ 63 then .ok n
    else .error (exception "Python int too large to convert to C ssize_t")
  | _ => .error (exception "object cannot be interpreted as an integer")

def asDims : List Json → Except PyErr (List Int)
  | [] => .ok []
  | v :: vs => do
    let d ← asDim v
    let ds ← asDims vs
    .ok (d :: ds)

/-- The product of the dimensions that are known, unless it overflows on the way. -/
def knownSize : Nat → List Int → Option Nat
  | acc, [] => some acc
  | acc, d :: dims =>
    if d < 0 then knownSize acc dims
    else if acc * d.toNat < 2 ^ 63 then knownSize (acc * d.toNat) dims
    else none

/-- The shape that fills in the one dimension that may be left out as a negative number. -/
def resolve (size : Nat) (dims : List Int) : Option (List Nat) :=
  match knownSize 1 dims with
  | none => none
  | some known =>
    if dims.countP (fun d => decide (d < 0)) = 0 then
      if known = size then some (dims.map Int.toNat) else none
    else if dims.countP (fun d => decide (d < 0)) = 1 then
      if known ≠ 0 ∧ size % known = 0 then
        some (dims.map fun d => if d < 0 then size / known else d.toNat)
      else none
    else none

theorem prod_of_knownSize (q : Nat) {dims : List Int} {acc known : Nat}
    (known_eq : knownSize acc dims = some known) :
    acc * (dims.map fun d => if d < 0 then q else d.toNat).prod =
      known * q ^ dims.countP fun d => decide (d < 0) := by
  induction dims generalizing acc with
  | nil =>
      cases known_eq
      simp
  | cons d dims ih =>
      rw [knownSize] at known_eq
      by_cases neg : d < 0
      · rw [if_pos neg] at known_eq
        have rest := ih known_eq
        rw [List.map_cons, List.prod_cons, if_pos neg, List.countP_cons, if_pos (by simpa using neg),
          pow_succ, ← Nat.mul_assoc known, ← rest]
        ring
      · rw [if_neg neg] at known_eq
        split at known_eq
        · have rest := ih known_eq
          rw [List.map_cons, List.prod_cons, if_neg neg, List.countP_cons,
            if_neg (by simpa using neg), ← Nat.mul_assoc, rest, Nat.add_zero]
        · cases known_eq

theorem map_toNat_of_count {dims : List Int} (q : Nat)
    (none_left : dims.countP (fun d => decide (d < 0)) = 0) :
    (dims.map fun d => if d < 0 then q else d.toNat) = dims.map Int.toNat := by
  refine List.map_congr_left fun d mem => if_neg fun neg => ?_
  exact List.countP_eq_zero.mp none_left d mem (by simpa using neg)

/-- A resolved shape has the size it was resolved for. -/
theorem prod_of_resolve {size : Nat} {dims : List Int} {shape : List Nat}
    (resolved : resolve size dims = some shape) : shape.prod = size := by
  unfold resolve at resolved
  split at resolved
  · cases resolved
  · next known known_eq =>
      split at resolved
      · next none_left =>
          have total := prod_of_knownSize 0 known_eq
          rw [none_left, map_toNat_of_count 0 none_left, pow_zero, Nat.mul_one,
            Nat.one_mul] at total
          split at resolved
          · next same =>
              cases resolved
              rw [total, same]
          · cases resolved
      · split at resolved
        · next one_left =>
            split at resolved
            · next divides =>
                cases resolved
                have total := prod_of_knownSize (size / known) known_eq
                rw [one_left, pow_one, Nat.one_mul] at total
                rw [total, Nat.mul_div_cancel' (Nat.dvd_of_mod_eq_zero divides.2)]
            · cases resolved
        · cases resolved

def Dtype.ofName : Json → Option Descr
  | .str name => (Dtype.numbers.find? fun d => decide (d.name = name)).map fun d => ⟨d, []⟩
  | _ => none

theorem Dtype.ofName_number :
    ∀ d ∈ Dtype.numbers, Dtype.ofName (.str d.name) = some ⟨d, []⟩ := by
  decide +kernel

/-- One version of the library, for arrays of numbers in the byte order of the machine. -/
@[reducible] def NumPy.reference : NumPy where
  limits := ⟨some 4300, some 900⟩
  digits_ge := by decide
  depth_ge := by decide
  dtype := Dtype.ofName
  maxdims := 64
  float32Data a :=
    if float32 : a.dtype = .float32 then some ⟨a.data, by rw [a.size_eq, float32]; rfl⟩ else none
  dtype_number := Dtype.ofName_number
  two_le_maxdims := by decide
  float32Data_float32 a float32 := by simp [float32]

/-! ## Making arrays -/

def NdArray.zeros (shape : List Nat) (dtype : Dtype) : NdArray :=
  ⟨shape, dtype, List.replicate (shape.prod * dtype.itemsize) 0, List.length_replicate⟩

/-- The octets of a 64-bit integer. -/
def int64Octets (n : Int) : Bytes :=
  (List.range 8).map fun i => UInt8.ofNat ((n % 2 ^ 64).toNat / 256 ^ i)

/-- `np.array([[a, b]], dtype=np.int64)` -/
def int64Row (a b : Int) : Except PyErr NdArray :=
  if -2 ^ 63 ≤ a ∧ a < 2 ^ 63 ∧ -2 ^ 63 ≤ b ∧ b < 2 ^ 63 then
    .ok ⟨[1, 2], .int64, int64Octets a ++ int64Octets b, by simp [int64Octets, Dtype.int64,
      Dtype.number]⟩
  else .error (exception "Python int too large to convert to C long")

variable [NumPy]

/-- `np.zeros(shape, np.float32)` and `np.empty(shape, np.float32)` -/
def float32Zeros (shape : List Int) : Except PyErr NdArray :=
  if shape.any fun d => decide (d < 0) then
    .error (exception "negative dimensions are not allowed")
  else if NumPy.maxdims < shape.length then
    .error (exception "maximum supported dimension exceeded")
  else .ok (.zeros (shape.map Int.toNat) .float32)

/-- `a.astype(np.float32)` -/
def NdArray.astypeFloat32 (a : NdArray) : Except PyErr NdArray :=
  match NumPy.float32Data a with
  | some octets => .ok ⟨a.shape, .float32, octets.1, octets.2⟩
  | none => .error (exception "could not convert to float")

theorem NdArray.astypeFloat32_of_float32 {a : NdArray} (float32 : a.dtype = .float32) :
    a.astypeFloat32 = .ok a := by
  have same := NumPy.float32Data_float32 a float32
  unfold NdArray.astypeFloat32
  cases conv : NumPy.float32Data a with
  | none => simp [conv] at same
  | some octets =>
      rw [conv, Option.map_some, Option.some.injEq] at same
      exact congrArg Except.ok (NdArray.ext' rfl float32.symm same)

/-- `np.frombuffer(octets, dtype=d)` -/
def frombuffer (octets : Bytes) (d : Descr) : Except PyErr NdArray :=
  if d.base.hasobject then .error (exception "cannot create an OBJECT array from memory buffer")
  else if d.itemsize = 0 then .error (exception "itemsize cannot be zero in type")
  else if NumPy.maxdims ≤ d.sub.length then
    .error (exception "maximum supported dimension exceeded")
  else if fits : octets.length % d.itemsize = 0 then
    .ok ⟨octets.length / d.itemsize :: d.sub, d.base, octets, by
      rw [List.prod_cons, Nat.mul_assoc]
      exact (Nat.div_mul_cancel (Nat.dvd_of_mod_eq_zero fits)).symm⟩
  else .error (exception "buffer size must be a multiple of element size")

theorem frombuffer_ok {octets : Bytes} {d : Descr} (plain : d.base.hasobject = false)
    (pos : d.itemsize ≠ 0) (few : d.sub.length < NumPy.maxdims)
    (fits : octets.length % d.itemsize = 0) :
    ∃ a, frombuffer octets d = .ok a ∧ a.shape = octets.length / d.itemsize :: d.sub ∧
      a.dtype = d.base ∧ a.data = octets := by
  unfold frombuffer
  rw [plain, if_neg Bool.false_ne_true, if_neg pos, if_neg (Nat.not_le.mpr few), dif_pos fits]
  exact ⟨_, rfl, rfl, rfl, rfl⟩

/-! ## The same elements under another shape -/

/-- `a.reshape(dims)` -/
def NdArray.withShape (a : NdArray) (dims : List Int) : Except PyErr NdArray :=
  if NumPy.maxdims < dims.length then
    .error (exception "maximum supported dimension exceeded")
  else match resolved : resolve a.size dims with
    | none => .error (exception "cannot reshape array into shape")
    | some shape => .ok ⟨shape, a.dtype, a.data, by
        rw [prod_of_resolve resolved]
        exact a.size_eq⟩

theorem NdArray.withShape_ok {a : NdArray} {dims : List Int} {shape : List Nat}
    (few : dims.length ≤ NumPy.maxdims) (resolved : resolve a.size dims = some shape) :
    ∃ b, a.withShape dims = .ok b ∧ b.shape = shape ∧ b.dtype = a.dtype ∧ b.data = a.data := by
  unfold NdArray.withShape
  rw [if_neg (Nat.not_lt.mpr few)]
  split
  · next refused =>
      rw [resolved] at refused
      cases refused
  · next shape' resolved' =>
      rw [resolved] at resolved'
      cases resolved'
      exact ⟨_, rfl, rfl, rfl, rfl⟩

/-- `a.reshape(shape)` for a shape that was decoded from JSON. -/
def NdArray.reshape (a : NdArray) (shape : List Json) : Except PyErr NdArray := do
  let dims ← asDims shape
  a.withShape dims

/-! ## Exceptions -/

theorem plain_frombuffer (octets : Bytes) (d : Descr) : Plain (frombuffer octets d) := by
  unfold frombuffer
  refine .ite (plain_exception _) (.ite (plain_exception _) (.ite (plain_exception _) ?_))
  split
  · exact .ok _
  · exact plain_exception _

theorem plain_withShape (a : NdArray) (dims : List Int) : Plain (a.withShape dims) := by
  unfold NdArray.withShape
  refine .ite (plain_exception _) ?_
  split
  · exact plain_exception _
  · exact .ok _

omit [NumPy] in
theorem plain_asDims (shape : List Json) : Plain (asDims shape) := by
  induction shape with
  | nil => exact .ok []
  | cons v vs ih =>
      refine Py.ErrorIn.bind ?_ fun d => ih.bind fun ds => .ok _
      unfold asDim
      split
      · exact .ite (.ok _) (plain_exception _)
      · exact plain_exception _

theorem plain_reshape (a : NdArray) (shape : List Json) : Plain (a.reshape shape) :=
  (plain_asDims shape).bind fun dims => plain_withShape a dims

/-! ## Views -/

/-- `np.ascontiguousarray(a)`, which has at least one dimension. -/
def NdArray.contiguous (a : NdArray) : NdArray :=
  match shape : a.shape with
  | [] => ⟨[1], a.dtype, a.data, by rw [a.size_eq, shape]; rfl⟩
  | _ :: _ => a

/-- `a[0]` of an array with one element in its first dimension. -/
def NdArray.only (a : NdArray) (rest : List Nat) (shape : a.shape = 1 :: rest) : NdArray :=
  ⟨rest, a.dtype, a.data, by rw [a.size_eq, shape, List.prod_cons, Nat.one_mul]⟩

/-- `a[None]` -/
def NdArray.expand (a : NdArray) : NdArray :=
  ⟨1 :: a.shape, a.dtype, a.data, by rw [a.size_eq, List.prod_cons, Nat.one_mul]⟩

end Numpy
