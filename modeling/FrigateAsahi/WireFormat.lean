import FrigateAsahi.Lib.RowMajor
import FrigateAsahi.Replies

/-!
# Arrays on the wire

A tensor leaves either program as a JSON header with its shape and the name of its element type,
and its elements in row-major order, whatever their layout in memory was. The other program reads
the elements as a flat array and gives it the shape of the header. What comes out is the array that
went in.
-/

namespace Numpy

open Text Python Interaction RowMajor

/-- A boolean, integer or floating-point type: one of those on every platform, or the long double of
a platform that knows it by name. -/
def IsNumber [NumPy] (d : Dtype) : Prop :=
  d ∈ Dtype.numbers ∨
    (d = .number "float128" 16 ∧ NumPy.dtype (.str (py "float128")) = some ⟨d, []⟩)

/-- The block of octets of one element. -/
def NdArray.element (a : NdArray) (idx : List Nat) : Bytes :=
  block a.dtype.itemsize a.shape a.data idx

/-- How far the strides take an index. -/
def displacement (strides : List Int) (idx : List Nat) : Int :=
  (List.zipWith (fun (i : Nat) (s : Int) => i * s) idx strides).sum

/-- An array in memory: the element of an index is found at a distance from the first octet that
each index adds to with its own stride. -/
structure Strided [NumPy] : Type where
  shape : List Nat
  dtype : Dtype
  buffer : Bytes
  offset : Int
  strides : List Int
  few : shape.length ≤ NumPy.maxdims
  small : shape.prod * dtype.itemsize < 2 ^ 63
  inside : ∀ idx, Index shape idx →
    0 ≤ offset + displacement strides idx ∧
      offset + displacement strides idx + dtype.itemsize ≤ buffer.length

section Arrays

variable [NumPy]

namespace Strided

def address (a : Strided) (idx : List Nat) : Int :=
  a.offset + displacement a.strides idx

def element (a : Strided) (idx : List Nat) : Bytes :=
  (a.buffer.drop (a.address idx).toNat).take a.dtype.itemsize

theorem length_element (a : Strided) {idx : List Nat} (valid : Index a.shape idx) :
    (a.element idx).length = a.dtype.itemsize := by
  obtain ⟨low, high⟩ := a.inside idx valid
  change 0 ≤ a.address idx at low
  change a.address idx + _ ≤ _ at high
  rw [element, List.length_take, List.length_drop]
  omega

/-- `a.tobytes(order="C")` -/
def tobytes (a : Strided) : Bytes := flatten a.shape a.element

/-- The array without its layout. -/
def array (a : Strided) : NdArray :=
  ⟨a.shape, a.dtype, a.tobytes, length_flatten fun _ valid => a.length_element valid⟩

/-- Another array with the same shape, element type and elements. -/
def Same (a : Strided) (b : NdArray) : Prop :=
  b.shape = a.shape ∧ b.dtype = a.dtype ∧ ∀ idx, Index a.shape idx → b.element idx = a.element idx

theorem same_array (a : Strided) : a.Same a.array :=
  ⟨rfl, rfl, fun _ valid => block_flatten (fun _ valid => a.length_element valid) valid⟩

end Strided

/-! ## Reading a flat array under its shape -/

theorem IsNumber.positive {d : Dtype} (number : IsNumber d) :
    d.itemsize ≠ 0 ∧ d.hasobject = false := by
  rcases number with usual | ⟨long, -⟩
  · revert d
    decide
  · rw [long]
    decide

theorem IsNumber.dtype {d : Dtype} (number : IsNumber d) :
    NumPy.dtype (.str d.name) = some ⟨d, []⟩ := by
  rcases number with usual | ⟨long, known⟩
  · exact NumPy.dtype_number d usual
  · rw [long] at known ⊢
    exact known

theorem IsNumber.ascii {d : Dtype} (number : IsNumber d) : IsAscii d.name := by
  rcases number with usual | ⟨long, -⟩
  · revert d
    decide +kernel
  · rw [long]
    decide +kernel

omit [NumPy] in
/-- A dimension is no more than the size. -/
theorem le_prod {shape : List Nat} (nonempty : shape.prod ≠ 0) {d : Nat} (mem : d ∈ shape) :
    d ≤ shape.prod :=
  Nat.le_of_dvd (Nat.pos_of_ne_zero nonempty) (List.dvd_prod mem)

omit [NumPy] in
theorem asDims_shape {shape : List Nat} (small : ∀ d ∈ shape, d < 2 ^ 63) :
    asDims (shape.map fun d : Nat => .int (d : Int)) = .ok (shape.map fun d : Nat => (d : Int)) := by
  induction shape with
  | nil => rfl
  | cons d shape ih =>
      have first := small d (by simp)
      have rest := ih fun d mem => small d (by simp [mem])
      rw [List.map_cons, asDims, asDim, if_pos (by omega), rest]
      rfl

omit [NumPy] in
theorem knownSize_shape {shape : List Nat} (nonempty : shape.prod ≠ 0) {acc : Nat}
    (small : acc * shape.prod < 2 ^ 63) :
    knownSize acc (shape.map fun d : Nat => (d : Int)) = some (acc * shape.prod) := by
  induction shape generalizing acc with
  | nil => simp [knownSize]
  | cons d shape ih =>
      rw [List.prod_cons] at nonempty small ⊢
      have rest : shape.prod ≠ 0 := fun zero => nonempty (by rw [zero, Nat.mul_zero])
      have whole : acc * d * shape.prod < 2 ^ 63 := by rwa [Nat.mul_assoc]
      have step : acc * d < 2 ^ 63 :=
        Nat.lt_of_le_of_lt (Nat.le_mul_of_pos_right _ (Nat.pos_of_ne_zero rest)) whole
      rw [List.map_cons, knownSize, if_neg (by omega), Int.toNat_natCast, if_pos step,
        ih rest whole, Nat.mul_assoc]

omit [NumPy] in
theorem resolve_shape {shape : List Nat} (nonempty : shape.prod ≠ 0)
    (small : shape.prod < 2 ^ 63) :
    resolve shape.prod (shape.map fun d : Nat => (d : Int)) = some shape := by
  have known : knownSize 1 (shape.map fun d : Nat => (d : Int)) = some (1 * shape.prod) :=
    knownSize_shape nonempty (by rwa [Nat.one_mul])
  have none_left : (shape.map fun d : Nat => (d : Int)).countP (fun d => decide (d < 0)) = 0 := by
    rw [List.countP_eq_zero]
    intro d mem
    obtain ⟨d', -, rfl⟩ := List.mem_map.mp mem
    simp
  have back : (shape.map fun d : Nat => (d : Int)).map Int.toNat = shape := by
    rw [List.map_map]
    exact List.map_id'' (fun d => Int.toNat_natCast d) shape
  unfold resolve
  rw [known]
  dsimp only
  rw [if_pos none_left, Nat.one_mul, if_pos rfl, back]

/-- No dimension of an array with elements is larger than the array. -/
theorem IsNumber.dim_lt {shape : List Nat} {dtype : Dtype} (number : IsNumber dtype)
    (nonempty : shape.prod ≠ 0) (small : shape.prod * dtype.itemsize < 2 ^ 63) :
    ∀ d ∈ shape, d < 2 ^ 63 := by
  intro d mem
  have positive : 0 < dtype.itemsize := Nat.pos_of_ne_zero number.positive.1
  calc d ≤ shape.prod := le_prod nonempty mem
    _ ≤ shape.prod * dtype.itemsize := Nat.le_mul_of_pos_right _ positive
    _ < 2 ^ 63 := small

/-- The octets of an array, read as a flat array and given the shape again. -/
theorem reshape_frombuffer (a : NdArray) (number : IsNumber a.dtype) (nonempty : a.shape.prod ≠ 0)
    (few : a.shape.length ≤ NumPy.maxdims) (small : a.shape.prod * a.dtype.itemsize < 2 ^ 63) :
    (do
      let flat ← frombuffer a.data ⟨a.dtype, []⟩
      flat.reshape (a.shape.map fun d : Nat => .int (d : Int))) = .ok a := by
  obtain ⟨positive, plain⟩ := number.positive
  have dims := number.dim_lt nonempty small
  have size : a.shape.prod < 2 ^ 63 :=
    Nat.lt_of_le_of_lt (Nat.le_mul_of_pos_right _ (Nat.pos_of_ne_zero positive)) small
  have item : (⟨a.dtype, []⟩ : Descr).itemsize = a.dtype.itemsize := by simp [Descr.itemsize]
  have fits : a.data.length % (⟨a.dtype, []⟩ : Descr).itemsize = 0 := by
    rw [item, a.size_eq, Nat.mul_mod_left]
  obtain ⟨flat, made, shaped, typed, filled⟩ :=
    frombuffer_ok plain (by rwa [item])
      (Nat.lt_of_lt_of_le Nat.two_pos NumPy.two_le_maxdims) fits
  have flatSize : flat.size = a.shape.prod := by
    rw [NdArray.size, shaped, item, a.size_eq,
      Nat.mul_div_cancel _ (Nat.pos_of_ne_zero positive)]
    simp
  have resolved : resolve flat.size (a.shape.map fun d : Nat => (d : Int)) = some a.shape := by
    rw [flatSize, resolve_shape nonempty size]
  obtain ⟨b, reshaped, shape, dtype, data⟩ := NdArray.withShape_ok (by simpa using few) resolved
  have back : b = a := NdArray.ext' shape (dtype.trans typed) (data.trans filled)
  refine bind_eq_ok.mpr ⟨flat, made, bind_eq_ok.mpr ⟨_, asDims_shape dims, ?_⟩⟩
  rw [reshaped, back]

end Arrays

end Numpy

namespace Detector

open Text Python Numpy Interaction

/-! ## Headers -/

/-- A header whose first members describe an array. -/
def arrayHeader (a : NdArray) (rest : List (PyStr × Json)) : List (PyStr × Json) :=
  (py "shape", jsonShape a.shape) :: (py "dtype", .str a.dtype.name) :: rest

theorem norm_jsonShape (shape : List Nat) : (jsonShape shape).norm = jsonShape shape := by
  have elems : normElems (shape.map fun d : Nat => .int (d : Int)) =
      shape.map fun d : Nat => .int (d : Int) := by
    induction shape with
    | nil => rfl
    | cons d shape ih => rw [List.map_cons, normElems, ih, Json.norm]; all_goals simp
  rw [jsonShape, Json.norm, elems]

/-- A dimension that fits in a word has few digits. -/
theorem length_decimal_le {d : Nat} (small : d < 2 ^ 63) : (decimal d).length ≤ 640 := by
  have digits : (Nat.digits 10 d).length ≤ 19 :=
    (Nat.digits_length_le_iff (by decide) d).mpr (small.trans (by norm_num))
  rw [decimal]
  split
  · decide
  · rw [List.length_map, List.length_reverse]
    exact digits.trans (by decide)

theorem within_jsonShape [Interpreter] {shape : List Nat} (small : ∀ d ∈ shape, d < 2 ^ 63) :
    (jsonShape shape).Within Interpreter.limits 1 := by
  refine ⟨not_deep (by decide), ?_⟩
  induction shape with
  | nil => exact trivial
  | cons d shape ih =>
      obtain ⟨head, tail⟩ := List.forall_mem_cons.mp small
      exact ⟨reads_int (length_decimal_le head), ih tail⟩

/-- The header of an array is read as it was sent, whatever the limits of the interpreter. -/
theorem jsonLoads_arrayHeader [NumPy] {a : NdArray} (number : IsNumber a.dtype)
    (small : ∀ d ∈ a.shape, d < 2 ^ 63) {key : PyStr} {v : Json}
    (within : v.Within Interpreter.limits 1)
    (other : joinSurrogates key ∉ [py "shape", py "dtype"]) :
    jsonLoads (encodeJson (.obj (arrayHeader a [(key, v)]))) =
      .ok (.obj (arrayHeader a [(joinSurrogates key, v.norm)])) := by
  have shape : joinSurrogates (py "shape") = py "shape" := by decide +kernel
  have dtype : joinSurrogates (py "dtype") = py "dtype" := by decide +kernel
  have normed : normMembers (arrayHeader a [(key, v)]) =
      arrayHeader a [(joinSurrogates key, v.norm)] := by
    simp only [arrayHeader, normMembers, shape, dtype, norm_jsonShape, Json.norm,
      joinSurrogates_ascii number.ascii]
  have keys : ((normMembers (arrayHeader a [(key, v)])).map Prod.fst).Nodup := by
    have apart : py "shape" ≠ py "dtype" := by decide +kernel
    rw [normed]
    simp only [arrayHeader, List.map_cons, List.map_nil, List.nodup_cons, List.mem_cons,
      List.not_mem_nil, or_false, not_or] at other ⊢
    exact ⟨⟨apart, Ne.symm other.1⟩, Ne.symm other.2, not_false, List.nodup_nil⟩
  have kept : (Json.obj (arrayHeader a [(key, v)])).Within Interpreter.limits 0 :=
    ⟨not_deep (by decide), within_jsonShape small, trivial, within, trivial⟩
  rw [jsonLoads, decodeJson_encodeJson_obj kept keys, normed]
  rfl

theorem getD_arrayHeader_shape (a : NdArray) (rest : List (PyStr × Json)) (default : Json) :
    getD (arrayHeader a rest) "shape" default = jsonShape a.shape := by
  rw [getD, arrayHeader, lookup_cons, if_pos rfl, Option.getD_some]

theorem getD_arrayHeader_dtype (a : NdArray) (rest : List (PyStr × Json)) (default : Json) :
    getD (arrayHeader a rest) "dtype" default = .str a.dtype.name := by
  rw [getD, arrayHeader, lookup_cons, if_neg (by decide +kernel), lookup_cons, if_pos rfl,
    Option.getD_some]

/-- A message of the plugin's: none of the keys of a message about models. -/
theorem contains_tensorHeader (a : NdArray) (modelType : Json) :
    contains (py "model_request") (.obj (arrayHeader a [(py "model_type", modelType)])) = .ok false ∧
      contains (py "model_data") (.obj (arrayHeader a [(py "model_type", modelType)])) = .ok false := by
  have apart : ∀ word ∈ [py "model_request", py "model_data"],
      word ≠ py "shape" ∧ word ≠ py "dtype" ∧ word ≠ py "model_type" := by decide +kernel
  have absent : ∀ word ∈ [py "model_request", py "model_data"],
      contains word (.obj (arrayHeader a [(py "model_type", modelType)])) = .ok false := by
    intro word mem
    obtain ⟨shape, dtype, type⟩ := apart word mem
    rw [contains, arrayHeader, lookup_cons, if_neg shape.symm, lookup_cons, if_neg dtype.symm,
      lookup_cons, if_neg type.symm, lookup_nil]
    rfl
  exact ⟨absent _ (by simp), absent _ (by simp)⟩

section Decoding

variable [NumPy]

/-- The fields of a header and the octets behind it, read as either program reads them. -/
theorem read_arrayHeader (a : Strided) (number : IsNumber a.dtype) (nonempty : a.shape.prod ≠ 0)
    (rest : List (PyStr × Json)) (shapeDefault dtypeDefault : Json) :
    (do
      let shape ← tuple (getD (arrayHeader a.array rest) "shape" shapeDefault)
      let dtype ← ((NumPy.dtype (getD (arrayHeader a.array rest) "dtype" dtypeDefault)).elim
        (.error (exception "data type not understood")) .ok)
      let flat ← frombuffer a.array.data dtype
      flat.reshape shape) = .ok a.array := by
  rw [getD_arrayHeader_shape, getD_arrayHeader_dtype]
  refine bind_eq_ok.mpr ⟨_, rfl, bind_eq_ok.mpr ⟨_, elim_eq_ok.mpr number.dtype, ?_⟩⟩
  exact reshape_frombuffer a.array number nonempty a.few a.small

theorem decodeRequest_tensor (a : Strided) (number : IsNumber a.dtype)
    (nonempty : a.shape.prod ≠ 0) (modelType : PyStr) :
    decodeRequest [encodeJson (Plugin.tensorHeader a.array modelType), a.array.data] =
      .ok (some a.array,
        .obj (arrayHeader a.array [(py "model_type", .str (joinSurrogates modelType))])) := by
  have type : joinSurrogates (py "model_type") = py "model_type" := by decide +kernel
  have decoded : jsonLoads (encodeJson (Plugin.tensorHeader a.array modelType)) =
      .ok (.obj (arrayHeader a.array [(joinSurrogates (py "model_type"),
        .str (joinSurrogates modelType))])) :=
    jsonLoads_arrayHeader number (number.dim_lt nonempty a.small) (v := .str modelType) trivial
      (by decide +kernel)
  rw [type] at decoded
  obtain ⟨request, data⟩ := contains_tensorHeader a.array (.str (joinSurrogates modelType))
  have read := read_arrayHeader a number nonempty
    [(py "model_type", .str (joinSurrogates modelType))] (.arr []) (.str (py "uint8"))
  obtain ⟨shape, shaped, read⟩ := bind_eq_ok.mp read
  obtain ⟨dtype, typed, read⟩ := bind_eq_ok.mp read
  obtain ⟨flat, made, given⟩ := bind_eq_ok.mp read
  refine bind_eq_ok.mpr ⟨_, decoded, bind_eq_ok.mpr ⟨false, request, ?_⟩⟩
  rw [if_neg Bool.false_ne_true]
  refine bind_eq_ok.mpr ⟨false, data, ?_⟩
  rw [if_neg Bool.false_ne_true]
  exact bind_eq_ok.mpr ⟨_, rfl, bind_eq_ok.mpr ⟨shape, shaped, bind_eq_ok.mpr ⟨dtype, typed,
    bind_eq_ok.mpr ⟨flat, made, bind_eq_ok.mpr ⟨a.array, given, rfl⟩⟩⟩⟩⟩

/-- A reply whose header describes the octets behind it. -/
theorem decodeResponse_array (a : Strided) (number : IsNumber a.dtype)
    (nonempty : a.shape.prod ≠ 0) {headerBytes : Bytes} {rest : List (PyStr × Json)}
    (decoded : jsonLoads headerBytes = .ok (.obj (arrayHeader a.array rest))) :
    Plugin.decodeResponse [headerBytes, a.array.data] = a.array := by
  have read := read_arrayHeader a number nonempty rest (.arr []) (.str (py "float32"))
  have whole : Plugin.tryDecodeResponse [headerBytes, a.array.data] = .ok a.array :=
    bind_eq_ok.mpr ⟨_, decoded, bind_eq_ok.mpr ⟨_, rfl, read⟩⟩
  unfold Plugin.decodeResponse
  rw [whole]

theorem decodeResponse_responseHeader (a : Strided) (number : IsNumber a.dtype)
    (nonempty : a.shape.prod ≠ 0) (timestamp : FloatLit) :
    Plugin.decodeResponse [encodeJson (responseHeader a.array timestamp), a.array.data] =
      a.array :=
  decodeResponse_array a number nonempty
    (jsonLoads_arrayHeader number (number.dim_lt nonempty a.small) (v := .float timestamp) trivial
      (by decide +kernel))

/-- Arrays of numbers survive the way in both directions, shape, element type and elements: the
server takes what the plugin sends for a tensor and reads the tensor that was sent, and the plugin
reads the array that the server replied with, as long as the server's clock answers. -/
theorem wire_round_trip (a : Strided) (number : IsNumber a.dtype) (nonempty : a.shape.prod ≠ 0) :
    (∀ modelType : PyStr, ∃ tensor header,
      decodeRequest [encodeJson (Plugin.tensorHeader a.array modelType), a.array.data] =
        .ok (some tensor, header) ∧
      contains (py "model_request") header = .ok false ∧
      contains (py "model_data") header = .ok false ∧ a.Same tensor) ∧
    ∀ {β W : Type} (E : Env Server W) (s : ZmqOnnxClient β) (w : W),
      (∀ w r w', E.step w (.host .time) r w' → ∃ t, r = .ok t) →
      (buildResponse a.array).wpc E (fun _ => True)
        (fun r s' _ => s' = s ∧ ∃ frames, r = .ok frames ∧ a.Same (Plugin.decodeResponse frames))
        s w := by
  constructor
  · intro modelType
    obtain ⟨request, data⟩ := contains_tensorHeader a.array (.str (joinSurrogates modelType))
    exact ⟨_, _, decodeRequest_tensor a number nonempty modelType, request, data, a.same_array⟩
  · intro β W E s w clock
    rw [buildResponse, wpc_exceptException, Py.wpc_bind, Py.wpc_ask]
    intro r w' step
    obtain ⟨t, rfl⟩ := clock w r w' step
    refine ⟨trivial, rfl, _, rfl, ?_⟩
    rw [decodeResponse_responseHeader a number nonempty t]
    exact a.same_array

end Decoding

section Example

attribute [local instance] NumPy.reference

/-- A two by two array of `int16` in column-major order, read backwards along its rows. -/
def flipped : Strided where
  shape := [2, 2]
  dtype := .number "int16" 2
  buffer := [1, 2, 3, 4, 5, 6, 7, 8]
  offset := 4
  strides := [2, -4]
  few := by decide
  small := by decide
  inside := by
    intro idx valid
    rcases valid with - | ⟨below, rest⟩
    rcases rest with - | ⟨below', rest⟩
    cases rest
    simp only [displacement, Dtype.number, List.zipWith_cons_cons, List.zipWith_nil_left,
      List.sum_cons, List.sum_nil, List.length_cons, List.length_nil]
    omega

example : flipped.tobytes = [5, 6, 1, 2, 7, 8, 3, 4] := by decide +kernel

theorem wire_round_trip_flipped :
    ∃ tensor header,
      decodeRequest [encodeJson (Plugin.tensorHeader flipped.array (py "yologeneric")),
        flipped.array.data] = .ok (some tensor, header) ∧ flipped.Same tensor := by
  obtain ⟨tensor, header, decoded, -, -, same⟩ :=
    (wire_round_trip flipped (.inl (by decide)) (by decide)).1 (py "yologeneric")
  exact ⟨tensor, header, decoded, same⟩

end Example

end Detector
