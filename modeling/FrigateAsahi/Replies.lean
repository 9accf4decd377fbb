import FrigateAsahi.ClientReadiness
import FrigateAsahi.ZmqOnnxClient

/-!
# What the plugin reads in the server's replies

Both programs share the wire format only through JSON text and raw octets. The lemmas here join the
two ends: a reply that the server builds around detections, or in place of them, is decoded by the
plugin to an array of the agreed shape and type, and the two flags of a handshake reply arrive as
they were sent.
-/

namespace Detector

open Text Python Numpy Interaction

/-- A message about models: its header is an object with one of the two keys. -/
def IsModelMessage [Interpreter] (frames : List Bytes) : Prop :=
  ∃ header rest fields, frames = header :: rest ∧ jsonLoads header = .ok (.obj fields) ∧
    ((lookup (py "model_request") fields).isSome ∨ (lookup (py "model_data") fields).isSome)

/-! ## Replies to handshakes -/

section Interpreted

variable [Interpreter]

/-- A reply that keeps the limits of the interpreter and repeats no key is read as it was sent. -/
theorem readReply_of_keys (first second : String) (fields : List (PyStr × Json))
    (within : (Json.obj fields).Within Interpreter.limits 0)
    (keys : ((normMembers fields).map Prod.fst).Nodup) :
    Plugin.readReply first second (encodeJson (.obj fields)) =
      .ok (some ((getD (normMembers fields) first (.bool false)).truthy,
        (getD (normMembers fields) second (.bool false)).truthy)) := by
  simp only [Plugin.readReply, decodeJson_encodeJson_obj within keys]
  rfl

/-- The reply to a model request, as the plugin reads it. -/
theorem readReply_requestReply (available : Bool) (loaded : Option Bool) (name : PyStr)
    (before after : String) :
    Plugin.readReply "model_available" "model_loaded"
      (encodeJson (requestReply available loaded (.str name) before after)) =
        .ok (some (available, loaded.getD false)) := by
  cases loaded with
  | some loaded =>
      have keys : [joinSurrogates (py "model_available"), joinSurrogates (py "model_loaded"),
          joinSurrogates (py "model_name"), joinSurrogates (py "message")].Nodup := by
        decide +kernel
      exact (readReply_of_keys _ _ [(py "model_available", .bool available),
        (py "model_loaded", .bool loaded), (py "model_name", .str name), (py "message", .str _)]
        ⟨not_deep (by decide), trivial, trivial, trivial, trivial, trivial⟩ keys).trans rfl
  | none =>
      have keys : [joinSurrogates (py "model_available"), joinSurrogates (py "model_name"),
          joinSurrogates (py "message")].Nodup := by
        decide +kernel
      exact (readReply_of_keys _ _ [(py "model_available", .bool available),
        (py "model_name", .str name), (py "message", .str _)]
        ⟨not_deep (by decide), trivial, trivial, trivial, trivial⟩ keys).trans rfl

/-- The reply to model data, as the plugin reads it. -/
theorem readReply_dataReply (saved loaded : Bool) (name : PyStr) (before after : String) :
    Plugin.readReply "model_saved" "model_loaded"
      (encodeJson (dataReply saved loaded (.str name) before after)) = .ok (some (saved, loaded)) := by
  have keys : [joinSurrogates (py "model_saved"), joinSurrogates (py "model_loaded"),
      joinSurrogates (py "model_name"), joinSurrogates (py "message")].Nodup := by
    decide +kernel
  exact (readReply_of_keys _ _ [(py "model_saved", .bool saved), (py "model_loaded", .bool loaded),
    (py "model_name", .str name), (py "message", .str _)]
    ⟨not_deep (by decide), trivial, trivial, trivial, trivial, trivial⟩ keys).trans rfl

end Interpreted

/-! ## Replies to tensors -/

/-- A header whose first members are the shape and the type of detections. -/
def detectionsHeader (rest : List (PyStr × Json)) : Json :=
  .obj ((py "shape", jsonShape [20, 6]) :: (py "dtype", .str (py "float32")) :: rest)

theorem normMembers_detections (rest : List (PyStr × Json)) :
    normMembers ((py "shape", jsonShape [20, 6]) :: (py "dtype", .str (py "float32")) :: rest) =
      (py "shape", jsonShape [20, 6]) :: (py "dtype", .str (py "float32")) :: normMembers rest := by
  have shape : joinSurrogates (py "shape") = py "shape" := by decide +kernel
  have dtype : joinSurrogates (py "dtype") = py "dtype" := by decide +kernel
  have float32 : joinSurrogates (py "float32") = py "float32" := by decide +kernel
  simp only [Json.norm, normMembers, jsonShape, List.map_cons, List.map_nil, normElems, shape, dtype,
    float32]

/-- Every interpreter reads such a header. -/
theorem jsonLoads_detectionsHeader [Interpreter] (key : PyStr) {v : Json}
    (within : v.Within Interpreter.limits 1)
    (keys : [joinSurrogates (py "shape"), joinSurrogates (py "dtype"), joinSurrogates key].Nodup) :
    jsonLoads (encodeJson (detectionsHeader [(key, v)])) =
      .ok (detectionsHeader [(joinSurrogates key, v.norm)]) := by
  have size (n : Nat) (small : (decimal n).length ≤ 640) :
      (Json.int n).Within Interpreter.limits 2 := reads_int small
  have kept : (detectionsHeader [(key, v)]).Within Interpreter.limits 0 :=
    ⟨not_deep (by decide), ⟨not_deep (by decide), size 20 (by decide), size 6 (by decide), trivial⟩,
      trivial, within, trivial⟩
  have decoded : decodeJson Interpreter.limits (encodeJson (detectionsHeader [(key, v)])) =
      .ok (.obj _) :=
    decodeJson_encodeJson_obj kept keys
  rw [jsonLoads, decoded, normMembers_detections]
  rfl

theorem getD_shape (rest : List (PyStr × Json)) (default : Json) :
    getD ((py "shape", jsonShape [20, 6]) :: rest) "shape" default = jsonShape [20, 6] := by
  rw [getD, lookup_cons, if_pos rfl, Option.getD_some]

theorem getD_dtype (shape : Json) (rest : List (PyStr × Json)) (default : Json) :
    getD ((py "shape", shape) :: (py "dtype", .str (py "float32")) :: rest) "dtype" default =
      .str (py "float32") := by
  rw [getD, lookup_cons, if_neg (by decide +kernel), lookup_cons, if_pos rfl, Option.getD_some]

theorem length_of_isDetections {a : NdArray} (detections : Plugin.IsDetections a) :
    a.data.length = 480 := by
  rw [a.size_eq, detections.1, detections.2]
  rfl

section Detections

variable [NumPy]

/-- At least two frames, which the plugin decodes without falling back to zeros of its own. -/
def IsDetectionsReply (frames : List Bytes) : Prop :=
  2 ≤ frames.length ∧ ∃ a, Plugin.tryDecodeResponse frames = .ok a ∧ Plugin.IsDetections a

/-- Whatever else is in the header, it describes the payload. -/
theorem isDetectionsReply_header {headerBytes payload : Bytes} {rest : List (PyStr × Json)}
    (decoded : jsonLoads headerBytes = .ok (detectionsHeader rest))
    (full : payload.length = 480) : IsDetectionsReply [headerBytes, payload] := by
  refine ⟨le_rfl, ?_⟩
  obtain ⟨flat, a, made, shaped, detections⟩ := Plugin.withShape_detections full
  have typed : NumPy.dtype (.str (py "float32")) = some ⟨.float32, []⟩ :=
    NumPy.dtype_number .float32 (by decide)
  refine ⟨a, ?_, detections⟩
  simp only [Plugin.tryDecodeResponse, decoded, bind_eq_ok, elim_eq_ok]
  refine ⟨_, rfl, _, members_eq_ok.mpr rfl, _, congrArg tuple (getD_shape _ _), _,
    (congrArg NumPy.dtype (getD_dtype _ _ _)).trans typed, flat, made, ?_⟩
  exact bind_eq_ok.mpr ⟨[20, 6], rfl, shaped⟩

theorem isDetectionsReply_response {result : NdArray} (detections : Plugin.IsDetections result)
    (timestamp : FloatLit) :
    IsDetectionsReply [encodeJson (responseHeader result timestamp), result.data] := by
  have header : responseHeader result timestamp =
      detectionsHeader [(py "timestamp", .float timestamp)] := by
    rw [responseHeader, detections.1, detections.2]
    rfl
  have decoded := jsonLoads_detectionsHeader (py "timestamp") (v := .float timestamp) trivial
    (by decide +kernel)
  rw [header]
  exact isDetectionsReply_header decoded (length_of_isDetections detections)

theorem isDetectionsReply_error (msg : PyStr) :
    IsDetectionsReply [encodeJson (errorHeader msg), zeroResult.data] := by
  have decoded := jsonLoads_detectionsHeader (py "error") (v := .str msg) trivial (by decide +kernel)
  exact isDetectionsReply_header decoded List.length_replicate

end Detections

end Detector
