import FrigateAsahi.Backends.MnnSeam
import FrigateAsahi.Lib.Utf8

/-!
# The C shim around MNN

The backend takes on trust what the shim answers. Here the shim is the C++ code over a session of
MNN, whose maps of tensors are ordered by name. Handed one `float32` array for each tensor, it stays
within the arrays, and what it returns does not depend on the calls before (`infer_within`). The
backend over this code hands it just that; what a load leaves stands behind the seam exactly when the
names of the inputs ascend (`shim_serves`).
-/

namespace MnnShim

open Text Python Numpy Interaction Detector

/-! ## MNN -/

/-- A tensor of a session, and its copy on the host, which has `itemsize` octets for each element. -/
structure Tensor : Type where
  name : Bytes
  shape : List Int
  elementSize : Nat
  itemsize : Nat
  deriving DecidableEq

def Tensor.bytes (t : Tensor) : Nat := t.elementSize * t.itemsize

/-- A session: the tensors that `getSessionInputAll` and `getSessionOutputAll` list, and what a run
makes of the octets in the inputs. Names are UTF-8, as they are in an ONNX file. -/
structure Session : Type where
  inputAll : List Tensor
  outputAll : List Tensor
  runSession : List Bytes → Option (List Bytes)
  inputAll_sorted : (inputAll.map Tensor.name).Pairwise (· < ·)
  outputAll_sorted : (outputAll.map Tensor.name).Pairwise (· < ·)
  utf8 : ∀ t ∈ inputAll ++ outputAll, (decodeUtf8 t.name).isSome
  runSession_size : ∀ {ins outs}, runSession ins = some outs →
    outs.map List.length = outputAll.map Tensor.bytes

/-- The tensors hold numbers of type `float32`, which the shim takes for granted. -/
def Float32 (tensors : List Tensor) : Prop := ∀ t ∈ tensors, t.itemsize = 4

/-! ## The shim -/

/-- The session and the octets in its input tensors. -/
structure Handle : Type where
  session : Session
  inputs : List (Tensor × Bytes)

/-- What `mnn_shim_create` returns for a session. -/
def create (s : Session) : Handle :=
  ⟨s, s.inputAll.map fun t => (t, List.replicate t.bytes 0)⟩

/-- `strncpy` into a buffer of `errlen` octets with a zero at the end, read as a C string. -/
def setErr (errlen : Nat) (msg : Bytes) : Bytes := (msg.takeWhile (· ≠ 0)).take (errlen - 1)

def numInputs (h : Handle) : Int := h.session.inputAll.length

def numOutputs (h : Handle) : Int := h.session.outputAll.length

/-- The buffers are those of the backend: 512 octets and eight dimensions, all zero before. -/
def ioInfo (h : Handle) (which idx : Nat) : IoInfo :=
  match (if which = 0 then h.session.inputAll else h.session.outputAll)[idx]? with
  | none => ⟨-1, [], fun _ => 0⟩
  | some t => ⟨t.shape.length, setErr 512 t.name, fun i => t.shape.getD i 0⟩

/-- The first loop over the input tensors, with the buffers and their sizes. A read outside of a
buffer, or of the list of buffers, has no result, nor has a write outside of the tensor's copy. -/
def feedAll : List (Tensor × Bytes) → List (Nat × Bytes) → Option (Int × List (Tensor × Bytes))
  | [], _ => some (0, [])
  | _ :: _, [] => none
  | (t, held) :: inputs, (elems, octets) :: rest =>
    if t.elementSize ≠ elems then some (-2, (t, held) :: inputs)
    else if octets.length < elems * 4 ∨ t.bytes < elems * 4 then none
    else do
      let (rc, fed) ← feedAll inputs rest
      some (rc, (t, octets.take (elems * 4) ++ held.drop (elems * 4)) :: fed)

/-- The second loop over the output tensors and their octets. -/
def drainAll : List (Tensor × Bytes) → List (Nat × Bytes) → Option (Int × List Bytes)
  | [], outs => some (0, outs.map Prod.snd)
  | _ :: _, [] => none
  | (t, octets) :: outputs, (elems, buffer) :: rest =>
    if t.elementSize ≠ elems then some (-4, buffer :: rest.map Prod.snd)
    else if buffer.length < elems * 4 ∨ t.bytes < elems * 4 then none
    else do
      let (rc, buffers) ← drainAll outputs rest
      some (rc, (octets.take (elems * 4) ++ buffer.drop (elems * 4)) :: buffers)

/-- The return code, the handle and the buffers of the outputs afterwards. -/
def infer (h : Handle) (ins outs : List (Nat × Bytes)) : Option (Int × Handle × List Bytes) := do
  let (rc, fed) ← feedAll h.inputs ins
  if rc ≠ 0 then some (rc, ⟨h.session, fed⟩, outs.map Prod.snd)
  else
    match h.session.runSession (fed.map Prod.snd) with
    | none => some (-3, ⟨h.session, fed⟩, outs.map Prod.snd)
    | some results => do
      let (rc, buffers) ← drainAll (h.session.outputAll.zip results) outs
      some (rc, ⟨h.session, fed⟩, buffers)

/-! ## Calls -/

/-- An array as the backend hands it over: the number of its elements and its octets. -/
def handed (a : NdArray) : Nat × Bytes := (a.size, a.data)

/-- What the shim answers to a call on a handle, and the handle afterwards. -/
def Answer (h h' : Handle) : (c : HostCall) → Except PyErr c.Answer → Prop
  | .mnnNumInputs _, r => h' = h ∧ r = .ok (numInputs h)
  | .mnnNumOutputs _, r => h' = h ∧ r = .ok (numOutputs h)
  | .mnnIoInfo _ which idx, r => h' = h ∧ r = .ok (ioInfo h which idx)
  | .mnnInfer _ inputs outputs, r => ∃ rc buffers fill,
    infer h (inputs.map handed) (outputs.map handed) = some (rc, h', buffers) ∧ r = .ok (rc, fill) ∧
      ∀ (k : Nat) a, outputs[k]? = some a → buffers[k]? = some (fill k a).1
  | _, _ => False

/-- The handles that calls can make of a new one. -/
inductive Reached (s : Session) : Handle → Prop
  | create : Reached s (create s)
  | answer {h h' : Handle} {c : HostCall} {r : Except PyErr c.Answer} (before : Reached s h)
      (answered : Answer h h' c r) : Reached s h'

/-- One array of type `float32` for each tensor, which is what the backend hands over. -/
structure Handed (tensors : List Tensor) (arrays : List NdArray) : Prop where
  count : arrays.length = tensors.length
  float32 : ∀ a ∈ arrays, a.dtype = .float32

/-- The arrays have as many elements as the tensors. -/
def Agree (tensors : List Tensor) (arrays : List NdArray) : Prop :=
  tensors.map Tensor.elementSize = arrays.map NdArray.size

theorem Handed.tail {t : Tensor} {tensors : List Tensor} {a : NdArray} {arrays : List NdArray}
    (given : Handed (t :: tensors) (a :: arrays)) : Handed tensors arrays where
  count := Nat.succ.inj given.count
  float32 b member := given.float32 b (List.mem_cons_of_mem a member)

/-- Each tensor and the array that is handed over for it are of type `float32`. -/
theorem Handed.octets {t : Tensor} {tensors : List Tensor} {a : NdArray} {arrays : List NdArray}
    (given : Handed (t :: tensors) (a :: arrays)) (float32 : Float32 (t :: tensors)) :
    a.data.length = a.size * 4 ∧ t.bytes = t.elementSize * 4 := by
  refine ⟨?_, congrArg _ (float32 t List.mem_cons_self)⟩
  rw [a.size_eq, given.float32 a List.mem_cons_self]
  rfl

theorem Float32.tail {t : Tensor} {tensors : List Tensor} (float32 : Float32 (t :: tensors)) :
    Float32 tensors :=
  fun t' member => float32 t' (List.mem_cons_of_mem t member)

/-- The copies on the host are as large as their tensors. -/
def Sized (inputs : List (Tensor × Bytes)) : Prop := ∀ input ∈ inputs, input.2.length = input.1.bytes

/-! ## Feeding -/

theorem feedAll_tensors {inputs fed : List (Tensor × Bytes)} {ins : List (Nat × Bytes)} {rc : Int}
    (sized : Sized inputs) (ran : feedAll inputs ins = some (rc, fed)) :
    fed.map Prod.fst = inputs.map Prod.fst ∧ Sized fed := by
  induction inputs generalizing ins rc fed with
  | nil =>
      cases ran
      exact ⟨rfl, sized⟩
  | cons input inputs ih =>
      obtain ⟨t, held⟩ := input
      rcases ins with - | ⟨⟨elems, octets⟩, ins⟩
      · cases ran
      · rw [feedAll] at ran
        split at ran
        · cases ran
          exact ⟨rfl, sized⟩
        · split at ran
          · cases ran
          · next enough =>
              cases rest : feedAll inputs ins with
              | none =>
                  rw [rest] at ran
                  cases ran
              | some result =>
                  rw [rest] at ran
                  cases ran
                  obtain ⟨tensors, others⟩ :=
                    ih (fun input member => sized input (List.mem_cons_of_mem _ member)) rest
                  refine ⟨by rw [List.map_cons, List.map_cons, tensors], ?_⟩
                  have here : held.length = t.bytes := sized (t, held) List.mem_cons_self
                  refine List.forall_mem_cons.mpr ⟨?_, others⟩
                  have room : elems * 4 ≤ t.bytes := by omega
                  change (octets.take (elems * 4) ++ held.drop (elems * 4)).length = t.bytes
                  rw [List.length_append, List.length_take, List.length_drop, here]
                  omega

theorem feedAll_agree {inputs : List (Tensor × Bytes)} {arrays : List NdArray}
    (sized : Sized inputs) (float32 : Float32 (inputs.map Prod.fst))
    (given : Handed (inputs.map Prod.fst) arrays) (agree : Agree (inputs.map Prod.fst) arrays) :
    feedAll inputs (arrays.map handed) =
      some (0, (inputs.map Prod.fst).zip (arrays.map NdArray.data)) := by
  induction inputs generalizing arrays with
  | nil => rfl
  | cons input inputs ih =>
      obtain ⟨t, held⟩ := input
      rcases arrays with - | ⟨a, arrays⟩
      · cases given.count
      · obtain ⟨size, sizes⟩ := List.cons.inj agree
        obtain ⟨octets, bytes⟩ := given.octets float32
        have size : t.elementSize = a.size := size
        have here : held.length = t.bytes := sized (t, held) List.mem_cons_self
        have bytes : t.bytes = t.elementSize * 4 := bytes
        have enough : ¬ (a.data.length < a.size * 4 ∨ t.bytes < a.size * 4) := by
          rw [bytes, size]
          omega
        have rest := ih (fun input member => sized input (List.mem_cons_of_mem _ member))
          float32.tail given.tail sizes
        rw [List.map_cons, handed, feedAll, if_neg (not_not.mpr size), if_neg enough, rest]
        dsimp only [Option.bind_eq_bind, Option.bind_some]
        rw [List.take_of_length_le (by omega), List.drop_of_length_le (by rw [here, bytes, size]),
          List.append_nil]
        rfl

theorem feedAll_differ {inputs : List (Tensor × Bytes)} {arrays : List NdArray}
    (float32 : Float32 (inputs.map Prod.fst)) (given : Handed (inputs.map Prod.fst) arrays)
    (differ : ¬ Agree (inputs.map Prod.fst) arrays) :
    ∃ fed, feedAll inputs (arrays.map handed) = some (-2, fed) := by
  induction inputs generalizing arrays with
  | nil =>
      rw [List.map_nil] at given
      rw [List.length_eq_zero_iff.mp given.count] at differ
      exact absurd rfl differ
  | cons input inputs ih =>
      obtain ⟨t, held⟩ := input
      rcases arrays with - | ⟨a, arrays⟩
      · cases given.count
      · by_cases size : t.elementSize = a.size
        · obtain ⟨octets, bytes⟩ := given.octets float32
          have bytes : t.bytes = t.elementSize * 4 := bytes
          have enough : ¬ (a.data.length < a.size * 4 ∨ t.bytes < a.size * 4) := by
            rw [bytes, size]
            omega
          have sizes : ¬ Agree (inputs.map Prod.fst) arrays := fun agree =>
            differ (List.cons_eq_cons.mpr ⟨size, agree⟩)
          obtain ⟨fed, rest⟩ := ih float32.tail given.tail sizes
          refine ⟨(t, a.data.take (a.size * 4) ++ held.drop (a.size * 4)) :: fed, ?_⟩
          rw [List.map_cons, handed, feedAll, if_neg (not_not.mpr size), if_neg enough, rest]
          rfl
        · exact ⟨_, if_pos size⟩

/-! ## Draining -/

theorem drainAll_agree {tensors : List Tensor} {results : List Bytes} {arrays : List NdArray}
    (sizes : results.map List.length = tensors.map Tensor.bytes) (float32 : Float32 tensors)
    (given : Handed tensors arrays) (agree : Agree tensors arrays) :
    drainAll (tensors.zip results) (arrays.map handed) = some (0, results) := by
  induction tensors generalizing results arrays with
  | nil =>
      rw [List.map_nil, List.map_eq_nil_iff] at sizes
      rw [sizes, List.length_eq_zero_iff.mp given.count]
      rfl
  | cons t tensors ih =>
      rcases results with - | ⟨octets, results⟩
      · cases sizes
      · rcases arrays with - | ⟨a, arrays⟩
        · cases given.count
        · obtain ⟨size, later⟩ := List.cons.inj agree
          obtain ⟨here, others⟩ : octets.length = t.bytes ∧ _ := List.cons.inj sizes
          obtain ⟨buffer, bytes⟩ := given.octets float32
          have enough : ¬ (a.data.length < a.size * 4 ∨ t.bytes < a.size * 4) := by
            rw [bytes, size]
            omega
          have rest := ih others float32.tail given.tail later
          rw [List.map_cons, List.zip_cons_cons, handed, drainAll, if_neg (not_not.mpr size),
            if_neg enough, rest]
          dsimp only [Option.bind_eq_bind, Option.bind_some]
          rw [List.take_of_length_le (by rw [here, bytes, size]),
            List.drop_of_length_le (by omega), List.append_nil]

/-- The outputs before the first one of another size are written, those from it on untouched. -/
def Cut (tensors : List Tensor) (results : List Bytes) (arrays : List NdArray)
    (buffers : List Bytes) : Prop :=
  ∃ k, Agree (tensors.take k) (arrays.take k) ∧ ¬ Agree (tensors.take (k + 1)) (arrays.take (k + 1)) ∧
    buffers = results.take k ++ (arrays.map NdArray.data).drop k

theorem drainAll_differ {tensors : List Tensor} {results : List Bytes} {arrays : List NdArray}
    (sizes : results.map List.length = tensors.map Tensor.bytes) (float32 : Float32 tensors)
    (given : Handed tensors arrays) (differ : ¬ Agree tensors arrays) :
    ∃ buffers, drainAll (tensors.zip results) (arrays.map handed) = some (-4, buffers) ∧
      Cut tensors results arrays buffers := by
  induction tensors generalizing results arrays with
  | nil =>
      rw [List.length_eq_zero_iff.mp given.count] at differ
      exact absurd rfl differ
  | cons t tensors ih =>
      rcases results with - | ⟨octets, results⟩
      · cases sizes
      · rcases arrays with - | ⟨a, arrays⟩
        · cases given.count
        · obtain ⟨here, others⟩ : octets.length = t.bytes ∧ _ := List.cons.inj sizes
          by_cases size : t.elementSize = a.size
          · obtain ⟨buffer, bytes⟩ := given.octets float32
            have enough : ¬ (a.data.length < a.size * 4 ∨ t.bytes < a.size * 4) := by
              rw [bytes, size]
              omega
            have later : ¬ Agree tensors arrays := fun agree =>
              differ (List.cons_eq_cons.mpr ⟨size, agree⟩)
            obtain ⟨buffers, rest, k, before, first, cut⟩ :=
              ih others float32.tail given.tail later
            refine ⟨octets :: buffers, ?_, k + 1, ?_, fun agree => ?_, ?_⟩
            · rw [List.map_cons, List.zip_cons_cons, handed, drainAll, if_neg (not_not.mpr size),
                if_neg enough, rest]
              dsimp only [Option.bind_eq_bind, Option.bind_some]
              rw [List.take_of_length_le (by rw [here, bytes, size]),
                List.drop_of_length_le (by omega), List.append_nil]
            · exact List.cons_eq_cons.mpr ⟨size, before⟩
            · exact first (List.cons.inj agree).2
            · rw [cut]
              rfl
          · refine ⟨_, if_pos size, 0, rfl, fun agree => ?_, ?_⟩
            · exact size (List.cons.inj agree).1
            · simp [handed]

/-- What a session puts into its outputs fills the copies of their tensors. -/
theorem sized_results {tensors : List Tensor} {results : List Bytes}
    (sizes : results.map List.length = tensors.map Tensor.bytes) : Sized (tensors.zip results) := by
  induction tensors generalizing results with
  | nil => exact fun output member => nomatch member
  | cons t tensors ih =>
      rcases results with - | ⟨octets, results⟩
      · cases sizes
      · obtain ⟨here, others⟩ : octets.length = t.bytes ∧ _ := List.cons.inj sizes
        exact List.forall_mem_cons.mpr ⟨here, ih others⟩

/-- No buffer changes its length. -/
theorem drainAll_lengths {outputs : List (Tensor × Bytes)} {outs : List (Nat × Bytes)} {rc : Int}
    {buffers : List Bytes} (sized : Sized outputs) (drained : drainAll outputs outs = some (rc, buffers)) :
    buffers.map List.length = outs.map fun out => out.2.length := by
  induction outputs generalizing outs rc buffers with
  | nil =>
      cases drained
      exact List.map_map
  | cons output outputs ih =>
      obtain ⟨t, octets⟩ := output
      rcases outs with - | ⟨⟨elems, buffer⟩, outs⟩
      · cases drained
      · rw [drainAll] at drained
        split at drained
        · cases drained
          exact congrArg (buffer.length :: ·) List.map_map
        · split at drained
          · cases drained
          · next enough =>
              cases rest : drainAll outputs outs with
              | none =>
                  rw [rest] at drained
                  cases drained
              | some result =>
                  rw [rest] at drained
                  cases drained
                  have others := ih (fun output member => sized output (List.mem_cons_of_mem _ member))
                    rest
                  have here : octets.length = t.bytes := sized (t, octets) List.mem_cons_self
                  have kept : (octets.take (elems * 4) ++ buffer.drop (elems * 4)).length =
                      buffer.length := by
                    rw [List.length_append, List.length_take, List.length_drop, here]
                    omega
                  rw [List.map_cons, List.map_cons, kept, others]

/-! ## Whole calls -/

/-- A handle keeps its session, and a copy of each input tensor. -/
structure Holds (s : Session) (h : Handle) : Prop where
  session : h.session = s
  tensors : h.inputs.map Prod.fst = s.inputAll
  sized : Sized h.inputs

theorem infer_holds {s : Session} {h h' : Handle} {ins outs : List (Nat × Bytes)} {rc : Int}
    {buffers : List Bytes} (holds : Holds s h) (ran : infer h ins outs = some (rc, h', buffers)) :
    Holds s h' := by
  rw [infer] at ran
  cases fed : feedAll h.inputs ins with
  | none =>
      rw [fed] at ran
      cases ran
  | some result =>
      obtain ⟨tensors, sized⟩ := feedAll_tensors holds.sized fed
      have tensors := tensors.trans holds.tensors
      rw [fed] at ran
      dsimp only [Option.bind_eq_bind, Option.bind_some] at ran
      split at ran
      · cases ran
        exact ⟨holds.session, tensors, sized⟩
      · split at ran
        · cases ran
          exact ⟨holds.session, tensors, sized⟩
        · obtain ⟨drained, -, same⟩ := Option.bind_eq_some_iff.mp ran
          cases same
          exact ⟨holds.session, tensors, sized⟩

theorem infer_lengths {h h' : Handle} {ins outs : List (Nat × Bytes)} {rc : Int} {buffers : List Bytes}
    (ran : infer h ins outs = some (rc, h', buffers)) :
    buffers.map List.length = outs.map fun out => out.2.length := by
  rw [infer] at ran
  cases fed : feedAll h.inputs ins with
  | none =>
      rw [fed] at ran
      cases ran
  | some result =>
      rw [fed] at ran
      dsimp only [Option.bind_eq_bind, Option.bind_some] at ran
      split at ran
      · cases ran
        exact List.map_map
      · split at ran
        · cases ran
          exact List.map_map
        · next results computed =>
            obtain ⟨drained, ran', same⟩ := Option.bind_eq_some_iff.mp ran
            cases same
            exact drainAll_lengths (sized_results (h.session.runSession_size computed)) ran'

theorem Reached.holds {s : Session} {h : Handle} (reached : Reached s h) : Holds s h := by
  induction reached with
  | create =>
      refine ⟨rfl, ?_, fun input member => ?_⟩
      · rw [MnnShim.create, List.map_map]
        exact List.map_id s.inputAll
      · obtain ⟨t, -, rfl⟩ := List.mem_map.mp member
        exact List.length_replicate
  | @answer h h' c r before answered ih =>
      unfold Answer at answered
      split at answered
      · exact answered.1 ▸ ih
      · exact answered.1 ▸ ih
      · exact answered.1 ▸ ih
      · obtain ⟨rc, buffers, fill, ran, -⟩ := answered
        exact infer_holds ih ran
      · exact answered.elim

/-- What a call of `mnn_shim_infer` comes to: the first reason not to go on, and what has been written
until then, which the arrays determine. -/
def Outcome (s : Session) (inputs outputs : List NdArray) (rc : Int) (buffers : List Bytes) : Prop :=
  (¬ Agree s.inputAll inputs ∧ rc = -2 ∧ buffers = outputs.map NdArray.data) ∨
  (Agree s.inputAll inputs ∧ s.runSession (inputs.map NdArray.data) = none ∧ rc = -3 ∧
    buffers = outputs.map NdArray.data) ∨
  ∃ results, Agree s.inputAll inputs ∧ s.runSession (inputs.map NdArray.data) = some results ∧
    ((¬ Agree s.outputAll outputs ∧ rc = -4 ∧ Cut s.outputAll results outputs buffers) ∨
      (Agree s.outputAll outputs ∧ rc = 0 ∧ buffers = results))

theorem infer_outcome {s : Session} (float32 : Float32 (s.inputAll ++ s.outputAll)) {h : Handle}
    (holds : Holds s h) {inputs outputs : List NdArray} (ins : Handed s.inputAll inputs)
    (outs : Handed s.outputAll outputs) :
    ∃ rc h' buffers, infer h (inputs.map handed) (outputs.map handed) = some (rc, h', buffers) ∧
      Outcome s inputs outputs rc buffers := by
  obtain ⟨session, tensors, sized⟩ := holds
  obtain ⟨floatIns, floatOuts⟩ := List.forall_mem_append.mp float32
  have untouched : (outputs.map handed).map Prod.snd = outputs.map NdArray.data := by
    rw [List.map_map]
    rfl
  rw [← tensors] at ins floatIns
  by_cases agree : Agree s.inputAll inputs
  · rw [← tensors] at agree
    have fed := feedAll_agree sized floatIns ins agree
    have contents : ((h.inputs.map Prod.fst).zip (inputs.map NdArray.data)).map Prod.snd =
        inputs.map NdArray.data := by
      rw [List.map_snd_zip]
      rw [List.length_map, ins.count]
    rw [tensors] at agree
    rw [infer, fed]
    dsimp only [Option.bind_eq_bind, Option.bind_some]
    rw [if_neg (not_not.mpr rfl), contents, session]
    cases ran : s.runSession (inputs.map NdArray.data) with
    | none => exact ⟨_, _, _, rfl, .inr (.inl ⟨agree, ran, rfl, untouched⟩)⟩
    | some results =>
        have sizes := s.runSession_size ran
        dsimp only
        by_cases room : Agree s.outputAll outputs
        · rw [drainAll_agree sizes floatOuts outs room]
          exact ⟨_, _, _, rfl, .inr (.inr ⟨results, agree, ran, .inr ⟨room, rfl, rfl⟩⟩)⟩
        · obtain ⟨buffers, drained, cut⟩ := drainAll_differ sizes floatOuts outs room
          rw [drained]
          exact ⟨_, _, _, rfl, .inr (.inr ⟨results, agree, ran, .inl ⟨room, rfl, cut⟩⟩)⟩
  · rw [← tensors] at agree
    obtain ⟨fed, ran⟩ := feedAll_differ floatIns ins agree
    rw [tensors] at agree
    rw [infer, ran]
    exact ⟨_, _, _, rfl, .inl ⟨agree, rfl, untouched⟩⟩

/-- Whatever was called before on the handle, a call with one array for each tensor of a session of
numbers of type `float32` stays within the arrays. What it returns and writes depends on the arrays
alone. -/
theorem infer_within {s : Session} (float32 : Float32 (s.inputAll ++ s.outputAll)) {h : Handle}
    (reached : Reached s h) {inputs outputs : List NdArray} (ins : Handed s.inputAll inputs)
    (outs : Handed s.outputAll outputs) :
    ∃ rc h' buffers, infer h (inputs.map handed) (outputs.map handed) = some (rc, h', buffers) ∧
      Outcome s inputs outputs rc buffers ∧
      buffers.map List.length = outputs.map fun a => a.data.length := by
  obtain ⟨rc, h', buffers, ran, outcome⟩ := infer_outcome float32 reached.holds ins outs
  refine ⟨rc, h', buffers, ran, outcome, (infer_lengths ran).trans ?_⟩
  rw [List.map_map]
  rfl

def pairInputs : List Tensor := [⟨[0x61], [1], 1, 4⟩, ⟨[0x7A], [1], 1, 4⟩]

def pairOutputs : List Tensor := [⟨[0x79], [1], 1, 4⟩]

/-- The session puts its first input out. -/
def runPair (ins : List Bytes) : Option (List Bytes) :=
  if ins.map List.length = [4, 4] then some (ins.take 1) else none

theorem pairInputs_sorted : (pairInputs.map Tensor.name).Pairwise (· < ·) := by decide

theorem pairOutputs_sorted : (pairOutputs.map Tensor.name).Pairwise (· < ·) := by decide

theorem pair_utf8 : ∀ t ∈ pairInputs ++ pairOutputs, (decodeUtf8 t.name).isSome := by decide +kernel

theorem runPair_size {ins outs : List Bytes} (ran : runPair ins = some outs) :
    outs.map List.length = pairOutputs.map Tensor.bytes := by
  unfold runPair at ran
  split at ran
  · next sizes =>
      cases ran
      rw [List.map_take, sizes]
      rfl
  · cases ran

/-- Two inputs of one number each. -/
def pair : Session where
  inputAll := pairInputs
  outputAll := pairOutputs
  runSession := runPair
  inputAll_sorted := pairInputs_sorted
  outputAll_sorted := pairOutputs_sorted
  utf8 := pair_utf8
  runSession_size := runPair_size

theorem pair_float32 : Float32 (pair.inputAll ++ pair.outputAll) := by
  change ∀ t ∈ pairInputs ++ pairOutputs, t.itemsize = 4
  decide

/-- A call after one that was refused for the size of the second input. -/
theorem infer_within_refused :
    ∃ h rc h' buffers, infer h ([.zeros [1] .float32, .zeros [1] .float32].map handed)
        ([.zeros [2] .float32].map handed) = some (rc, h', buffers) ∧
      Outcome pair [.zeros [1] .float32, .zeros [1] .float32] [.zeros [2] .float32] rc buffers ∧
      h = ⟨pair, pairInputs.map fun t => (t, [0, 0, 0, 0])⟩ := by
  have reached : Reached pair ⟨pair, pairInputs.map fun t => (t, [0, 0, 0, 0])⟩ := by
    refine .answer (c := .mnnInfer (some 0) [.zeros [1] .float32, .zeros [2] .float32] [])
      (r := .ok (-2, Fill.untouched)) .create ⟨-2, [], Fill.untouched, rfl, rfl, ?_⟩
    intro k a none
    cases none
  have float32 : ∀ {shapes : List (List Nat)}, ∀ a ∈ shapes.map fun shape => NdArray.zeros shape .float32,
      a.dtype = .float32 := by
    intro shapes a member
    obtain ⟨shape, -, rfl⟩ := List.mem_map.mp member
    rfl
  have ins : Handed pair.inputAll [.zeros [1] .float32, .zeros [1] .float32] :=
    ⟨rfl, @float32 [[1], [1]]⟩
  have outs : Handed pair.outputAll [.zeros [2] .float32] := ⟨rfl, @float32 [[2]]⟩
  obtain ⟨rc, h', buffers, ran, outcome, -⟩ := infer_within pair_float32 reached ins outs
  exact ⟨_, rc, h', buffers, ran, outcome, rfl⟩

/-! ## The graph behind a session -/

/-- A name as Python reads it. -/
def text (t : Tensor) : PyStr := (decodeUtf8 t.name).getD []

/-- What of a name comes through the buffer of 512 octets. -/
def shown (s : Session) (name : PyStr) : Option PyStr :=
  match (s.inputAll ++ s.outputAll).find? fun t => decide (text t = name) with
  | none => some name
  | some t => decodeUtf8 (setErr 512 t.name)

/-- The octets that the shim feeds, where a tensor was found for every input. -/
def contents (s : Session) (feed : PyStr → Option NdArray) : List Bytes :=
  s.inputAll.map fun t => ((feed (text t)).map NdArray.data).getD []

/-- The dimensions of a tensor, as far as they are known. -/
def Tensor.dims (t : Tensor) : List Nat := t.shape.map Int.toNat

/-- The numbers of one output, in its shape. -/
def resultArray (t : Tensor) (octets : Bytes) : NdArray :=
  if size : octets.length = t.dims.prod * 4 then ⟨t.dims, .float32, octets, size⟩
  else .zeros [] .float32

/-- The shape of an output, by name. -/
def outShape (s : Session) (name : PyStr) : List Nat :=
  ((s.outputAll.find? fun t => decide (text t = name)).map Tensor.dims).getD []

/-- What the session computes, from tensors by name. -/
def eval (s : Session) (feed : PyStr → Option NdArray) (name : PyStr) : NdArray :=
  match s.runSession (contents s feed) with
  | none => .zeros [] .float32
  | some results =>
    match (s.outputAll.zip results).find? fun out => decide (text out.1 = name) with
    | none => .zeros [] .float32
    | some out => resultArray out.1 out.2

theorem text_eq {s : Session} {t : Tensor} (member : t ∈ s.inputAll ++ s.outputAll) :
    decodeUtf8 t.name = some (text t) := by
  have found := s.utf8 t member
  rw [text]
  cases decoded : decodeUtf8 t.name with
  | none =>
      rw [decoded] at found
      cases found
  | some n => rfl

theorem shown_text {s : Session} {t : Tensor} (member : t ∈ s.inputAll ++ s.outputAll) :
    shown s (text t) = decodeUtf8 (setErr 512 t.name) := by
  rw [shown]
  split
  · next none =>
      have other := List.find?_eq_none.mp none t member
      simp at other
  · next t' found =>
      have same : text t' = text t := by simpa using List.find?_some found
      have member' := List.mem_of_find?_eq_some found
      have names := decodeUtf8_inj (text_eq member') (same ▸ text_eq member)
      rw [names]

theorem setErr_setErr (errlen : Nat) (msg : Bytes) :
    setErr errlen (setErr errlen msg) = setErr errlen msg := by
  have free : ∀ b ∈ setErr errlen msg, decide (b ≠ 0) = true := by
    intro b member
    rw [setErr] at member
    exact List.mem_takeWhile_imp (p := fun b => decide (b ≠ 0)) (List.mem_of_mem_take member)
  have whole : (setErr errlen msg).takeWhile (· ≠ 0) = setErr errlen msg :=
    List.takeWhile_eq_self_iff.mpr free
  have short : (setErr errlen msg).length ≤ errlen - 1 := List.length_take_le _ _
  rw [setErr, whole, List.take_of_length_le short]

theorem shown_shown {s : Session} {n m : PyStr} (first : shown s n = some m) :
    shown s m = some m := by
  have cut : ∀ t ∈ s.inputAll ++ s.outputAll, decodeUtf8 (setErr 512 t.name) = some m →
      shown s m = some m := by
    intro t member read
    by_cases known : ∃ t' ∈ s.inputAll ++ s.outputAll, text t' = m
    · obtain ⟨t', member', rfl⟩ := known
      have name := decodeUtf8_inj (text_eq member') read
      rw [shown_text member', name, setErr_setErr, read]
    · have none : (s.inputAll ++ s.outputAll).find? (fun t => decide (text t = m)) = none := by
        refine List.find?_eq_none.mpr fun t' member' same => ?_
        exact known ⟨t', member', of_decide_eq_true same⟩
      rw [shown, none]
  rw [shown] at first
  split at first
  · next none =>
      cases first
      rw [shown, none]
  · next t found => exact cut t (List.mem_of_find?_eq_some found) first

/-! ## What the backend relies on -/

section Serving

variable [NumPy] {s : Session} {ins outs : IoMeta}

/-- The session was made from a model with these inputs and outputs. It computes with numbers of type
`float32`, and the shapes of its outputs are known. -/
structure Converted (s : Session) (ins outs : IoMeta) : Prop where
  ins_nodup : (ins.map Prod.fst).Nodup
  outs_nodup : (outs.map Prod.fst).Nodup
  inputs : (s.inputAll.map text).Perm (ins.map Prod.fst)
  outputs : (s.outputAll.map text).Perm (outs.map Prod.fst)
  float32 : Float32 (s.inputAll ++ s.outputAll)
  known : ∀ t ∈ s.outputAll, t.shape = t.dims.map Int.ofNat ∧ t.elementSize = t.dims.prod

/-- The model as the shim serves it: inputs and outputs in the order of the maps. -/
def Converted.graph (c : Converted s ins outs) : Graph where
  ins := ins
  outs := outs
  inOrder := s.inputAll.map text
  outOrder := s.outputAll.map text
  outShape := outShape s
  shown := shown s
  eval := eval s
  ins_nodup := c.ins_nodup
  outs_nodup := c.outs_nodup
  inOrder_perm := c.inputs
  outOrder_perm := c.outputs
  shown_idem := shown_shown

omit [NumPy] in
/-- Among distinct keys the one that is looked for is found. -/
theorem find?_key {α β : Type} [DecidableEq β] (key : α → β) {items : List α}
    (nodup : (items.map key).Nodup) {x : α} (member : x ∈ items) :
    (items.find? fun y => decide (key y = key x)) = some x := by
  induction items with
  | nil => cases member
  | cons y items ih =>
      obtain ⟨absent, others⟩ := List.nodup_cons.mp nodup
      rcases List.mem_cons.mp member with rfl | later
      · exact List.find?_cons_of_pos (by simp)
      · have apart : key y ≠ key x := fun same => absent (same ▸ List.mem_map_of_mem later)
        rw [List.find?_cons_of_neg (by simpa using apart)]
        exact ih others later

omit [NumPy] in
theorem fedBy_zip_get {names : List PyStr} {arrays : List NdArray} (nodup : names.Nodup)
    (count : arrays.length = names.length) {i : Nat} {name : PyStr} {a : NdArray}
    (first : names[i]? = some name) (second : arrays[i]? = some a) :
    fedBy (names.zip arrays) name = some a := by
  have keys : (names.zip arrays).map Prod.fst = names := List.map_fst_zip (by rw [count])
  have member : (name, a) ∈ names.zip arrays :=
    List.mem_of_getElem? (List.getElem?_zip_eq_some.mpr ⟨first, second⟩)
  rw [← keys] at nodup
  rw [fedBy, find?_key Prod.fst nodup member]
  rfl

omit [NumPy] in
/-- The octets that the graph feeds are those that the shim copies. -/
theorem contents_eq (nodup : (s.inputAll.map text).Nodup) {inputs : List NdArray}
    (given : Handed s.inputAll inputs) :
    contents s (fedBy ((s.inputAll.map text).zip inputs)) = inputs.map NdArray.data := by
  refine List.ext_getElem? fun i => ?_
  rw [contents, List.getElem?_map, List.getElem?_map]
  by_cases bound : i < s.inputAll.length
  · have within : i < inputs.length := by rw [given.count]; exact bound
    have found := fedBy_zip_get nodup (by rw [given.count, List.length_map])
      (by rw [List.getElem?_map, List.getElem?_eq_getElem bound]; rfl)
      (List.getElem?_eq_getElem within)
    rw [List.getElem?_eq_getElem bound, List.getElem?_eq_getElem within, Option.map_some, found]
    rfl
  · have without : ¬ i < inputs.length := by rw [given.count]; exact bound
    rw [List.getElem?_eq_none (by omega), List.getElem?_eq_none (by omega)]
    rfl

omit [NumPy] in
theorem outShape_text (nodup : (s.outputAll.map text).Nodup) {t : Tensor} (member : t ∈ s.outputAll) :
    outShape s (text t) = t.dims := by
  rw [outShape, find?_key text nodup member]
  rfl

/-- An output of the graph is what the session put into the tensor of that name. -/
theorem eval_eq (c : Converted s ins outs) {feed : PyStr → Option NdArray}
    {results : List Bytes} (ran : s.runSession (contents s feed) = some results) {i : Nat}
    {t : Tensor} {octets : Bytes} (tensor : s.outputAll[i]? = some t)
    (result : results[i]? = some octets) :
    ∃ b, (eval s feed (text t)).astypeFloat32 = .ok b ∧ b.shape = outShape s (text t) ∧
      b.data = octets := by
  have nodup := c.outputs.nodup_iff.mpr c.outs_nodup
  have tensors := List.mem_of_getElem? tensor
  have sizes := s.runSession_size ran
  have count : results.length = s.outputAll.length := by
    simpa using congrArg List.length sizes
  have keys : (s.outputAll.zip results).map (fun out => text out.1) = s.outputAll.map text := by
    have tensors : (s.outputAll.zip results).map Prod.fst = s.outputAll :=
      List.map_fst_zip (by rw [count])
    have texts := congrArg (List.map text) tensors
    rw [List.map_map] at texts
    exact texts
  have member : (t, octets) ∈ s.outputAll.zip results :=
    List.mem_of_getElem? (List.getElem?_zip_eq_some.mpr ⟨tensor, result⟩)
  have found := find?_key (fun out : Tensor × Bytes => text out.1) (keys ▸ nodup) member
  have size : octets.length = t.dims.prod * 4 := by
    have here : octets.length = t.bytes := by
      simpa [tensor, result] using congrArg (fun lengths => lengths[i]?) sizes
    rw [here, Tensor.bytes, (c.known t tensors).2, c.float32 t (List.mem_append_right _ tensors)]
  have value : eval s feed (text t) = resultArray t octets := by
    rw [eval, ran]
    dsimp only
    dsimp only at found
    rw [found]
  have float32 : (resultArray t octets).dtype = .float32 := by
    rw [resultArray, dif_pos size]
  refine ⟨resultArray t octets, ?_, ?_, ?_⟩
  · rw [value, NdArray.astypeFloat32_of_float32 float32]
  · rw [outShape_text nodup tensors, resultArray, dif_pos size]
  · rw [resultArray, dif_pos size]

omit [NumPy] in
/-- What the shim has to be handed is one array for each tensor. -/
theorem handed_of_granted (c : Converted s ins outs) {handle : Option Nat}
    {inputs outputs : List NdArray} {w : Graph.World}
    (granted : c.graph.Granted w (.mnnInfer handle inputs outputs)) :
    Handed s.inputAll inputs ∧ Handed s.outputAll outputs := by
  obtain ⟨-, ⟨insCount, insFloat⟩, ⟨outsCount, outsFloat⟩⟩ := granted
  exact ⟨⟨insCount.trans (List.length_map _), insFloat⟩, ⟨outsCount.trans (List.length_map _), outsFloat⟩⟩

omit [NumPy] in
/-- What `mnn_shim_io_info` leaves behind is what the graph describes. -/
theorem ioInfo_described (c : Converted s ins outs) {which idx : Nat} {h : Handle}
    (session : h.session = s) (nonneg : 0 ≤ (ioInfo h which idx).nd) :
    ∃ o, (if which = 0 then c.graph.inOrder else c.graph.outOrder)[idx]? = some o ∧
      c.graph.Described which o (ioInfo h which idx) := by
  have distinct := c.outputs.nodup_iff.mpr c.outs_nodup
  have side : (if which = 0 then c.graph.inOrder else c.graph.outOrder) =
      (if which = 0 then s.inputAll else s.outputAll).map text := by
    split
    · rfl
    · rfl
  rw [ioInfo, session] at nonneg ⊢
  rw [side]
  cases placed : (if which = 0 then s.inputAll else s.outputAll)[idx]? with
  | none =>
      rw [placed] at nonneg
      exact absurd nonneg (by decide)
  | some t =>
      have inside := List.mem_of_getElem? placed
      have member : t ∈ s.inputAll ++ s.outputAll := by
        split at inside
        · exact List.mem_append_left _ inside
        · exact List.mem_append_right _ inside
      refine ⟨text t, by rw [List.getElem?_map, placed, Option.map_some], fun n decoded => ?_,
        fun output => ?_⟩
      · exact (shown_text member).trans decoded
      · rw [if_neg output] at inside
        have shape : c.graph.outShape (text t) = t.dims := outShape_text distinct inside
        have known := (c.known t inside).1
        rw [shape]
        refine ⟨?_, fun k d found => ?_⟩
        · change (t.shape.length : Int) = t.dims.length
          rw [Tensor.dims, List.length_map]
        · change t.shape.getD k 0 = d
          rw [known, List.getD_eq_getElem?_getD, List.getElem?_map, found]
          rfl

/-- What the code answers, the graph promises. -/
theorem answer_promised (c : Converted s ins outs) {h h' : Handle} (reached : Reached s h)
    {call : HostCall} {r : Except PyErr call.Answer} (answered : Answer h h' call r)
    {w : Graph.World} (granted : c.graph.Granted w call) : c.graph.promise w call r w := by
  have session := reached.holds.session
  have distinct := c.inputs.nodup_iff.mpr c.ins_nodup
  unfold Answer at answered
  split at answered
  · refine ⟨rfl, fun n same => ?_⟩
    rw [answered.2, numInputs, session] at same
    cases same
    exact congrArg Nat.cast (List.length_map _).symm
  · refine ⟨rfl, fun n same => ?_⟩
    rw [answered.2, numOutputs, session] at same
    cases same
    exact congrArg Nat.cast (List.length_map _).symm
  · next handle which idx r =>
      refine ⟨rfl, fun info same nonneg => ?_⟩
      rw [answered.2] at same
      cases same
      exact ioInfo_described c session nonneg
  · next handle inputs outputs r =>
      obtain ⟨rc, buffers, fill, ran, same, filled⟩ := answered
      obtain ⟨ins, outs⟩ := handed_of_granted c granted
      obtain ⟨rc', h'', buffers', ran', outcome⟩ := infer_outcome c.float32 reached.holds ins outs
      rw [ran] at ran'
      cases ran'
      refine ⟨rfl, fun fill' same' i name a placed given => ?_⟩
      rw [same] at same'
      cases same'
      rcases outcome with ⟨-, failed, -⟩ | ⟨-, -, failed, -⟩ | ⟨results, -, computed, last⟩
      · cases failed
      · cases failed
      · rcases last with ⟨-, failed, -⟩ | ⟨-, -, rfl⟩
        · cases failed
        · change (s.outputAll.map text)[i]? = some name at placed
          rw [List.getElem?_map] at placed
          obtain ⟨t, tensor, rfl⟩ := Option.map_eq_some_iff.mp placed
          rw [← contents_eq distinct ins] at computed
          obtain ⟨b, converted, shape, data⟩ := eval_eq c computed tensor (filled i a given)
          exact ⟨b, converted, shape, data.symm⟩
  · exact answered.elim

/-! ## The backend over the code of the shim -/

/-- The engines as the backend sees them, and what the handle of each open session points at. -/
structure World : Type where
  graph : Graph.World
  handles : Nat → Handle

def World.fault (w : World) : World := { w with graph := { w.graph with faulted := true } }

/-- Calls were made on the handles of the open sessions only as the shim can be called. -/
def World.Run (s : Session) (w : World) : Prop := ∀ h ∈ w.graph.sessions, Reached s (w.handles h)

/-- The handle that a call of the shim reads, if it is such a call. -/
def onHandle : HostCall → Option (Option Nat)
  | .mnnNumInputs h | .mnnNumOutputs h | .mnnIoInfo h _ _ => some (some h)
  | .mnnInfer h _ _ => some h
  | _ => none

/-- The code would read or write outside of what it is handed. -/
def Overruns (h : Handle) : HostCall → Prop
  | .mnnInfer _ inputs outputs => infer h (inputs.map handed) (outputs.map handed) = none
  | _ => False

/-- On the handle of an open session the code of the shim answers. Everywhere else, and where it
overruns, anything may happen. -/
def World.Called (w : World) (handle : Option Nat) (call : HostCall) (r : Except PyErr call.Answer)
    (w' : World) : Prop :=
  (∃ h ∈ handle, h ∈ w.graph.sessions ∧ ∃ h', Answer (w.handles h) h' call r ∧
    w' = { w with handles := Function.update w.handles h h' }) ∨
  ((∀ h ∈ handle, h ∈ w.graph.sessions → Overruns (w.handles h) call) ∧ w' = w.fault)

/-- The shim is its own code; the other engines are as before. -/
def Converted.step (c : Converted s ins outs) (w : World) (call : HostCall)
    (r : Except PyErr call.Answer) (w' : World) : Prop :=
  match onHandle call with
  | some handle => w.Called handle call r w'
  | none => c.graph.step w.graph call r w'.graph ∧
    (∀ h ∈ w.graph.sessions, w'.handles h = w.handles h) ∧
      ∀ h ∈ w'.graph.sessions, h ∉ w.graph.sessions → w'.handles h = create s

def Converted.serving (c : Converted s ins outs) : Env Host World := ⟨c.step⟩

omit [NumPy] in
/-- Called as it has to be called, the code does not overrun. -/
theorem not_overruns (c : Converted s ins outs) {h : Handle} (reached : Reached s h)
    {call : HostCall} {w : Graph.World} (granted : c.graph.Granted w call) :
    ¬ Overruns h call := by
  intro overruns
  unfold Overruns at overruns
  split at overruns
  · obtain ⟨ins, outs⟩ := handed_of_granted c granted
    obtain ⟨rc, h', buffers, ran, -⟩ := infer_outcome c.float32 reached.holds ins outs
    rw [ran] at overruns
    cases overruns
  · exact overruns

omit [NumPy] in
theorem open_of_granted {g : Graph} {w : Graph.World} {call : HostCall} {handle : Option Nat}
    (on : onHandle call = some handle) (granted : g.Granted w call) :
    ∃ h ∈ handle, h ∈ w.sessions := by
  unfold onHandle at on
  split at on
  · cases on
    exact ⟨_, rfl, granted⟩
  · cases on
    exact ⟨_, rfl, granted⟩
  · cases on
    exact ⟨_, rfl, granted⟩
  · cases on
    exact granted.1
  · cases on

/-- The code refines the graph: what it does in one call, the graph does as well. -/
theorem step_refines (c : Converted s ins outs) {w w' : World} {call : HostCall}
    {r : Except PyErr call.Answer} (step : c.step w call r w') (run : w.Run s) :
    c.graph.step w.graph call r w'.graph ∧ w'.Run s := by
  unfold Converted.step at step
  cases on : onHandle call with
  | none =>
      rw [on] at step
      obtain ⟨step, kept, made⟩ := step
      refine ⟨step, fun h opened => ?_⟩
      by_cases old : h ∈ w.graph.sessions
      · rw [kept h old]
        exact run h old
      · rw [made h opened old]
        exact .create
  | some handle =>
      rw [on] at step
      rcases step with ⟨h, -, opened, h', answered, rfl⟩ | ⟨overruns, rfl⟩
      · have reached := run h opened
        refine ⟨?_, fun k inside => ?_⟩
        · by_cases granted : c.graph.Granted w.graph call
          · exact .inl ⟨granted, answer_promised c reached answered granted⟩
          · exact .inr ⟨granted, .inl rfl⟩
        · by_cases same : k = h
          · subst same
            change Reached s (Function.update w.handles k h' k)
            rw [Function.update_self]
            exact .answer reached answered
          · change Reached s (Function.update w.handles h h' k)
            rw [Function.update_of_ne same]
            exact run k inside
      · refine ⟨.inr ⟨fun granted => ?_, .inr rfl⟩, run⟩
        obtain ⟨h, here, opened⟩ := open_of_granted on granted
        exact not_overruns c (run h opened) granted (overruns h here opened)

/-- The names, in UTF-8, are in ascending order. -/
def Ascending (names : List PyStr) : Prop :=
  ∃ octets : List Bytes, octets.map decodeUtf8 = names.map some ∧ octets.Pairwise (· < ·)

omit [NumPy] in
/-- The maps are in the order of the model exactly when the model's names ascend. -/
theorem ascending_iff {tensors : List Tensor} (utf8 : ∀ t ∈ tensors, decodeUtf8 t.name = some (text t))
    (sorted : (tensors.map Tensor.name).Pairwise (· < ·)) {names : List PyStr}
    (perm : (tensors.map text).Perm names) : tensors.map text = names ↔ Ascending names := by
  have decoded : (tensors.map Tensor.name).map decodeUtf8 = (tensors.map text).map some := by
    rw [List.map_map, List.map_map]
    exact List.map_congr_left utf8
  constructor
  · rintro rfl
    exact ⟨tensors.map Tensor.name, decoded, sorted⟩
  · rintro ⟨octets, same, ascending⟩
    have members : ∀ b, b ∈ tensors.map Tensor.name ↔ b ∈ octets := by
      have both {first second : List Bytes} {texts texts' : List PyStr}
          (one : first.map decodeUtf8 = texts.map some)
          (other : second.map decodeUtf8 = texts'.map some) (sub : texts ⊆ texts') :
          ∀ b ∈ first, b ∈ second := by
        intro b member
        have read : decodeUtf8 b ∈ texts.map some := one ▸ List.mem_map_of_mem member
        obtain ⟨n, inside, named⟩ := List.mem_map.mp read
        have there : some n ∈ second.map decodeUtf8 := other ▸ List.mem_map_of_mem (sub inside)
        obtain ⟨b', member', read'⟩ := List.mem_map.mp there
        rwa [decodeUtf8_inj named.symm read']
      exact fun b => ⟨both decoded same perm.subset b, both same decoded perm.symm.subset b⟩
    have distinct {list : List Bytes} (order : list.Pairwise (· < ·)) : list.Nodup := by
      refine order.imp fun {a b} less same => ?_
      rw [same] at less
      exact List.lt_irrefl b less
    have shuffled : (tensors.map Tensor.name).Perm octets :=
      (List.perm_ext_iff_of_nodup (distinct sorted) (distinct ascending)).mpr members
    have equal : tensors.map Tensor.name = octets :=
      shuffled.eq_of_pairwise (fun a b _ _ less more => absurd more (List.lt_asymm less)) sorted
        ascending
    rw [equal, same] at decoded
    exact (List.map_injective_iff.mpr (Option.some_injective _) decoded).symm

/-- An installed session, over the code of the shim: the outputs follow the graph, and the names do
when they ascend. -/
theorem interchangeable_iff (c : Converted s ins outs) {self : MnnBackend} {w : World}
    (run : w.Run s) (holds : MnnBackend.Holds c.graph self w.graph) :
    Interchangeable c.serving World.graph c.graph MnnBackend.seam self w ↔
      Ascending (ins.map Prod.fst) := by
  have sorted := ascending_iff (fun t member => text_eq (List.mem_append_left _ member))
    s.inputAll_sorted c.inputs
  rw [← sorted]
  constructor
  · intro same
    exact (MnnBackend.names_iff holds.inNames).mp same.names
  · intro ordered
    refine ⟨(MnnBackend.names_iff holds.inNames).mpr ordered, fun feeds => ?_⟩
    refine Py.wpc_mono (fun _ _ => trivial) (fun r s' w' inferred => ?_)
      (Py.wpc_project (v := World.graph) (F := World.Run s) (fun _ _ _ _ step run => step_refines c step run) run
        (MnnBackend.infer_computed holds feeds))
    obtain ⟨⟨-, same, outputs⟩, -⟩ := inferred
    exact ⟨congrArg _ same, congrArg _ same, outputs⟩

/-- The code of the shim refines what the backend relies on. So a load over it, whatever was called
before, calls it only on open sessions and with one array for each tensor: nothing is read or written
outside. And what a load leaves stands behind the seam exactly when the input names of the model
ascend. -/
theorem shim_serves (c : Converted s ins outs) :
    (∀ {w w' : World} {call : HostCall} {r : Except PyErr call.Answer}, c.serving.step w call r w' →
      w.Run s → c.graph.serving.step w.graph call r w'.graph ∧ w'.Run s) ∧
    ∀ modelPath {self : MnnBackend} {w : World}, w.Run s → self.Opened w.graph →
      (MnnBackend.load modelPath).wpc c.serving (fun w' => w'.graph.faulted = w.graph.faulted)
        (fun r self' w' => w'.graph.faulted = w.graph.faulted ∧ w'.Run s ∧ self'.Opened w'.graph ∧
          (r = .ok () → (Interchangeable c.serving World.graph c.graph MnnBackend.seam self' w' ↔
            Ascending (ins.map Prod.fst)))) self w := by
  refine ⟨fun step run => step_refines c step run, fun modelPath {self w} run opened => ?_⟩
  refine Py.wpc_mono (fun _ kept => kept.1) (fun r self' w' loaded => ?_)
    (Py.wpc_project (v := World.graph) (F := World.Run s) (fun _ _ _ _ step run => step_refines c step run) run
      (MnnBackend.load_holds modelPath opened))
  obtain ⟨⟨same, opened, holds⟩, run⟩ := loaded
  exact ⟨same, run, opened, fun ok => interchangeable_iff c run (holds ok)⟩

end Serving

section Pair

attribute [local instance] NumPy.reference

/-- The ONNX file lists the inputs the other way round. -/
theorem pair_converted : Converted pair [(py "z", []), (py "a", [])] [(py "y", [])] where
  ins_nodup := by decide +kernel
  outs_nodup := by decide +kernel
  inputs := by decide +kernel
  outputs := by decide +kernel
  float32 := pair_float32
  known := by decide +kernel

theorem pair_not_ascending : ¬ Ascending [py "z", py "a"] := by
  rintro ⟨octets, same, ascending⟩
  have count : octets.length = 2 := by simpa using congrArg List.length same
  obtain ⟨first, second, rfl⟩ := List.length_eq_two.mp count
  obtain ⟨z, same⟩ := List.cons.inj same
  obtain ⟨a, -⟩ := List.cons.inj same
  have first' : decodeUtf8 [0x7A] = some (py "z") := by decide +kernel
  have second' : decodeUtf8 [0x61] = some (py "a") := by decide +kernel
  rw [decodeUtf8_inj z first', decodeUtf8_inj a second'] at ascending
  exact absurd ascending (by decide)

namespace pair

/-- Fill the arrays with what a call left in them. -/
def leave (buffers : List Bytes) : Fill := fun k a =>
  match buffers[k]? with
  | none => Fill.untouched k a
  | some octets =>
    if fits : octets.length = a.data.length then ⟨octets, fits⟩ else Fill.untouched k a

/-- The converted model is there, and its session is created under the number 1. -/
def answer (w : World) : (c : HostCall) → Except PyErr c.Answer
  | .onnxIoMeta _ => .ok ([(py "z", []), (py "a", [])], [(py "y", [])])
  | .ortInputs _ => .ok [py "z", py "a"]
  | .getmtime _ | .mkdtemp _ => .ok 0
  | .getsize _ => .ok 1
  | .mnnCreate _ _ _ _ => .ok (if 1 ∈ w.graph.sessions then none else some 1)
  | .mnnNumInputs h => .ok (numInputs (w.handles h))
  | .mnnNumOutputs h => .ok (numOutputs (w.handles h))
  | .mnnIoInfo h which idx => .ok (ioInfo (w.handles h) which idx)
  | .mnnInfer (some h) inputs outputs =>
    match infer (w.handles h) (inputs.map handed) (outputs.map handed) with
    | some (rc, _, buffers) => .ok (rc, leave buffers)
    | none => .error (exception "overrun")
  | .log _ => .ok ()
  | _ => .error (exception "failed")

def note (w : World) (c : HostCall) (_ : Except PyErr c.Answer) : World :=
  match c with
  | .mnnCreate _ _ _ _ =>
    if 1 ∈ w.graph.sessions then w else ⟨w.graph.opened 1, Function.update w.handles 1 (create pair)⟩
  | .mnnDestroy h => { w with graph := w.graph.shut h }
  | .mnnNumInputs h | .mnnNumOutputs h | .mnnIoInfo h _ _ =>
    if h ∈ w.graph.sessions then w else w.fault
  | .mnnInfer none _ _ => w.fault
  | .mnnInfer (some h) inputs outputs =>
    if h ∈ w.graph.sessions then
      match infer (w.handles h) (inputs.map handed) (outputs.map handed) with
      | some (_, h', _) => { w with handles := Function.update w.handles h h' }
      | none => w.fault
    else w.fault
  | .postProcess _ outputs => { w with graph := { w.graph with handed := outputs :: w.graph.handed } }
  | _ => w

/-- A call that only reads an open handle. -/
theorem called_read {w : World} {h : Nat} {call : HostCall} {r : Except PyErr call.Answer}
    (answered : Answer (w.handles h) (w.handles h) call r) :
    w.Called (some h) call r (if h ∈ w.graph.sessions then w else w.fault) := by
  by_cases opened : h ∈ w.graph.sessions
  · rw [if_pos opened]
    refine .inl ⟨h, rfl, opened, w.handles h, answered, ?_⟩
    rw [Function.update_eq_self]
  · rw [if_neg opened]
    refine .inr ⟨fun k same inside => ?_, rfl⟩
    obtain rfl : h = k := Option.some.inj same
    exact absurd inside opened

theorem leave_spec {buffers : List Bytes} {outputs : List NdArray}
    (lengths : buffers.map List.length = (outputs.map handed).map fun out => out.2.length) {k : Nat}
    {a : NdArray} (placed : outputs[k]? = some a) : buffers[k]? = some (leave buffers k a).1 := by
  have here : (buffers.map List.length)[k]? =
      ((outputs.map handed).map fun out => out.2.length)[k]? := congrArg (·[k]?) lengths
  rw [List.getElem?_map, List.getElem?_map, List.getElem?_map, placed] at here
  obtain ⟨buffer, found, fits⟩ := Option.map_eq_some_iff.mp here
  have fits : buffer.length = a.data.length := fits
  rw [leave, found]
  dsimp only
  rw [dif_pos fits]

theorem sound (w : World) (c : HostCall) :
    pair_converted.serving.step w c (answer w c) (note w c (answer w c)) := by
  change pair_converted.step w c _ _
  unfold Converted.step
  cases c with
  | mnnNumInputs h => exact called_read ⟨rfl, rfl⟩
  | mnnNumOutputs h => exact called_read ⟨rfl, rfl⟩
  | mnnIoInfo h which idx => exact called_read ⟨rfl, rfl⟩
  | mnnInfer handle inputs outputs =>
      cases handle with
      | none => exact .inr ⟨by rintro k ⟨⟩, rfl⟩
      | some h =>
          dsimp only [onHandle, answer, note]
          by_cases opened : h ∈ w.graph.sessions
          · rw [if_pos opened]
            cases ran : infer (w.handles h) (inputs.map handed) (outputs.map handed) with
            | none =>
                refine .inr ⟨fun k same _ => ?_, rfl⟩
                obtain rfl : h = k := Option.some.inj same
                exact ran
            | some result =>
                obtain ⟨rc, h', buffers⟩ := result
                refine .inl ⟨h, rfl, opened, h', ⟨rc, buffers, leave buffers, ran, rfl, ?_⟩, rfl⟩
                exact fun k a placed => leave_spec (infer_lengths ran) placed
          · rw [if_neg opened]
            refine .inr ⟨fun k same inside => ?_, rfl⟩
            obtain rfl : h = k := Option.some.inj same
            exact absurd inside opened
  | mnnCreate path forwardType precision threads =>
      dsimp only [onHandle, answer, note]
      by_cases old : 1 ∈ w.graph.sessions
      · rw [if_pos old, if_pos old]
        exact ⟨.inl ⟨trivial, rfl⟩, fun _ _ => rfl, fun h opened fresh => absurd opened fresh⟩
      · rw [if_neg old, if_neg old]
        refine ⟨.inl ⟨trivial, old, rfl⟩, fun h opened => ?_, fun h opened fresh => ?_⟩
        · have other : h ≠ 1 := fun same => old (same ▸ opened)
          exact Function.update_of_ne other _ _
        · rcases List.mem_cons.mp opened with rfl | inside
          · change Function.update w.handles 1 (create pair) 1 = create pair
            rw [Function.update_self]
          · exact absurd inside fresh
  | mnnDestroy h =>
      refine ⟨?_, fun _ _ => rfl, fun k opened fresh => absurd (List.mem_of_mem_erase opened) fresh⟩
      by_cases opened : h ∈ w.graph.sessions
      · exact .inl ⟨opened, rfl⟩
      · refine .inr ⟨opened, .inl ?_⟩
        have same : w.graph.sessions.erase h = w.graph.sessions := List.erase_of_not_mem opened
        change { w.graph with sessions := w.graph.sessions.erase h } = w.graph
        rw [same]
  | ncnnExtractor | ncnnInput =>
      refine ⟨.inl ⟨trivial, ⟨w.graph.fed, rfl⟩, by simp [answer]⟩, fun _ _ => rfl, ?_⟩
      exact fun h opened fresh => absurd opened fresh
  | _ =>
      refine ⟨.inl ⟨trivial, ?_⟩, fun _ _ => rfl, fun h opened fresh => absurd opened fresh⟩
      simp [Graph.promise, answer, note, Converted.graph]

/-- What the load leaves. -/
def loaded : (Except PyErr Unit × MnnBackend) × World :=
  (MnnBackend.load (py "m.onnx")).answering note answer (.init 7 true none)
    ⟨⟨fun _ => [], [], false, []⟩, fun _ => create pair⟩

theorem exec_loaded : (MnnBackend.load (py "m.onnx")).Exec pair_converted.serving (.init 7 true none)
    ⟨⟨fun _ => [], [], false, []⟩, fun _ => create pair⟩ (.ok ()) loaded.1.2 loaded.2 := by
  refine Py.exec_answering sound _ _ _ ?_
  decide +kernel

end pair

/-- A load over the code of the shim that succeeds. It overruns nothing, and takes the inputs in the
wrong order. -/
theorem shim_serves_pair :
    (MnnBackend.load (py "m.onnx")).Exec pair_converted.serving (.init 7 true none)
      ⟨⟨fun _ => [], [], false, []⟩, fun _ => create pair⟩ (.ok ()) pair.loaded.1.2 pair.loaded.2 ∧
    pair.loaded.2.graph.faulted = false ∧ ¬ Interchangeable pair_converted.serving World.graph
      pair_converted.graph MnnBackend.seam pair.loaded.1.2 pair.loaded.2 := by
  have run : World.Run pair ⟨⟨fun _ => [], [], false, []⟩, fun _ => create pair⟩ := by
    intro h none
    cases none
  have opened : (MnnBackend.init 7 true none).Opened ⟨fun _ => [], [], false, []⟩ := by
    intro h none
    cases none
  have loaded := Py.wpc_exec ((shim_serves pair_converted).2 (py "m.onnx") run opened)
    pair.exec_loaded
  obtain ⟨same, -, -, known⟩ := loaded
  exact ⟨pair.exec_loaded, same, fun behind => pair_not_ascending ((known rfl).mp behind)⟩

end Pair

end MnnShim
