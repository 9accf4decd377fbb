import FrigateAsahi.Backends.Seam

/-!
# MNN behind the seam

The shim takes and fills buffers in the order of its own maps and checks little of what it is called
with. The backend calls it as it may be called, puts the outputs back into the order of the graph, and
reports the inputs in the order of the shim.
-/

namespace Detector

open Text Python Numpy Interaction

variable [NumPy] {g : Graph}

section Order

variable {shown : PyStr → Option PyStr} {order names onnx : List PyStr}

omit [NumPy] in
/-- Of names that are all shown as names of the graph, every one is shown whole. -/
theorem names_eq_order (idem : ∀ {n m}, shown n = some m → shown m = some m)
    (listed : List.Forall₂ (fun o n => shown o = some n) order names)
    (perm : order.Perm onnx) (same : SameNames names onnx) : names = order := by
  have whole : ∀ o ∈ order, shown o = some o := by
    intro o mem
    have mem := same.2 o (perm.mem_iff.mp mem)
    rcases List.mem_iff_getElem.mp mem with ⟨i, bound, rfl⟩
    exact idem (List.forall₂_iff_get.mp listed |>.2 i (by rw [listed.length_eq]; exact bound) bound)
  have each : List.Forall₂ Eq names order := by
    refine List.forall₂_iff_get.mpr ⟨listed.length_eq.symm, fun i first second => ?_⟩
    have here := (List.forall₂_iff_get.mp listed).2 i second first
    rw [whole _ (List.get_mem ..)] at here
    exact (Option.some.inj here).symm
  exact List.forall₂_eq_eq_eq ▸ each

omit [NumPy] in
/-- What is picked by a name's place in the order of the engine is what belongs to that name. -/
theorem picked {γ : Type} (f : PyStr → γ) (listed : ∀ n ∈ onnx, n ∈ order) :
    ((onnx.map fun n => order.idxOf n).filterMap fun i => (order.map f)[i]?) = onnx.map f := by
  induction onnx with
  | nil => rfl
  | cons n onnx ih =>
      have found : (order.map f)[order.idxOf n]? = some (f n) := by
        rw [List.getElem?_map, List.getElem?_idxOf (listed n List.mem_cons_self), Option.map_some]
      rw [List.map_cons, List.filterMap_cons_some found, List.map_cons,
        ih fun m mem => listed m (List.mem_cons_of_mem n mem)]

end Order

namespace MnnBackend

/-- The shape under which the shim sees a tensor, which has at least one dimension. -/
def padded : List Nat → Option (List Nat)
  | [] => some [1]
  | shape => some shape

omit [NumPy] in
theorem prod_padded {shape shape' : List Nat} (fits : padded shape = some shape') :
    shape'.prod = shape.prod := by
  unfold padded at fits
  split at fits
  · cases fits
    rfl
  · cases fits
    rfl

/-- The shim copies numbers of type `float32`, and an output has the shape that its session gives it. -/
def seam : Seam := ⟨fedAs padded prod_padded, fun _ a t => a.astypeFloat32 = .ok t⟩

theorem contiguous_taken (x : NdArray) :
    x.astypeFloat32.toOption.map NdArray.contiguous = seam.taken x := by
  change _ = fedAs padded prod_padded x
  obtain ⟨shape, dtype, data, size⟩ := x
  unfold fedAs
  rw [NdArray.astypeFloat32]
  cases NumPy.float32Data ⟨shape, dtype, data, size⟩ with
  | none => rfl
  | some octets =>
      cases shape with
      | nil => rfl
      | cons d dims => rfl

/-- The inputs and the outputs as the session enumerates them, the outputs' places and shapes. The
session is open. -/
structure Holds (g : Graph) (b : MnnBackend) (w : Graph.World) : Prop where
  session : ∃ h ∈ b.h, h ∈ w.sessions
  inNames : b.inNames = g.inOrder
  outNames : b.outNames = g.outs.map Prod.fst
  outOrder : b.outOrder = some ((g.outs.map Prod.fst).map fun n => g.outOrder.idxOf n)
  outShapes : b.outShapes = (g.outs.map Prod.fst).map fun n => (g.outShape n).map Int.ofNat

/-! ### The inputs and outputs of a session -/

/-- What the backend reads of an input or output: the name, and the shape of an output. -/
def Entry (g : Graph) (which : Nat) (o : PyStr) (entry : PyStr × List Int) : Prop :=
  g.shown o = some entry.1 ∧ (which ≠ 0 → entry.2 = (g.outShape o).map Int.ofNat)

omit [NumPy] in
theorem ioEntry_nonneg {info : IoInfo} {entry : PyStr × List Int} (read : ioEntry info = .ok entry) :
    0 ≤ info.nd ∧ info.nd ≤ 8 ∧ decodeUtf8 info.name = some entry.1 ∧
      entry.2 = (List.range info.nd.toNat).map fun k => info.dims (Fin.ofNat 8 k) := by
  unfold ioEntry at read
  split at read
  · cases read
  · next nonneg =>
      split at read
      · cases read
      · next name decoded =>
          split at read
          · cases read
          · next few =>
              cases read
              exact ⟨by omega, by omega, decoded, rfl⟩

omit [NumPy] in
theorem ioEntry_entry {which : Nat} {o : PyStr} {info : IoInfo} {entry : PyStr × List Int}
    (described : g.Described which o info) (read : ioEntry info = .ok entry) :
    Entry g which o entry := by
  obtain ⟨nonneg, few, decoded, dims⟩ := ioEntry_nonneg read
  refine ⟨described.1 entry.1 decoded, fun output => ?_⟩
  obtain ⟨count, each⟩ := described.2 output
  rw [dims, count, Int.toNat_natCast]
  refine List.ext_getElem (by simp) fun i first second => ?_
  have bound : i < (g.outShape o).length := by simpa using second
  have place : (Fin.ofNat 8 i).val = i := Nat.mod_eq_of_lt (by omega)
  rw [List.getElem_map, List.getElem_map, List.getElem_range]
  refine each (Fin.ofNat 8 i) _ ?_
  rw [place, List.getElem?_eq_getElem bound]

theorem io_entries {h which : Nat} {n : Int} {order : List PyStr} (s : MnnBackend)
    {w : Graph.World} (opened : h ∈ w.sessions)
    (side : (if which = 0 then g.inOrder else g.outOrder) = order) (count : n = order.length) :
    (io h which n).wpc g.serving (fun w' => w' = w) (fun r s' w' => s' = s ∧ w' = w ∧
      ∀ entries, r = .ok entries → List.Forall₂ (Entry g which) order entries) s w := by
  have asked : ∀ (i : Nat) (s' : MnnBackend) (w' : Graph.World), s' = s ∧ w' = w →
      (do let info ← ask (.mnnIoInfo h which i); Py.ofExcept (ioEntry info) :
        HostM MnnBackend _).wpc g.serving (fun w' => w' = w) (fun r s' w' => (s' = s ∧ w' = w) ∧
          ∀ entry, r = .ok entry → ∃ o, order[i]? = some o ∧ Entry g which o entry) s' w' := by
    rintro i s' w' ⟨rfl, rfl⟩
    rw [Py.wpc_bind, Py.wpc_ask]
    intro r w' step
    have granted : g.Granted _ (.mnnIoInfo h which i) := opened
    obtain ⟨rfl, answered⟩ := Graph.promised granted step
    refine ⟨rfl, ?_⟩
    cases r with
    | error e => exact ⟨⟨rfl, rfl⟩, by simp⟩
    | ok info =>
        rw [Py.either_ok, Py.wpc_ofExcept]
        refine ⟨⟨rfl, rfl⟩, fun entry read => ?_⟩
        obtain ⟨o, placed, described⟩ := answered info rfl (ioEntry_nonneg read).1
        exact ⟨o, side ▸ placed, ioEntry_entry described read⟩
  have same : (io h which n).wpc g.serving (fun w' => w' = w) (fun r s' w' => Py.either
      (fun entries => entries.length = (List.range n.toNat).length ∧ s' = s ∧ w' = w)
      (fun _ => s' = s ∧ w' = w) r) s w := by
    refine Py.wpc_traverse (I := fun s' w' => s' = s ∧ w' = w) (fun i s' w' here => ?_) _ ⟨rfl, rfl⟩
    refine Py.wpc_mono (fun _ kept => kept) (fun r s' w' made => ?_) (asked i s' w' here)
    cases r with
    | ok entry => exact made.1
    | error e => exact made.1
  have entries : (io h which n).wpc g.serving (fun w' => w' = w) (fun r s' w' => Py.either
      (fun entries => List.Forall₂ (fun (i : Nat) entry => ∃ o, order[i]? = some o ∧
        Entry g which o entry) (List.range n.toNat) entries ∧ s' = s ∧ w' = w)
      (fun _ => True) r) s w := by
    refine Py.wpc_traverse_forall₂ (I := fun s' w' => s' = s ∧ w' = w)
      (fun i _ s' w' here => ?_) ⟨rfl, rfl⟩
    refine Py.wpc_mono (fun _ kept => kept) (fun r s' w' made => ?_) (asked i s' w' here)
    cases r with
    | ok entry => exact ⟨made.2 entry rfl, made.1⟩
    | error e => trivial
  refine Py.wpc_mono (fun _ both => both.1) (fun r s' w' both => ?_) (Py.wpc_and same entries)
  cases r with
  | error e => exact ⟨both.1.1, both.1.2, by simp⟩
  | ok made =>
      refine ⟨both.1.2.1, both.1.2.2, fun listed ok => ?_⟩
      cases ok
      have listed := both.2.1
      rw [count, Int.toNat_natCast] at listed
      refine List.forall₂_iff_get.mpr ⟨?_, fun i first second => ?_⟩
      · simpa using listed.length_eq
      · obtain ⟨o, placed, entry⟩ := (List.forall₂_iff_get.mp listed).2 i (by simpa using first)
          (by simpa using second)
        have placed : order[i]? = some o := by simpa using placed
        rw [List.getElem?_eq_getElem first, Option.some.injEq] at placed
        rw [List.get_eq_getElem, placed]
        exact entry

/-- Both sides as the session lists them. -/
def Listed (g : Graph) (shim : List (PyStr × List Int) × List (PyStr × List Int)) : Prop :=
  List.Forall₂ (Entry g 0) g.inOrder shim.1 ∧ List.Forall₂ (Entry g 1) g.outOrder shim.2

theorem describe_listed {h : Nat} (s : MnnBackend) {w : Graph.World} (opened : h ∈ w.sessions) :
    (describe h).wpc g.serving (fun w' => w' = w)
      (fun r s' w' => s' = s ∧ w' = w ∧ ∀ shim, r = .ok shim → Listed g shim) s w := by
  rw [describe, Py.wpc_bind, Py.wpc_ask]
  intro r w₁ step
  have granted : g.Granted w (.mnnNumInputs h) := opened
  obtain ⟨rfl, counted⟩ := Graph.promised granted step
  refine ⟨rfl, ?_⟩
  cases r with
  | error e => exact ⟨rfl, rfl, by simp⟩
  | ok numInputs =>
      rw [Py.either_ok, Py.wpc_bind]
      refine Py.wpc_mono (fun _ kept => kept) (fun r s₁ w₂ ins => ?_)
        (io_entries s opened (if_pos rfl) (counted _ rfl))
      obtain ⟨rfl, rfl, ins⟩ := ins
      cases r with
      | error e => exact ⟨rfl, rfl, by simp⟩
      | ok inEntries =>
          rw [Py.either_ok, Py.wpc_bind, Py.wpc_ask]
          intro r w₃ step
          have granted : g.Granted w₂ (.mnnNumOutputs h) := opened
          obtain ⟨rfl, counted⟩ := Graph.promised granted step
          refine ⟨rfl, ?_⟩
          cases r with
          | error e => exact ⟨rfl, rfl, by simp⟩
          | ok numOutputs =>
              rw [Py.either_ok, Py.wpc_bind]
              refine Py.wpc_mono (fun _ kept => kept) (fun r s₂ w₄ outs => ?_)
                (io_entries s₁ opened (if_neg one_ne_zero) (counted _ rfl))
              obtain ⟨rfl, rfl, outs⟩ := outs
              cases r with
              | error e => exact ⟨rfl, rfl, by simp⟩
              | ok outEntries =>
                  rw [Py.either_ok, Py.wpc_pure]
                  refine ⟨rfl, rfl, fun shim made => ?_⟩
                  cases made
                  exact ⟨ins _ rfl, outs _ rfl⟩

omit [NumPy] in
theorem entries_names {which : Nat} {order : List PyStr} {entries : List (PyStr × List Int)}
    (listed : List.Forall₂ (Entry g which) order entries) :
    List.Forall₂ (fun o n => g.shown o = some n) order (entries.map Prod.fst) :=
  List.forall₂_map_right_iff.mpr (listed.imp fun _ _ entry => entry.1)

omit [NumPy] in
theorem install_holds {shim : List (PyStr × List Int) × List (PyStr × List Int)}
    (listed : Listed g shim) (outs : SameNames (shim.2.map Prod.fst) (g.outs.map Prod.fst))
    (ins : SameNames (shim.1.map Prod.fst) (g.ins.map Prod.fst)) {h : Nat} {w : Graph.World}
    (opened : h ∈ w.sessions) (self : MnnBackend) :
    Holds g (install h shim.1 shim.2 (g.outs.map Prod.fst) self) w := by
  have inNames := names_eq_order g.shown_idem (entries_names listed.1) g.inOrder_perm ins
  have outNames := names_eq_order g.shown_idem (entries_names listed.2) g.outOrder_perm outs
  have outShapes : shim.2.map Prod.snd = g.outOrder.map fun n => (g.outShape n).map Int.ofNat := by
    have each : List.Forall₂ (fun shape o => shape = (g.outShape o).map Int.ofNat)
        (shim.2.map Prod.snd) g.outOrder :=
      List.forall₂_map_left_iff.mpr (listed.2.flip.imp fun _ _ entry => entry.2 one_ne_zero)
    exact List.forall₂_eq_eq_eq ▸ List.forall₂_map_right_iff.mpr each
  have there : ∀ n ∈ g.outs.map Prod.fst, n ∈ g.outOrder :=
    fun n mem => g.outOrder_perm.mem_iff.mpr mem
  refine ⟨⟨h, rfl, opened⟩, inNames, ?_, ?_, ?_⟩
  · have names := picked id there
    rw [List.map_id, List.map_id] at names
    unfold install
    rw [outNames]
    exact names
  · unfold install
    rw [outNames]
  · unfold install
    rw [outNames, outShapes]
    exact picked _ there

/-! ### An inference -/

theorem inputArray_taken {feeds : Feeds} {name : PyStr} {a : NdArray}
    (read : inputArray feeds name = .ok a) : (feeds.get name).bind seam.taken = some a := by
  unfold inputArray at read
  split at read
  · cases read
  · next x found =>
      rw [found, Option.bind_some, ← contiguous_taken]
      cases converted : x.astypeFloat32 with
      | error e => rw [converted] at read; cases read
      | ok y =>
          rw [converted] at read
          cases read
          rfl

theorem inputArrays_taken {feeds : Feeds} {names : List PyStr} {inputs : List NdArray}
    (read : inputArrays feeds names = .ok inputs) :
    List.Forall₂ (fun name a => (feeds.get name).bind seam.taken = some a) names inputs := by
  induction names generalizing inputs with
  | nil =>
      cases read
      exact .nil
  | cons name names ih =>
      rw [inputArrays] at read
      cases first : inputArray feeds name with
      | error e => rw [first] at read; cases read
      | ok a =>
          cases others : inputArrays feeds names with
          | error e => rw [first, others] at read; cases read
          | ok rest =>
              rw [first, others] at read
              cases read
              exact .cons (inputArray_taken first) (ih others)

theorem taken_float32 {x a : NdArray} (taken : seam.taken x = some a) : a.dtype = .float32 := by
  change fedAs padded prod_padded x = some a at taken
  unfold fedAs at taken
  split at taken
  · cases taken
  · split at taken
    · cases taken
    · cases taken
      rfl

/-- The arrays of an inference are as many as the inputs, and of type `float32`. -/
theorem inputArrays_float32s {feeds : Feeds} {names : List PyStr} {inputs : List NdArray}
    (read : inputArrays feeds names = .ok inputs) : Float32s names.length inputs := by
  have each := inputArrays_taken read
  refine ⟨each.length_eq.symm, fun a mem => ?_⟩
  obtain ⟨i, bound, rfl⟩ := List.mem_iff_getElem.mp mem
  have taken := (List.forall₂_iff_get.mp each).2 i (each.length_eq ▸ bound) bound
  obtain ⟨x, -, taken⟩ := Option.bind_eq_some_iff.mp taken
  exact taken_float32 taken

omit [NumPy] in
theorem fedBy_zip {f : PyStr → Option NdArray} {names : List PyStr} {inputs : List NdArray}
    (each : List.Forall₂ (fun name a => f name = some a) names inputs) (n : PyStr) :
    fedBy (names.zip inputs) n = if n ∈ names then f n else none := by
  induction each with
  | nil =>
      rw [if_neg List.not_mem_nil]
      rfl
  | @cons name a names inputs here _ ih =>
      by_cases same : name = n
      · subst same
        rw [if_pos List.mem_cons_self, here]
        simp [fedBy]
      · have tail : fedBy ((name :: names).zip (a :: inputs)) n = fedBy (names.zip inputs) n := by
          simp [fedBy, same]
        have mem : n ∈ name :: names ↔ n ∈ names := by
          rw [List.mem_cons]
          exact or_iff_right (Ne.symm same)
        rw [tail, ih]
        simp only [mem]

theorem float32Zeros_eq {shape : List Nat} {a : NdArray}
    (made : float32Zeros (shape.map Int.ofNat) = .ok a) : a.shape = shape ∧ a.dtype = .float32 := by
  unfold float32Zeros at made
  split at made
  · cases made
  · split at made
    · cases made
    · cases made
      refine ⟨?_, rfl⟩
      change (shape.map Int.ofNat).map Int.toNat = shape
      rw [List.map_map]
      exact List.map_id shape

theorem outputBuffers_spec {count : Nat} {places : List (Nat × List Int)}
    {buffers : List (Option NdArray)} (made : outputBuffers count places = .ok buffers) :
    buffers.length = count ∧ ∀ i a, buffers[i]? = some (some a) →
      ∃ shape, (i, shape) ∈ places ∧ float32Zeros shape = .ok a := by
  induction places generalizing buffers with
  | nil =>
      cases made
      refine ⟨List.length_replicate, fun i a found => ?_⟩
      cases List.eq_of_mem_replicate (List.mem_of_getElem? found)
  | cons place places ih =>
      rw [outputBuffers] at made
      cases others : outputBuffers count places with
      | error e => rw [others] at made; cases made
      | ok rest =>
          obtain ⟨length, sized⟩ := ih others
          cases zeroed : float32Zeros place.2 with
          | error e => rw [others, zeroed] at made; cases made
          | ok zeros =>
              rw [others, zeroed] at made
              change (if place.1 < count then _ else _) = _ at made
              split at made
              · cases made
                refine ⟨by rw [List.length_set, length], fun i a found => ?_⟩
                rw [List.getElem?_set] at found
                split at found
                · next here =>
                    split at found
                    · cases found
                      exact ⟨place.2, here ▸ List.mem_cons_self, zeroed⟩
                    · cases found
                · obtain ⟨shape, mem, zeroed⟩ := sized i a found
                  exact ⟨shape, List.mem_cons_of_mem place mem, zeroed⟩
              · cases made

omit [NumPy] in
theorem allSome_eq {buffers : List (Option NdArray)} {arrays : List NdArray}
    (whole : allSome buffers = .ok arrays) : buffers = arrays.map some := by
  induction buffers generalizing arrays with
  | nil =>
      cases whole
      rfl
  | cons buffer buffers ih =>
      cases buffer with
      | none => cases whole
      | some a =>
          rw [allSome] at whole
          cases others : allSome buffers with
          | error e => rw [others] at whole; cases whole
          | ok rest =>
              rw [others] at whole
              cases whole
              rw [ih others, List.map_cons]

omit [NumPy] in
/-- Picking by places that all exist gives one item for each, in the order of the places. -/
theorem forall₂_filterMap {γ δ : Type} {R : γ → δ → Prop} {f : δ → Option γ} {places : List δ}
    (each : ∀ i ∈ places, ∃ t, f i = some t ∧ R t i) :
    List.Forall₂ R (places.filterMap f) places := by
  induction places with
  | nil => exact .nil
  | cons i places ih =>
      obtain ⟨t, found, related⟩ := each i (by simp)
      rw [List.filterMap_cons_some found]
      exact .cons related (ih fun i mem => each i (by simp [mem]))

/-- The buffer at the place of an output has the shape that the session gives that output. -/
theorem buffers_shape {self : MnnBackend} {w : Graph.World} (holds : Holds g self w)
    {order : List Nat} {buffers : List (Option NdArray)} (known : self.outOrder = some order)
    (made : outputBuffers self.outNames.length (order.zip self.outShapes).reverse = .ok buffers) :
    buffers.length = g.outOrder.length ∧ ∀ (i : Nat) name a, g.outOrder[i]? = some name →
      buffers[i]? = some (some a) → a.shape = g.outShape name ∧ a.dtype = .float32 := by
  obtain ⟨length, sized⟩ := outputBuffers_spec made
  rw [holds.outOrder, Option.some.injEq] at known
  refine ⟨?_, fun i name a placed found => ?_⟩
  · rw [length, holds.outNames]
    exact g.outOrder_perm.length_eq.symm
  · obtain ⟨shape, mem, zeroed⟩ := sized i a found
    rw [← known, holds.outShapes, List.zip_map', List.mem_reverse] at mem
    obtain ⟨n, listed, same⟩ := List.mem_map.mp mem
    obtain ⟨rfl, rfl⟩ := Prod.mk.inj same
    have there : g.outOrder[g.outOrder.idxOf n]? = some n :=
      List.getElem?_idxOf (g.outOrder_perm.mem_iff.mpr listed)
    rw [there, Option.some.injEq] at placed
    exact placed ▸ float32Zeros_eq zeroed

/-- What the backend calls `mnn_shim_infer` with is what the shim has to be called with. -/
theorem infer_granted {self : MnnBackend} {w : Graph.World} (holds : Holds g self w) {feeds : Feeds}
    {inputs arrays : List NdArray} {order : List Nat} (read : inputArrays feeds self.inNames = .ok inputs)
    (known : self.outOrder = some order) (made : outputBuffers self.outNames.length
      (order.zip self.outShapes).reverse = .ok (arrays.map some)) :
    g.Granted w (.mnnInfer self.h inputs arrays) := by
  obtain ⟨length, shaped⟩ := buffers_shape holds known made
  rw [List.length_map] at length
  refine ⟨holds.session, holds.inNames ▸ inputArrays_float32s read, length, fun a mem => ?_⟩
  obtain ⟨i, bound, rfl⟩ := List.mem_iff_getElem.mp mem
  have within : i < g.outOrder.length := length ▸ bound
  refine (shaped i (g.outOrder[i]) _ (List.getElem?_eq_getElem within) ?_).2
  rw [List.getElem?_map, List.getElem?_eq_getElem bound, Option.map_some]

theorem infer_computed {self : MnnBackend} {w : Graph.World} (holds : Holds g self w) (feeds : Feeds) :
    (infer feeds).wpc g.serving (fun w' => w' = w) (fun r self' w' => self' = self ∧ w' = w ∧
      ∀ outs, r = .ok outs → g.Computed seam feeds outs) self w := by
  have failed : ∀ (e : PyErr), self = self ∧ w = w ∧ ∀ outs,
      (Except.error e : Except PyErr (List NdArray)) = .ok outs → g.Computed seam feeds outs :=
    fun e => ⟨rfl, rfl, by simp⟩
  rw [infer, Py.wpc_bind, Py.wpc_get, Py.either_ok, Py.wpc_bind, Py.wpc_ofExcept]
  cases read : inputArrays feeds self.inNames with
  | error e => exact failed e
  | ok inputs =>
      rw [Py.either_ok, Py.wpc_bind, wpc_require]
      refine ⟨fun order known => ?_, fun _ => failed _⟩
      rw [Py.either_ok, Py.wpc_bind, Py.wpc_ofExcept]
      cases made : outputBuffers self.outNames.length (order.zip self.outShapes).reverse with
      | error e => exact failed e
      | ok buffers =>
          rw [Py.either_ok, Py.wpc_bind, Py.wpc_ofExcept]
          cases whole : allSome buffers with
          | error e => exact failed e
          | ok arrays =>
              rw [allSome_eq whole] at made
              obtain ⟨length, shaped⟩ := buffers_shape holds known made
              rw [List.length_map] at length
              rw [Py.either_ok, Py.wpc_bind, Py.wpc_ask]
              intro r w' step
              obtain ⟨rfl, answered⟩ := Graph.promised (infer_granted holds read known made) step
              refine ⟨rfl, ?_⟩
              cases r with
              | error e => exact failed e
              | ok done =>
                  rw [Py.either_ok, Py.wpc_ite]
                  split
                  · exact failed _
                  · next zero =>
                      rw [Py.wpc_pure]
                      refine ⟨rfl, rfl, fun outs ok => ?_⟩
                      cases ok
                      have answered := answered done.2
                        (congrArg Except.ok (Prod.ext (not_not.mp zero) rfl))
                      have fed : fedBy (g.inOrder.zip inputs) = g.matched seam.taken feeds := by
                        funext n
                        rw [← holds.inNames, fedBy_zip (inputArrays_taken read), Graph.matched,
                          holds.inNames]
                        simp only [g.inOrder_perm.mem_iff]
                      rw [fed] at answered
                      rw [holds.outOrder, Option.some.injEq] at known
                      rw [← known, List.map_map, List.filterMap_map]
                      refine forall₂_filterMap fun o mem => ?_
                      have named : o.1 ∈ g.outOrder :=
                        g.outOrder_perm.mem_iff.mpr (List.mem_map_of_mem mem)
                      have bound : g.outOrder.idxOf o.1 < arrays.length := by
                        rw [length]
                        exact List.idxOf_lt_length_iff.mpr named
                      have placed : g.outOrder[g.outOrder.idxOf o.1]? = some o.1 :=
                        List.getElem?_idxOf named
                      obtain ⟨b, converted, shape, data⟩ := answered (g.outOrder.idxOf o.1) o.1
                        (arrays[g.outOrder.idxOf o.1]) placed (List.getElem?_eq_getElem bound)
                      obtain ⟨shape', float32⟩ := shaped _ _ (arrays[g.outOrder.idxOf o.1]) placed
                        (by rw [List.getElem?_map, List.getElem?_eq_getElem bound, Option.map_some])
                      refine ⟨filled done.2 (g.outOrder.idxOf o.1) arrays[g.outOrder.idxOf o.1],
                        by simp [bound], ?_⟩
                      have same : filled done.2 (g.outOrder.idxOf o.1)
                          arrays[g.outOrder.idxOf o.1] = b :=
                        NdArray.ext' (shape'.trans shape.symm)
                          (float32.trans (astypeFloat32_dtype converted).symm) data
                      rw [same]
                      exact converted

omit [NumPy] in
theorem names_iff {W : Type} {E : Env Host W} {self : MnnBackend} {w : W}
    (inNames : self.inNames = g.inOrder) :
    (inputNames : HostM MnnBackend (List PyStr)).wpc E (fun _ => True)
      (fun r b w' => r = .ok (g.ins.map Prod.fst) ∧ b = self ∧ w' = w) self w ↔
        g.inOrder = g.ins.map Prod.fst := by
  rw [inputNames, Py.wpc_bind, Py.wpc_get, Py.either_ok, Py.wpc_pure, inNames, Except.ok.injEq]
  exact and_iff_left ⟨rfl, rfl⟩

/-- The outputs follow the graph; the input names do when the shim lists them in its order. -/
theorem interchangeable_iff {self : MnnBackend} {w : Graph.World} (holds : Holds g self w) :
    Interchangeable g.serving id g seam self w ↔ g.inOrder = g.ins.map Prod.fst := by
  constructor
  · intro same
    exact (names_iff holds.inNames).mp same.names
  · intro ordered
    refine ⟨(names_iff holds.inNames).mpr ordered, fun feeds => ?_⟩
    refine Py.wpc_mono (fun _ _ => trivial) (fun r s' w' inferred => ?_) (infer_computed holds feeds)
    obtain ⟨-, rfl, outputs⟩ := inferred
    exact ⟨rfl, rfl, outputs⟩

/-! ### A load -/

theorem elsewhere_isWritten (p : FilePath) : Py.Within g.serving Py.Still (isWritten p) :=
  Py.Within.bind (elsewhere_ask (by trivial)) fun _ => within_andAlso _ <|
    Py.Within.bind (elsewhere_ask (by trivial)) fun _ => .pure _

theorem elsewhere_convertOnnxToMnn (onnxPath mnnPath : PyStr) :
    Py.Within g.serving Py.Still (convertOnnxToMnn onnxPath mnnPath) := by
  have executable : ∀ p, Py.Within g.serving Py.Still (isExecutable p) := fun p =>
    Py.Within.bind (within_andAlso _ (elsewhere_ask (by trivial))) fun _ =>
      within_andAlso _ (elsewhere_ask (by trivial))
  have tool : Py.Within g.serving Py.Still (findTool "MNNConvert" "DETECTOR_MNNCONVERT") :=
    Py.Within.bind (elsewhere_ask (by trivial)) fun _ => (executable _).bind fun _ =>
      .ite (.pure _) (elsewhere_ask (by trivial))
  exact tool.bind fun _ => Py.Within.bind (elsewhere_ask (by trivial)) fun _ =>
    Py.Within.bind (within_andAlso _ (elsewhere_isWritten _)) fun _ =>
      .ite (.throw _) (elsewhere_ask (by trivial))

theorem elsewhere_ensureConverted (modelPath : PyStr) :
    Py.Within g.serving Py.Still (ensureConverted modelPath) := by
  have fresh : Py.Within g.serving Py.Still (isFresh modelPath) :=
    Py.Within.bind (elsewhere_ask (by trivial)) fun _ => Py.Within.bind (elsewhere_ask (by trivial)) fun _ =>
      .ite (.pure _) <| Py.Within.bind (elsewhere_ask (by trivial)) fun _ => .pure _
  exact Py.Within.bind (fresh.catching fun _ => .ite (.pure _) (.throw _)) fun _ =>
    .ite (.pure _) <| (elsewhere_convertOnnxToMnn _ _).bind fun _ => .pure _

/-- The session of the backend is open. -/
def Opened (self : MnnBackend) (w : Graph.World) : Prop := ∀ h ∈ self.h, h ∈ w.sessions

theorem create_opened (mnn : PyStr) (self : MnnBackend) (w : Graph.World) :
    (create mnn).wpc g.serving (fun w' => w'.faulted = w.faulted) (fun r self' w' => self' = self ∧
      ((∃ h, r = .ok h ∧ h ∉ w.sessions ∧ w' = w.opened h) ∨ (∃ e, r = .error e) ∧ w' = w))
      self w := by
  rw [create, Py.wpc_bind, Py.wpc_get, Py.either_ok, Py.wpc_ite]
  split
  · exact ⟨rfl, .inr ⟨⟨_, rfl⟩, rfl⟩⟩
  · rw [Py.wpc_bind, Py.wpc_ask]
    intro r w' step
    have granted : g.Granted w (.mnnCreate mnn self.forwardType (if self.fp16 then 2 else 1)
      (if self.forwardType = 0 then (self.threads.filter (· ≠ 0)).getD 4 else 1)) := trivial
    have made : w.Created r w' := Graph.promised granted step
    rcases r with e | - | h
    · obtain rfl : w' = w := made
      exact ⟨rfl, rfl, .inr ⟨⟨e, rfl⟩, rfl⟩⟩
    · obtain rfl : w' = w := made
      exact ⟨rfl, rfl, .inr ⟨⟨_, rfl⟩, rfl⟩⟩
    · obtain ⟨fresh, rfl⟩ : h ∉ w.sessions ∧ w' = w.opened h := made
      exact ⟨rfl, rfl, .inl ⟨h, rfl, fresh, rfl⟩⟩

theorem finishLoad_holds {self : MnnBackend} {w : Graph.World} (holds : Holds g self w)
    (ins : List (PyStr × List Int)) :
    (finishLoad ins).wpc g.serving (fun w' => w' = w) (fun _ s' w' => s' = self ∧ w' = w) self w := by
  have logged : ∀ line, Py.Within g.serving Py.Still (log line : HostM MnnBackend Unit) :=
    fun line => elsewhere_ask (by trivial)
  rw [finishLoad, Py.wpc_bind]
  refine Py.wpc_mono (fun _ kept => kept) (fun r s' w' same => ?_) (wpc_elsewhere (logged _))
  obtain ⟨rfl, rfl⟩ := same
  cases r with
  | error e => exact ⟨rfl, rfl⟩
  | ok _ =>
      rw [Py.either_ok, Py.wpc_bind]
      refine Py.wpc_mono (fun _ kept => kept) (fun r s'' w'' same => ?_)
        (wpc_elsewhere (.traverse (fun _ => .ofExcept _) ins))
      obtain ⟨rfl, rfl⟩ := same
      cases r with
      | error e => exact ⟨rfl, rfl⟩
      | ok feeds =>
          rw [Py.either_ok, Py.wpc_bind]
          refine Py.wpc_mono (fun _ kept => kept) (fun r s' w' inferred => ?_)
            (infer_computed holds feeds)
          obtain ⟨rfl, rfl, -⟩ := inferred
          cases r with
          | error e => exact ⟨rfl, rfl⟩
          | ok _ => exact wpc_elsewhere (logged _)

theorem drop_opened {old : Option Nat} {h : Nat} {w : Graph.World} (fresh : h ∉ w.sessions)
    (opened : ∀ k ∈ old, k ∈ w.sessions) (s : MnnBackend) :
    (drop old).wpc g.serving (fun w' => w'.faulted = w.faulted)
      (fun _ s' w' => s' = s ∧ w'.faulted = w.faulted ∧ h ∈ w'.sessions) s (w.opened h) := by
  cases old with
  | none => exact ⟨rfl, rfl, List.mem_cons_self⟩
  | some k =>
      have inside : k ∈ w.sessions := opened k rfl
      rw [drop, Py.wpc_ask]
      intro r w' step
      have granted : g.Granted (w.opened h) (.mnnDestroy k) := List.mem_cons_of_mem h inside
      obtain rfl : w' = (w.opened h).shut k := Graph.promised granted step
      have other : h ≠ k := fun same => fresh (same ▸ inside)
      exact ⟨rfl, rfl, rfl, (List.mem_erase_of_ne other).mpr List.mem_cons_self⟩

/-- A load that succeeds installs a session of the graph. In every outcome, and at every point, it
has called the shim as it may be called, and the session of the backend is an open one. -/
theorem load_holds (modelPath : PyStr) {self : MnnBackend} {w : Graph.World}
    (opened : Opened self w) :
    (load modelPath).wpc g.serving (fun w' => w'.faulted = w.faulted) (fun r self' w' =>
      w'.faulted = w.faulted ∧ Opened self' w' ∧ (r = .ok () → Holds g self' w')) self w := by
  have failed : ∀ (e : PyErr) (w' : Graph.World), w'.faulted = w.faulted →
      (∀ h ∈ w.sessions, h ∈ w'.sessions) → w'.faulted = w.faulted ∧ Opened self w' ∧
        ((Except.error e : Except PyErr Unit) = .ok () → Holds g self w') :=
    fun e w' same more => ⟨same, fun h mem => more h (opened h mem), by simp⟩
  have all : ∀ h ∈ w.sessions, h ∈ w.sessions := fun _ mem => mem
  rw [load, Py.wpc_bind, Py.wpc_ask]
  intro r w₁ step
  have granted : g.Granted w (.onnxIoMeta modelPath) := trivial
  obtain ⟨rfl, read⟩ := Graph.promised granted step
  refine ⟨rfl, ?_⟩
  cases r with
  | error e => exact failed e w₁ rfl all
  | ok onnx =>
      obtain rfl := read onnx rfl
      rw [Py.either_ok, Py.wpc_bind, wpc_free]
      refine Py.wpc_mono (fun _ same => congrArg _ same) (fun r _ w₂ same => ?_)
        (wpc_elsewhere (elsewhere_ensureConverted modelPath))
      obtain ⟨-, rfl⟩ := same
      cases r with
      | error e => exact failed e w₂ rfl all
      | ok mnn =>
          rw [Py.either_ok, Py.wpc_bind]
          refine Py.wpc_mono (fun _ same => same) (fun r s w₃ created => ?_)
            (create_opened mnn self w₂)
          obtain ⟨rfl, ⟨h, rfl, fresh, rfl⟩ | ⟨⟨e, rfl⟩, rfl⟩⟩ := created
          · have there : h ∈ (w₂.opened h).sessions := List.mem_cons_self
            have more : ∀ k ∈ w₂.sessions, k ∈ (w₂.opened h).sessions :=
              fun _ mem => List.mem_cons_of_mem h mem
            rw [Py.either_ok, Py.wpc_bind]
            refine Py.wpc_mono (fun _ same => ?_) (fun r s' w₄ described => ?_)
              (describe_listed (g := g) s there)
            · rw [same]
              rfl
            obtain ⟨rfl, rfl, listed⟩ := described
            cases r with
            | error e => exact failed e _ rfl more
            | ok shim =>
                rw [Py.either_ok, Py.wpc_ite]
                split
                · rw [Py.wpc_bind, Py.wpc_ask]
                  intro r w₅ step
                  have granted : g.Granted (w₂.opened h) (.mnnDestroy h) := there
                  obtain rfl : w₅ = (w₂.opened h).shut h := Graph.promised granted step
                  have back : ((w₂.opened h).shut h).sessions = w₂.sessions :=
                    List.erase_cons_head h w₂.sessions
                  refine ⟨rfl, ?_⟩
                  cases r with
                  | error e => exact failed e _ rfl fun k mem => back ▸ mem
                  | ok _ => exact failed _ _ rfl fun k mem => back ▸ mem
                · next same =>
                    obtain ⟨outs, ins⟩ := not_not.mp same
                    have holds := install_holds (listed shim rfl) outs ins there s'
                    rw [Py.wpc_bind, Py.wpc_get, Py.either_ok, Py.wpc_bind, Py.wpc_modify,
                      Py.either_ok, Py.wpc_bind]
                    refine Py.wpc_mono (fun _ same => ?_) (fun r s₁ w₅ warm => ?_)
                      (finishLoad_holds holds shim.1)
                    · rw [same]
                      rfl
                    obtain ⟨rfl, rfl⟩ := warm
                    cases r with
                    | error e =>
                        refine ⟨rfl, fun k mem => ?_, by simp⟩
                        obtain rfl : h = k := Option.some.inj mem
                        exact there
                    | ok _ =>
                        rw [Py.either_ok]
                        refine Py.wpc_mono (fun _ kept => kept) (fun r s₂ w₆ dropped => ?_)
                          (drop_opened fresh opened _)
                        obtain ⟨rfl, same, still⟩ := dropped
                        refine ⟨same, fun k mem => ?_, fun _ => { holds with session := ⟨h, rfl, still⟩ }⟩
                        obtain rfl : h = k := Option.some.inj mem
                        exact still
          · exact failed e w₃ rfl all

end MnnBackend

end Detector
