import FrigateAsahi.Backends.Seam

/-!
# ncnn behind the seam

ncnn has no axis for a batch: a tensor loses it on the way in, and an output gets it back where the
graph declares it. The names and the order are those of the ONNX graph, whatever the order of the
net.
-/

namespace Detector

open Text Python Numpy Interaction

variable [NumPy] {g : Graph}

namespace NcnnBackend

/-- The names that were installed are those of the graph. -/
def Named (g : Graph) (self : NcnnBackend) : Prop :=
  self.inNames = g.ins.map Prod.fst ∧ self.outNames = g.outs.map Prod.fst ∧
    self.outShapes = g.outs.map Prod.snd

theorem unposted_feed (feeds : Feeds) (ex : Nat) (name : PyStr) :
    Py.Within g.serving Unposted (feed feeds ex name) :=
  (Py.Within.ofExcept _).bind fun _ => (Py.Within.ofExcept _).bind fun _ => unposted_ask (by trivial)

theorem unposted_extract (ex : Nat) (out : PyStr × List Dim) :
    Py.Within g.serving Unposted (extract ex out) :=
  (unposted_ask (by trivial)).bind fun _ => .ite (.throw _)
    ((Py.Within.ofExcept _).bind fun _ => .ofExcept _)

theorem unposted_infer (feeds : Feeds) : Py.Within g.serving Unposted (infer feeds) :=
  Py.Within.get.bind fun _ => (Py.Within.ofExcept _).bind fun _ =>
    (unposted_ask (by trivial)).bind fun ex => (Py.Within.forEach (unposted_feed feeds ex) _).bind
      fun _ => .traverse (unposted_extract ex) _

theorem apart_finishLoad (net : Nat) (ins : IoMeta) :
    Py.Within g.serving Py.Apart (finishLoad net ins) :=
  Py.Within.catching ((Py.Within.ask_apart _ _).bind fun _ =>
    (Py.Within.traverse (fun _ => .ofExcept _) _).bind fun _ =>
      (apart_of_unposted (unposted_infer _)).bind fun _ => .ask_apart _ _)
    fun _ => (Py.Within.ask_apart _ _).bind fun _ => .throw _

omit [NumPy] in
theorem apart_owning {σ α : Type} {E : Env Host Graph.World} (net : Nat) {p : HostM σ α}
    (inner : Py.Within E Py.Apart p) : Py.Within E Py.Apart (owning net p) :=
  inner.catching fun _ => (Py.Within.ask_apart _ _).bind fun _ =>
    (Py.Within.ask_apart _ _).bind fun _ => .throw _

theorem apart_netThreads : Py.Within g.serving Py.Apart netThreads :=
  Py.Within.get.bind fun _ =>
    .ite ((Py.Within.ask_apart _ _).bind fun _ => .ofExcept _) (.pure _)

theorem apart_buildNet (param binf : PyStr) :
    Py.Within g.serving Py.Apart (buildNet param binf) :=
  Py.Within.get.bind fun _ => (Py.Within.ask_apart _ _).bind fun net =>
    apart_owning net (apart_netThreads.bind fun _ => (Py.Within.ask_apart _ _).bind fun _ =>
      (Py.Within.ask_apart _ _).bind fun _ => .ite (.throw _)
        ((Py.Within.ask_apart _ _).bind fun _ => .ite (.throw _) (.pure _)))

omit [NumPy] in
theorem apart_free {σ α : Type} {E : Env Host Graph.World} (p : HostM Unit α) :
    Py.Within E Py.Apart (free p : HostM σ α) := by
  intro s w
  rw [wpc_free]
  exact Py.wpc_mono (fun _ _ => ⟨s, rfl⟩) (fun _ _ _ _ => rfl)
    (Py.wpc_invariant (I := fun _ => True) (fun _ _ _ _ _ _ => trivial) p trivial)

theorem apart_openNet (modelPath : PyStr) (files : PyStr × PyStr) :
    Py.Within g.serving Py.Apart (openNet modelPath files) :=
  within_exceptException (apart_buildNet _ _) fun _ =>
    (apart_free _).bind fun _ => (apart_buildNet _ _).bind fun _ =>
      (within_dropException (.ask_apart _ _)).bind fun _ => .pure _

theorem apart_checkNames (net : Nat) (ins outs : IoMeta) :
    Py.Within g.serving Py.Apart (checkNames net ins outs) :=
  (Py.Within.ask_apart _ _).bind fun _ => (Py.Within.ask_apart _ _).bind fun _ =>
    .ite (.pure _) (.throw _)

theorem load_named (modelPath : PyStr) (self : NcnnBackend) (w : Graph.World) :
    (load modelPath).wpc g.serving (fun _ => True)
      (fun r self' _ => r = .ok () → Named g self') self w := by
  have failed : ∀ {self : NcnnBackend} (e : PyErr) (_ : Graph.World),
      (Except.error e : Except PyErr Unit) = .ok () → Named g self :=
    by simp
  rw [load, Py.wpc_bind, Py.wpc_ask]
  intro r w' step
  refine ⟨trivial, ?_⟩
  cases r with
  | error e => exact failed e w'
  | ok io =>
      have granted : g.Granted w (.onnxIoMeta modelPath) := trivial
      obtain rfl := (Graph.promised granted step).2 io rfl
      rw [Py.either_ok]
      refine Py.wpc_skip (apart_free _) failed fun files w => ?_
      refine Py.wpc_skip (apart_openNet _ _) failed fun net w => ?_
      refine Py.wpc_skip (apart_owning _ (apart_checkNames _ _ _)) failed fun _ w => ?_
      rw [Py.wpc_bind, Py.wpc_get, Py.either_ok, Py.wpc_bind, Py.wpc_modify, Py.either_ok]
      have installed : Named g (install net modelPath g.ins g.outs self) := ⟨rfl, rfl, rfl⟩
      have kept {p : HostM NcnnBackend Unit} (rest : Py.Within g.serving Py.Apart p) :
          p.wpc g.serving (fun _ => True) (fun r s' _ => r = .ok () → Named g s')
            (install net modelPath g.ins g.outs self) w := by
        refine Py.wpc_mono (fun _ _ => trivial) (fun r s' w' same => ?_) rest.kept
        exact fun _ => same ▸ installed
      cases self.net with
      | none => exact kept (apart_finishLoad _ _)
      | some old => exact kept ((apart_owning _ (apart_finishLoad _ _)).bind fun _ => .ask_apart _ _)

/-- The shape under which ncnn is fed a tensor: a batch has one image and no axis of its own, and
nothing is without dimensions. -/
def unbatched : List Nat → Option (List Nat)
  | [] => some [1]
  | [b, c, h, w] => if b = 1 then some [c, h, w] else none
  | shape => some shape

omit [NumPy] in
theorem prod_unbatched {shape shape' : List Nat} (fits : unbatched shape = some shape') :
    shape'.prod = shape.prod := by
  unfold unbatched at fits
  split at fits
  · cases fits
    rfl
  · split at fits
    · next one =>
        cases fits
        rw [one, List.prod_cons (a := 1), Nat.one_mul]
    · cases fits
  · cases fits
    rfl

/-- The shape is what the graph declares, wherever it declares a number. -/
def Fits (declared : List Dim) (shape : List Nat) : Prop :=
  List.Forall₂ (fun (d : Dim) (n : Nat) => ∀ k : Int, d = .int k → k = n) declared shape

/-- An output of ncnn as it is returned: its numbers as `float32`, and the shape that the graph
declares, whether ncnn has it already, has it without the axis of the batch, or has as many numbers
in another shape. -/
structure Restored (declared : List Dim) (a t : NdArray) : Prop where
  numbers : ∃ b, a.astypeFloat32 = .ok b ∧ t.dtype = b.dtype ∧ t.data = b.data
  same : Fits declared a.shape → t.shape = a.shape
  batch : Fits declared (1 :: a.shape) → t.shape = 1 :: a.shape
  sized : ∀ dims : List Nat, declared = dims.map (fun n : Nat => Dim.int n) → 0 ∉ dims →
    (dims.length = a.ndim + 1 → dims.head? ≠ some 1) → dims.prod = a.size → a.size < 2 ^ 63 →
      t.shape = dims

def seam : Seam := ⟨fedAs unbatched prod_unbatched, Restored⟩

theorem asFloat32_eq (x : NdArray) : asFloat32 x = x.astypeFloat32 := by
  unfold asFloat32
  split
  · rfl
  · next float32 => rw [NdArray.astypeFloat32_of_float32 (not_not.mp float32)]

/-- What `_to_mat` hands over is what ncnn has to be fed. -/
theorem toMat_taken (x : NdArray) : (toMat x).toOption = seam.taken x := by
  change _ = fedAs unbatched prod_unbatched x
  obtain ⟨shape, dtype, data, size⟩ := x
  unfold toMat fedAs
  rw [asFloat32_eq, NdArray.astypeFloat32]
  cases NumPy.float32Data ⟨shape, dtype, data, size⟩ with
  | none => rfl
  | some octets =>
      rcases shape with - | ⟨b, - | ⟨c, - | ⟨h, - | ⟨w, - | ⟨d, rest⟩⟩⟩⟩⟩
      · rfl
      · rfl
      · rfl
      · rfl
      · rcases b with - | - | b
        · rfl
        · rfl
        · rfl
      · rfl

theorem feedAll_spec (feeds : Feeds) (ex : Nat) (names : List PyStr) (s : NcnnBackend)
    (w : Graph.World) :
    (Py.forEach (feed feeds ex) names).wpc g.serving (fun _ => True) (fun r _ w' =>
      r = .ok () → ∀ n, fedBy (w'.fed ex) n =
        if n ∈ names then (feeds.get n).bind seam.taken else fedBy (w.fed ex) n) s w := by
  induction names generalizing w with
  | nil =>
      intro _ n
      rw [if_neg List.not_mem_nil]
  | cons name names ih =>
      rw [Py.forEach, feed, Py.wpc_bind, Py.wpc_bind, wpc_require]
      refine ⟨fun x found => ?_, by simp⟩
      rw [Py.either_ok, Py.wpc_bind, Py.wpc_ofExcept]
      cases converted : toMat x with
      | error e => simp
      | ok mat =>
          rw [Py.either_ok, Py.wpc_ask]
          intro r w' step
          refine ⟨trivial, ?_⟩
          cases r with
          | error e => simp
          | ok _ =>
              rw [Py.either_ok]
              refine Py.wpc_mono (fun _ _ => trivial) (fun r _ w'' rest done n => ?_) (ih w')
              have granted : g.Granted w (.ncnnInput ex name mat) := trivial
              have fed : w'.fed ex = (name, mat) :: w.fed ex := by
                rw [(Graph.promised granted step).2 rfl, Function.update_self]
              have here : (feeds.get name).bind seam.taken = some mat := by
                rw [found, Option.bind_some, ← toMat_taken, converted]
                rfl
              rw [rest done n]
              by_cases later : n ∈ names
              · rw [if_pos later, if_pos (List.mem_cons_of_mem _ later)]
              · rw [if_neg later, fed]
                by_cases same : name = n
                · subst same
                  rw [if_pos List.mem_cons_self, here]
                  simp [fedBy]
                · have absent : n ∉ name :: names := by
                    rw [List.mem_cons, not_or]
                    exact ⟨Ne.symm same, later⟩
                  rw [if_neg absent]
                  simp [fedBy, same]

theorem withShape_nonneg {a t : NdArray} {dims : List Nat}
    (made : a.withShape (dims.map Int.ofNat) = .ok t) :
    t.shape = dims ∧ t.dtype = a.dtype ∧ t.data = a.data := by
  have whole : (dims.map Int.ofNat).countP (fun d => decide (d < 0)) = 0 := by
    refine List.countP_eq_zero.mpr fun d mem => ?_
    obtain ⟨n, -, rfl⟩ := List.mem_map.mp mem
    simp
  have back : (dims.map Int.ofNat).map Int.toNat = dims := by
    rw [List.map_map]
    exact List.map_id dims
  unfold NdArray.withShape at made
  split at made
  · cases made
  · split at made
    · cases made
    · next shape resolved =>
        cases made
        unfold resolve at resolved
        split at resolved
        · cases resolved
        · rw [if_pos whole, back] at resolved
          split at resolved
          · cases resolved
            exact ⟨rfl, rfl, rfl⟩
          · cases resolved

omit [NumPy] in
theorem positiveDims_some {declared : List Dim} {dims : List Int}
    (positive : positiveDims declared = some dims) :
    ∃ shape : List Nat, dims = shape.map Int.ofNat ∧
      declared = shape.map (fun n : Nat => Dim.int n) := by
  induction declared generalizing dims with
  | nil =>
      cases positive
      exact ⟨[], rfl, rfl⟩
  | cons d declared ih =>
      cases d with
      | sym | none => cases positive
      | int n =>
          rw [positiveDims] at positive
          split at positive
          · next pos =>
              obtain ⟨rest, others, rfl⟩ := Option.map_eq_some_iff.mp positive
              obtain ⟨shape, rfl, rfl⟩ := ih others
              refine ⟨n.toNat :: shape, ?_, ?_⟩
              · rw [List.map_cons, Int.ofNat_eq_natCast, Int.toNat_of_nonneg pos.le]
              · rw [List.map_cons, Int.toNat_of_nonneg pos.le]
          · cases positive

omit [NumPy] in
theorem positiveDims_map {shape : List Nat} (pos : 0 ∉ shape) :
    positiveDims (shape.map fun n : Nat => Dim.int n) = some (shape.map Int.ofNat) := by
  induction shape with
  | nil => rfl
  | cons n shape ih =>
      rw [List.mem_cons, not_or] at pos
      have first : (0 : Int) < n := by omega
      rw [List.map_cons, positiveDims, if_pos first, ih pos.2]
      rfl

omit [NumPy] in
/-- A declaration that consists of numbers fits one shape only. -/
theorem fits_map {dims shape : List Nat} (fits : Fits (dims.map fun n : Nat => Dim.int n) shape) :
    dims = shape := by
  have each : List.Forall₂ (fun n m : Nat => n = m) dims shape :=
    (List.forall₂_map_left_iff.mp fits).imp fun n m same => Int.ofNat.inj (same n rfl)
  exact List.forall₂_eq_eq_eq ▸ each

omit [NumPy] in
/-- What fits a shape with a batch of one in front is recognised by its first dimension. -/
theorem isBatchDim_of_fits {declared : List Dim} {shape : List Nat}
    (fits : Fits declared (1 :: shape)) :
    declared.length = shape.length + 1 ∧ (declared.head?.map isBatchDim).getD false := by
  refine ⟨fits.length_eq, ?_⟩
  cases fits with
  | @cons d n declared shape one rest =>
      cases d with
      | int k =>
          rw [one k rfl]
          rfl
      | sym | none => rfl

omit [NumPy] in
theorem prod_ofNat (shape : List Nat) : (shape.map Int.ofNat).prod = (shape.prod : Int) := by
  induction shape with
  | nil => rfl
  | cons n shape ih =>
      rw [List.map_cons, List.prod_cons, ih, List.prod_cons, Nat.cast_mul]
      rfl

/-- `_reshape_out` gives an array the shape that the graph declares. -/
theorem reshapeOut_restored {a arr t : NdArray} {declared : List Dim}
    (converted : a.astypeFloat32 = .ok arr) (shaped : reshapeOut arr declared = .ok t) :
    Restored declared a t := by
  have size : arr.shape = a.shape := by
    unfold NdArray.astypeFloat32 at converted
    split at converted
    · cases converted
      rfl
    · cases converted
  have count : arr.ndim = a.ndim := congrArg List.length size
  unfold reshapeOut at shaped
  split at shaped
  · next expands =>
      cases shaped
      have shape : arr.expand.shape = 1 :: a.shape := congrArg (1 :: ·) size
      refine ⟨⟨arr, converted, rfl, rfl⟩, fun fits => ?_, fun _ => shape, fun dims same _ head => ?_⟩
      · have equal : declared.length = a.ndim := fits.length_eq
        omega
      · rw [same, List.length_map, count, List.head?_map] at expands
        refine absurd ?_ (head expands.1)
        cases first : dims.head? with
        | none =>
            rw [first] at expands
            cases expands.2
        | some n =>
            rw [first] at expands
            have one : (n : Int) = 1 := of_decide_eq_true expands.2
            rw [Int.ofNat.inj one]
  · next kept =>
      have other : ¬ Fits declared (1 :: a.shape) := fun fits => by
        have batch := isBatchDim_of_fits fits
        rw [← size] at batch
        exact kept batch
      cases positive : positiveDims declared with
      | none =>
          rw [positive] at shaped
          cases shaped
          refine ⟨⟨arr, converted, rfl, rfl⟩, fun _ => size, fun fits => absurd fits other,
            fun dims same pos => ?_⟩
          rw [same, positiveDims_map pos] at positive
          cases positive
      | some numbers =>
          obtain ⟨shape, rfl, rfl⟩ := positiveDims_some positive
          rw [positive] at shaped
          dsimp only at shaped
          split at shaped
          · obtain ⟨shape', dtype, data⟩ := withShape_nonneg shaped
            refine ⟨⟨arr, converted, dtype, data⟩, fun fits => shape'.trans (fits_map fits),
              fun fits => absurd fits other, fun dims same _ _ _ _ => ?_⟩
            have injective : Function.Injective fun n : Nat => Dim.int n :=
              fun n m equal => Int.ofNat.inj (Dim.int.inj equal)
            rw [shape', List.map_injective_iff.mpr injective same]
          · next differs =>
              cases shaped
              refine ⟨⟨arr, converted, rfl, rfl⟩, fun _ => size, fun fits => absurd fits other,
                fun dims same pos _ total small => ?_⟩
              rw [same, positiveDims_map pos, Option.some.injEq] at positive
              rw [← positive, prod_ofNat, total, NdArray.size, NdArray.size, size] at differs
              rw [NdArray.size] at small
              refine absurd (Int.bmod_eq_of_le ?_ ?_) differs
              · omega
              · omega

theorem extract_spec (ex : Nat) (out : PyStr × List Dim) {fed : PyStr → Option NdArray}
    (s : NcnnBackend) (w : Graph.World) (known : fedBy (w.fed ex) = fed) :
    (extract ex out).wpc g.serving (fun _ => True) (fun r _ w' => Py.either
      (fun t => Restored out.2 (g.eval fed out.1) t ∧ fedBy (w'.fed ex) = fed) (fun _ => True) r)
      s w := by
  rw [extract, Py.wpc_bind, Py.wpc_ask]
  intro r w' step
  refine ⟨trivial, ?_⟩
  have granted : g.Granted w (.ncnnExtract ex out.1) := trivial
  obtain ⟨rfl, answered⟩ := Graph.promised granted step
  cases r with
  | error e => trivial
  | ok m =>
      rw [Py.either_ok, Py.wpc_ite]
      split
      · trivial
      · next zero =>
          have made : m.2 = g.eval fed out.1 := by
            have whole : m = (0, m.2) := Prod.ext (not_not.mp zero) rfl
            rw [answered m.2 (congrArg Except.ok whole), known]
          rw [Py.wpc_bind, Py.wpc_ofExcept]
          cases converted : m.2.astypeFloat32 with
          | error e => trivial
          | ok arr =>
              rw [Py.either_ok, Py.wpc_ofExcept]
              cases shaped : reshapeOut arr out.2 with
              | error e => trivial
              | ok t =>
                  rw [made] at converted
                  exact ⟨reshapeOut_restored converted shaped, known⟩

theorem interchangeable {self : NcnnBackend} {w : Graph.World} (serves : Named g self) :
    Interchangeable g.serving id g seam self w := by
  obtain ⟨inNames, outNames, outShapes⟩ := serves
  constructor
  · change inputNames.wpc _ _ _ _ _
    rw [inputNames, Py.wpc_bind, Py.wpc_get, Py.either_ok, Py.wpc_pure, inNames]
    exact ⟨rfl, rfl, rfl⟩
  · intro feeds
    refine unposted_and (unposted_infer feeds) ?_
    have failed : ∀ (e : PyErr) (_ : Graph.World), ∀ outs,
        (Except.error e : Except PyErr (List NdArray)) = .ok outs → g.Computed seam feeds outs :=
      by simp
    change (infer feeds).wpc _ _ _ _ _
    rw [infer, Py.wpc_bind, Py.wpc_get, Py.either_ok]
    refine Py.wpc_skip (.ofExcept _) failed fun net w => ?_
    rw [Py.wpc_bind, Py.wpc_ask]
    intro r w₁ step
    refine ⟨trivial, ?_⟩
    cases r with
    | error e => exact failed e w₁
    | ok ex =>
        rw [Py.either_ok, Py.wpc_bind]
        refine Py.wpc_mono (fun _ _ => trivial) (fun r s' w₂ fed => ?_)
          (feedAll_spec feeds ex _ self w₁)
        cases r with
        | error e => exact failed e w₂
        | ok _ =>
            have granted : g.Granted w (.ncnnExtractor net) := trivial
            have started : w₁.fed ex = [] := by
              rw [(Graph.promised granted step).2 ex rfl, Function.update_self]
            have known : fedBy (w₂.fed ex) = g.matched seam.taken feeds := by
              funext n
              rw [fed rfl n, started, inNames, Graph.matched]
              rfl
            rw [Py.either_ok]
            refine Py.wpc_mono (fun _ _ => trivial) (fun r _ w₃ made outs ok => ?_)
              (Py.wpc_traverse_forall₂
                (I := fun _ w => fedBy (w.fed ex) = g.matched seam.taken feeds)
                (R := fun out t => Restored out.2 (g.eval (g.matched seam.taken feeds) out.1) t)
                (fun out _ s w kept => extract_spec ex out s w kept) known)
            subst ok
            have zipped : self.outNames.zip self.outShapes = g.outs := by
              rw [outNames, outShapes, List.zip_map']
              simp
            rw [zipped] at made
            exact made.1.flip

end NcnnBackend

end Detector
