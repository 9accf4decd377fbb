import FrigateAsahi.NalInfo.AnnexB

/-!
# Cutting at pictures

A stream of coded pictures, each with its slices and with other units around them, and what `cut`
makes of it. The loop stops at the first unit behind the last wanted picture's first slice that is
neither a slice nor supplemental information. Where another unit stands between two slices of that
picture, the later slices are lost (`cut_whole_iff`).
-/

namespace NalInfo

open Text (Bytes)
open Python Bits

/-! ## Pictures -/

/-- `nal_unit_type` -/
def nalUnitType (nal : Bytes) : Nat := (nal.headD 0).toNat % 32

def IsSlice (nal : Bytes) : Prop := nalUnitType nal = 1 ∨ nalUnitType nal = 5

instance : DecidablePred IsSlice := fun _ => inferInstanceAs (Decidable (_ ∨ _))

/-- The payload begins with the code of this `first_mb_in_slice`. -/
def CodesFirstMb (nal : Bytes) (k : Nat) : Prop :=
  golomb k <+: ofBytes (unescape 0 (nal.drop 1))

instance (nal : Bytes) (k : Nat) : Decidable (CodesFirstMb nal k) :=
  inferInstanceAs (Decidable (_ <+: _))

/-- The units of one access unit. The first slice codes macroblock zero and every later one another
macroblock of the picture; no level allows a picture of so many macroblocks. -/
structure Picture : Type where
  before : List Bytes
  first : Bytes
  rest : List Bytes
  before_other : ∀ nal ∈ before, ¬ IsSlice nal
  first_slice : IsSlice first
  first_zero : CodesFirstMb first 0
  rest_later : ∀ nal ∈ rest, IsSlice nal → ∃ k, 0 < k ∧ k + 1 < 2 ^ 24 ∧ CodesFirstMb nal k

def Picture.units (p : Picture) : List Bytes := p.before ++ p.first :: p.rest

def slicesOf (units : List Bytes) : List Bytes := units.filter fun nal => IsSlice nal

/-- The octets are those of a prefix of the units that has the slices of the first `n` pictures and
no others. -/
def Whole (pictures : List Picture) (n : Nat) (out : Bytes) : Prop :=
  ∃ kept, kept <+: pictures.flatMap Picture.units ∧ out = annexB kept ∧
    slicesOf kept = slicesOf ((pictures.take n).flatMap Picture.units)

/-- No slice follows a unit other than a slice or supplemental information. -/
def Unbroken (units : List Bytes) : Prop :=
  units.Pairwise fun nal later => ¬ IsSlice nal → nalUnitType nal ≠ 6 → ¬ IsSlice later

/-! ## The header of a slice -/

/-- Nine octets hold the number of the first macroblock. -/
theorem firstMb_eq {nal : Bytes} {k : Nat} (coded : CodesFirstMb nal k) (small : k + 1 < 2 ^ 24) :
    firstMb nal = .ok k := by
  have size : (golomb k).length ≤ 47 := by
    have exponent : Nat.log2 (k + 1) < 24 := (Nat.log2_lt (by omega)).mpr small
    rw [length_golomb]
    omega
  have within : golomb k <+: ofBytes (unescape 0 ((nal.drop 1).take 8)) := by
    have front : unescape 0 ((nal.drop 1).take 8) <+: unescape 0 (nal.drop 1) := by
      have cut := unescape_append_prefix 0 ((nal.drop 1).take 8) ((nal.drop 1).drop 8)
      rwa [List.take_append_drop] at cut
    by_cases short : (nal.drop 1).length ≤ 8
    · rwa [List.take_of_length_le short]
    · refine List.prefix_of_prefix_length_le coded (prefix_ofBytes front) ?_
      have kept := length_unescape 0 ((nal.drop 1).take 8)
      rw [List.length_take] at kept
      rw [length_ofBytes]
      omega
  obtain ⟨rest, bits⟩ := within
  have left : (BR.new ((nal.drop 1).take 8)).left = golomb k ++ rest := by
    rw [BR.left, BR.new, strip_eq, bits]
    rfl
  rw [firstMb, reads_ue k _ rest left]
  rfl

theorem unitType_eq {nal : Bytes} (proper : nal ≠ []) : unitType nal = .ok (nalUnitType nal) := by
  cases nal with
  | nil => exact absurd rfl proper
  | cons b nal => rw [unitType, Nat.and_two_pow_sub_one_eq_mod b.toNat 5]; rfl

/-! ## One round of the loop -/

section Rounds

variable {n : Int} {frames : Nat} {ob nal : Bytes} {rest : List Bytes}

theorem cutLoop_other (proper : nal ≠ []) (other : ¬ IsSlice nal)
    (goOn : (frames : Int) < n ∨ nalUnitType nal = 6) :
    cutLoop n frames ob (nal :: rest) = cutLoop n frames (ob ++ framed nal) rest := by
  have kept : ¬ ((frames : Int) ≥ n ∧ nalUnitType nal ∉ [6] ∧ frames > 0) := by
    rintro ⟨enough, type, -⟩
    rcases goOn with few | six
    · omega
    · exact type (by rw [six]; exact List.mem_singleton_self 6)
  have type : nalUnitType nal ∉ [1, 5] := by simpa [IsSlice] using other
  rw [cutLoop, unitType_eq proper]
  dsimp only [bind, Except.bind]
  rw [if_neg type, if_neg kept]

theorem cutLoop_stop (proper : nal ≠ []) (other : ¬ IsSlice nal) (type : nalUnitType nal ≠ 6)
    (enough : n ≤ frames) (started : 0 < frames) :
    cutLoop n frames ob (nal :: rest) = .ok (frames, ob) := by
  have slice : nalUnitType nal ∉ [1, 5] := by simpa [IsSlice] using other
  have six : nalUnitType nal ∉ [6] := by simpa using type
  rw [cutLoop, unitType_eq proper]
  dsimp only [bind, Except.bind]
  rw [if_neg slice, if_pos ⟨enough, six, started⟩]
  rfl

theorem cutLoop_later (proper : nal ≠ []) (slice : IsSlice nal) {k : Nat}
    (read : firstMb nal = .ok k) (later : 0 < k) :
    cutLoop n frames ob (nal :: rest) = cutLoop n frames (ob ++ framed nal) rest := by
  have type : nalUnitType nal ∈ [1, 5] := by simpa [IsSlice] using slice
  rw [cutLoop, unitType_eq proper]
  dsimp only [bind, Except.bind]
  rw [if_pos type, read]
  dsimp only
  rw [if_neg (by omega)]

theorem cutLoop_first (proper : nal ≠ []) (slice : IsSlice nal) (read : firstMb nal = .ok 0)
    (room : (frames : Int) + 1 ≤ n) :
    cutLoop n frames ob (nal :: rest) = cutLoop n (frames + 1) (ob ++ framed nal) rest := by
  have type : nalUnitType nal ∈ [1, 5] := by simpa [IsSlice] using slice
  rw [cutLoop, unitType_eq proper]
  dsimp only [bind, Except.bind]
  rw [if_pos type, read]
  dsimp only
  rw [if_pos rfl, if_neg (by omega)]

theorem cutLoop_next (proper : nal ≠ []) (slice : IsSlice nal) (read : firstMb nal = .ok 0)
    (full : n ≤ frames) : cutLoop n frames ob (nal :: rest) = .ok (frames + 1, ob) := by
  have type : nalUnitType nal ∈ [1, 5] := by simpa [IsSlice] using slice
  rw [cutLoop, unitType_eq proper]
  dsimp only [bind, Except.bind]
  rw [if_pos type, read]
  dsimp only
  rw [if_pos rfl, if_pos (by omega)]
  rfl

end Rounds

/-! ## Whole runs of the loop -/

/-- From so many pictures on, the loop writes these of the units and ends. -/
def Keeps (n : Int) (frames : Nat) (units kept : List Bytes) : Prop :=
  kept <+: units ∧ ∀ ob, ∃ frames', cutLoop n frames ob units = .ok (frames', ob ++ annexB kept)

section Runs

variable {n : Int} {frames frames' : Nat} {nal : Bytes} {units kept more : List Bytes}

theorem Keeps.nil (n : Int) (frames : Nat) : Keeps n frames [] [] :=
  ⟨List.nil_prefix, fun ob => ⟨frames, by rw [cutLoop, annexB, List.flatMap_nil, List.append_nil]⟩⟩

theorem Keeps.stop (ends : ∀ ob, cutLoop n frames ob units = .ok (frames', ob)) :
    Keeps n frames units [] :=
  ⟨List.nil_prefix, fun ob => ⟨frames', by rw [ends, annexB, List.flatMap_nil, List.append_nil]⟩⟩

theorem Keeps.cons
    (step : ∀ ob, cutLoop n frames ob (nal :: units) = cutLoop n frames' (ob ++ framed nal) units)
    (tail : Keeps n frames' units kept) : Keeps n frames (nal :: units) (nal :: kept) := by
  refine ⟨List.cons_prefix_cons.mpr ⟨rfl, tail.1⟩, fun ob => ?_⟩
  obtain ⟨count, ran⟩ := tail.2 (ob ++ framed nal)
  exact ⟨count, by rw [step, ran, annexB_cons, List.append_assoc]⟩

/-- Before the last wanted picture's first slice nothing is left out. -/
theorem Keeps.inside (proper : ∀ nal ∈ units, nal ≠ [])
    (later : ∀ nal ∈ units, IsSlice nal → ∃ k, 0 < k ∧ k + 1 < 2 ^ 24 ∧ CodesFirstMb nal k)
    (few : (frames : Int) < n) (tail : Keeps n frames more kept) :
    Keeps n frames (units ++ more) (units ++ kept) := by
  induction units with
  | nil => exact tail
  | cons nal units ih =>
      have rest := ih (fun u member => proper u (by simp [member]))
        (fun u member => later u (by simp [member]))
      have here := proper nal (by simp)
      refine Keeps.cons (fun ob => ?_) rest
      by_cases slice : IsSlice nal
      · obtain ⟨k, positive, small, coded⟩ := later nal (by simp) slice
        exact cutLoop_later here slice (firstMb_eq coded small) positive
      · exact cutLoop_other here slice (Or.inl few)

theorem Keeps.picture {p : Picture} (proper : ∀ nal ∈ p.units, nal ≠ [])
    (room : (frames : Int) + 1 ≤ n) (tail : Keeps n (frames + 1) more kept) :
    Keeps n frames (p.before ++ p.first :: more) (p.before ++ p.first :: kept) := by
  have first : Keeps n frames (p.first :: more) (p.first :: kept) := by
    refine Keeps.cons (fun ob => ?_) tail
    exact cutLoop_first (proper _ (by simp [Picture.units])) p.first_slice
      (firstMb_eq p.first_zero (by decide)) room
  refine Keeps.inside (fun nal member => proper nal (by simp [Picture.units, member])) ?_ (by omega)
    first
  intro nal member slice
  exact absurd slice (p.before_other nal member)

/-- Behind the last wanted picture no slice is written. -/
theorem keeps_behind {frames : Nat} (started : 0 < frames) {pictures : List Picture}
    (proper : ∀ p ∈ pictures, ∀ nal ∈ p.units, nal ≠ []) :
    ∃ kept, Keeps frames frames (pictures.flatMap Picture.units) kept ∧ slicesOf kept = [] := by
  cases pictures with
  | nil => exact ⟨[], Keeps.nil _ _, rfl⟩
  | cons p pictures =>
      have here := proper p (by simp)
      have first (more : List Bytes) : Keeps frames frames (p.first :: more) [] :=
        Keeps.stop fun ob => cutLoop_next (here _ (by simp [Picture.units])) p.first_slice
          (firstMb_eq p.first_zero (by decide)) (Int.le_refl _)
      have front (before more : List Bytes) (others : ∀ nal ∈ before, nal ≠ [] ∧ ¬ IsSlice nal) :
          ∃ kept, Keeps frames frames (before ++ p.first :: more) kept ∧ slicesOf kept = [] := by
        induction before with
        | nil => exact ⟨[], first more, rfl⟩
        | cons nal before ih =>
            obtain ⟨nonempty, other⟩ := others nal (by simp)
            by_cases six : nalUnitType nal = 6
            · obtain ⟨kept, keeps, none⟩ := ih fun u member => others u (by simp [member])
              refine ⟨nal :: kept, Keeps.cons (fun ob => ?_) keeps, ?_⟩
              · exact cutLoop_other nonempty other (Or.inr six)
              · rw [slicesOf, List.filter_cons_of_neg (by simpa using other)]
                exact none
            · exact ⟨[], Keeps.stop fun ob =>
                cutLoop_stop nonempty other six (Int.le_refl _) started, rfl⟩
      have split : (p :: pictures).flatMap Picture.units =
          p.before ++ p.first :: (p.rest ++ pictures.flatMap Picture.units) := by
        simp [Picture.units]
      rw [split]
      exact front p.before _ fun nal member =>
        ⟨here nal (by simp [Picture.units, member]), p.before_other nal member⟩

/-- Of the last wanted picture, all slices are written unless another unit breaks them apart. -/
theorem keeps_rest {frames : Nat} (started : 0 < frames) (proper : ∀ nal ∈ units, nal ≠ [])
    (later : ∀ nal ∈ units, IsSlice nal → ∃ k, 0 < k ∧ k + 1 < 2 ^ 24 ∧ CodesFirstMb nal k)
    (tail : Keeps frames frames more kept) (none : slicesOf kept = []) :
    ∃ kept', Keeps frames frames (units ++ more) kept' ∧
      (slicesOf kept' = slicesOf units ↔ Unbroken units) := by
  induction units with
  | nil => exact ⟨kept, tail, iff_of_true none List.Pairwise.nil⟩
  | cons nal units ih =>
      obtain ⟨kept', keeps, same⟩ := ih (fun u member => proper u (by simp [member]))
        (fun u member => later u (by simp [member]))
      have here := proper nal (by simp)
      by_cases slice : IsSlice nal
      · obtain ⟨k, positive, small, coded⟩ := later nal (by simp) slice
        refine ⟨nal :: kept', Keeps.cons (fun ob => ?_) keeps, ?_⟩
        · exact cutLoop_later here slice (firstMb_eq coded small) positive
        · simp only [slicesOf, Unbroken, List.pairwise_cons] at same ⊢
          simp [slice, same]
      · by_cases six : nalUnitType nal = 6
        · refine ⟨nal :: kept', Keeps.cons (fun ob => ?_) keeps, ?_⟩
          · exact cutLoop_other here slice (Or.inr six)
          · simp only [slicesOf, Unbroken, List.pairwise_cons] at same ⊢
            simp [slice, six, same]
        · refine ⟨[], Keeps.stop fun ob =>
            cutLoop_stop here slice six (Int.le_refl _) started, ?_⟩
          have lost : slicesOf (nal :: units) = slicesOf units :=
            List.filter_cons_of_neg (by simpa using slice)
          rw [lost]
          constructor
          · intro none
            have others : ∀ u ∈ units, ¬ IsSlice u := by
              simpa [slicesOf, List.filter_eq_nil_iff] using none.symm
            refine List.pairwise_cons.mpr ⟨fun u member _ _ => others u member, ?_⟩
            exact List.pairwise_of_forall_mem_list fun u _ v member _ _ => others v member
          · intro unbroken
            have others : ∀ u ∈ units, ¬ IsSlice u := fun u member =>
              (List.pairwise_cons.mp unbroken).1 u member slice six
            exact (List.filter_eq_nil_iff.mpr fun u member => by simpa using others u member).symm

end Runs

theorem slicesOf_append (front back : List Bytes) :
    slicesOf (front ++ back) = slicesOf front ++ slicesOf back :=
  List.filter_append ..

/-- The whole loop, with `wanted` pictures still to come. -/
theorem keeps_pictures {pictures : List Picture} {frames wanted : Nat} (one : 1 ≤ wanted)
    (proper : ∀ p ∈ pictures, ∀ nal ∈ p.units, nal ≠ []) :
    ∃ kept, Keeps ((frames + wanted : Nat) : Int) frames (pictures.flatMap Picture.units) kept ∧
      (slicesOf kept = slicesOf ((pictures.take wanted).flatMap Picture.units) ↔
        ∀ p, pictures[wanted - 1]? = some p → Unbroken p.rest) := by
  induction pictures generalizing frames wanted with
  | nil => exact ⟨[], Keeps.nil _ _, by simp⟩
  | cons p pictures ih =>
      have here := proper p (by simp)
      have others : ∀ q ∈ pictures, ∀ nal ∈ q.units, nal ≠ [] :=
        fun q member => proper q (by simp [member])
      have rest : ∀ nal ∈ p.rest, nal ≠ [] := fun nal member =>
        here nal (by simp [Picture.units, member])
      have split : (p :: pictures).flatMap Picture.units =
          p.before ++ p.first :: (p.rest ++ pictures.flatMap Picture.units) := by
        simp [Picture.units]
      obtain ⟨wanted, rfl⟩ : ∃ w, wanted = w + 1 := ⟨wanted - 1, by omega⟩
      have count : frames + (wanted + 1) = frames + 1 + wanted := by omega
      cases wanted with
      | zero =>
          obtain ⟨behind, tail, none⟩ := keeps_behind (Nat.succ_pos frames) others
          obtain ⟨kept, keeps, same⟩ :=
            keeps_rest (Nat.succ_pos frames) rest p.rest_later tail none
          refine ⟨p.before ++ p.first :: kept, ?_, ?_⟩
          · rw [split]
            exact keeps.picture here (by omega)
          · have whole : ((p :: pictures).take (0 + 1)).flatMap Picture.units =
                p.before ++ p.first :: p.rest := by simp [Picture.units]
            have first (units : List Bytes) : slicesOf (p.first :: units) = p.first :: slicesOf units :=
              List.filter_cons_of_pos (by simpa using p.first_slice)
            rw [whole, slicesOf_append, slicesOf_append, List.append_cancel_left_eq, first, first,
              List.cons.injEq, and_iff_right rfl, same]
            simp
      | succ wanted =>
          obtain ⟨kept, keeps, same⟩ := @ih (frames + 1) (wanted + 1)
            (Nat.succ_pos wanted) others
          refine ⟨p.before ++ p.first :: (p.rest ++ kept), ?_, ?_⟩
          · rw [split, count]
            refine Keeps.picture here (by omega) ?_
            exact keeps.inside rest p.rest_later (by omega)
          · have whole : ((p :: pictures).take (wanted + 1 + 1)).flatMap Picture.units =
                p.before ++ p.first :: (p.rest ++
                  (pictures.take (wanted + 1)).flatMap Picture.units) := by simp [Picture.units]
            have prior (units : List Bytes) : p.before ++ p.first :: (p.rest ++ units) =
                p.units ++ units := by simp [Picture.units]
            rw [whole, prior, prior, slicesOf_append, slicesOf_append, List.append_cancel_left_eq,
              same]
            rfl

/-! ## The file -/

/-- What is written of plain units determines them. -/
theorem annexB_inj {kept kept' : List Bytes} (plain : ∀ nal ∈ kept, Plain nal)
    (plain' : ∀ nal ∈ kept', Plain nal) (same : annexB kept = annexB kept') : kept = kept' := by
  rw [← nals_annexB plain, same, nals_annexB plain']

/-- `cut` keeps whole pictures exactly when no other unit stands between slices of the last one. -/
theorem cut_whole_iff {units : List Framed} (plain : ∀ f ∈ units, Plain f.nal) (tail : Nat)
    {pictures : List Picture} (split : units.map Framed.nal = pictures.flatMap Picture.units)
    {n : Nat} (one : 1 ≤ n) :
    ∃ out said, cut (byteStream units tail) n = .ok (out, said) ∧
      (Whole pictures n out ↔ ∀ p, pictures[n - 1]? = some p → Unbroken p.rest) := by
  have each : ∀ nal ∈ pictures.flatMap Picture.units, Plain nal := by
    intro nal member
    rw [← split] at member
    obtain ⟨f, present, rfl⟩ := List.mem_map.mp member
    exact plain f present
  have proper : ∀ p ∈ pictures, ∀ nal ∈ p.units, nal ≠ [] := fun p member nal inside =>
    (each nal (List.mem_flatMap.mpr ⟨p, member, inside⟩)).nonempty
  obtain ⟨kept, keeps, same⟩ := @keeps_pictures pictures 0 n one proper
  obtain ⟨frames, ran⟩ := keeps.2 []
  rw [Nat.zero_add, List.nil_append] at ran
  refine ⟨annexB kept, if (frames : Int) ≤ n then frames else n, ?_, ?_⟩
  · rw [cut, nals_byteStream plain, split, ran]
    rfl
  · rw [← same]
    constructor
    · rintro ⟨kept', front, written, slices⟩
      have equal : kept' = kept :=
        annexB_inj (fun nal member => each nal (front.subset member))
          (fun nal member => each nal (keeps.1.subset member)) written.symm
      rwa [equal] at slices
    · intro slices
      exact ⟨kept, keeps.1, rfl, slices⟩

/-! ## A picture with filler data in it -/

/-- Two slices with filler data between them. -/
def filled : Picture where
  before := []
  first := [0x65, 0x88]
  rest := [[0x0C, 0xFF, 0x80], [0x65, 0x48]]
  before_other := by decide
  first_slice := by decide
  first_zero := by decide +kernel
  rest_later := by
    intro nal member slice
    have second : nal = [0x65, 0x48] := by
      simp only [List.mem_cons, List.not_mem_nil, or_false] at member
      rcases member with rfl | rfl
      · exact absurd slice (by decide)
      · rfl
    subst second
    exact ⟨1, by decide, by decide, by decide +kernel⟩

def filledStream : List Framed :=
  [⟨0, true, [0x65, 0x88]⟩, ⟨0, true, [0x0C, 0xFF, 0x80]⟩, ⟨0, true, [0x65, 0x48]⟩]

theorem filledStream_plain : ∀ f ∈ filledStream, Plain f.nal := by
  intro f member
  simp only [filledStream, List.mem_cons, List.not_mem_nil, or_false] at member
  rcases member with rfl | rfl | rfl
  all_goals exact ⟨by decide, by decide, by decide⟩

/-- The second slice of the only picture is not written. -/
theorem cut_loses_slice :
    filledStream.map Framed.nal = [filled].flatMap Picture.units ∧
      (∀ f ∈ filledStream, Plain f.nal) ∧
      cut (byteStream filledStream 0) 1 = .ok ([0, 0, 0, 1, 0x65, 0x88], 1) ∧
      ¬ Whole [filled] 1 [0, 0, 0, 1, 0x65, 0x88] := by
  refine ⟨rfl, filledStream_plain, by decide +kernel, ?_⟩
  rintro ⟨kept, front, written, slices⟩
  have each : ∀ nal ∈ kept, Plain nal := by
    intro nal member
    obtain ⟨f, present, rfl⟩ := List.mem_map.mp
      (show nal ∈ filledStream.map Framed.nal from front.subset member)
    exact filledStream_plain f present
  have one : kept = [[0x65, 0x88]] := by
    rw [← nals_annexB each, ← written]
    decide +kernel
  rw [one] at slices
  exact absurd slices (by decide +kernel)

/-- The same slices with supplemental information between them. -/
def informed : Picture where
  before := []
  first := [0x65, 0x88]
  rest := [[0x06, 0x05, 0x80], [0x65, 0x48]]
  before_other := by decide
  first_slice := by decide
  first_zero := by decide +kernel
  rest_later := by
    intro nal member slice
    simp only [List.mem_cons, List.not_mem_nil, or_false] at member
    rcases member with rfl | rfl
    · exact absurd slice (by decide)
    · exact ⟨1, by decide, by decide, by decide +kernel⟩

/-- Two such pictures. -/
def informedStream : List Framed :=
  [⟨0, true, [0x65, 0x88]⟩, ⟨0, false, [0x06, 0x05, 0x80]⟩, ⟨0, false, [0x65, 0x48]⟩,
    ⟨0, true, [0x65, 0x88]⟩, ⟨0, false, [0x06, 0x05, 0x80]⟩, ⟨0, false, [0x65, 0x48]⟩]

/-- The first of them is kept whole. -/
theorem cut_whole_iff_informed :
    ∃ out said, cut (byteStream informedStream 0) (1 : Nat) = .ok (out, said) ∧
      Whole [informed, informed] 1 out := by
  have plain : ∀ f ∈ informedStream, Plain f.nal := by
    intro f member
    simp only [informedStream, List.mem_cons, List.not_mem_nil, or_false] at member
    rcases member with rfl | rfl | rfl | rfl | rfl | rfl
    all_goals exact ⟨by decide, by decide, by decide⟩
  have unbroken : Unbroken informed.rest := by
    unfold Unbroken informed
    decide
  obtain ⟨out, said, ran, whole⟩ := @cut_whole_iff informedStream plain 0 [informed, informed] rfl 1
    (Nat.le_refl 1)
  refine ⟨out, said, ran, whole.mpr fun p present => ?_⟩
  cases present
  exact unbroken

end NalInfo
