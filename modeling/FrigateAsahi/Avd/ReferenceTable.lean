import FrigateAsahi.Avd.HeaderRoundTrip
import FrigateAsahi.Avd.ReferenceSlots

/-!
# References count through the header

A reference names an entry of the `dpb`, while the header has the `VALID` entries one after the other
and no number with them. Counted through the header, a reference comes to its own entry if and only if
no entry before it was left out.
-/

namespace Avd

open BitField Reader

/-! ## Positions -/

section Positions

variable (p : Nat → Bool)

/-- Of the numbers from zero on at most as many are kept as there are, and all only if all are. -/
theorem length_filter_range (n : Nat) : ((List.range n).filter p).length ≤ n ∧
    (((List.range n).filter p).length = n ↔ ∀ j < n, p j = true) := by
  refine ⟨(List.length_filter_le p _).trans_eq List.length_range, ?_⟩
  have all := List.length_filter_eq_length_iff (p := p) (l := List.range n)
  rw [List.length_range] at all
  rw [all]
  simp only [List.mem_range]

/-- What is kept up to a number is kept altogether. -/
theorem lt_length_filter_range {n k : Nat} (inside : k < n) (valid : ∀ j ≤ k, p j = true) :
    k < ((List.range n).filter p).length := by
  have whole := (length_filter_range p (k + 1)).2.mpr fun j below =>
    valid j (Nat.le_of_lt_succ below)
  have kept : ((List.range (k + 1)).filter p).Sublist ((List.range n).filter p) :=
    (List.range_sublist.mpr inside).filter p
  calc k < k + 1 := Nat.lt_succ_self k
    _ = ((List.range (k + 1)).filter p).length := whole.symm
    _ ≤ ((List.range n).filter p).length := kept.length_le

theorem getElem?_filter_range (n k : Nat) :
    ((List.range n).filter p)[k]? = some k ↔ k < n ∧ ∀ j ≤ k, p j = true := by
  induction n with
  | zero => simp
  | succ n ih =>
      obtain ⟨short, full⟩ := length_filter_range p n
      rw [List.range_succ, List.filter_append, List.getElem?_append]
      split
      · next inside =>
          rw [ih]
          constructor
          · intro found
            exact ⟨Nat.lt_succ_of_lt found.1, found.2⟩
          · intro found
            exact ⟨Nat.lt_of_lt_of_le inside short, found.2⟩
      · next outside =>
          -- Counting has come to the last number, so nothing before it may have been left out.
          cases kept : p n with
          | false =>
              rw [List.filter_cons_of_neg (by simp [kept]), List.filter_nil, List.getElem?_nil]
              refine ⟨nofun, fun found => ?_⟩
              rcases Nat.lt_or_eq_of_le (Nat.le_of_lt_succ found.1) with below | last
              · exact absurd (lt_length_filter_range p below found.2) outside
              · rw [← last, found.2 k le_rfl] at kept
                cases kept
          | true =>
              rw [List.filter_cons_of_pos kept, List.filter_nil, List.getElem?_singleton]
              constructor
              · intro found
                split at found
                · next zero =>
                    obtain rfl := Option.some.inj found
                    refine ⟨Nat.lt_succ_self n, fun j upTo => ?_⟩
                    rcases Nat.lt_or_eq_of_le upTo with below | rfl
                    · exact full.mp (by omega) j below
                    · exact kept
                · cases found
              · intro found
                rcases Nat.lt_or_eq_of_le (Nat.le_of_lt_succ found.1) with below | last
                · exact absurd (lt_length_filter_range p below found.2) outside
                · have whole := full.mpr fun j below => found.2 j (by omega)
                  rw [last, whole, Nat.sub_self]
                  rfl

end Positions

/-! ## The table of a frame -/

variable {v : StreamVariant} {run : FrameRun}

theorem programmed_predicted {first : Run} (predicted : first.decode_params.isIdr = false) :
    programmed (some first) =
      (List.range V4L2_H264_NUM_DPB_ENTRIES).filter first.decode_params.hasValid := by
  simp [programmed, predicted]

/-- The same entries as in the model of whole runs. -/
theorem validEntries_programmed (predicted : run.decode_params.isIdr = false) :
    run.validEntries.map Fin.val = programmed (some run.toRun) := by
  have same : (fun i => (run.decode_params.dpb.get i).isValid) =
      run.decode_params.hasValid ∘ Fin.val := by
    funext i
    simp [DecodeParams.hasValid, Vector.get]
  rw [programmed_predicted predicted, ← List.map_coe_finRange_eq_range, List.filter_map, ← same]
  rfl

/-- The header that is read has the entries of the frame, and each reference of a slice comes to its
own one if and only if none was left out before one that is referred to. -/
theorem references_resolve_iff (range : run.InRange v) (predicted : run.decode_params.isIdr = false)
    (slices : List SliceRun) :
    ∃ header : Header, ∃ refs : Refs,
      Reads (readHdr v run.validEntries.length) (hdrWords v run) header ∧
      header.refs = some refs ∧
      (∀ k i : Nat, (programmed (some run.toRun))[k]? = some i →
        ∃ entry : Fin V4L2_H264_NUM_DPB_ENTRIES, entry.val = i ∧
          refs.entries[k]? = some (run.refInfo v.lsr entry)) ∧
      ((∀ slice ∈ slices, ∀ i ∈ slice.references, (programmed (some run.toRun))[i]? = some i) ↔
        ∀ slice ∈ slices, ∀ i ∈ slice.references, ∀ j ≤ i, run.decode_params.hasValid j = true) := by
  refine ⟨run.header v, run.refs v.lsr, reads_hdr range, ?_, ?_, ?_⟩
  · simp [FrameRun.header, predicted]
  · intro k i found
    rw [← validEntries_programmed predicted, List.getElem?_map, Option.map_eq_some_iff] at found
    obtain ⟨entry, there, same⟩ := found
    refine ⟨entry, same, ?_⟩
    rw [FrameRun.refs, List.getElem?_map, there]
    rfl
  · have table (i : Nat) : (programmed (some run.toRun))[i]? = some i ↔
        ∀ j ≤ i, run.decode_params.hasValid j = true := by
      rw [programmed_predicted predicted, getElem?_filter_range]
      exact and_iff_right_of_imp fun valid => hasValid_lt (valid i le_rfl)
    simp only [table]

theorem references_resolve_fade : ∃ header : Header, ∃ refs : Refs,
    Reads (readHdr t8112 fadeFrame.validEntries.length) (hdrWords t8112 fadeFrame) header ∧
    header.refs = some refs ∧
    (∀ k i : Nat, (programmed (some fadeFrame.toRun))[k]? = some i →
      ∃ entry : Fin V4L2_H264_NUM_DPB_ENTRIES, entry.val = i ∧
        refs.entries[k]? = some (fadeFrame.refInfo t8112.lsr entry)) ∧
    ¬ ∀ slice ∈ [Vp.fadeSlice], ∀ i ∈ slice.references,
      (programmed (some fadeFrame.toRun))[i]? = some i := by
  obtain ⟨header, refs, read, there, table, iff⟩ :=
    references_resolve_iff fadeFrame_inRange rfl [Vp.fadeSlice]
  refine ⟨header, refs, read, there, table, fun resolved => ?_⟩
  -- The second reference is to the fourth entry, which is the second one in the header.
  have kept := iff.mp resolved Vp.fadeSlice (List.mem_singleton_self _) 3 (by decide) 1 (by decide)
  revert kept
  decide

end Avd
