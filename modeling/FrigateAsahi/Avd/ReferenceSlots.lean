import FrigateAsahi.Avd.Driver

/-!
# References to slots that have a header

The check looks at the controls of the slice it is about. The headers come from the controls of the
slice that started the frame, unless that was an IDR picture, and there are none if it was not
accepted. A slice refers only to slots with a header exactly when these agree on its references.
-/

namespace Avd

open Machines

variable {κ : Type} [DecidableEq κ]

/-! ## The header of a frame -/

/-- The entries that the header of a frame has when this slice started it. -/
def programmed : Option Run → List Nat
  | some first =>
      if first.decode_params.isIdr then
        []
      else
        (List.range V4L2_H264_NUM_DPB_ENTRIES).filter first.decode_params.hasValid
  | none => []

theorem mem_programmed {first : Option Run} {i : Nat} : i ∈ programmed first ↔
    ∃ f, first = some f ∧ f.decode_params.isIdr = false ∧ f.decode_params.hasValid i = true := by
  cases first with
  | none => simp [programmed]
  | some f =>
      unfold programmed
      cases idr : f.decode_params.isIdr with
      | true => simp [idr]
      | false =>
          have bound := @hasValid_lt f.decode_params i
          simp only [Bool.false_eq_true, ↓reduceIte, List.mem_filter, List.mem_range,
            Option.some.injEq, exists_eq_left', idr, true_and]
          exact ⟨fun both => both.2, fun valid => ⟨bound valid, valid⟩⟩

theorem streamHdr_headers (run : Run) :
    (streamHdr run).filterMap Instruction.header = programmed (some run) := by
  unfold streamHdr programmed streamRefs
  cases idr : run.decode_params.isIdr with
  | true => simp [idr]
  | false =>
      simp only [idr, Bool.not_false, ↓reduceIte, List.filterMap_map]
      exact List.filterMap_some

theorem streamHdr_references (run : Run) :
    (streamHdr run).filterMap Instruction.reference = [] := by
  unfold streamHdr streamRefs
  split
  · rw [List.filterMap_map]
    exact List.filterMap_none _
  · rfl

/-- Every frame has the headers that its first slice gave it. -/
def HeadersKept (s : State κ) : Prop := ∀ c, (s.frame c).headers = programmed (s.frame c).first

theorem after_headers {v : Variant} {avd : Dev} {ctx : Ctx} {run : Run} {polled : Bool}
    {outcome : Outcome} {frame : Frame} (handled : Handled v avd ctx run polled outcome)
    (kept : frame.headers = programmed frame.first) :
    (frame.after run outcome).headers = programmed (frame.after run outcome).first := by
  unfold Frame.after
  cases handled with
  | refused _ =>
      split
      · rfl
      · exact kept
  | full _ _ new _ _ =>
      rw [if_pos new]
      rfl
  | opened i j pushed _ new _ _ _ pushes =>
      rw [if_pos new]
      change (streamHdr run ++ pushed).filterMap Instruction.header = programmed (some run)
      rw [List.filterMap_append, streamHdr_headers, pushes.headers, List.append_nil]
  | unassigned _ later _ =>
      rw [later]
      exact kept
  | continued _ _ later _ _ =>
      rw [later]
      exact kept

theorem stepped_headers {v : Variant} {s t : State κ} {e : Event κ} (kept : HeadersKept s)
    (step : Stepped v s e t) : HeadersKept t := by
  intro d
  cases step with
  | request c run polled outcome _ handled =>
      change (Function.update s.frame c _ d).headers = programmed (Function.update s.frame c _ d).first
      by_cases same : d = c
      · subst same
        rw [Function.update_self]
        exact after_headers handled (kept d)
      · rw [Function.update_of_ne same]
        exact kept d
  | vpDone _ _ _ => exact kept d
  | ppDone c _ _ =>
      change (Function.update s.frame c _ d).headers = programmed (Function.update s.frame c _ d).first
      by_cases same : d = c
      · subst same
        rw [Function.update_self]
        exact kept d
      · rw [Function.update_of_ne same]
        exact kept d
  | noted _ => exact kept d
  | watchdog _ _ _ => exact kept d

theorem run_headers {v : Variant} {events : List (Event κ)} {s : State κ}
    (ran : run (next v) State.init events = some s) : HeadersKept s :=
  run_preserves (fun kept taken => stepped_headers kept (next_stepped taken)) (fun _ => rfl) ran

/-! ## Accepted slices -/

theorem accepted_references {v : Variant} {avd : Dev} {ctx : Ctx} {run : Run} {polled : Bool}
    {outcome : Outcome} {accepted : Accepted} (handled : Handled v avd ctx run polled outcome)
    (ok : outcome.ret = .ok accepted) :
    outcome.pushed.filterMap Instruction.reference = run.references := by
  cases handled with
  | opened i j pushed _ _ _ _ _ pushes =>
      rw [List.filterMap_append, streamHdr_references, pushes.references, List.nil_append]
  | continued pushed _ _ _ pushes => exact pushes.references
  | refused _ => cases ok
  | full _ _ _ _ _ => cases ok
  | unassigned _ _ _ => cases ok

theorem accepted_first {run : Run} {outcome : Outcome} {accepted : Accepted} {frame : Frame}
    (ok : outcome.ret = .ok accepted) :
    (frame.after run outcome).first = frame.opening run := by
  unfold Frame.after Frame.opening
  split
  · rw [ok]
    rfl
  · rfl

/-- Whatever was submitted before, and whatever the controls of the next slice say, it is handled
without a read outside the lists or the DPB. If it is accepted, each index that its lists are pushed
with has a header of the frame exactly when each of its references is to an entry that was `VALID`
for the slice that started the frame, where that was accepted and no IDR picture. -/
theorem references_have_headers_iff (v : Variant) {events : List (Event κ)} {s : State κ}
    (ran : run (next v) State.init events = some s) (c : κ) (slice : Run) (polled : Bool) :
    ∃ outcome, avdH264Run v s.avd (s.ctx c) slice polled = some outcome ∧
      ∀ accepted, outcome.ret = .ok accepted →
        ((∀ i ∈ outcome.pushed.filterMap Instruction.reference,
            i ∈ ((s.frame c).after slice outcome).headers) ↔
          ∀ i ∈ slice.references, ∃ first, (s.frame c).opening slice = some first ∧
            first.decode_params.isIdr = false ∧ first.decode_params.hasValid i = true) := by
  obtain ⟨outcome, handled, how⟩ := avdH264Run_handled v s.avd (s.ctx c) slice polled
  refine ⟨outcome, handled, ?_⟩
  intro accepted ok
  rw [accepted_references how ok, after_headers how (run_headers ran c), accepted_first ok]
  simp only [mem_programmed]

/-- A slice with one active reference, and the `VALID` entries of its DPB. -/
def sliceWith (mb : UInt32) (type index : UInt8) (valid : List Nat) (hold : Bool) : Run where
  decode_params :=
    { flags := 0
      dpb := Vector.ofFn fun i => ⟨if i.val ∈ valid then V4L2_H264_DPB_ENTRY_FLAG_VALID else 0⟩ }
  slice_params :=
    { first_mb_in_slice := mb
      slice_type := type
      num_ref_idx_l0_active_minus1 := 0
      num_ref_idx_l1_active_minus1 := 0
      ref_pic_list0 := Vector.replicate _ index
      ref_pic_list1 := Vector.replicate _ index }
  hold := hold

/-- After a first slice that was accepted with entry 1 `VALID`. -/
def startedFrame : State Unit :=
  (run (next avd_t8103_variant) State.init
    [.request () (sliceWith 0 V4L2_H264_SLICE_TYPE_P 1 [1] true) true]).getD State.init

theorem references_have_headers_second : ∃ outcome,
    avdH264Run avd_t8103_variant startedFrame.avd (startedFrame.ctx ())
      (sliceWith 8 V4L2_H264_SLICE_TYPE_B 1 [1] false) true = some outcome ∧
    ∀ i ∈ outcome.pushed.filterMap Instruction.reference,
      i ∈ ((startedFrame.frame ()).after (sliceWith 8 V4L2_H264_SLICE_TYPE_B 1 [1] false)
        outcome).headers := by
  have ran : run (next avd_t8103_variant) State.init
      [.request () (sliceWith 0 V4L2_H264_SLICE_TYPE_P 1 [1] true) true] = some startedFrame := rfl
  obtain ⟨outcome, handled, iff⟩ := references_have_headers_iff avd_t8103_variant ran ()
    (sliceWith 8 V4L2_H264_SLICE_TYPE_B 1 [1] false) true
  refine ⟨outcome, handled, ?_⟩
  cases handled
  refine (iff .submitted rfl).mpr fun i member => ?_
  have one : i = 1 := by
    revert i
    decide +kernel
  subst one
  exact ⟨_, rfl, by decide +kernel, by decide +kernel⟩

/-- The first slice of a frame is refused. The context has never decoded, so that its `vp_slot` is
zero and not `NONE`, and the second slice is accepted. It refers to an entry that no header was
streamed for. -/
theorem references_lack_headers :
    ¬ ∀ (v : Variant) (events : List (Event Unit)) (s : State Unit) (slice : Run) (polled : Bool)
        (outcome : Outcome) (accepted : Accepted),
      Obeys (next v) Complete State.init events → run (next v) State.init events = some s →
      Complete s (.request () slice polled) →
      avdH264Run v s.avd (s.ctx ()) slice polled = some outcome → outcome.ret = .ok accepted →
      ∀ i ∈ outcome.pushed.filterMap Instruction.reference,
        i ∈ ((s.frame ()).after slice outcome).headers := by
  intro claim
  have member := claim avd_t8103_variant
    [.request () (sliceWith 0 V4L2_H264_SLICE_TYPE_P 0 [1] true) true] _
    (sliceWith 8 V4L2_H264_SLICE_TYPE_P 1 [1] false) true _ .submitted
    (by decide +kernel) rfl (by decide +kernel) rfl rfl 1 (by decide +kernel)
  revert member
  decide +kernel

end Avd
