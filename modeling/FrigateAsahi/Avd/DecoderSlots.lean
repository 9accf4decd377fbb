import FrigateAsahi.Avd.ReferenceSlots
import Mathlib.Data.Fintype.Basic

/-!
# Who gives the slots back

A frame takes a VP slot and an instruction FIFO with its first slice, and the interrupts of its last
slice give them back, or the watchdog. A last slice that the check refuses has no interrupts and no
watchdog, and what its frame holds stays taken. As long as that does not happen, everything has been
given back when nothing is under way.
-/

namespace Avd

open Machines

variable {κ : Type} [DecidableEq κ]

/-! ## Who holds what -/

/-- Every slot that is taken is held by a frame that will still give it back. -/
structure Held (s : State κ) : Prop where
  vp : ∀ i ∈ s.avd.vp_slots, ∃ c, (s.frame c).taken = true ∧ (s.ctx c).vp_slot = some i
  fifo : ∀ j ∈ s.avd.inst_fifo_slots, ∃ c, (s.frame c).taken = true ∧ (s.ctx c).fifo_idx = some j
  pending : ∀ c, (s.frame c).taken = true →
    (s.frame c).midway = true ∨ ∃ stage, s.job = some (c, stage)
  assigned : ∀ c, (s.frame c).taken = true → s.job ≠ some (c, .vpDone) →
    (s.ctx c).vp_slot ≠ none
  vp_freed : ∀ c, s.job = some (c, .vpDone) → (s.ctx c).vp_slot = none

omit [DecidableEq κ] in
theorem held_init : Held (State.init : State κ) where
  vp := nofun
  fifo := nofun
  pending := nofun
  assigned := nofun
  vp_freed := nofun

/-- While its frame holds slots, a context does not start another frame where a VP slot is free for
it, nor does it end this one with a slice that the check refuses or that starts a frame. -/
def KeepsSlots (v : Variant) (s : State κ) : Event κ → Prop
  | .request c run _ => (s.frame c).taken = true →
      (isNewFrame run.slice_params = true → run.RefsValid → ¬ VpSlotFree v s.avd .H264) ∧
        (run.hold = false → isNewFrame run.slice_params = false ∧ run.RefsValid)
  | .irq _ => True
  | .watchdog => True

instance (v : Variant) (s : State κ) : ∀ e, Decidable (KeepsSlots v s e)
  | .request _ _ _ => inferInstanceAs (Decidable (_ → _))
  | .irq _ => inferInstanceAs (Decidable True)
  | .watchdog => inferInstanceAs (Decidable True)

theorem after_midway (frame : Frame) (run : Run) (outcome : Outcome) :
    (frame.after run outcome).midway = run.hold := by
  unfold Frame.after
  split
  · rfl
  · rfl

theorem after_taken (frame : Frame) (run : Run) (outcome : Outcome) :
    (frame.after run outcome).taken =
      (frame.taken || (isNewFrame run.slice_params && outcome.ret.isOk)) := by
  unfold Frame.after
  cases isNewFrame run.slice_params with
  | true => rfl
  | false => simp

omit [DecidableEq κ] in
theorem jobAfter_ne_vpDone (c d : κ) (ret : Except Errno Accepted) :
    jobAfter c ret ≠ some (d, .vpDone) := by
  unfold jobAfter
  split
  all_goals nofun

omit [DecidableEq κ] in
theorem jobAfter_last (c : κ) {run : Run} (polled : Bool) (last : run.hold = false) :
    jobAfter c (.ok (run.accepted polled)) = some (c, .submitted) := by
  unfold Run.accepted
  rw [last]
  rfl

/-- A request after which the bitmaps are what they were: if its frame holds slots, nothing about
them has changed and it will still give them back. -/
theorem held_same {s : State κ} {c : κ} {run : Run} {outcome : Outcome} (held : Held s)
    (idle : s.job = none) (avd : outcome.avd = s.avd)
    (taken : ((s.frame c).after run outcome).taken = (s.frame c).taken)
    (kept : (s.frame c).taken = true → outcome.ctx = s.ctx c)
    (pending : (s.frame c).taken = true →
      run.hold = true ∨ ∃ stage, jobAfter c outcome.ret = some (c, stage)) :
    Held (avdDeviceRun s c run outcome) := by
  have frame : ∀ d, (Function.update s.frame c ((s.frame c).after run outcome) d).taken =
      (s.frame d).taken := by
    intro d
    by_cases same : d = c
    · subst same
      rw [Function.update_self, taken]
    · rw [Function.update_of_ne same]
  have ctx : ∀ d, (s.frame d).taken = true →
      Function.update s.ctx c outcome.ctx d = s.ctx d := by
    intro d holds
    by_cases same : d = c
    · subst same
      rw [Function.update_self, kept holds]
    · rw [Function.update_of_ne same]
  unfold avdDeviceRun
  constructor
  · intro i bit
    dsimp only at bit ⊢
    rw [avd] at bit
    obtain ⟨d, holds, slot⟩ := held.vp i bit
    exact ⟨d, by rw [frame, holds], by rw [ctx d holds, slot]⟩
  · intro j bit
    dsimp only at bit ⊢
    rw [avd] at bit
    obtain ⟨d, holds, slot⟩ := held.fifo j bit
    exact ⟨d, by rw [frame, holds], by rw [ctx d holds, slot]⟩
  · intro d holds
    dsimp only at holds ⊢
    rw [frame] at holds
    by_cases same : d = c
    · subst same
      rw [Function.update_self, after_midway]
      exact pending holds
    · rw [Function.update_of_ne same]
      rcases held.pending d holds with midway | ⟨stage, job⟩
      · exact .inl midway
      · rw [idle] at job
        cases job
  · intro d holds _
    dsimp only at holds ⊢
    rw [frame] at holds
    rw [ctx d holds]
    exact held.assigned d holds (by rw [idle]; nofun)
  · intro d job
    exact absurd job (jobAfter_ne_vpDone c d outcome.ret)

/-- A request that is given slots which were free. -/
theorem held_opened {s : State κ} {c : κ} {run : Run} {polled : Bool} {i j : Nat}
    {pushed : List Instruction} (held : Held s) (idle : s.job = none)
    (new : isNewFrame run.slice_params = true) (free : (s.frame c).taken = false) :
    Held (avdDeviceRun s c run ⟨.ok (run.accepted polled),
      ⟨insert i s.avd.vp_slots, insert j s.avd.inst_fifo_slots⟩, ⟨some i, some j⟩, pushed⟩) := by
  have other : ∀ {d}, (s.frame d).taken = true → d ≠ c := by
    intro d holds same
    rw [same, free] at holds
    cases holds
  have taken : ∀ outcome : Outcome, outcome.ret = .ok (run.accepted polled) →
      ((s.frame c).after run outcome).taken = true := by
    intro outcome ok
    rw [after_taken, new, ok, free]
    rfl
  unfold avdDeviceRun
  constructor
  · intro k bit
    dsimp only at bit ⊢
    rcases Finset.mem_insert.mp bit with rfl | bit
    · refine ⟨c, ?_, ?_⟩
      · rw [Function.update_self]
        exact taken _ rfl
      · rw [Function.update_self]
    · obtain ⟨d, holds, slot⟩ := held.vp k bit
      exact ⟨d, by rw [Function.update_of_ne (other holds), holds],
        by rw [Function.update_of_ne (other holds), slot]⟩
  · intro k bit
    dsimp only at bit ⊢
    rcases Finset.mem_insert.mp bit with rfl | bit
    · refine ⟨c, ?_, ?_⟩
      · rw [Function.update_self]
        exact taken _ rfl
      · rw [Function.update_self]
    · obtain ⟨d, holds, slot⟩ := held.fifo k bit
      exact ⟨d, by rw [Function.update_of_ne (other holds), holds],
        by rw [Function.update_of_ne (other holds), slot]⟩
  · intro d holds
    dsimp only at holds ⊢
    by_cases same : d = c
    · subst same
      rw [Function.update_self, after_midway]
      cases hold : run.hold with
      | true => exact .inl rfl
      | false => exact .inr ⟨.submitted, jobAfter_last d polled hold⟩
    · rw [Function.update_of_ne same] at holds ⊢
      rcases held.pending d holds with midway | ⟨stage, job⟩
      · exact .inl midway
      · rw [idle] at job
        cases job
  · intro d holds _
    dsimp only at holds ⊢
    by_cases same : d = c
    · subst same
      rw [Function.update_self]
      nofun
    · rw [Function.update_of_ne same] at holds ⊢
      exact held.assigned d holds (by rw [idle]; nofun)
  · intro d job
    exact absurd job (jobAfter_ne_vpDone c d _)

theorem request_held {v : Variant} {s : State κ} {c : κ} {run : Run} {polled : Bool}
    {outcome : Outcome} (held : Held s) (idle : s.job = none)
    (keeps : KeepsSlots v s (.request c run polled))
    (handled : Handled v s.avd (s.ctx c) run polled outcome) :
    Held (avdDeviceRun s c run outcome) := by
  cases handled with
  | refused invalid =>
      refine held_same held idle rfl ?_ (fun _ => rfl) fun holds => .inl ?_
      · rw [after_taken]
        simp [Except.isOk, Except.toBool]
      · by_contra last
        exact invalid ((keeps holds).2 (Bool.eq_false_iff.mpr last)).2
  | full ctx' valid new _ same =>
      refine held_same held idle rfl ?_ (fun holds => same ((keeps holds).1 new valid))
        fun holds => .inl ?_
      · rw [after_taken]
        simp [Except.isOk, Except.toBool]
      · by_contra last
        have later := ((keeps holds).2 (Bool.eq_false_iff.mpr last)).1
        rw [new] at later
        cases later
  | opened i j pushed valid new slots _ _ _ =>
      apply held_opened held idle new
      apply Bool.eq_false_iff.mpr
      intro holds
      exact (keeps holds).1 new valid slots.vp
  | unassigned _ later slot =>
      have free : ¬ (s.frame c).taken = true := fun holds =>
        held.assigned c holds (by rw [idle]; nofun) slot
      refine held_same held idle rfl ?_ (fun _ => rfl) fun holds => absurd holds free
      rw [after_taken, later]
      simp
  | continued pushed _ later _ _ =>
      refine held_same held idle rfl ?_ (fun _ => rfl) fun _ => ?_
      · rw [after_taken, later]
        simp
      · cases hold : run.hold with
        | true => exact .inl rfl
        | false => exact .inr ⟨.submitted, jobAfter_last c polled hold⟩

/-! ## Whole runs -/

theorem clearBit_subset (bits : Finset Nat) (slot : Option Nat) : clearBit bits slot ⊆ bits := by
  cases slot with
  | none => exact Finset.Subset.refl bits
  | some i => exact Finset.erase_subset i bits

theorem not_mem_clearBit (bits : Finset Nat) (i : Nat) : i ∉ clearBit bits (some i) :=
  Finset.notMem_erase i bits

theorem vpDone_held {s : State κ} {c : κ} (held : Held s) (job : s.job = some (c, .submitted)) :
    Held { s with avd := (freeVpSlot s.avd (s.ctx c)).1
                  ctx := Function.update s.ctx c (freeVpSlot s.avd (s.ctx c)).2
                  job := some (c, .vpDone) } := by
  constructor
  · intro i bit
    dsimp only [freeVpSlot] at bit ⊢
    obtain ⟨d, holds, slot⟩ := held.vp i (clearBit_subset _ _ bit)
    have other : d ≠ c := by
      intro same
      subst same
      rw [slot] at bit
      exact not_mem_clearBit _ i bit
    exact ⟨d, holds, by rw [Function.update_of_ne other, slot]⟩
  · intro j bit
    dsimp only [freeVpSlot] at bit ⊢
    obtain ⟨d, holds, slot⟩ := held.fifo j bit
    refine ⟨d, holds, ?_⟩
    by_cases same : d = c
    · subst same
      rw [Function.update_self, slot]
    · rw [Function.update_of_ne same, slot]
  · intro d holds
    rcases held.pending d holds with midway | ⟨stage, pending⟩
    · exact .inl midway
    · rw [job] at pending
      cases pending
      exact .inr ⟨_, rfl⟩
  · intro d holds stage
    dsimp only at stage ⊢
    have other : d ≠ c := fun same => stage (by rw [same])
    rw [Function.update_of_ne other]
    refine held.assigned d holds fun done => ?_
    rw [job] at done
    cases done
  · intro d stage
    cases stage
    dsimp only
    rw [Function.update_self]
    rfl

theorem ppDone_held {s : State κ} {c : κ} (held : Held s) (job : s.job = some (c, .vpDone)) :
    Held { avd := (freeInstSlot s.avd (s.ctx c)).1
           ctx := Function.update s.ctx c (freeInstSlot s.avd (s.ctx c)).2
           job := none
           frame := Function.update s.frame c (s.frame c).released } := by
  have other : ∀ {d}, (Function.update s.frame c (s.frame c).released d).taken = true →
      d ≠ c ∧ (s.frame d).taken = true := by
    intro d holds
    by_cases same : d = c
    · subst same
      rw [Function.update_self] at holds
      cases holds
    · rw [Function.update_of_ne same] at holds
      exact ⟨same, holds⟩
  constructor
  · intro i bit
    dsimp only [freeInstSlot] at bit ⊢
    obtain ⟨d, holds, slot⟩ := held.vp i bit
    have other : d ≠ c := by
      intro same
      subst same
      rw [held.vp_freed d job] at slot
      cases slot
    exact ⟨d, by rw [Function.update_of_ne other, holds],
      by rw [Function.update_of_ne other, slot]⟩
  · intro j bit
    dsimp only [freeInstSlot] at bit ⊢
    obtain ⟨d, holds, slot⟩ := held.fifo j (clearBit_subset _ _ bit)
    have other : d ≠ c := by
      intro same
      subst same
      rw [slot] at bit
      exact not_mem_clearBit _ j bit
    exact ⟨d, by rw [Function.update_of_ne other, holds],
      by rw [Function.update_of_ne other, slot]⟩
  · intro d holds
    obtain ⟨ne, holds⟩ := other holds
    dsimp only
    rw [Function.update_of_ne ne]
    rcases held.pending d holds with midway | ⟨stage, pending⟩
    · exact .inl midway
    · rw [job] at pending
      cases pending
      exact absurd rfl ne
  · intro d holds _
    obtain ⟨ne, holds⟩ := other holds
    dsimp only
    rw [Function.update_of_ne ne]
    refine held.assigned d holds fun done => ?_
    rw [job] at done
    cases done
    exact ne rfl
  · nofun

theorem stepped_held {v : Variant} {s t : State κ} {e : Event κ} (held : Held s)
    (keeps : KeepsSlots v s e) (step : Stepped v s e t) : Held t := by
  cases step with
  | request c run polled outcome idle handled => exact request_held held idle keeps handled
  | vpDone c status job => exact vpDone_held held job
  | ppDone c status job => exact ppDone_held held job
  | noted status => exact held
  | watchdog c stage job =>
      -- the reset has cleared the bitmaps, and nobody holds anything
      exact ⟨nofun, nofun, nofun, nofun, nofun⟩

theorem run_held {v : Variant} {events : List (Event κ)} {s : State κ}
    (keeps : Obeys (next v) (KeepsSlots v) State.init events)
    (ran : run (next v) State.init events = some s) : Held s :=
  run_invariant (fun held keeps taken => stepped_held held keeps (next_stepped taken)) held_init
    keeps ran

/-- Nothing is under way: no job waits for an interrupt or the watchdog, and no frame has slices
still to come. -/
structure Quiet (s : State κ) : Prop where
  idle : s.job = none
  complete : ∀ c, (s.frame c).midway = false

omit [DecidableEq κ] in
theorem Held.released {s : State κ} (held : Held s) (quiet : Quiet s) : s.avd = ⟨∅, ∅⟩ := by
  have none : ∀ c, ¬ (s.frame c).taken = true := by
    intro c holds
    rcases held.pending c holds with midway | ⟨stage, job⟩
    · rw [quiet.complete c] at midway
      cases midway
    · rw [quiet.idle] at job
      cases job
  have vp : s.avd.vp_slots = ∅ := by
    apply Finset.eq_empty_of_forall_notMem
    intro i bit
    obtain ⟨c, holds, _⟩ := held.vp i bit
    exact none c holds
  have fifo : s.avd.inst_fifo_slots = ∅ := by
    apply Finset.eq_empty_of_forall_notMem
    intro j bit
    obtain ⟨c, holds, _⟩ := held.fifo j bit
    exact none c holds
  cases avd : s.avd with
  | mk vp_slots inst_fifo_slots =>
      rw [avd] at vp fifo
      cases vp
      cases fifo
      rfl

/-- With empty bitmaps there is a slot for an H.264 frame. -/
theorem allocSlots_of_empty (v : Variant) (ctx : Ctx) :
    (allocSlots v ⟨∅, ∅⟩ ctx .H264).1 = .ok () := by
  rcases allocSlots_cases v ⟨∅, ∅⟩ ctx .H264 with ⟨full, _⟩ | ⟨_, i, j, _, _, alloc⟩
  · refine absurd ⟨⟨_, le_refl _, ?_, Finset.notMem_empty _⟩,
      ⟨0, v.fifo_slots_pos, Finset.notMem_empty _⟩⟩ full
    have pos := v.vp_slots_pos
    omega
  · rw [alloc]

/-- If no frame that holds slots is ended by a slice that the check refuses, nor started over where a
VP slot is free, then both bitmaps are empty whenever nothing is under way, and the next frame is
given its slots. -/
theorem slots_given_back (v : Variant) {events : List (Event κ)} {s : State κ}
    (keeps : Obeys (next v) (KeepsSlots v) State.init events)
    (ran : run (next v) State.init events = some s) (quiet : Quiet s) :
    s.avd = ⟨∅, ∅⟩ ∧ ∀ ctx, (allocSlots v s.avd ctx .H264).1 = .ok () := by
  have released := (run_held keeps ran).released quiet
  rw [released]
  exact ⟨rfl, allocSlots_of_empty v⟩

/-- Two contexts and one slot: the frame of one goes on while that of the other is turned away. -/
def sharedFrames : List (Event Bool) :=
  [.request true (sliceWith 0 V4L2_H264_SLICE_TYPE_P 1 [1] true) true,
    .request false (sliceWith 0 V4L2_H264_SLICE_TYPE_P 1 [1] false) true,
    .request true (sliceWith 8 V4L2_H264_SLICE_TYPE_P 1 [1] false) true,
    .irq 0x100, .irq 0x1000]

def sharedEnd : State Bool := (run (next avd_t8103_variant) State.init sharedFrames).getD State.init

theorem slots_given_back_shared : sharedEnd.avd = ⟨∅, ∅⟩ ∧
    ∀ ctx, (allocSlots avd_t8103_variant sharedEnd.avd ctx .H264).1 = .ok () :=
  slots_given_back avd_t8103_variant (by decide +kernel)
    (show run (next avd_t8103_variant) State.init sharedFrames = some sharedEnd from rfl)
    ⟨by decide +kernel, by decide +kernel⟩

/-- The second slice of a frame refers to an entry that is not `VALID`. -/
def refusedLast : List (Event Unit) :=
  [.request () (sliceWith 0 V4L2_H264_SLICE_TYPE_P 1 [1] true) true,
    .request () (sliceWith 8 V4L2_H264_SLICE_TYPE_P 0 [1] false) true]

def refusedEnd : State Unit := (run (next avd_t8103_variant) State.init refusedLast).getD State.init

/-- Its frame keeps the slots, and where there is one of them no further frame is decoded. -/
theorem slots_stranded :
    Obeys (next avd_t8103_variant) Complete State.init refusedLast ∧
    run (next avd_t8103_variant) State.init refusedLast = some refusedEnd ∧ Quiet refusedEnd ∧
    refusedEnd.avd ≠ ⟨∅, ∅⟩ ∧
    ∀ ctx, (allocSlots avd_t8103_variant refusedEnd.avd ctx .H264).1 = .error .ENOMEM := by
  refine ⟨by decide +kernel, rfl, ⟨by decide +kernel, by decide +kernel⟩, by decide +kernel, ?_⟩
  have kept : refusedEnd.avd = ⟨{2}, {0}⟩ := by
    decide +kernel
  rw [kept]
  exact fun _ => rfl

end Avd
