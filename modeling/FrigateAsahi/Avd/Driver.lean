import FrigateAsahi.Avd.H264
import FrigateAsahi.Lib.Machine
import Mathlib.Logic.Function.Basic

/-!
# Contexts that share the decoder

The framework runs one job at a time: a slice request of some context is started when no job is
under way, and another one when that one has been finished. Between the slices of a frame the
requests of other contexts may come. A job ends in `avd_device_run` itself, at the interrupt that
says that its frame is done, or in the watchdog. Suspending, resuming and ending a stream are left
out.
-/

namespace Avd

/-! ## Interrupts and the watchdog -/

inductive Irq
  | dbg | ppDone | vpDone | error
  deriving DecidableEq, Repr

/-- The branches on the status that `avd_irq_handler` reads. -/
def irqOf (status : UInt32) : Irq :=
  if status &&& 0x10000 != 0 then
    .dbg
  else if status &&& 0x1000 != 0 then
    .ppDone
  else if status &&& 0x100 != 0 then
    .vpDone
  else
    .error

def avdIrqHandler (avd : Dev) (ctx : Ctx) : Irq → Dev × Ctx
  | .ppDone => freeInstSlot avd ctx
  | .vpDone => freeVpSlot avd ctx
  | .dbg => (avd, ctx)
  | .error => (avd, ctx)

def avdReset (_ : Dev) : Dev := ⟨∅, ∅⟩

def avdWatchdogFunc (avd : Dev) (ctx : Ctx) : Dev × Ctx :=
  let (avd, ctx) := freeVpSlot avd ctx
  let (avd, ctx) := freeInstSlot avd ctx
  (avdReset avd, ctx)

/-! ## The state of a run -/

/-- What a job that has not been finished waits for: a held slice that was not parsed in time for
the watchdog, a last slice for the end of the VP and then of the PP, or for the watchdog. -/
inductive Stage
  | timedOut | submitted | vpDone
  deriving DecidableEq, Repr

/-- Of the frame that a context is in, beside what the driver keeps itself. -/
structure Frame : Type where
  /-- Slices of it are still to come. -/
  midway : Bool
  /-- The slice that started it, if that was accepted. -/
  first : Option Run
  /-- The DPB entries that its header was streamed with. -/
  headers : List Nat
  /-- It holds the slots that it was given. -/
  taken : Bool

def Frame.none : Frame := ⟨false, Option.none, [], false⟩

structure State (κ : Type) : Type where
  avd : Dev
  ctx : κ → Ctx
  job : Option (κ × Stage)
  frame : κ → Frame

def State.init {κ : Type} : State κ := ⟨⟨∅, ∅⟩, fun _ => avdOpen, none, fun _ => Frame.none⟩

/-! ## Steps -/

inductive Event (κ : Type)
  | request (c : κ) (run : Run) (polled : Bool)
  | irq (status : UInt32)
  | watchdog

/-- The slice that started the frame of an accepted slice. -/
def Frame.opening (frame : Frame) (run : Run) : Option Run :=
  if isNewFrame run.slice_params then some run else frame.first

def Frame.after (frame : Frame) (run : Run) (outcome : Outcome) : Frame :=
  if isNewFrame run.slice_params then
    { midway := run.hold
      first := if outcome.ret.isOk then some run else Option.none
      headers := outcome.pushed.filterMap Instruction.header
      taken := frame.taken || outcome.ret.isOk }
  else
    { frame with midway := run.hold }

def Frame.released (frame : Frame) : Frame := { frame with taken := false }

/-- A refused slice, and a held one that was parsed, end their job at once. -/
def jobAfter {κ : Type} (c : κ) : Except Errno Accepted → Option (κ × Stage)
  | .error _ => none
  | .ok .parsed => none
  | .ok .timedOut => some (c, .timedOut)
  | .ok .submitted => some (c, .submitted)

variable {κ : Type} [DecidableEq κ]

def avdDeviceRun (s : State κ) (c : κ) (run : Run) (outcome : Outcome) : State κ where
  avd := outcome.avd
  ctx := Function.update s.ctx c outcome.ctx
  job := jobAfter c outcome.ret
  frame := Function.update s.frame c ((s.frame c).after run outcome)

/-- An interrupt about another stage than the job's does not come. -/
def irqStep (s : State κ) (irq : Irq) : Option (State κ) :=
  match s.job, irq with
  | some (c, .submitted), .vpDone =>
      let (avd, ctx) := avdIrqHandler s.avd (s.ctx c) .vpDone
      some { s with avd := avd, ctx := Function.update s.ctx c ctx, job := some (c, .vpDone) }
  | some (c, .vpDone), .ppDone =>
      let (avd, ctx) := avdIrqHandler s.avd (s.ctx c) .ppDone
      some { avd := avd, ctx := Function.update s.ctx c ctx, job := none
             frame := Function.update s.frame c (s.frame c).released }
  | _, .dbg => some s
  | _, .error => some s
  | _, _ => none

/-- The reset takes the slots of every context. -/
def watchdogStep (s : State κ) : Option (State κ) :=
  s.job.map fun (c, _) =>
    let (avd, ctx) := avdWatchdogFunc s.avd (s.ctx c)
    { avd := avd, ctx := Function.update s.ctx c ctx, job := none
      frame := fun d => (s.frame d).released }

def next (v : Variant) (s : State κ) : Event κ → Option (State κ)
  | .request c run polled =>
      match s.job with
      | none => (avdH264Run v s.avd (s.ctx c) run polled).map (avdDeviceRun s c run)
      | some _ => none
  | .irq status => irqStep s (irqOf status)
  | .watchdog => watchdogStep s

/-- A frame is started at macroblock 0, and goes on until a slice that is not held. -/
def Complete (s : State κ) : Event κ → Prop
  | .request c run _ => (s.frame c).midway = false → isNewFrame run.slice_params = true
  | .irq _ => True
  | .watchdog => True

instance (s : State κ) : ∀ e, Decidable (Complete s e)
  | .request _ _ _ => inferInstanceAs (Decidable (_ → _))
  | .irq _ => inferInstanceAs (Decidable True)
  | .watchdog => inferInstanceAs (Decidable True)

/-! ## What a step can do -/

/-- One event, by what the driver makes of it. -/
inductive Stepped (v : Variant) (s : State κ) : Event κ → State κ → Prop
  | request (c : κ) (run : Run) (polled : Bool) (outcome : Outcome) : s.job = none →
    Handled v s.avd (s.ctx c) run polled outcome →
    Stepped v s (.request c run polled) (avdDeviceRun s c run outcome)
  | vpDone (c : κ) (status : UInt32) : s.job = some (c, .submitted) →
    Stepped v s (.irq status)
      { s with avd := (freeVpSlot s.avd (s.ctx c)).1
               ctx := Function.update s.ctx c (freeVpSlot s.avd (s.ctx c)).2
               job := some (c, .vpDone) }
  | ppDone (c : κ) (status : UInt32) : s.job = some (c, .vpDone) →
    Stepped v s (.irq status)
      { avd := (freeInstSlot s.avd (s.ctx c)).1
        ctx := Function.update s.ctx c (freeInstSlot s.avd (s.ctx c)).2
        job := none
        frame := Function.update s.frame c (s.frame c).released }
  | noted (status : UInt32) : Stepped v s (.irq status) s
  | watchdog (c : κ) (stage : Stage) : s.job = some (c, stage) →
    Stepped v s .watchdog
      { avd := ⟨∅, ∅⟩
        ctx := Function.update s.ctx c ⟨none, none⟩
        job := none
        frame := fun d => (s.frame d).released }

theorem next_stepped {v : Variant} {s t : State κ} {e : Event κ} (taken : next v s e = some t) :
    Stepped v s e t := by
  cases e with
  | request c run polled =>
      simp only [next] at taken
      cases job : s.job with
      | some under =>
          rw [job] at taken
          cases taken
      | none =>
          obtain ⟨outcome, handled, how⟩ := avdH264Run_handled v s.avd (s.ctx c) run polled
          rw [job, handled] at taken
          cases taken
          exact .request c run polled outcome job how
  | irq status =>
      simp only [next] at taken
      unfold irqStep at taken
      split at taken
      · rename_i c job _
        cases taken
        exact .vpDone c status job
      · rename_i c job _
        cases taken
        exact .ppDone c status job
      · cases taken
        exact .noted status
      · cases taken
        exact .noted status
      · cases taken
  | watchdog =>
      simp only [next, watchdogStep] at taken
      cases job : s.job with
      | none =>
          rw [job] at taken
          cases taken
      | some under =>
          obtain ⟨c, stage⟩ := under
          rw [job] at taken
          cases taken
          exact .watchdog c stage job

end Avd
