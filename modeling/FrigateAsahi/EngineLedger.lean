import FrigateAsahi.Backends.Contract
import FrigateAsahi.Backends.Tracebacks

/-!
# No engine object is lost or used after its release

`Run` is any sequence of calls on a backend, each made after the exception of the one before was
dropped. `run_account` says that nothing is ever used or released that is not in use; that, as long as
no load loses a handle (`Backend.Tight`), what is alive between the calls is what the backend holds;
that the same is so at every moment of a call at which a call returns or raises, those calls included
that the wrapper makes, unless a traceback still keeps a net (`Backend.Prompt`); and that a last close
releases it, unless the engine was closed before and loaded again.
-/

namespace Detector

open Text Python Numpy Interaction

/-! ## The two accounts together -/

structure Ledger : Type where
  engines : Engines
  tracebacks : Tracebacks

namespace Ledger

def start : Ledger := ⟨.start, .start⟩

/-- The nets and handles that are there: those in use, and the nets that only a traceback keeps. -/
def alive (w : Ledger) : List Nat := w.engines.live ++ w.tracebacks.fading

/-- Between two calls: the exception of the last one was dropped. -/
def rest (w : Ledger) : Ledger := ⟨w.engines.forget, .start⟩

def Legal (w : Ledger) : (c : HostCall) → Except PyErr c.Answer → Prop := w.engines.Legal

def note (w : Ledger) (c : HostCall) (r : Except PyErr c.Answer) : Ledger :=
  ⟨w.engines.note c r, w.tracebacks.note c r⟩

theorem Legal.tracebacks {w : Ledger} {c : HostCall} {r : Except PyErr c.Answer}
    (legal : w.Legal c r) : Tracebacks.Legal c r := by
  cases c <;> trivial

end Ledger

def ledger : Env Host Ledger := .noting Ledger.Legal Ledger.note

/-- What holds of a method in each of the two accounts holds of its runs in both. -/
theorem exec_ledger {σ α : Type} {p : HostM σ α} {s s' : σ} {w w' : Ledger} {r : Except PyErr α}
    {Q : Except PyErr α → σ → Engines → Prop} {R : Except PyErr α → σ → Tracebacks → Prop}
    (account : p.wpc engines (fun _ => True) Q s w.engines)
    (keeps : p.wpc tracebacks (fun _ => True) R s w.tracebacks)
    (exec : p.Exec ledger s w r s' w') : Q r s' w'.engines ∧ R r s' w'.tracebacks := by
  have accounted : ∀ w c r w', ledger.step w c r w' → True →
      engines.step w.engines c r w'.engines ∧ True := by
    rintro w c r w' ⟨legal, rfl⟩ -
    exact ⟨⟨legal, rfl⟩, trivial⟩
  have kept : ∀ w c r w', ledger.step w c r w' → True →
      tracebacks.step w.tracebacks c r w'.tracebacks ∧ True := by
    rintro w c r w' ⟨legal, rfl⟩ -
    exact ⟨⟨legal.tracebacks, rfl⟩, trivial⟩
  exact ⟨(Py.wpc_exec (Py.wpc_project accounted trivial account) exec).1,
    (Py.wpc_exec (Py.wpc_project kept trivial keeps) exec).1⟩

/-! ## Calls and moments -/

/-- A call on a backend. -/
inductive Op : Type
  | load (modelPath : PyStr)
  | infer (feeds : Feeds)
  | close

/-- A moment at which the account is read: the end of a call, and, in a load of the wrapper, the end of
the load of its primary and the end of the close that follows it in the handler. -/
inductive Moment : Type
  | ended (op : Op)
  | tried (modelPath : PyStr)
  | shut (modelPath : PyStr)

/-- No net is alive that the backend does not hold, at any moment of a load, by this condition on how
far it came: every net that was made was installed, and the warm-up did not fail where there was a net
before, or where the wrapper closes its primary for the first time. -/
def Backend.Prompt (b : Backend) (t : Tracebacks) : Prop :=
  match b with
  | .ncnn b => t.pending = false ∧ (b.net.isSome = true → t.halfway = false)
  | .ncnnFallback b => b.Prompt t
  | _ => True

section Runs

variable [NumPy]

def perform : Op → HostM Backend Unit
  | .load modelPath => InferenceBackend.load modelPath
  | .infer feeds => do
    let _ ← InferenceBackend.infer feeds
    pure ()
  | .close => InferenceBackend.close

/-- A first part of a load of the wrapper. -/
def inWrapper (part : ∀ {α : Type}, [InferenceBackend α] →
    HostM (FallbackBackend α OnnxRuntimeBackend) Unit) : HostM Backend Unit := do
  let self ← get
  match self with
  | .ncnnFallback b => Backend.within .ncnnFallback b part
  | .mnnFallback b => Backend.within .mnnFallback b part
  | _ => pure ()

/-- A call up to a moment. -/
def Moment.upTo : Moment → HostM Backend Unit
  | .ended op => perform op
  | .tried modelPath => inWrapper (FallbackBackend.onPrimary (InferenceBackend.load modelPath))
  | .shut modelPath => inWrapper do
    let _ ← FallbackBackend.tryPrimary modelPath
    pure ()

/-- A backend after a sequence of calls, each of which met a condition on the backend before it and
on what was noted during it. -/
inductive Run (φ : Backend → Engines → Prop) : Backend → Ledger → Prop
  | start {b : Backend} : b.Fresh → Run φ b .start
  | call {b b' : Backend} {w w' : Ledger} {r : Except PyErr Unit} (op : Op) :
    Run φ b w → (perform op).Exec ledger b w r b' w' → φ b w'.engines → Run φ b' w'.rest

variable {φ : Backend → Engines → Prop} {b : Backend} {w : Engines}

/-- One call, or a part of one, from a state in which nothing was lost. -/
structure Performs (b : Backend) (w : Engines) (b' : Backend) (w' : Engines) : Prop where
  safe : b'.Safe w'
  exact : b.Tight w' → w.live = b.held.toList → w'.live = b'.held.toList

omit [NumPy] in
theorem Backend.Safe.forget (safe : b.Safe w) : b.Safe w.forget :=
  ⟨safe.unmisused, safe.held, safe.known⟩

omit [NumPy] in
theorem Backend.Safe.of_asked {b' : Backend} {w' : Engines} (safe : b.Safe w)
    (asked : Asked b w b' w') : b'.Safe w' := by
  obtain ⟨rfl, rest⟩ := asked
  refine ⟨?_, ?_, ?_⟩
  · rw [rest]
    exact safe.unmisused
  · rw [rest]
    exact safe.held
  · rw [rest]
    exact safe.known

theorem perform_spec (op : Op) (safe : b.Safe w) (ready : w.halfway = false) :
    (perform op).wpc engines (fun _ => True) (fun _ b' w' => Performs b w b' w') b w := by
  cases op with
  | load modelPath =>
      refine Py.wpc_mono (fun _ _ => trivial) (fun r b' w' loads => ?_)
        (Backend.load_spec modelPath safe ready)
      exact ⟨loads.safe, loads.exact⟩
  | infer feeds =>
      rw [perform, Py.wpc_bind]
      refine Py.wpc_mono (fun _ _ => trivial) (fun r b' w' asked => ?_) (Backend.infer_spec feeds safe)
      have performs : Performs b w b' w' := by
        refine ⟨safe.of_asked asked, fun _ exact_ => ?_⟩
        obtain ⟨rfl, rest⟩ := asked
        rw [rest]
        exact exact_
      cases r with
      | ok _ => exact performs
      | error e => exact performs
  | close =>
      refine Py.wpc_mono (fun _ _ => trivial) (fun r b' w' closes => ?_) (Backend.close_spec safe)
      exact ⟨closes.safe, fun _ => closes.exact⟩

/-- A part of a load of the wrapper, from what it does to the wrapper. -/
theorem wpc_inWrapper (part : ∀ {α : Type}, [InferenceBackend α] →
    HostM (FallbackBackend α OnnxRuntimeBackend) Unit) (safe : b.Safe w)
    (performs : ∀ {α : Type} [Accelerator α] [LawfulAccelerator α]
      {s : FallbackBackend α OnnxRuntimeBackend}, Safe s.primary w →
      (part (α := α)).wpc engines (fun _ => True) (fun _ s' w' => Safe s'.primary w' ∧
        (Accelerator.Tight s.primary w' → Exact s.primary w → Exact s'.primary w')) s w) :
    (inWrapper part).wpc engines (fun _ => True) (fun _ b' w' => Performs b w b' w') b w := by
  have idle : Performs b w b w := ⟨safe, fun _ exact_ => exact_⟩
  rw [inWrapper, Py.wpc_bind, Py.wpc_get, Py.either_ok]
  cases b with
  | ort b => exact idle
  | ncnn b => exact idle
  | mnn b => exact idle
  | ncnnFallback b =>
      refine (Py.wpc_zoom _ _ _).mpr ?_
      refine Py.wpc_mono (fun _ _ => trivial) (fun r b' w' done => ?_)
        (performs (s := b) ⟨safe.unmisused, safe.held, safe.known⟩)
      exact ⟨⟨done.1.unmisused, done.1.held, done.1.known⟩, fun tight => done.2 tight⟩
  | mnnFallback b =>
      refine (Py.wpc_zoom _ _ _).mpr ?_
      refine Py.wpc_mono (fun _ _ => trivial) (fun r b' w' done => ?_)
        (performs (s := b) ⟨safe.unmisused, safe.held, safe.known⟩)
      exact ⟨⟨done.1.unmisused, done.1.held, done.1.known⟩, fun tight => done.2 tight⟩

theorem upTo_spec (m : Moment) (safe : b.Safe w) (ready : w.halfway = false) :
    m.upTo.wpc engines (fun _ => True) (fun _ b' w' => Performs b w b' w') b w := by
  cases m with
  | ended op => exact perform_spec op safe ready
  | tried modelPath =>
      refine wpc_inWrapper (FallbackBackend.onPrimary (InferenceBackend.load modelPath)) safe
        fun inner => ?_
      rw [FallbackBackend.onPrimary, Py.wpc_zoom]
      exact Py.wpc_mono (fun _ _ => trivial) (fun _ _ _ loads => ⟨loads.safe, loads.exact⟩)
        (LawfulAccelerator.load modelPath inner ready)
  | shut modelPath =>
      refine wpc_inWrapper (do let _ ← FallbackBackend.tryPrimary modelPath; pure ()) safe
        fun inner => ?_
      rw [Py.wpc_bind]
      refine Py.wpc_mono (fun _ _ => trivial) (fun r s' w' tries => ?_)
        (FallbackBackend.tryPrimary_spec modelPath inner ready)
      cases r with
      | ok _ => exact ⟨tries.safe, tries.exact⟩
      | error e => exact ⟨tries.safe, tries.exact⟩

variable {t : Tracebacks}

/-- A part of a load of MNN keeps no net. -/
theorem wpc_inWrapper_tracebacks (part : ∀ {α : Type}, [InferenceBackend α] →
      HostM (FallbackBackend α OnnxRuntimeBackend) Unit) (quiet : t.Quiet)
    (ncnn : ∀ {s : FallbackBackend NcnnBackend OnnxRuntimeBackend},
      (part (α := NcnnBackend)).wpc tracebacks (fun _ => True)
        (fun _ _ t' => s.Prompt t' → t'.fading = []) s t)
    (mnn : Py.Within tracebacks Unkept (part (α := MnnBackend))) :
    (inWrapper part).wpc tracebacks (fun _ => True) (fun _ _ t' => b.Prompt t' → t'.fading = [])
      b t := by
  rw [inWrapper, Py.wpc_bind, Py.wpc_get, Py.either_ok]
  cases b with
  | ort b => exact fun _ => quiet.fading
  | ncnn b => exact fun _ => quiet.fading
  | mnn b => exact fun _ => quiet.fading
  | ncnnFallback b => exact (Py.wpc_zoom _ _ _).mpr ncnn
  | mnnFallback b =>
      refine (Py.wpc_zoom _ _ _).mpr ?_
      exact Py.wpc_mono (fun _ _ => trivial) (fun _ _ _ kept _ => (kept quiet).fading) (mnn b t)

/-- Outside a handler a close leaves nothing to a traceback. -/
theorem close_quiet (quiet : t.Quiet) :
    (perform .close).wpc tracebacks (fun _ => True) (fun _ _ t' => t'.fading = []) b t := by
  have unkept {β : Type} {p : HostM β Unit} (kept : Py.Within tracebacks Unkept p) (s : β) :
      p.wpc tracebacks (fun _ => True) (fun _ _ t' => t'.fading = []) s t :=
    Py.wpc_mono (fun _ _ => trivial) (fun _ _ _ kept => (kept quiet).fading) (kept s t)
  refine Backend.wpc_dispatch.mpr ?_
  cases b with
  | ort b => exact quiet.fading
  | ncnn b => exact unkept NcnnBackend.close_unkept b
  | mnn b => exact unkept MnnBackend.close_unkept b
  | ncnnFallback b => exact unkept (FallbackBackend.close_unkept NcnnBackend.close_unkept) b
  | mnnFallback b => exact unkept (FallbackBackend.close_unkept MnnBackend.close_unkept) b

theorem perform_prompt (op : Op) (quiet : t.Quiet) :
    (perform op).wpc tracebacks (fun _ => True) (fun _ _ t' => b.Prompt t' → t'.fading = []) b t := by
  have unkept {β : Type} {p : HostM β Unit} (kept : Py.Within tracebacks Unkept p) (s : β)
      {φ : Tracebacks → Prop} :
      p.wpc tracebacks (fun _ => True) (fun _ _ t' => φ t' → t'.fading = []) s t :=
    Py.wpc_mono (fun _ _ => trivial) (fun _ _ _ kept _ => (kept quiet).fading) (kept s t)
  cases op with
  | load modelPath =>
      change (Backend.dispatch (InferenceBackend.load modelPath)).wpc _ _ _ _ _
      rw [Backend.wpc_dispatch]
      cases b with
      | ort b => exact unkept (OnnxRuntimeBackend.load_unkept modelPath) b
      | ncnn b =>
          refine Py.wpc_mono (fun _ _ => trivial) (fun r _ t' lapsed prompt => ?_)
            (NcnnBackend.load_lapsed modelPath quiet)
          cases r with
          | ok _ => exact lapsed.2.fading
          | error e =>
              by_contra fading
              rcases lapsed.2.fading fading with pending | ⟨halfway, net⟩
              · exact absurd (pending.symm.trans prompt.1) (by decide)
              · exact absurd (halfway.symm.trans (prompt.2 net)) (by decide)
      | mnn b => exact unkept (MnnBackend.load_unkept modelPath) b
      | ncnnFallback b => exact FallbackBackend.load_lapsed modelPath quiet
      | mnnFallback b =>
          exact unkept (FallbackBackend.load_unkept (MnnBackend.load_unkept modelPath)
            MnnBackend.close_unkept) b
  | infer feeds =>
      have still : Py.Within tracebacks Py.Still (perform (.infer feeds)) :=
        (still_of_asking (Backend.only_infer feeds)).bind fun _ => .pure _
      exact unkept (.of_still still) b
  | close => exact Py.wpc_mono (fun _ _ => trivial) (fun _ _ _ faded _ => faded) (close_quiet quiet)

theorem upTo_prompt (m : Moment) (quiet : t.Quiet) :
    m.upTo.wpc tracebacks (fun _ => True) (fun _ _ t' => b.Prompt t' → t'.fading = []) b t := by
  cases m with
  | ended op => exact perform_prompt op quiet
  | tried modelPath =>
      refine wpc_inWrapper_tracebacks
        (FallbackBackend.onPrimary (InferenceBackend.load modelPath)) quiet ?_
        (unkept_zoom (MnnBackend.load_unkept modelPath))
      intro s
      refine Py.wpc_mono (fun _ _ => trivial) (fun r _ t' lapsed prompt => ?_)
        (FallbackBackend.onPrimary_lapsed modelPath quiet)
      cases r with
      | ok _ => exact lapsed.2.fading
      | error e => exact FallbackBackend.fading_of_lapsed lapsed.2 prompt
  | shut modelPath =>
      refine wpc_inWrapper_tracebacks (do let _ ← FallbackBackend.tryPrimary modelPath; pure ()) quiet
        ?_ ((FallbackBackend.tryPrimary_unkept (MnnBackend.load_unkept modelPath)
          MnnBackend.close_unkept).bind fun _ => .pure _)
      intro s
      rw [Py.wpc_bind]
      refine Py.wpc_mono (fun _ _ => trivial) (fun r _ t' tried => ?_)
        (FallbackBackend.tryPrimary_lapsed modelPath quiet)
      cases r with
      | ok _ => exact tried.1
      | error e => exact tried.1

/-! ## Runs -/

variable {w : Ledger}

omit [NumPy] in
theorem quiet_start : Tracebacks.start.Quiet := ⟨rfl, rfl⟩

theorem Run.at_rest (run : Run φ b w) : w.engines.halfway = false ∧ w.tracebacks = .start := by
  cases run with
  | start _ => exact ⟨rfl, rfl⟩
  | call _ _ _ _ => exact ⟨rfl, rfl⟩

theorem Run.quiet (run : Run φ b w) : w.tracebacks.Quiet := by
  rw [run.at_rest.2]
  exact quiet_start

theorem Run.safe (run : Run φ b w) : b.Safe w.engines := by
  induction run with
  | @start b fresh =>
      refine ⟨rfl, fun h held => ?_, nofun⟩
      rw [fresh.held] at held
      cases held
  | call op run exec _ ih =>
      have performs := exec_ledger (perform_spec op ih run.at_rest.1)
        (perform_prompt op run.quiet) exec
      exact performs.1.safe.forget

theorem Run.exact (tight : ∀ b w, φ b w → b.Tight w) (run : Run φ b w) :
    w.engines.live = b.held.toList := by
  induction run with
  | start fresh => rw [fresh.held]; rfl
  | call op run exec met ih =>
      have performs := exec_ledger (perform_spec op run.safe run.at_rest.1)
        (perform_prompt op run.quiet) exec
      exact performs.1.exact (tight _ _ met) ih

/-- At every moment of a call that follows a run in which no load lost a handle: nothing was misused,
and if this call does not lose one either and no traceback keeps a net, what is alive is what the
backend holds. -/
theorem Run.moment (run : Run Backend.Tight b w) {m : Moment} {r : Except PyErr Unit} {b' : Backend}
    {w' : Ledger} (exec : m.upTo.Exec ledger b w r b' w') :
    w'.engines.misused = false ∧
      (b.Tight w'.engines → b.Prompt w'.tracebacks → w'.alive = b'.held.toList) := by
  obtain ⟨performs, prompt⟩ := exec_ledger (upTo_spec m run.safe run.at_rest.1)
    (upTo_prompt m run.quiet) exec
  refine ⟨performs.safe.unmisused, fun tight kept => ?_⟩
  rw [Ledger.alive, prompt kept, List.append_nil]
  exact performs.exact tight (run.exact fun _ _ tight => tight)

/-- In a run in which no load loses a handle: nothing was misused, and what is alive is what the
backend holds, between the calls and, where no traceback keeps a net, at every moment of the next
call; a close releases it if the engine has not been closed before or holds nothing. -/
theorem run_account (run : Run Backend.Tight b w) :
    w.engines.misused = false ∧ w.alive = b.held.toList ∧
      (∀ (m : Moment) r b' w', m.upTo.Exec ledger b w r b' w' → w'.engines.misused = false ∧
        (b.Tight w'.engines → b.Prompt w'.tracebacks → w'.alive = b'.held.toList)) ∧
      ∀ r b' w', (perform .close).Exec ledger b w r b' w' →
        (w'.alive = [] ↔ ¬ (b.closed = true ∧ b.held.isSome = true)) := by
  have exact_ := run.exact fun _ _ tight => tight
  refine ⟨run.safe.unmisused, ?_, fun m r b' w' exec => run.moment exec, fun r b' w' exec => ?_⟩
  · rw [Ledger.alive, run.quiet.fading, List.append_nil]
    exact exact_
  · obtain ⟨closes, kept⟩ := exec_ledger (Backend.close_spec run.safe)
      (close_quiet run.quiet) exec
    rw [Ledger.alive, kept, List.append_nil, closes.exact exact_, closes.held]
    cases b.closed with
    | false => simp
    | true => cases b.held <;> simp

end Runs

/-! ## Example runs -/

/-- Answers of the surroundings: the caches are fresh, every model has one input, `mnn_shim_io_info`
answers `nd` for it, whatever is made gets this number unless it is taken, and some calls fail. -/
structure HostScript : Type where
  number : Nat
  nd : Int
  fails : HostCall → Bool

namespace HostScript

variable (script : HostScript)

/-- What a call answers that does not fail. -/
def reply : (c : HostCall) → Except PyErr c.Answer
  | .exists _ | .isfile _ | .accessX _ => .ok true
  | .getmtime _ | .getsize _ | .mkdtemp _ | .ncnnExtractor _ => .ok 1
  | .getenv _ | .which _ => .ok none
  | .run _ => .ok ⟨0, false⟩
  | .onnxIoMeta _ => .ok ([(py "x", [.int 1])], [])
  | .ortSession _ _ _ | .ncnnNet => .ok script.number
  | .ortInputs _ | .ortOutputs _ | .ncnnInputNames _ => .ok [py "x"]
  | .ncnnOutputNames _ | .ortRun _ _ => .ok []
  | .ncnnLoadParam _ _ | .ncnnLoadModel _ _ | .mnnNumOutputs _ => .ok 0
  | .ncnnExtract _ _ => .ok (0, .zeros [1] .float32)
  | .mnnCreate _ _ _ _ => .ok (some script.number)
  | .mnnNumInputs _ => .ok 1
  | .mnnIoInfo _ _ _ => .ok ⟨script.nd, [120], fun _ => 1⟩
  | .mnnInfer _ _ _ => .ok (0, .untouched)
  | .postProcess _ _ => .ok ⟨List.replicate 480 0, List.length_replicate⟩
  | .time => .ok .zero
  | .makedirs _ | .openWb _ | .write _ _ | .closeFile _ | .replace _ _ | .rmtree _
  | .ncnnOptions _ _ _ _ _ | .ncnnInput _ _ _ | .ncnnDestroyGpuInstance | .ncnnRelease _
  | .tracebackKeeps _ | .dropTraceback | .mnnDestroy _ | .sleep | .log _ => .ok ()

/-- The calls that need a number. -/
def makes : HostCall → Bool
  | .ortSession _ _ _ | .ncnnNet | .mnnCreate _ _ _ _ => true
  | _ => false

def steady : HostCall → Bool
  | .ncnnRelease _ | .tracebackKeeps _ | .dropTraceback | .mnnDestroy _ | .log _ | .sleep => true
  | _ => false

def answer (w : Engines) (c : HostCall) : Except PyErr c.Answer :=
  if steady c then script.reply c
  else if script.fails c ∨ makes c ∧ w.made script.number ≠ none then .error (exception "failed")
  else script.reply c

theorem legal (w : Engines) (c : HostCall) : w.Legal c (script.answer w c) := by
  unfold answer
  split
  · next steady => cases c <;> trivial
  · next unsteady =>
      split
      · cases c <;> trivial
      · next works =>
          have free (maker : makes c = true) : w.made script.number = none := by
            by_contra taken
            exact works (.inr ⟨maker, taken⟩)
          cases c <;> first | trivial | exact free rfl

/-- Run a method under a script. -/
def play {σ α : Type} (p : HostM σ α) (s : σ) (w : Ledger) : (Except PyErr α × σ) × Ledger :=
  p.answering Ledger.note (fun w => script.answer w.engines) s w

theorem exec_play {σ α : Type} (p : HostM σ α) (s : σ) (w : Ledger) :
    p.Exec ledger s w (script.play p s w).1.1 (script.play p s w).1.2 (script.play p s w).2 := by
  have sound : ∀ (w : Ledger) (c : HostCall),
      ledger.step w c (script.answer w.engines c) (w.note c (script.answer w.engines c)) :=
    fun w c => ⟨script.legal w.engines c, rfl⟩
  exact Py.exec_answering sound p s w rfl

end HostScript

/-- Everything works. -/
def sound (number : Nat) : HostScript := ⟨number, 1, fun _ => false⟩

/-- `mnn_shim_io_info` fails. -/
def undescribable (number : Nat) : HostScript := ⟨number, -1, fun _ => false⟩

/-- Nets can be made but not used. -/
def noExtractor (number : Nat) : HostScript :=
  ⟨number, 1, fun c => match c with | .ncnnExtractor _ => true | _ => false⟩

/-- MNN on the CPU, used directly. -/
def bareMnn : Backend := .mnn (.init 0 false none)

/-- ncnn with a Vulkan device, in front of the CPU. -/
def wrappedNcnn : Backend := .ncnnFallback ⟨.init true false none (some 0), cpuBackend none, none⟩

def loadA : Op := .load (py "a.onnx")

/-- A new backend after one call. -/
def HostScript.first (script : HostScript) (b : Backend) (op : Op) : Backend × Ledger :=
  ((script.play (@perform .reference op) b .start).1.2,
    (script.play (@perform .reference op) b .start).2.rest)

theorem Run.first {φ : Backend → Engines → Prop} {b : Backend} (script : HostScript) (op : Op)
    (fresh : b.Fresh) (met : φ b (script.play (@perform .reference op) b .start).2.engines) :
    @Run .reference φ (script.first b op).1 (script.first b op).2 :=
  @Run.call .reference φ b _ _ _ _ op (@Run.start .reference φ b fresh)
    (script.exec_play (@perform .reference op) b .start) met

/-- A model that is loaded, held at every moment until the close, and released by it. -/
theorem run_account_loaded :
    ((sound 1).first bareMnn loadA).2.engines.misused = false ∧
      ((sound 1).first bareMnn loadA).2.alive = [1] ∧
      (∀ (m : Moment) r b' w', (@Moment.upTo .reference m).Exec ledger
        ((sound 1).first bareMnn loadA).1 ((sound 1).first bareMnn loadA).2 r b' w' →
        w'.engines.misused = false ∧ (((sound 1).first bareMnn loadA).1.Tight w'.engines →
          ((sound 1).first bareMnn loadA).1.Prompt w'.tracebacks → w'.alive = b'.held.toList)) ∧
      ∀ r b' w', (@perform .reference .close).Exec ledger ((sound 1).first bareMnn loadA).1
        ((sound 1).first bareMnn loadA).2 r b' w' → w'.alive = [] := by
  have run : @Run .reference Backend.Tight ((sound 1).first bareMnn loadA).1
      ((sound 1).first bareMnn loadA).2 :=
    Run.first (sound 1) loadA (.mnn 0 false none) (by decide +kernel)
  obtain ⟨unmisused, alive, moments, closing⟩ := @run_account .reference _ _ run
  refine ⟨unmisused, alive.trans (by decide +kernel), moments, fun r b' w' exec => ?_⟩
  exact (closing r b' w' exec).mpr (by decide +kernel)

/-- A handle that does not describe itself is lost. -/
theorem run_leaks : ¬ ∀ (b : Backend) (w : Ledger), @Run .reference (fun _ _ => True) b w →
    w.engines.misused = false ∧ w.alive = b.held.toList ∧
      ∀ r b' w', (@perform .reference .close).Exec ledger b w r b' w' → w'.alive = [] := by
  intro all
  have run : @Run .reference (fun _ _ => True) ((undescribable 1).first bareMnn loadA).1
      ((undescribable 1).first bareMnn loadA).2 :=
    Run.first (undescribable 1) loadA (.mnn 0 false none) trivial
  exact absurd (all _ _ run).2.1 (by decide +kernel)

/-- The wrapper has closed ncnn in the handler of a failed warm-up: the backend holds no net, the
device is destroyed, and the traceback still keeps the net. -/
example :
    let after := (noExtractor 1).play (@Moment.upTo .reference (.shut (py "a.onnx"))) wrappedNcnn .start
    after.1.2.held = none ∧ after.2.alive = [1] := by decide +kernel

end Detector
