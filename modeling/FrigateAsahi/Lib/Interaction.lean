import Mathlib.Data.List.Forall2
import Mathlib.Data.PFunctor.Univariate.Basic
import Mathlib.Order.RelClasses

/-!
# Programs over external calls

`Prog P` is the free monad over a polynomial functor `P`: a position `P.A` is one call a program
makes to the outside, a direction in `P.B c` one answer to it. The program text fixes no meaning
for its calls. An environment `Env P W` does: it says which answers a world of type `W` may give
and which world it is in afterwards, so one text serves under a scripted environment, under a file
system and under an environment that answers anything.

* `Exec` relates a program and a world to a result and a final world, `Reaches` to every world met
  on the way; a run that is cut short stops in one of the latter.
* `wpc` is the weakest precondition with a crash condition: `Prog.wpc_iff` says that it is about
  exactly these two relations.
* `Py` puts an exception and an object state over `Prog`. The state stays as it was when an
  exception is raised, as in an object-oriented source language. `Py.wpc` and its rules follow the
  `do` notation.
-/

namespace Interaction

/-- A program that ends in a value or makes a call and goes on with the answer. -/
inductive Prog (P : PFunctor.{0, 0}) (α : Type) : Type
  | ret (a : α) : Prog P α
  | call (c : P.A) (k : P.B c → Prog P α) : Prog P α

/-- What a world may answer to a call, and the world that is left. -/
structure Env (P : PFunctor.{0, 0}) (W : Type) : Type where
  step : W → (c : P.A) → P.B c → W → Prop

namespace Prog

variable {P : PFunctor.{0, 0}} {W α β : Type}

def bind (p : Prog P α) (f : α → Prog P β) : Prog P β :=
  match p with
  | .ret a => f a
  | .call c k => .call c fun r => (k r).bind f

instance : Monad (Prog P) where
  pure := .ret
  bind := bind

@[simp] theorem pure_eq (a : α) : (pure a : Prog P α) = .ret a := rfl

@[simp] theorem bind_ret (a : α) (f : α → Prog P β) : (Prog.ret a >>= f) = f a := rfl

@[simp] theorem bind_call (c : P.A) (k : P.B c → Prog P α) (f : α → Prog P β) :
    (Prog.call c k >>= f) = .call c fun r => k r >>= f := rfl

/-! ## Runs -/

variable (E : Env P W)

/-- A complete run from a world to a result and a final world. -/
inductive Exec : Prog P α → W → α → W → Prop
  | ret {a : α} {w : W} : Exec (.ret a) w a w
  | call {c : P.A} {k : P.B c → Prog P α} {w w' w'' : W} {r : P.B c} {a : α} :
    E.step w c r w' → Exec (k r) w' a w'' → Exec (.call c k) w a w''

/-- The worlds of a run, the first and the last included. -/
inductive Reaches : Prog P α → W → W → Prop
  | here {p : Prog P α} {w : W} : Reaches p w w
  | call {c : P.A} {k : P.B c → Prog P α} {w w' w'' : W} {r : P.B c} :
    E.step w c r w' → Reaches (k r) w' w'' → Reaches (.call c k) w w''

/-- `wpc E C p Q w`: every run of `p` from `w` ends in `Q`, and every world it meets after `w`
satisfies the crash condition `C`. -/
def wpc (C : W → Prop) : Prog P α → (α → W → Prop) → W → Prop
  | .ret a, Q, w => Q a w
  | .call c k, Q, w => ∀ r w', E.step w c r w' → C w' ∧ (k r).wpc C Q w'

variable {E} {C : W → Prop}

@[simp] theorem wpc_ret (a : α) (Q : α → W → Prop) (w : W) :
    (Prog.ret a).wpc E C Q w ↔ Q a w := Iff.rfl

@[simp] theorem wpc_call (c : P.A) (k : P.B c → Prog P α) (Q : α → W → Prop) (w : W) :
    (Prog.call c k).wpc E C Q w ↔ ∀ r w', E.step w c r w' → C w' ∧ (k r).wpc E C Q w' :=
  Iff.rfl

theorem wpc_bind (p : Prog P α) (f : α → Prog P β) (Q : β → W → Prop) (w : W) :
    (p >>= f).wpc E C Q w ↔ p.wpc E C (fun a w' => (f a).wpc E C Q w') w := by
  induction p generalizing w with
  | ret a => rfl
  | call c k ih =>
      simp only [bind_call, wpc_call]
      exact forall_congr' fun r => forall_congr' fun w' =>
        imp_congr_right fun _ => and_congr_right fun _ => ih r w'

theorem wpc_mono {C' : W → Prop} {p : Prog P α} {Q Q' : α → W → Prop} {w : W}
    (crash : ∀ w', C w' → C' w') (post : ∀ a w', Q a w' → Q' a w')
    (pre : p.wpc E C Q w) : p.wpc E C' Q' w := by
  induction p generalizing w with
  | ret a => exact post a w pre
  | call c k ih =>
      intro r w' step
      obtain ⟨here, rest⟩ := pre r w' step
      exact ⟨crash w' here, ih r rest⟩

theorem wpc_and {C' : W → Prop} {p : Prog P α} {Q Q' : α → W → Prop} {w : W}
    (left : p.wpc E C Q w) (right : p.wpc E C' Q' w) :
    p.wpc E (fun w' => C w' ∧ C' w') (fun a w' => Q a w' ∧ Q' a w') w := by
  induction p generalizing w with
  | ret a => exact ⟨left, right⟩
  | call c k ih =>
      intro r w' step
      obtain ⟨here, rest⟩ := left r w' step
      obtain ⟨here', rest'⟩ := right r w' step
      exact ⟨⟨here, here'⟩, ih r rest rest'⟩

theorem wpc_exec {p : Prog P α} {Q : α → W → Prop} {w w' : W} {a : α}
    (pre : p.wpc E C Q w) (run : Exec E p w a w') : Q a w' := by
  induction run with
  | ret => exact pre
  | call step _ ih => exact ih (pre _ _ step).2

theorem wpc_reaches {p : Prog P α} {Q : α → W → Prop} {w w' : W}
    (pre : p.wpc E C Q w) (start : C w) (run : Reaches E p w w') : C w' := by
  induction run with
  | here => exact start
  | call step _ ih => exact ih (pre _ _ step).2 (pre _ _ step).1

/-- The weakest precondition is the meaning of the two run relations, and no more. -/
theorem wpc_iff {p : Prog P α} {Q : α → W → Prop} {w : W} (start : C w) :
    p.wpc E C Q w ↔
      (∀ a w', Exec E p w a w' → Q a w') ∧ ∀ w', Reaches E p w w' → C w' := by
  refine ⟨fun pre => ⟨fun a w' => wpc_exec pre, fun w' => wpc_reaches pre start⟩, ?_⟩
  rintro ⟨post, crash⟩
  induction p generalizing w with
  | ret a => exact post a w .ret
  | call c k ih =>
      intro r w' step
      have here : C w' := crash w' (.call step .here)
      exact ⟨here, ih r here (fun a w'' run => post a w'' (.call step run))
        fun w'' run => crash w'' (.call step run)⟩

/-- Of a complete run it is known that it is one. -/
theorem wpc_self (p : Prog P α) (w : W) : p.wpc E (fun _ => True) (fun a w' => Exec E p w a w') w :=
  (wpc_iff trivial).mpr ⟨fun _ _ run => run, fun _ _ => trivial⟩

/-! ## Frames -/

/-- What every call preserves, a whole run preserves: the rule for a program whose text is not
known. -/
theorem wpc_invariant {I : W → Prop} (steps : ∀ w c r w', E.step w c r w' → I w → I w')
    (p : Prog P α) {w : W} (start : I w) : p.wpc E I (fun _ w' => I w') w := by
  induction p generalizing w with
  | ret a => exact start
  | call c k ih =>
      intro r w' step
      have next : I w' := steps w c r w' step start
      exact ⟨next, ih r next⟩

/-- A world that shows another one, and a frame that its steps keep: what holds of a program in the
world that is shown holds in the one around it. -/
theorem wpc_project {W₀ : Type} {E₀ : Env P W₀} {C₀ : W₀ → Prop} {v : W → W₀} {F : W → Prop}
    (steps : ∀ w c r w', E.step w c r w' → F w → E₀.step (v w) c r (v w') ∧ F w') {p : Prog P α}
    {Q : α → W₀ → Prop} {w : W} (start : F w) (pre : p.wpc E₀ C₀ Q (v w)) :
    p.wpc E (fun w' => C₀ (v w') ∧ F w') (fun a w' => Q a (v w') ∧ F w') w := by
  induction p generalizing w with
  | ret a => exact ⟨pre, start⟩
  | call c k ih =>
      intro r w' step
      obtain ⟨shown, next⟩ := steps w c r w' step start
      obtain ⟨here, rest⟩ := pre r (v w') shown
      exact ⟨⟨here, next⟩, ih r next rest⟩

/-! ## Scripted runs -/

/-- Run a program under a function that answers each call. -/
def run (h : W → (c : P.A) → P.B c × W) : Prog P α → W → α × W
  | .ret a, w => (a, w)
  | .call c k, w => (k (h w c).1).run h (h w c).2

theorem exec_run {h : W → (c : P.A) → P.B c × W}
    (sound : ∀ w c, E.step w c (h w c).1 (h w c).2) (p : Prog P α) (w : W) :
    Exec E p w (p.run h w).1 (p.run h w).2 := by
  induction p generalizing w with
  | ret a => exact .ret
  | call c k ih => exact .call (sound w c) (ih _ _)

/-- The world after some calls, or after the last one. -/
def walk (h : W → (c : P.A) → P.B c × W) : Nat → Prog P α → W → W
  | 0, _, w => w
  | _ + 1, .ret _, w => w
  | n + 1, .call c k, w => (k (h w c).1).walk h n (h w c).2

theorem reaches_walk {h : W → (c : P.A) → P.B c × W}
    (sound : ∀ w c, E.step w c (h w c).1 (h w c).2) (n : Nat) (p : Prog P α) (w : W) :
    Reaches E p w (p.walk h n w) := by
  induction n generalizing p w with
  | zero => exact .here
  | succ n ih =>
      cases p with
      | ret a => exact .here
      | call c k => exact .call (sound w c) (ih _ _)

/-! ## Observers -/

end Prog

/-- The environment of an observer: `legal` bounds the answers, `note` is what the observer makes of
a call and its answer. -/
def Env.noting {P : PFunctor.{0, 0}} {W : Type} (legal : W → ∀ c, P.B c → Prop)
    (note : W → ∀ c, P.B c → W) : Env P W :=
  ⟨fun w c r w' => legal w c r ∧ w' = note w c r⟩

namespace Prog

variable {P : PFunctor.{0, 0}} {W α β : Type} {E : Env P W} {C : W → Prop}

@[simp] theorem noting_step {legal : W → ∀ c, P.B c → Prop} {note : W → ∀ c, P.B c → W}
    {w w' : W} {c : P.A} {r : P.B c} :
    (Env.noting legal note).step w c r w' ↔ legal w c r ∧ w' = note w c r :=
  Iff.rfl

/-- Run a program under a function from the observer's notes and a call to an answer. -/
def answering (note : W → ∀ c, P.B c → W) (answer : W → ∀ c, P.B c) (p : Prog P α) (w : W) :
    α × W :=
  p.run (fun w c => (answer w c, note w c (answer w c))) w

theorem exec_answering {note : W → ∀ c, P.B c → W} {answer : W → ∀ c, P.B c}
    (sound : ∀ w c, E.step w c (answer w c) (note w c (answer w c))) (p : Prog P α) (w : W) :
    Exec E p w (p.answering note answer w).1 (p.answering note answer w).2 :=
  exec_run sound p w

/-! ## Which calls a program makes -/

/-- Some run makes the call and has it answered. -/
def Makes (c : P.A) : Prog P α → Prop
  | .ret _ => False
  | .call c' k => ∃ r, c' = c ∨ (k r).Makes c

/-- An invariant of the calls that a program makes. -/
theorem wpc_makes {I : W → Prop} {p : Prog P α}
    (steps : ∀ w c r w', p.Makes c → E.step w c r w' → I w → I w') {w : W} (start : I w) :
    p.wpc E I (fun _ w' => I w') w := by
  induction p generalizing w with
  | ret a => exact start
  | call c k ih =>
      intro r w' step
      have next : I w' := steps w c r w' ⟨r, .inl rfl⟩ step start
      exact ⟨next, ih r (fun w c' r' w' made => steps w c' r' w' ⟨r, .inr made⟩) next⟩

/-- The environment that answers anything and says of each call whether it is in `K`. -/
def checked (K : P.A → Prop) : Env P Prop := ⟨fun _ c _ w' => w' = K c⟩

/-- With this the rules of `wpc` serve to bound the calls of a program. -/
theorem makes_of_checked {K : P.A → Prop} {p : Prog P α} {Q : α → Prop → Prop} {w : Prop}
    (pre : p.wpc (checked K) (fun w' => w') Q w) {c : P.A} (made : p.Makes c) : K c := by
  induction p generalizing w with
  | ret a => exact made.elim
  | call c' k ih =>
      obtain ⟨r, here | later⟩ := made
      · exact here ▸ (pre r _ rfl).1
      · exact ih r (pre r _ rfl).2 later

/-! ## Calls made through another interface -/

variable {R : PFunctor.{0, 0}} (f : P.A → R.A) (back : ∀ c, R.B (f c) → P.B c)

/-- Make each call as a call of `R` and read the answer back. -/
def through : Prog P α → Prog R α
  | .ret a => .ret a
  | .call c k => .call (f c) fun r => (k (back c r)).through

end Prog

/-- What an environment for `R` is to the calls that are made through it. -/
def Env.pull {P R : PFunctor.{0, 0}} {W : Type} (E : Env R W) (f : P.A → R.A)
    (back : ∀ c, R.B (f c) → P.B c) : Env P W :=
  ⟨fun w c r w' => ∃ r', back c r' = r ∧ E.step w (f c) r' w'⟩

theorem Prog.wpc_through {P R : PFunctor.{0, 0}} {W α : Type} {E : Env R W} {C : W → Prop}
    (f : P.A → R.A) (back : ∀ c, R.B (f c) → P.B c) (p : Prog P α) (Q : α → W → Prop) (w : W) :
    (p.through f back).wpc E C Q w ↔ p.wpc (E.pull f back) C Q w := by
  induction p generalizing w with
  | ret a => rfl
  | call c k ih =>
      constructor
      · rintro pre r w' ⟨r', rfl, step⟩
        exact ⟨(pre r' w' step).1, (ih _ w').mp (pre r' w' step).2⟩
      · intro pre r' w' step
        have rest := pre (back c r') w' ⟨r', rfl, step⟩
        exact ⟨rest.1, (ih _ w').mpr rest.2⟩

/-! ## Objects and exceptions -/

/-- A method of an object with state `σ`: it may raise an `ε`, and an exception undoes nothing. -/
abbrev Py (P : PFunctor.{0, 0}) (σ ε α : Type) : Type := ExceptT ε (StateT σ (Prog P)) α

namespace Py

variable {P : PFunctor.{0, 0}} {W σ τ ε α β : Type}

/-- Make one call and read its answer as a value or an exception. -/
def ask (c : P.A) (read : P.B c → Except ε α) : Py P σ ε α :=
  fun s => .call c fun r => .ret (read r, s)

/-- Raise the error an answer carries. -/
def ofExcept : Except ε α → Py P σ ε α
  | .ok a => pure a
  | .error e => throw e

/-- `try: p` / `except e: h(e)`. -/
def catching (p : Py P σ ε α) (h : ε → Py P σ ε α) : Py P σ ε α := tryCatch p h

/-- `try: p` / `finally: q`, with the exception of `q` winning over the outcome of `p`. -/
def andFinally (p : Py P σ ε α) (q : Py P σ ε Unit) : Py P σ ε α := do
  let r ← catching (Except.ok <$> p) (fun e => pure (.error e))
  q
  ofExcept r

/-- Run a method of a component of the state. -/
def zoom (get : σ → τ) (set : τ → σ → σ) (p : Py P τ ε α) : Py P σ ε α :=
  fun s => p (get s) >>= fun x => .ret (x.1, set x.2 s)

/-- Make the calls of a method through another interface. -/
def through {R : PFunctor.{0, 0}} (f : P.A → R.A) (back : ∀ c, R.B (f c) → P.B c)
    (p : Py P σ ε α) : Py R σ ε α :=
  fun s => (p s).through f back

/-- `[f(x) for x in xs]` -/
def traverse {γ : Type} (f : γ → Py P σ ε α) : List γ → Py P σ ε (List α)
  | [] => pure []
  | x :: xs => do
    let y ← f x
    let ys ← traverse f xs
    pure (y :: ys)

/-- `for x in xs: f(x)` -/
def forEach {γ : Type} (f : γ → Py P σ ε Unit) : List γ → Py P σ ε Unit
  | [] => pure ()
  | x :: xs => do
    f x
    forEach f xs

/-- Case analysis on an outcome, the form in which the rules below state what comes next. -/
def either (ok : α → Prop) (error : ε → Prop) : Except ε α → Prop
  | .ok a => ok a
  | .error e => error e

@[simp] theorem either_ok (ok : α → Prop) (error : ε → Prop) (a : α) :
    either ok error (.ok a) ↔ ok a := Iff.rfl

@[simp] theorem either_error (ok : α → Prop) (error : ε → Prop) (e : ε) :
    either ok error (.error e) ↔ error e := Iff.rfl

/-- The weakest precondition of a method, over the final outcome, object and world. -/
def wpc (E : Env P W) (C : W → Prop) (p : Py P σ ε α) (Q : Except ε α → σ → W → Prop)
    (s : σ) (w : W) : Prop :=
  (p s).wpc E C (fun x w' => Q x.1 x.2 w') w

variable {E : Env P W} {C : W → Prop} {Q : Except ε α → σ → W → Prop} {s : σ} {w : W}

/-- The shared step of the rules: sequencing after `p`, one outcome at a time. -/
theorem wpc_sequel {p : Py P σ ε β} {g : Except ε β × σ → Prog P (Except ε α × σ)}
    {R : Except ε β → σ → W → Prop}
    (each : ∀ r s' w', (g (r, s')).wpc E C (fun x w'' => Q x.1 x.2 w'') w' ↔ R r s' w') :
    (p s >>= g).wpc E C (fun x w' => Q x.1 x.2 w') w ↔ p.wpc E C R s w := by
  refine (Prog.wpc_bind (p s) g _ w).trans ?_
  have same : (fun x w' => (g x).wpc E C (fun x w'' => Q x.1 x.2 w'') w') =
      fun (x : Except ε β × σ) w' => R x.1 x.2 w' :=
    funext fun x => funext fun w' => propext (each x.1 x.2 w')
  rw [same]
  rfl

@[simp] theorem wpc_pure (a : α) :
    (pure a : Py P σ ε α).wpc E C Q s w ↔ Q (.ok a) s w := Iff.rfl

@[simp] theorem wpc_throw (e : ε) :
    (throw e : Py P σ ε α).wpc E C Q s w ↔ Q (.error e) s w := Iff.rfl

@[simp] theorem wpc_bind (p : Py P σ ε β) (f : β → Py P σ ε α) :
    (p >>= f).wpc E C Q s w ↔ p.wpc E C (fun r s' w' =>
      either (fun b => (f b).wpc E C Q s' w') (fun e => Q (.error e) s' w') r) s w :=
  wpc_sequel fun r _ _ => by cases r <;> exact Iff.rfl

@[simp] theorem wpc_map (f : β → α) (p : Py P σ ε β) :
    (f <$> p).wpc E C Q s w ↔ p.wpc E C (fun r s' w' =>
      either (fun b => Q (.ok (f b)) s' w') (fun e => Q (.error e) s' w') r) s w :=
  wpc_sequel fun r _ _ => by cases r <;> exact Iff.rfl

@[simp] theorem wpc_catching (p : Py P σ ε α) (h : ε → Py P σ ε α) :
    (catching p h).wpc E C Q s w ↔ p.wpc E C (fun r s' w' =>
      either (fun a => Q (.ok a) s' w') (fun e => (h e).wpc E C Q s' w') r) s w :=
  wpc_sequel fun r _ _ => by cases r <;> exact Iff.rfl

@[simp] theorem wpc_ofExcept (r : Except ε α) :
    (ofExcept r : Py P σ ε α).wpc E C Q s w ↔ Q r s w := by
  cases r <;> rfl

@[simp] theorem wpc_ask (c : P.A) (read : P.B c → Except ε α) :
    (ask c read : Py P σ ε α).wpc E C Q s w ↔
      ∀ r w', E.step w c r w' → C w' ∧ Q (read r) s w' := Iff.rfl

@[simp] theorem wpc_get {Q : Except ε σ → σ → W → Prop} :
    (get : Py P σ ε σ).wpc E C Q s w ↔ Q (.ok s) s w := Iff.rfl

@[simp] theorem wpc_set (s' : σ) {Q : Except ε PUnit → σ → W → Prop} :
    (set s' : Py P σ ε PUnit).wpc E C Q s w ↔ Q (.ok ⟨⟩) s' w := Iff.rfl

@[simp] theorem wpc_modify (f : σ → σ) {Q : Except ε PUnit → σ → W → Prop} :
    (modify f : Py P σ ε PUnit).wpc E C Q s w ↔ Q (.ok ⟨⟩) (f s) w := Iff.rfl

@[simp] theorem wpc_ite (c : Prop) [Decidable c] (p q : Py P σ ε α) :
    (if c then p else q).wpc E C Q s w ↔
      if c then p.wpc E C Q s w else q.wpc E C Q s w := by
  split <;> rfl

@[simp] theorem wpc_zoom (get : σ → τ) (set : τ → σ → σ) (p : Py P τ ε α) :
    (zoom get set p).wpc E C Q s w ↔
      p.wpc E C (fun r t w' => Q r (set t s) w') (get s) w :=
  Prog.wpc_bind (p (get s)) _ _ w

@[simp] theorem wpc_through {R : PFunctor.{0, 0}} {E : Env R W} (f : P.A → R.A)
    (back : ∀ c, R.B (f c) → P.B c) (p : Py P σ ε α) :
    (p.through f back).wpc E C Q s w ↔ p.wpc (E.pull f back) C Q s w :=
  Prog.wpc_through f back (p s) _ w

@[simp] theorem wpc_andFinally (p : Py P σ ε α) (q : Py P σ ε Unit) :
    (andFinally p q).wpc E C Q s w ↔ p.wpc E C (fun r s' w' => q.wpc E C (fun r' s'' w'' =>
      either (fun _ => Q r s'' w'') (fun e => Q (.error e) s'' w'') r') s' w') s w := by
  simp only [andFinally, wpc_bind, wpc_catching, wpc_map, wpc_ofExcept]
  refine iff_of_eq (congrFun (congrFun (congrArg _ (funext fun r => ?_)) s) w)
  cases r <;> simp only [either_ok, either_error, wpc_pure]

theorem wpc_mono {C' : W → Prop} {Q' : Except ε α → σ → W → Prop} {p : Py P σ ε α}
    (crash : ∀ w', C w' → C' w') (post : ∀ r s' w', Q r s' w' → Q' r s' w')
    (pre : p.wpc E C Q s w) : p.wpc E C' Q' s w :=
  Prog.wpc_mono crash (fun x w' => post x.1 x.2 w') pre

theorem wpc_and {C' : W → Prop} {Q' : Except ε α → σ → W → Prop} {p : Py P σ ε α}
    (left : p.wpc E C Q s w) (right : p.wpc E C' Q' s w) :
    p.wpc E (fun w' => C w' ∧ C' w') (fun r s' w' => Q r s' w' ∧ Q' r s' w') s w :=
  Prog.wpc_and left right

/-- The rule for a method whose text does not matter. -/
theorem wpc_invariant {I : W → Prop} (steps : ∀ w c r w', E.step w c r w' → I w → I w')
    (p : Py P σ ε α) (start : I w) : p.wpc E I (fun _ _ w' => I w') s w :=
  Prog.wpc_invariant steps (p s) start

theorem wpc_project {W₀ : Type} {E₀ : Env P W₀} {C₀ : W₀ → Prop} {v : W → W₀} {F : W → Prop}
    (steps : ∀ w c r w', E.step w c r w' → F w → E₀.step (v w) c r (v w') ∧ F w') {p : Py P σ ε α}
    {Q : Except ε α → σ → W₀ → Prop} (start : F w) (pre : p.wpc E₀ C₀ Q s (v w)) :
    p.wpc E (fun w' => C₀ (v w') ∧ F w') (fun r s' w' => Q r s' (v w') ∧ F w') s w :=
  Prog.wpc_project steps start pre

/-- A complete run of a method. -/
def Exec (E : Env P W) (p : Py P σ ε α) (s : σ) (w : W) (r : Except ε α) (s' : σ) (w' : W) :
    Prop :=
  Prog.Exec E (p s) w (r, s') w'

/-- Run a method under a function that answers its calls. -/
def answering (note : W → ∀ c, P.B c → W) (answer : W → ∀ c, P.B c) (p : Py P σ ε α) (s : σ)
    (w : W) : (Except ε α × σ) × W :=
  Prog.answering note answer (p s) w

theorem exec_answering {note : W → ∀ c, P.B c → W} {answer : W → ∀ c, P.B c}
    (sound : ∀ w c, E.step w c (answer w c) (note w c (answer w c))) (p : Py P σ ε α) (s : σ)
    (w : W) {r : Except ε α} (outcome : (p.answering note answer s w).1.1 = r) :
    p.Exec E s w r (p.answering note answer s w).1.2 (p.answering note answer s w).2 := by
  subst outcome
  exact Prog.exec_answering sound (p s) w

theorem exec_run {h : W → (c : P.A) → P.B c × W}
    (sound : ∀ w c, E.step w c (h w c).1 (h w c).2) (p : Py P σ ε α) (s : σ) (w : W)
    {r : Except ε α} (outcome : ((p s).run h w).1.1 = r) :
    p.Exec E s w r ((p s).run h w).1.2 ((p s).run h w).2 := by
  subst outcome
  exact Prog.exec_run sound (p s) w

theorem wpc_exec {p : Py P σ ε α} {r : Except ε α} {s' : σ} {w' : W} (pre : p.wpc E C Q s w)
    (run : p.Exec E s w r s' w') : Q r s' w' :=
  Prog.wpc_exec (Q := fun (x : Except ε α × σ) w' => Q x.1 x.2 w') pre run

theorem wpc_self (p : Py P σ ε α) (s : σ) (w : W) :
    p.wpc E (fun _ => True) (fun r s' w' => p.Exec E s w r s' w') s w :=
  Prog.wpc_self (p s) w

/-! ## What a method raises -/

/-- An outcome whose exception, if it is one, is in `φ`. -/
def ErrorIn (φ : ε → Prop) (r : Except ε α) : Prop := ∀ e, r = .error e → φ e

namespace ErrorIn

variable {φ : ε → Prop}

theorem ok (a : α) : ErrorIn φ (.ok a : Except ε α) := fun _ failed => nomatch failed

theorem error {e : ε} (mem : φ e) : ErrorIn φ (.error e : Except ε α) := by
  rintro e' ⟨⟩
  exact mem

theorem bind {r : Except ε β} {f : β → Except ε α} (first : ErrorIn φ r)
    (rest : ∀ b, ErrorIn φ (f b)) : ErrorIn φ (r >>= f) := by
  cases r with
  | ok b => exact rest b
  | error e => exact .error (first e rfl)

theorem mono {ψ : ε → Prop} {r : Except ε α} (mem : ErrorIn φ r) (sub : ∀ e, φ e → ψ e) :
    ErrorIn ψ r :=
  fun e failed => sub e (mem e failed)

theorem ite {c : Prop} [Decidable c] {r r' : Except ε α} (yes : ErrorIn φ r)
    (no : ErrorIn φ r') : ErrorIn φ (if c then r else r') := by
  split
  · exact yes
  · exact no

end ErrorIn

/-- Every exception that leaves the method is in `φ`. -/
def Raises (E : Env P W) (φ : ε → Prop) (p : Py P σ ε α) : Prop :=
  ∀ s w, p.wpc E (fun _ => True) (fun r _ _ => either (fun _ => True) φ r) s w

namespace Raises

variable {φ : ε → Prop}

theorem pure (a : α) : Raises E φ (pure a : Py P σ ε α) := fun _ _ => trivial

theorem get : Raises E φ (get : Py P σ ε σ) := fun _ _ => trivial

theorem modify (f : σ → σ) : Raises E φ (modify f : Py P σ ε PUnit) := fun _ _ => trivial

theorem throw {e : ε} (mem : φ e) : Raises E φ (throw e : Py P σ ε α) := fun _ _ => mem

theorem ask {c : P.A} {read : P.B c → Except ε α}
    (answers : ∀ w r w', E.step w c r w' → ErrorIn φ (read r)) :
    Raises E φ (Py.ask c read : Py P σ ε α) := by
  intro s w r w' step
  refine ⟨trivial, ?_⟩
  have mem := answers w r w' step
  change either (fun _ => True) φ (read r)
  cases outcome : read r with
  | ok a => trivial
  | error e => exact mem e outcome

theorem ofExcept {r : Except ε α} (mem : ErrorIn φ r) :
    Raises E φ (Py.ofExcept r : Py P σ ε α) := by
  intro s w
  rw [wpc_ofExcept]
  cases r with
  | ok a => trivial
  | error e => exact mem e rfl

theorem bind {p : Py P σ ε β} {f : β → Py P σ ε α} (first : Raises E φ p)
    (rest : ∀ b, Raises E φ (f b)) : Raises E φ (p >>= f) := by
  intro s w
  rw [wpc_bind]
  refine wpc_mono (fun _ _ => trivial) (fun r s' w' raised => ?_) (first s w)
  cases r with
  | ok b => exact rest b s' w'
  | error e => exact raised

theorem ite {c : Prop} [Decidable c] {p q : Py P σ ε α} (yes : Raises E φ p)
    (no : Raises E φ q) : Raises E φ (if c then p else q) := by
  split
  · exact yes
  · exact no

theorem catching {p : Py P σ ε α} {h : ε → Py P σ ε α} (body : Raises E φ p)
    (handler : ∀ e, φ e → Raises E φ (h e)) : Raises E φ (catching p h) := by
  intro s w
  rw [wpc_catching]
  refine wpc_mono (fun _ _ => trivial) (fun r s' w' raised => ?_) (body s w)
  cases r with
  | ok b => trivial
  | error e => exact handler e raised s' w'

theorem andFinally {p : Py P σ ε α} {q : Py P σ ε Unit} (body : Raises E φ p)
    (last : Raises E φ q) : Raises E φ (andFinally p q) := by
  intro s w
  rw [wpc_andFinally]
  refine wpc_mono (fun _ _ => trivial) (fun r s' w' raised => ?_) (body s w)
  refine wpc_mono (fun _ _ => trivial) (fun r' s'' w'' raised' => ?_) (last s' w')
  cases r' with
  | ok _ => exact raised
  | error e => exact raised'

theorem zoom {p : Py P τ ε α} (get : σ → τ) (set : τ → σ → σ) (inner : Raises E φ p) :
    Raises E φ (zoom get set p) := by
  intro s w
  rw [wpc_zoom]
  exact inner (get s) w

theorem traverse {γ : Type} {f : γ → Py P σ ε α} (each : ∀ x, Raises E φ (f x)) (xs : List γ) :
    Raises E φ (traverse f xs) := by
  induction xs with
  | nil => exact pure []
  | cons x xs ih => exact (each x).bind fun y => ih.bind fun ys => pure (y :: ys)

theorem forEach {γ : Type} {f : γ → Py P σ ε Unit} (each : ∀ x, Raises E φ (f x)) (xs : List γ) :
    Raises E φ (forEach f xs) := by
  induction xs with
  | nil => exact pure ()
  | cons x xs ih => exact (each x).bind fun _ => ih

end Raises

/-! ## Methods that stay within a relation -/

/-- Every run of the method relates what it starts from to what it leaves, and to every world on
the way. -/
def Within (E : Env P W) (R : σ × W → σ × W → Prop) (p : Py P σ ε α) : Prop :=
  ∀ s w, p.wpc E (fun w' => ∃ s', R (s, w) (s', w')) (fun _ s' w' => R (s, w) (s', w')) s w

namespace Within

variable {R : σ × W → σ × W → Prop} [IsPreorder (σ × W) R]

theorem pure (a : α) : Within E R (pure a : Py P σ ε α) := fun s w => refl (s, w)

theorem throw (e : ε) : Within E R (throw e : Py P σ ε α) := fun s w => refl (s, w)

theorem get : Within E R (get : Py P σ ε σ) := fun s w => refl (s, w)

theorem ofExcept (r : Except ε α) : Within E R (ofExcept r : Py P σ ε α) := by
  intro s w
  rw [wpc_ofExcept]
  exact refl (s, w)

omit [IsPreorder (σ × W) R] in
theorem modify {f : σ → σ} (steps : ∀ s w, R (s, w) (f s, w)) :
    Within E R (modify f : Py P σ ε PUnit) :=
  fun s w => steps s w

omit [IsPreorder (σ × W) R] in
theorem ask {c : P.A} {read : P.B c → Except ε α}
    (steps : ∀ s w r w', E.step w c r w' → R (s, w) (s, w')) :
    Within E R (ask c read : Py P σ ε α) :=
  fun s w r w' step => ⟨⟨s, steps s w r w' step⟩, steps s w r w' step⟩

/-- What is reached from a state that is related to the first one is related to it too. -/
theorem after {p : Py P σ ε α} (inner : Within E R p) {s s' : σ} {w w' : W}
    (first : R (s, w) (s', w')) :
    p.wpc E (fun w'' => ∃ s'', R (s, w) (s'', w'')) (fun _ s'' w'' => R (s, w) (s'', w'')) s' w' := by
  refine wpc_mono (fun w'' crash => ?_) (fun r s'' w'' next => ?_) (inner s' w')
  · obtain ⟨s'', next⟩ := crash
    exact ⟨s'', IsTrans.trans _ _ _ first next⟩
  · exact IsTrans.trans _ _ _ first next

theorem bind {p : Py P σ ε β} {f : β → Py P σ ε α} (first : Within E R p)
    (rest : ∀ b, Within E R (f b)) : Within E R (p >>= f) := by
  intro s w
  rw [wpc_bind]
  refine wpc_mono (fun _ kept => kept) (fun r s' w' step => ?_) (first s w)
  cases r with
  | error e => exact step
  | ok b => exact (rest b).after step

theorem catching {p : Py P σ ε α} {h : ε → Py P σ ε α} (body : Within E R p)
    (handler : ∀ e, Within E R (h e)) : Within E R (catching p h) := by
  intro s w
  rw [wpc_catching]
  refine wpc_mono (fun _ kept => kept) (fun r s' w' step => ?_) (body s w)
  cases r with
  | ok a => exact step
  | error e => exact (handler e).after step

omit [IsPreorder (σ × W) R] in
theorem ite {c : Prop} [Decidable c] {p q : Py P σ ε α} (yes : Within E R p)
    (no : Within E R q) : Within E R (if c then p else q) := by
  split
  · exact yes
  · exact no

theorem andFinally {p : Py P σ ε α} {q : Py P σ ε Unit} (body : Within E R p)
    (last : Within E R q) : Within E R (andFinally p q) := by
  intro s w
  rw [wpc_andFinally]
  refine wpc_mono (fun _ kept => kept) (fun r s' w' step => ?_) (body s w)
  refine wpc_mono (fun _ kept => kept) (fun r' s'' w'' next => ?_) (last.after step)
  cases r' with
  | ok _ => exact next
  | error e => exact next

theorem traverse {γ : Type} {f : γ → Py P σ ε α} (each : ∀ x, Within E R (f x)) (xs : List γ) :
    Within E R (traverse f xs) := by
  induction xs with
  | nil => exact pure []
  | cons x xs ih => exact (each x).bind fun y => ih.bind fun ys => pure (y :: ys)

theorem forEach {γ : Type} {f : γ → Py P σ ε Unit} (each : ∀ x, Within E R (f x)) (xs : List γ) :
    Within E R (forEach f xs) := by
  induction xs with
  | nil => exact pure ()
  | cons x xs ih => exact (each x).bind fun _ => ih

end Within

/-- The relation of a method that moves nothing. -/
def Still {τ : Type} (x y : τ) : Prop := y = x

instance {τ : Type} : IsPreorder τ Still where
  refl _ := rfl
  trans _ _ _ first next := Eq.trans next first

/-- A method that moves nothing stays within every relation of this kind. -/
theorem Within.of_still {R : σ × W → σ × W → Prop} [IsPreorder (σ × W) R] {p : Py P σ ε α}
    (still : Within E Still p) : Within E R p := by
  intro s w
  refine wpc_mono (fun w' crash => ?_) (fun r s' w' same => ?_) (still s w)
  · obtain ⟨s', same⟩ := crash
    cases same
    exact ⟨s, refl (s, w)⟩
  · cases same
    exact refl (s, w)

/-- The relation of a method that leaves its object alone. -/
def Apart (x y : σ × W) : Prop := y.1 = x.1

instance : IsPreorder (σ × W) Apart where
  refl _ := rfl
  trans _ _ _ first next := Eq.trans next first

/-- What is seen in the environment that checks the calls: the object stays, and no call is outside
of those that are allowed. -/
def Mild (x y : σ × Prop) : Prop := y.1 = x.1 ∧ (x.2 → y.2)

instance : IsPreorder (σ × Prop) (Mild (σ := σ)) where
  refl _ := ⟨rfl, id⟩
  trans _ _ _ first next := ⟨next.1.trans first.1, fun start => next.2 (first.2 start)⟩

/-- The method leaves its object alone and makes no calls but those in `K`. -/
def Only (K : P.A → Prop) (p : Py P σ ε α) : Prop := Within (Prog.checked K) Mild p

theorem Only.ask {K : P.A → Prop} {c : P.A} {read : P.B c → Except ε α} (allowed : K c) :
    Only K (ask c read : Py P σ ε α) := by
  refine Within.ask fun s w r w' step => ⟨rfl, fun _ => ?_⟩
  obtain rfl : w' = K c := step
  exact allowed

/-- Such a method stays within every relation that these calls stay within. -/
theorem Only.within {K : P.A → Prop} {R : σ × W → σ × W → Prop} [IsPreorder (σ × W) R]
    (keeps : ∀ c, K c → ∀ s w r w', E.step w c r w' → R (s, w) (s, w')) {p : Py P σ ε α}
    (only : Only K p) : Within E R p := by
  intro s w
  have walk : ∀ (q : Prog P (Except ε α × σ)) (w₁ : W), R (s, w) (s, w₁) →
      q.wpc (Prog.checked K) (fun v => ∃ s', Mild (s, True) (s', v))
        (fun x v => Mild (s, True) (x.2, v)) True →
      q.wpc E (fun w' => ∃ s', R (s, w) (s', w')) (fun x w' => R (s, w) (x.2, w')) w₁ := by
    intro q
    induction q with
    | ret x =>
        intro w₁ here pre
        obtain same : x.2 = s := pre.1
        rw [Prog.wpc_ret, same]
        exact here
    | call c k ih =>
        intro w₁ here pre r w₂ step
        obtain ⟨⟨_, _, seen⟩, rest⟩ := pre r (K c) rfl
        have allowed : K c := seen trivial
        have next := IsTrans.trans _ _ _ here (keeps c allowed s w₁ r w₂ step)
        rw [eq_true allowed] at rest
        exact ⟨⟨s, next⟩, ih r w₂ next rest⟩
  exact walk (p s) w (refl (s, w)) (only s True)

theorem Only.mono {K K' : P.A → Prop} {p : Py P σ ε α} (more : ∀ c, K c → K' c)
    (only : Only K p) : Only K' p := by
  refine only.within fun c allowed s w r w' step => ⟨rfl, fun _ => ?_⟩
  obtain rfl : w' = K' c := step
  exact more c allowed

/-- A part of an object that is put back as it was. -/
theorem Only.zoom {τ : Type} {K : P.A → Prop} {get : σ → τ} {set : τ → σ → σ}
    (same : ∀ s, set (get s) s = s) {p : Py P τ ε α} (only : Only K p) :
    Only K (zoom get set p) := by
  intro s w
  rw [wpc_zoom]
  refine wpc_mono (fun w' crash => ?_) (fun r t w' mild => ?_) (only (get s) w)
  · obtain ⟨_, -, kept⟩ := crash
    exact ⟨s, rfl, kept⟩
  · obtain ⟨rfl, kept⟩ := mild
    exact ⟨same s, kept⟩

/-- A call has no access to the object. -/
theorem Within.ask_apart (c : P.A) (read : P.B c → Except ε α) :
    Within E Apart (Py.ask c read : Py P σ ε α) :=
  .ask fun _ _ _ _ _ => rfl

theorem Within.kept {p : Py P σ ε α} (apart : Within E Apart p) :
    p.wpc E (fun _ => True) (fun _ s' _ => s' = s) s w :=
  wpc_mono (fun _ _ => trivial) (fun _ _ _ same => same) (apart s w)

/-- A first step that leaves the object alone and whose outcome does not matter. -/
theorem wpc_skip {p : Py P σ ε β} {f : β → Py P σ ε α} (apart : Within E Apart p)
    (failed : ∀ e w', Q (.error e) s w') (rest : ∀ b w', (f b).wpc E (fun _ => True) Q s w') :
    (p >>= f).wpc E (fun _ => True) Q s w := by
  rw [wpc_bind]
  refine wpc_mono (fun _ _ => trivial) (fun r s' w' same => ?_) apart.kept
  subst same
  cases r with
  | error e => exact failed e w'
  | ok b => exact rest b w'

/-! ## What a method returns -/

/-- Every value that the method returns is in `ψ`. -/
def Returns (E : Env P W) (ψ : α → Prop) (p : Py P σ ε α) : Prop :=
  ∀ s w, p.wpc E (fun _ => True) (fun r _ _ => either ψ (fun _ => True) r) s w

namespace Returns

variable {ψ : α → Prop}

theorem pure {a : α} (mem : ψ a) : Returns E ψ (pure a : Py P σ ε α) := fun _ _ => mem

theorem throw (e : ε) : Returns E ψ (throw e : Py P σ ε α) := fun _ _ => trivial

/-- A property that every value has. -/
theorem all (p : Py P σ ε α) (mem : ∀ a, ψ a) : Returns E ψ p := by
  intro s w
  refine wpc_mono (fun _ _ => trivial) (fun r _ _ _ => ?_)
    (wpc_invariant (fun _ _ _ _ _ _ => trivial) p trivial)
  cases r with
  | ok a => exact mem a
  | error e => trivial

theorem any (p : Py P σ ε α) : Returns E (fun _ => True) p := all p fun _ => trivial

theorem mono {χ : α → Prop} {p : Py P σ ε α} (returns : Returns E χ p)
    (sub : ∀ a, χ a → ψ a) : Returns E ψ p := by
  intro s w
  refine wpc_mono (fun _ _ => trivial) (fun r _ _ mem => ?_) (returns s w)
  cases r with
  | ok a => exact sub a mem
  | error e => trivial

theorem ofExcept {r : Except ε α} (mem : ∀ a, r = .ok a → ψ a) :
    Returns E ψ (Py.ofExcept r : Py P σ ε α) := by
  intro s w
  rw [wpc_ofExcept]
  cases r with
  | ok a => exact mem a rfl
  | error e => trivial

theorem bind {χ : β → Prop} {p : Py P σ ε β} {f : β → Py P σ ε α} (first : Returns E χ p)
    (rest : ∀ b, χ b → Returns E ψ (f b)) : Returns E ψ (p >>= f) := by
  intro s w
  rw [wpc_bind]
  refine wpc_mono (fun _ _ => trivial) (fun r s' w' mem => ?_) (first s w)
  cases r with
  | ok b => exact rest b mem s' w'
  | error e => trivial

theorem ite {c : Prop} [Decidable c] {p q : Py P σ ε α} (yes : c → Returns E ψ p)
    (no : ¬ c → Returns E ψ q) : Returns E ψ (if c then p else q) := by
  split
  · next holds => exact yes holds
  · next fails => exact no fails

theorem catching {p : Py P σ ε α} {h : ε → Py P σ ε α} (body : Returns E ψ p)
    (handler : ∀ e, Returns E ψ (h e)) : Returns E ψ (catching p h) := by
  intro s w
  rw [wpc_catching]
  refine wpc_mono (fun _ _ => trivial) (fun r s' w' mem => ?_) (body s w)
  cases r with
  | ok b => exact mem
  | error e => exact handler e s' w'

end Returns

/-- Sequencing after a method of which it is known what it returns. -/
theorem Within.bind_returns {R : σ × W → σ × W → Prop} [IsPreorder (σ × W) R] {ψ : β → Prop}
    {p : Py P σ ε β} {f : β → Py P σ ε α} (first : Within E R p) (returns : Returns E ψ p)
    (rest : ∀ b, ψ b → Within E R (f b)) : Within E R (p >>= f) := by
  intro s w
  rw [wpc_bind]
  refine wpc_mono (fun _ kept => kept.1) (fun r s' w' both => ?_)
    (wpc_and (first s w) (returns s w))
  cases r with
  | error e => exact both.1
  | ok b => exact (rest b both.2).after both.1

/-! ## Loops -/

/-- The loop rule: what each round keeps, the loop keeps, also when a round raises. -/
theorem wpc_traverse {γ : Type} {I : σ → W → Prop} {J : ε → σ → W → Prop}
    {f : γ → Py P σ ε α} (each : ∀ x s w, I s w →
      (f x).wpc E C (fun r s' w' => either (fun _ => I s' w') (fun e => J e s' w') r) s w)
    (xs : List γ) (start : I s w) :
    (traverse f xs).wpc E C
      (fun r s' w' => either (fun ys => ys.length = xs.length ∧ I s' w') (fun e => J e s' w') r)
      s w := by
  induction xs generalizing s w with
  | nil => exact ⟨rfl, start⟩
  | cons x xs ih =>
      simp only [traverse, wpc_bind, wpc_pure]
      refine wpc_mono (fun _ h => h) (fun r s' w' kept => ?_) (each x s w start)
      cases r with
      | error e => exact kept
      | ok y =>
          rw [either_ok]
          refine wpc_mono (fun _ h => h) (fun r s' w' kept => ?_) (ih kept)
          cases r with
          | error e => exact kept
          | ok ys => exact ⟨congrArg Nat.succ kept.1, kept.2⟩

/-- The same, with what each round makes of its element. -/
theorem wpc_traverse_forall₂ {γ : Type} {I : σ → W → Prop} {R : γ → α → Prop}
    {f : γ → Py P σ ε α} {xs : List γ} (each : ∀ x ∈ xs, ∀ s w, I s w →
      (f x).wpc E C (fun r s' w' => either (fun y => R x y ∧ I s' w') (fun _ => True) r) s w)
    (start : I s w) :
    (traverse f xs).wpc E C
      (fun r s' w' => either (fun ys => List.Forall₂ R xs ys ∧ I s' w') (fun _ => True) r) s w := by
  induction xs generalizing s w with
  | nil => exact ⟨.nil, start⟩
  | cons x xs ih =>
      simp only [traverse, wpc_bind, wpc_pure]
      refine wpc_mono (fun _ h => h) (fun r s' w' made => ?_) (each x (by simp) s w start)
      cases r with
      | error e => trivial
      | ok y =>
          rw [either_ok]
          refine wpc_mono (fun _ h => h) (fun r s' w' rest => ?_)
            (ih (fun x mem => each x (by simp [mem])) made.2)
          cases r with
          | error e => trivial
          | ok ys => exact ⟨.cons made.1 rest.1, rest.2⟩

/-! ## Which calls a method makes -/

/-- Some run of the method from the state makes the call. -/
def Makes (c : P.A) (p : Py P σ ε α) (s : σ) : Prop := Prog.Makes c (p s)

theorem makes_of_checked {K : P.A → Prop} {p : Py P σ ε α} {Q : Except ε α → σ → Prop → Prop}
    {s : σ} {w : Prop} (pre : p.wpc (Prog.checked K) (fun w' => w') Q s w) {c : P.A}
    (made : p.Makes c s) : K c :=
  Prog.makes_of_checked pre made

theorem wpc_makes {I : W → Prop} {p : Py P σ ε α} {s : σ}
    (steps : ∀ w c r w', p.Makes c s → E.step w c r w' → I w → I w') (start : I w) :
    p.wpc E I (fun _ _ w' => I w') s w :=
  Prog.wpc_makes steps start

end Py

end Interaction
