/-!
# Sequences of events

A machine takes events one by one, each of them only in some of its states. A condition on the
events is asked in the state an event comes in.
-/

namespace Machines

variable {σ ε : Type} (next : σ → ε → Option σ)

/-- The state after the events, `none` if one of them cannot come where it does. -/
def run : σ → List ε → Option σ
  | s, [] => some s
  | s, e :: rest => next s e >>= fun t => run t rest

/-- Every event meets the condition where it comes. -/
def Obeys (condition : σ → ε → Prop) : σ → List ε → Prop
  | _, [] => True
  | s, e :: rest => condition s e ∧ ∀ t ∈ next s e, Obeys condition t rest

instance decidableObeys (condition : σ → ε → Prop) [∀ s e, Decidable (condition s e)] :
    ∀ s events, Decidable (Obeys next condition s events)
  | _, [] => inferInstanceAs (Decidable True)
  | s, e :: rest =>
      have : Decidable (∀ t ∈ next s e, Obeys next condition t rest) :=
        match next s e with
        | none => .isTrue (by simp)
        | some t =>
            match decidableObeys condition t rest with
            | .isTrue obeys => .isTrue (by simpa using obeys)
            | .isFalse fails => .isFalse (by simpa using fails)
      inferInstanceAs (Decidable (_ ∧ _))

variable {next} {condition : σ → ε → Prop} {Inv : σ → Prop}

/-- What each event preserves where it meets the condition, a sequence of such events preserves. -/
theorem run_invariant
    (step : ∀ {s e t}, Inv s → condition s e → next s e = some t → Inv t) :
    ∀ {events s t}, Inv s → Obeys next condition s events → run next s events = some t → Inv t
  | [], s, t, inv, _, ran => by
      cases ran
      exact inv
  | e :: rest, s, t, inv, obeys, ran => by
      cases taken : next s e with
      | none =>
          simp only [run, taken] at ran
          cases ran
      | some u =>
          simp only [run, taken] at ran
          exact run_invariant step (step inv obeys.1 taken) (obeys.2 u taken) ran

theorem obeys_trivially : ∀ s events, Obeys next (fun _ _ => True) s events
  | _, [] => trivial
  | _, _ :: rest => ⟨trivial, fun t _ => obeys_trivially t rest⟩

/-- Without a condition. -/
theorem run_preserves (step : ∀ {s e t}, Inv s → next s e = some t → Inv t) {events : List ε}
    {s t : σ} (inv : Inv s) (ran : run next s events = some t) : Inv t :=
  run_invariant (fun before _ taken => step before taken) inv (obeys_trivially s events) ran

end Machines
