import Mathlib.Data.List.Forall2

/-!
# Readers of words

A reader takes what it needs from the front of a list. `Reads` says that a reader takes exactly these
words for that value whatever follows them, so what was written in pieces is read in pieces.
-/

universe u

abbrev Reader (ω α : Type u) : Type u := StateT (List ω) Option α

namespace Reader

variable {ω α β : Type u}

def one : Reader ω ω := fun words =>
  match words with
  | [] => none
  | w :: rest => some (w, rest)

/-- One after the other. -/
def times (p : Reader ω α) : Nat → Reader ω (List α)
  | 0 => pure []
  | n + 1 => do
      let a ← p
      let more ← times p n
      return a :: more

def Reads (p : Reader ω α) (words : List ω) (a : α) : Prop :=
  ∀ rest, p (words ++ rest) = some (a, rest)

variable {p : Reader ω α} {f : α → Reader ω β} {words more : List ω} {a : α} {b : β}

theorem Reads.pure (a : α) : Reads (Pure.pure a : Reader ω α) [] a := fun _ => rfl

theorem Reads.one (w : ω) : Reads one [w] w := fun _ => rfl

theorem Reads.bind (first : Reads p words a) (second : Reads (f a) more b) :
    Reads (p >>= f) (words ++ more) b := by
  intro rest
  have run : (p >>= f) (words ++ (more ++ rest)) =
      (p (words ++ (more ++ rest))).bind fun pair => f pair.1 pair.2 := rfl
  rw [List.append_assoc, run, first, Option.bind_some, second]

/-- The value of the last step. -/
theorem Reads.map {g : α → β} (first : Reads p words a) :
    Reads (p >>= fun a => Pure.pure (g a)) words (g a) := by
  have both := first.bind (f := fun a => Pure.pure (g a)) (Reads.pure (g a))
  rw [List.append_nil] at both
  exact both

theorem Reads.times {pieces : List (List ω)} {values : List α}
    (each : List.Forall₂ (Reads p) pieces values) :
    Reads (times p values.length) pieces.flatten values := by
  induction each with
  | nil => exact Reads.pure []
  | cons first _ ih => exact first.bind ih.map

end Reader
