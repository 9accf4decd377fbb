import FrigateAsahi.ScalerFilter

/-!
# What the wrapper hands to the real ffmpeg

The loop of pass 2 takes arguments from the front of the positional parameters and appends their
replacements at the end. Its invariant keeps the remaining arguments before the produced ones
(`rotate_eq`); a whole turn is the concatenation, in order, of what each argument is replaced by.
-/

namespace Wrapper

/-- What an argument becomes, given the one directly before it. -/
def piece (mode : Str) (before : Option Str) (a : Str) : List Str :=
  if before = some (sh "-hwaccel") ∧ a = sh "v4l2request" then
    [a, sh "-init_hw_device", sh "vulkan=vk", sh "-filter_hw_device", sh "vk",
      sh "-hwaccel_output_format", sh "drm_prime"]
  else if before = some (sh "-vf") then [replacement mode (n a) (w a) (h a)]
  else [a]

/-- The pieces of the arguments, in order; `before` is the argument before the first one. -/
def concatenation (mode : Str) : Option Str → List Str → List Str
  | _, [] => []
  | before, a :: rest => piece mode before a ++ concatenation mode (some a) rest

/-- No argument of `part` is one that a rewrite replaces or adds to. -/
def Untouched (before : Option Str) (part : List Str) : Prop :=
  ∀ x y, [x, y] <:+: before.toList ++ part →
    x ≠ sh "-vf" ∧ ¬ (x = sh "-hwaccel" ∧ y = sh "v4l2request")

theorem emitted_eq_piece (mode : Str) (before : Option Str) (a : Str) :
    emitted mode (before.getD []) a = piece mode before a := by
  cases before with
  | none =>
      have hwaccel : ([] : Str) ≠ sh "-hwaccel" := by decide
      have filter : ([] : Str) ≠ sh "-vf" := by decide
      unfold emitted piece
      simp [hwaccel, filter]
  | some prev =>
      unfold emitted piece
      simp [hwTokens]

/-- The invariant of the loop: what remains stands before what was produced. -/
theorem rotate_eq (mode : Str) (remaining produced : List Str) (before : Option Str) :
    rotate mode remaining.length (before.getD []) (remaining ++ produced) =
      produced ++ concatenation mode before remaining := by
  induction remaining generalizing produced before with
  | nil => simp [rotate, concatenation]
  | cons a rest ih =>
      have next := ih (produced ++ piece mode before a) (some a)
      rw [Option.getD_some] at next
      rw [List.length_cons, List.cons_append, rotate, emitted_eq_piece, List.append_assoc, next,
        concatenation, List.append_assoc]

theorem rebuilt_eq (env : Surroundings) (args : List Str) :
    rebuilt env args = if rewrite env args then concatenation env.mode none args else args := by
  have turn := rotate_eq env.mode args [] none
  rw [List.append_nil, Option.getD_none, List.nil_append] at turn
  unfold rebuilt
  rw [turn]

theorem concatenation_append (mode : Str) (before : Option Str) (front back : List Str) :
    concatenation mode before (front ++ back) =
      concatenation mode before front ++
        concatenation mode (front.getLast?.or before) back := by
  induction front generalizing before with
  | nil => simp [concatenation]
  | cons a rest ih =>
      have last : (a :: rest).getLast?.or before = rest.getLast?.or (some a) := by
        rw [List.getLast?_cons]
        cases rest.getLast? <;> rfl
      rw [List.cons_append, concatenation, ih, concatenation, List.append_assoc, last]

theorem concatenation_untouched (mode : Str) {before : Option Str} {part : List Str}
    (untouched : Untouched before part) : concatenation mode before part = part := by
  induction part generalizing before with
  | nil => rfl
  | cons a rest ih =>
      have head : piece mode before a = [a] := by
        cases before with
        | none => simp [piece]
        | some x =>
            obtain ⟨filter, device⟩ := untouched x a ⟨[], rest, rfl⟩
            unfold piece
            rw [if_neg (by simpa using device), if_neg (by simpa using filter)]
      have tail : Untouched (some a) rest := by
        intro x y inside
        exact untouched x y (inside.trans (List.suffix_append before.toList (a :: rest)).isInfix)
      rw [concatenation, head, ih tail, List.singleton_append]

/-- The tokens put after the device make the list one that is never rewritten. -/
theorem explicit_mem_concatenation (mode : Str) {args : List Str}
    (device : [sh "-hwaccel", sh "v4l2request"] <:+: args) (before : Option Str) :
    sh "-init_hw_device" ∈ concatenation mode before args := by
  obtain ⟨front, back, rfl⟩ := device
  rw [concatenation_append, concatenation_append]
  simp [concatenation, piece]

theorem rewrite_rebuilt {env env' : Surroundings} {args : List Str}
    (rewritten : rewrite env args = true) : rewrite env' (rebuilt env args) = false := by
  obtain ⟨⟨-, device, -⟩, -⟩ := rewrite_iff.mp rewritten
  have inside := explicit_mem_concatenation env.mode device none
  rw [rebuilt_eq, if_pos rewritten, ← Bool.not_eq_true]
  intro again
  obtain ⟨⟨-, -, -, -, plain⟩, -⟩ := rewrite_iff.mp again
  exact plain _ inside (by decide)

/-- A scaler is replaced by one filter with its own numbers. -/
theorem piece_scaler (mode : Str) {number width height : Str} (first : Number number)
    (second : Number width) (third : Number height) :
    piece mode (some (sh "-vf")) (scaler number width height) =
      [replacement mode number width height] := by
  obtain ⟨left, middle, right⟩ := parts_of_scaler first.2 second.2 third.2
  unfold piece
  rw [if_neg (by simp [show sh "-vf" ≠ sh "-hwaccel" by decide]), if_pos rfl, left, middle, right]

/-- Nothing is lost, duplicated or moved: the real binary gets the arguments unchanged or the
concatenation of their pieces, a scaler becomes one filter with its own numbers, a stretch without filters and devices comes out as it went in, and
the rewritten arguments are left alone by a second run under any surroundings. -/
theorem exec_arguments (env : Surroundings) (args : List Str) :
    (exec env args = launcher env ++ args ∨
      exec env args = launcher env ++ concatenation env.mode none args) ∧
    (∀ number width height, Number number → Number width → Number height →
      piece env.mode (some (sh "-vf")) (scaler number width height) =
        [replacement env.mode number width height]) ∧
    (∀ front part back, args = front ++ part ++ back → Untouched front.getLast? part →
      exec env args = launcher env ++ (front ++ part ++ back) ∨
      exec env args = launcher env ++ (concatenation env.mode none front ++ part ++
        concatenation env.mode (front ++ part).getLast? back)) ∧
    rebuilt env (rebuilt env args) = rebuilt env args ∧
    ∀ env', rewrite env args = true →
      rebuilt env' (rebuilt env args) = rebuilt env args := by
  have again : ∀ env', rewrite env args = true →
      rebuilt env' (rebuilt env args) = rebuilt env args := by
    intro env' rewritten
    rw [rebuilt_eq env' (rebuilt env args), rewrite_rebuilt rewritten]
    rfl
  have whole : exec env args = launcher env ++ args ∨
      exec env args = launcher env ++ concatenation env.mode none args := by
    unfold exec
    rw [rebuilt_eq]
    by_cases rewritten : rewrite env args = true
    · exact .inr (by rw [if_pos rewritten])
    · exact .inl (by rw [if_neg rewritten])
  refine ⟨whole, fun _ _ _ first second third => piece_scaler env.mode first second third, ?_, ?_,
    again⟩
  · rintro front part back rfl untouched
    refine whole.imp_right fun rewritten => ?_
    have before : front.getLast?.or none = front.getLast? := by cases front.getLast? <;> rfl
    have last : (front ++ part).getLast?.or none = (front ++ part).getLast? := by
      cases (front ++ part).getLast? <;> rfl
    rw [rewritten, concatenation_append, concatenation_append, before, last,
      concatenation_untouched _ untouched]
  · by_cases rewritten : rewrite env args = true
    · exact again env rewritten
    · have same : rebuilt env args = args := by rw [rebuilt_eq, if_neg rewritten]
      rw [same, same]

/-- The detect output is rewritten; the record output behind it is as it was. -/
example :
    exec bare [sh "-hwaccel", sh "v4l2request", sh "-i", sh "cam", sh "-vf",
        sh "fps=5,scale=640:360", sh "-f", sh "rawvideo", sh "pipe:", sh "-c:v", sh "copy", sh ""] =
      [sh "/opt/ffmpeg-vk/bin/ffmpeg", sh "-hwaccel", sh "v4l2request"] ++ hwTokens ++
        [sh "-i", sh "cam", sh "-vf", replacement (sh "2stage") (sh "5") (sh "640") (sh "360"),
          sh "-f", sh "rawvideo", sh "pipe:", sh "-c:v", sh "copy", sh ""] := by
  decide +kernel

end Wrapper
