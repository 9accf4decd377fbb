import FrigateAsahi.NalInfo.AnnexB

/-!
# Cutting what was cut

The splitter takes any octets. Written behind start codes of four octets, the units that come out of
it are found again unless the last one is empty, since no octet follows its start code then
(`nals_annexB_iff`). `cut` fails on an empty unit before it writes one. So what it wrote is split
into the units that it kept, and cutting again is cutting once, at the smaller number (`cut_cut`).
-/

namespace NalInfo

open Text (Bytes)
open Python

/-! ## Where a start code is found -/

theorem scan_none {i : Nat} {data : Bytes} (none : scan i data = []) (b : UInt8) :
    ¬ [0, 0, 1, b] <:+: data := by
  induction data generalizing i with
  | nil => simp
  | cons x data ih =>
      rw [List.infix_cons_iff]
      rintro (front | inside)
      · obtain ⟨rest, same⟩ := front
        rw [← same, List.cons_append, List.cons_append, List.cons_append, List.cons_append,
          List.nil_append, scan] at none
        cases none
      · by_cases coded : ∃ c rest, x :: data = 0 :: 0 :: 1 :: c :: rest
        · obtain ⟨c, rest, same⟩ := coded
          rw [same, scan] at none
          cases none
        · rw [scan] at none
          · exact ih none inside
          · intro c rest zero same
            exact coded ⟨c, rest, by rw [zero, same]⟩

theorem scan_quiet {data : Bytes} (quiet : ∀ b, ¬ [0, 0, 1, b] <:+: data) (i : Nat) :
    scan i data = [] := by
  induction data generalizing i with
  | nil => rfl
  | cons x data ih =>
      rw [scan]
      · exact ih (fun b inside => quiet b (inside.trans (List.suffix_cons x data).isInfix)) (i + 1)
      · intro c rest zero same
        exact quiet c ⟨[], rest, by rw [zero, same]; rfl⟩

/-- The scan starts over behind the first start code, and there is none before it. -/
theorem scan_some {i s : Nat} {data : Bytes} {more : List Nat} (found : scan i data = s :: more) :
    ∃ front b rest, data = front ++ 0 :: 0 :: 1 :: b :: rest ∧ s = i + front.length + 3 ∧
      more = scan s (b :: rest) ∧ ¬ [0, 0, 1] <:+: front := by
  induction data generalizing i with
  | nil => cases found
  | cons x data ih =>
      by_cases coded : ∃ c rest, x :: data = 0 :: 0 :: 1 :: c :: rest
      · obtain ⟨c, rest, same⟩ := coded
        rw [same, scan, List.cons.injEq] at found
        refine ⟨[], c, rest, same, found.1.symm, ?_, by simp⟩
        rw [← found.2, found.1]
      · rw [scan] at found
        · obtain ⟨front, b, rest, same, place, others, none⟩ := ih found
          refine ⟨x :: front, b, rest, by rw [same]; rfl, ?_, others, ?_⟩
          · rw [place, List.length_cons]
            omega
          · rw [List.infix_cons_iff]
            rintro (first | inside)
            · obtain ⟨tail, whole⟩ := first
              have start : x :: data = [0, 0, 1] ++ tail ++ 0 :: 0 :: 1 :: b :: rest := by
                rw [whole, same]
                rfl
              rcases tail with - | ⟨c, tail⟩
              · exact coded ⟨0, _, start⟩
              · exact coded ⟨c, _, start⟩
            · exact none inside
        · intro c rest zero same
          exact coded ⟨c, rest, by rw [zero, same]⟩

theorem scan_lt {i s : Nat} {data : Bytes} (found : s ∈ scan i data) : s < i + data.length := by
  generalize starts : scan i data = all at found
  induction all generalizing i data with
  | nil => cases found
  | cons s' more ih =>
      obtain ⟨front, b, rest, same, place, others, -⟩ := scan_some starts
      rw [same, List.length_append]
      simp only [List.length_cons]
      rcases List.mem_cons.mp found with rfl | later
      · omega
      · have within := ih others.symm later
        rw [List.length_cons] at within
        omega

/-! ## Padding -/

theorem trim_spec (data : Bytes) {s e : Nat} (start : s ≤ e) :
    s ≤ trim data s e ∧ trim data s e ≤ e ∧
      (trim data s e = s ∨ data.getD (trim data s e - 1) 0 ≠ 0) := by
  induction e with
  | zero => simp [trim, Nat.le_zero.mp start]
  | succ e ih =>
      rw [trim]
      split
      · rename_i zero
        obtain ⟨low, high, last⟩ := ih (by omega)
        exact ⟨low, by omega, last⟩
      · rename_i kept
        refine ⟨start, Nat.le_refl _, ?_⟩
        by_cases empty : e + 1 = s
        · exact Or.inl empty
        · exact Or.inr fun zero => kept ⟨by omega, zero⟩

/-- What is left of the octets between two start codes. -/
theorem slice_spec (before body rest : Bytes) :
    ∃ unit, ((before ++ (body ++ rest)).take
      (trim (before ++ (body ++ rest)) before.length (before.length + body.length))).drop
        before.length = unit ∧ unit <+: body ∧ unit.getLast? ≠ some 0 := by
  obtain ⟨low, high, last⟩ :=
    trim_spec (before ++ (body ++ rest)) (Nat.le_add_right before.length body.length)
  generalize trim (before ++ (body ++ rest)) before.length (before.length + body.length) = e
    at low high last
  have taken : ((before ++ (body ++ rest)).take e).drop before.length =
      body.take (e - before.length) := by
    rw [List.take_append, List.drop_append, List.take_of_length_le low, List.drop_length,
      Nat.sub_self, List.drop_zero, List.nil_append, List.take_append_of_le_length (by omega)]
  refine ⟨_, taken, List.take_prefix _ _, fun zero => ?_⟩
  rw [List.getLast?_eq_getElem?, List.length_take, Nat.min_eq_left (by omega)] at zero
  rcases last with none | last
  · rw [none, Nat.sub_self, List.take_zero] at zero
    cases zero
  · by_cases empty : e = before.length
    · rw [empty, Nat.sub_self, List.take_zero] at zero
      cases zero
    · rw [List.getElem?_take_of_lt (by omega)] at zero
      apply last
      rw [List.getD_eq_getElem?_getD, List.getElem?_append_right (by omega),
        List.getElem?_append_left (by omega)]
      have place : e - 1 - before.length = e - before.length - 1 := by omega
      rw [place, zero]
      rfl

theorem trim_padded (data : Bytes) {s e : Nat} (gap : Nat)
    (zeros : ∀ k < gap, data.getD (e + k) 0 = 0) (start : s ≤ e)
    (last : s < e → data.getD (e - 1) 0 ≠ 0) : trim data s (e + gap) = e := by
  by_cases some : s < e
  · exact trim_zeros data gap zeros (last some) some
  · obtain rfl : s = e := by omega
    induction gap with
    | zero => cases s <;> simp [trim]
    | succ gap ih =>
        rw [← Nat.add_assoc, trim, if_pos ⟨by omega, zeros gap (by omega)⟩]
        exact ih fun k below => zeros k (by omega)

/-- A unit that may be empty, trimmed at the end of the zeros behind it. -/
theorem slice_padded {nal : Bytes} (last : nal.getLast? ≠ some 0) (before rest : Bytes)
    (gap : Nat) :
    ((before ++ (nal ++ (List.replicate gap 0 ++ rest))).take
      (trim (before ++ (nal ++ (List.replicate gap 0 ++ rest))) before.length
        (before.length + nal.length + gap))).drop before.length = nal := by
  have trimmed : trim (before ++ (nal ++ (List.replicate gap 0 ++ rest))) before.length
      (before.length + nal.length + gap) = before.length + nal.length := by
    refine trim_padded _ gap (fun k below => ?_) (by omega) fun some => ?_
    · rw [List.getD_eq_getElem?_getD, List.getElem?_append_right (by omega),
        List.getElem?_append_right (by omega), List.getElem?_append_left (by simp; omega),
        List.getElem?_replicate, if_pos (by omega)]
      rfl
    · have place : before.length + nal.length - 1 - before.length = nal.length - 1 := by omega
      rw [List.getD_eq_getElem?_getD, List.getElem?_append_right (by omega), place,
        List.getElem?_append_left (by omega), ← List.getLast?_eq_getElem?]
      cases final : nal.getLast? with
      | none =>
          rw [List.getLast?_eq_none_iff] at final
          rw [final] at some
          simp at some
      | some b =>
          rintro rfl
          exact last final
  rw [trimmed, ← List.length_append, ← List.append_assoc, List.take_left, List.drop_left]

/-! ## What comes out of the splitter -/

/-- Another start code may follow the unit: none is in it, not at its end either. -/
structure Inner (nal : Bytes) : Prop where
  code : ¬ [0, 0, 1] <:+: nal
  last : nal.getLast? ≠ some 0

/-- At the end of the octets a start code does not count. -/
structure Final (nal : Bytes) : Prop where
  code : ∀ b, ¬ [0, 0, 1, b] <:+: nal
  last : nal.getLast? ≠ some 0

theorem Inner.final {nal : Bytes} (inner : Inner nal) : Final nal where
  code b inside := inner.code (List.IsInfix.trans ⟨[], [b], rfl⟩ inside)
  last := inner.last

def Separable : List Bytes → Prop
  | [] => True
  | [nal] => Final nal
  | nal :: next :: rest => Inner nal ∧ Separable (next :: rest)

theorem Separable.of_prefix {kept units : List Bytes} (front : kept <+: units)
    (separable : Separable units) : Separable kept := by
  induction units generalizing kept with
  | nil =>
      rw [List.prefix_nil.mp front]
      exact trivial
  | cons nal units ih =>
      rcases kept with - | ⟨first, kept⟩
      · exact trivial
      · obtain ⟨rfl, more⟩ := List.cons_prefix_cons.mp front
        rcases units with - | ⟨next, rest⟩
        · rw [List.prefix_nil.mp more]
          exact separable
        · rcases kept with - | ⟨second, kept⟩
          · exact separable.1.final
          · exact ⟨separable.1, ih more separable.2⟩

theorem slices_separable (before data : Bytes) :
    Separable (slices (before ++ data) (scan before.length data)) := by
  generalize starts : scan before.length data = all
  induction all generalizing before data with
  | nil => exact trivial
  | cons s more ih =>
      obtain ⟨front, b, rest, rfl, place, others, -⟩ := scan_some starts
      obtain ⟨before', whole, length⟩ : ∃ before' : Bytes,
          before ++ (front ++ 0 :: 0 :: 1 :: b :: rest) = before' ++ b :: rest ∧
            before'.length = s :=
        ⟨before ++ (front ++ [0, 0, 1]), by simp, by simp [place]; omega⟩
      have later := ih before' (b :: rest) (by rw [length, others])
      rw [whole]
      rcases more with - | ⟨s', more⟩
      · obtain ⟨unit, same, inside, last⟩ := slice_spec before' (b :: rest) []
        rw [List.append_nil, ← List.length_append, length] at same
        rw [slices, slices, nextEnd, same]
        refine ⟨fun c code => ?_, last⟩
        exact scan_none others.symm c (code.trans inside.isInfix)
      · obtain ⟨front', b', rest', body, place', -, none⟩ := scan_some others.symm
        obtain ⟨unit, same, inside, last⟩ := slice_spec before' front' (0 :: 0 :: 1 :: b' :: rest')
        have finish : s' - 3 = before'.length + front'.length := by omega
        rw [← body, ← finish, length] at same
        rw [slices, nextEnd, same]
        exact ⟨⟨fun code => none (code.trans inside.isInfix), last⟩, later⟩

theorem nals_separable (data : Bytes) : Separable (nals data) :=
  slices_separable [] data

/-! ## What is read back -/

/-- Units whose last is not empty are written with an octet behind the first start code. -/
theorem annexB_started {nal : Bytes} {rest : List Bytes} (last : (nal :: rest).getLast? ≠ some []) :
    ∃ b more, nal ++ annexB rest = b :: more := by
  apply List.exists_cons_of_ne_nil
  intro empty
  rw [List.append_eq_nil_iff] at empty
  rcases rest with - | ⟨next, rest⟩
  · rw [empty.1] at last
    exact last rfl
  · rw [annexB_cons, framed] at empty
    cases empty.2

theorem slices_annexB {kept : List Bytes} (separable : Separable kept)
    (last : kept.getLast? ≠ some []) (before : Bytes) :
    slices (before ++ annexB kept) (scan before.length (annexB kept)) = kept := by
  induction kept generalizing before with
  | nil => rfl
  | cons nal rest ih =>
      obtain ⟨b, more, started⟩ := annexB_started last
      obtain ⟨front, whole, length⟩ : ∃ front : Bytes,
          before ++ annexB (nal :: rest) = front ++ (nal ++ annexB rest) ∧
            front.length = before.length + 1 + 3 :=
        ⟨before ++ [0, 0, 0, 1], by simp [annexB_cons, framed], by simp⟩
      have found : scan before.length (annexB (nal :: rest)) =
          front.length :: scan front.length (nal ++ annexB rest) := by
        have first := scan_zeros before.length 1 b more
        rw [← started, ← length] at first
        exact first
      rw [whole, found, slices]
      rcases rest with - | ⟨next, rest⟩
      · have none : scan front.length nal = [] := scan_quiet separable.code _
        have unit := slice_padded separable.last front [] 0
        have nothing : annexB [] = [] := rfl
        simp only [List.replicate_zero, List.append_nil, Nat.add_zero] at unit
        rw [nothing, List.append_nil, none, nextEnd, slices, List.length_append, unit]
      · obtain ⟨inner, others⟩ := separable
        have last' : (next :: rest).getLast? ≠ some [] := by
          rwa [List.getLast?_cons_cons] at last
        obtain ⟨b', more', started'⟩ := annexB_started last'
        have second : scan (front ++ nal).length (annexB (next :: rest)) =
            ((front ++ nal).length + 1 + 3) ::
              scan ((front ++ nal).length + 1 + 3) (b' :: more') := by
          have first := scan_zeros (front ++ nal).length 1 b' more'
          rw [← started'] at first ⊢
          exact first
        have finish : nextEnd (front ++ (nal ++ annexB (next :: rest)))
            (scan (front ++ nal).length (annexB (next :: rest))) = front.length + nal.length + 1 := by
          rw [second, nextEnd, Nat.add_sub_cancel, List.length_append]
        have unit := slice_padded inner.last front ([0, 0, 1] ++ (next ++ annexB rest)) 1
        have behind : List.replicate 1 0 ++ ([0, 0, 1] ++ (next ++ annexB rest)) =
            annexB (next :: rest) := rfl
        rw [behind] at unit
        have tail := ih others last' (front ++ nal)
        rw [List.append_assoc] at tail
        rw [scan_nal inner.code inner.last, ← List.length_append, finish, unit, tail]

theorem nals_of_separable {kept : List Bytes} (separable : Separable kept)
    (last : kept.getLast? ≠ some []) : nals (annexB kept) = kept :=
  slices_annexB separable last []

/-- The last unit of octets that do not end in padding has octets. -/
theorem nals_last {data : Bytes} (last : data.getLast? = some 1) :
    (nals data).getLast? ≠ some [] := by
  have within : ∀ s ∈ scan 0 data, s < data.length := by
    intro s found
    have low := scan_lt found
    omega
  rw [nals]
  generalize scan 0 data = starts at within
  induction starts with
  | nil => simp [slices]
  | cons s more ih =>
      have later := ih fun s member => within s (List.mem_cons_of_mem _ member)
      rcases more with - | ⟨s', more⟩
      · have low := within s (List.mem_cons_self ..)
        have whole : trim data s data.length = data.length := by
          refine trim_padded data 0 (fun k below => absurd below (Nat.not_lt_zero k)) (by omega) ?_
          intro _
          rw [List.getD_eq_getElem?_getD, ← List.getLast?_eq_getElem?, last]
          decide
        rw [slices, slices, nextEnd, whole, List.take_length]
        simp only [List.getLast?_singleton, ne_eq, Option.some.injEq, List.drop_eq_nil_iff]
        omega
      · rw [slices, slices, List.getLast?_cons_cons]
        rw [slices] at later
        exact later

/-- Of any octets the units are written so that the splitter finds them again, unless the last one
is empty. -/
theorem nals_annexB_iff (data : Bytes) :
    nals (annexB (nals data)) = nals data ↔ (nals data).getLast? ≠ some [] := by
  constructor
  · intro same empty
    obtain ⟨front, units⟩ := List.getLast?_eq_some_iff.mp empty
    have ends : (annexB (nals data)).getLast? = some 1 := by
      simp [units, annexB, framed]
    have nonempty := nals_last ends
    rw [same] at nonempty
    exact nonempty empty
  · intro last
    exact nals_of_separable (nals_separable data) last

/-! ## One round of `cut` -/

/-- What the loop asks of a unit. -/
inductive Role : Type where
  | first | later | information | other

def role (nal : Bytes) : Except PyErr Role := do
  let t ← unitType nal
  if t ∈ [1, 5] then
    let first ← firstMb nal
    pure (if first = 0 then .first else .later)
  else
    pure (if t ∈ [6] then .information else .other)

def counted (frames : Nat) : Role → Nat
  | .first => frames + 1
  | _ => frames

/-- Whether the loop writes the unit and goes on. -/
def GoesOn (n : Int) (frames : Nat) : Role → Prop
  | .first => ((frames + 1 : Nat) : Int) ≤ n
  | .later => True
  | .information => True
  | .other => (frames : Int) < n ∨ frames = 0

instance (n : Int) (frames : Nat) : DecidablePred (GoesOn n frames)
  | .first => inferInstanceAs (Decidable (_ ≤ _))
  | .later => inferInstanceAs (Decidable True)
  | .information => inferInstanceAs (Decidable True)
  | .other => inferInstanceAs (Decidable (_ ∨ _))

theorem cutLoop_cons (n : Int) (frames : Nat) (ob nal : Bytes) (rest : List Bytes) :
    cutLoop n frames ob (nal :: rest) = (role nal).bind fun r =>
      if GoesOn n frames r then cutLoop n (counted frames r) (ob ++ framed nal) rest
      else .ok (counted frames r, ob) := by
  rw [cutLoop, role]
  cases type : unitType nal with
  | error e => rfl
  | ok t =>
      dsimp only [bind, Except.bind]
      by_cases slice : t ∈ [1, 5]
      · rw [if_pos slice, if_pos slice]
        cases read : firstMb nal with
        | error e => rfl
        | ok k =>
            dsimp only [pure, Except.pure]
            by_cases zero : k = 0
            · rw [if_pos zero, if_pos zero]
              by_cases full : ((frames + 1 : Nat) : Int) > n
              · have stops : ¬ GoesOn n frames .first := Int.not_le.mpr full
                rw [if_pos full, if_neg stops]
                rfl
              · have goes : GoesOn n frames .first := Int.not_lt.mp full
                rw [if_neg full, if_pos goes]
                rfl
            · rw [if_neg zero, if_neg zero]
              rfl
      · rw [if_neg slice, if_neg slice]
        dsimp only [pure, Except.pure]
        by_cases six : t ∈ [6]
        · rw [if_pos six, if_neg (fun stop => stop.2.1 six)]
          rfl
        · rw [if_neg six]
          by_cases stop : (frames : Int) ≥ n ∧ t ∉ [6] ∧ frames > 0
          · have stops : ¬ GoesOn n frames .other := by
              dsimp only [GoesOn]
              omega
            rw [if_pos stop, if_neg stops]
            rfl
          · have goes : GoesOn n frames .other := by
              dsimp only [GoesOn]
              by_cases enough : (frames : Int) ≥ n
              · right
                by_contra some
                exact stop ⟨enough, six, by omega⟩
              · exact Or.inl (by omega)
            rw [if_neg stop, if_pos goes]
            rfl

section Rounds

variable {m n : Int} {frames : Nat} {r : Role}

theorem GoesOn.mono (goes : GoesOn m frames r) (le : m ≤ n) : GoesOn n frames r := by
  cases r with
  | first => exact Int.le_trans goes le
  | later => exact trivial
  | information => exact trivial
  | other =>
      rcases goes with few | none
      · exact Or.inl (by omega)
      · exact Or.inr none

theorem GoesOn.within (goes : GoesOn n frames r) (few : (frames : Int) ≤ n) :
    (counted frames r : Int) ≤ n := by
  cases r with
  | first => exact goes
  | later => exact few
  | information => exact few
  | other => exact few

/-- The picture at which the loop stops is counted and not written. -/
theorem counted_stop (stops : ¬ GoesOn n frames r) :
    counted frames r = frames ∨ counted frames r = frames + 1 ∧ n ≤ frames := by
  cases r with
  | first =>
      right
      dsimp only [GoesOn] at stops
      exact ⟨rfl, by omega⟩
  | later => exact Or.inl rfl
  | information => exact Or.inl rfl
  | other => exact Or.inl rfl

end Rounds

theorem unit_of_role {nal : Bytes} {r : Role} (read : role nal = .ok r) : nal ≠ [] := by
  rintro rfl
  cases read

/-! ## Running the loop on what it kept -/

/-- From so many pictures on, the loop over the units ends with `frames'`. It kept `kept`, with the
pictures up to `held`, and what it does on those with another number. -/
structure Recut (n : Int) (frames : Nat) (units : List Bytes) (frames' : Nat) (kept : List Bytes)
    (held : Nat) : Prop where
  front : kept <+: units
  proper : ∀ nal ∈ kept, nal ≠ []
  count : frames' = held ∨ frames' = held + 1 ∧ n ≤ held
  within : (frames : Int) ≤ n → (held : Int) ≤ n
  longer : ∀ m ob, n ≤ m → cutLoop m frames ob kept = .ok (held, ob ++ annexB kept)
  shorter : ∀ m ob, m ≤ n → cutLoop m frames ob kept = cutLoop m frames ob units ∨
    cutLoop m frames ob kept = .ok (held, ob ++ annexB kept) ∧
      cutLoop m frames ob units = .ok (frames', ob ++ annexB kept)

namespace Recut

variable {n : Int} {frames frames' held : Nat} {nal : Bytes} {units kept : List Bytes} {r : Role}

theorem nil (n : Int) (frames : Nat) : Recut n frames [] frames [] frames where
  front := List.nil_prefix
  proper := nofun
  count := Or.inl rfl
  within few := few
  longer m ob _ := by rw [cutLoop, annexB, List.flatMap_nil, List.append_nil]
  shorter m ob _ := Or.inl rfl

theorem stop (read : role nal = .ok r) (stops : ¬ GoesOn n frames r) :
    Recut n frames (nal :: units) (counted frames r) [] frames where
  front := List.nil_prefix
  proper := nofun
  count := counted_stop stops
  within few := few
  longer m ob _ := by rw [cutLoop, annexB, List.flatMap_nil, List.append_nil]
  shorter m ob le := by
    have stops' : ¬ GoesOn m frames r := fun goes => stops (goes.mono le)
    right
    constructor
    · rw [cutLoop, annexB, List.flatMap_nil, List.append_nil]
    · rw [cutLoop_cons, read, annexB, List.flatMap_nil, List.append_nil]
      exact if_neg stops'

theorem cons (read : role nal = .ok r) (goes : GoesOn n frames r)
    (tail : Recut n (counted frames r) units frames' kept held) :
    Recut n frames (nal :: units) frames' (nal :: kept) held where
  front := List.cons_prefix_cons.mpr ⟨rfl, tail.front⟩
  proper unit member := by
    rcases List.mem_cons.mp member with rfl | later
    · exact unit_of_role read
    · exact tail.proper unit later
  count := tail.count
  within few := tail.within (goes.within few)
  longer m ob le := by
    have rest := tail.longer m (ob ++ framed nal) le
    rw [cutLoop_cons, read, annexB_cons, ← List.append_assoc, ← rest]
    exact if_pos (goes.mono le)
  shorter m ob le := by
    rw [cutLoop_cons, cutLoop_cons, read, annexB_cons, ← List.append_assoc]
    dsimp only [Except.bind]
    by_cases goes' : GoesOn m frames r
    · rw [if_pos goes', if_pos goes']
      exact tail.shorter m (ob ++ framed nal) le
    · rw [if_neg goes', if_neg goes']
      exact Or.inl rfl

end Recut

theorem cutLoop_recut {n : Int} {frames frames' : Nat} {ob out : Bytes} {units : List Bytes}
    (ran : cutLoop n frames ob units = .ok (frames', out)) :
    ∃ kept held, out = ob ++ annexB kept ∧ Recut n frames units frames' kept held := by
  induction units generalizing frames ob with
  | nil =>
      cases ran
      exact ⟨[], _, (List.append_nil _).symm, Recut.nil n _⟩
  | cons nal units ih =>
      rw [cutLoop_cons] at ran
      cases read : role nal with
      | error e =>
          rw [read] at ran
          cases ran
      | ok r =>
          rw [read] at ran
          dsimp only [Except.bind] at ran
          by_cases goes : GoesOn n frames r
          · rw [if_pos goes] at ran
            obtain ⟨kept, held, written, recut⟩ := ih ran
            refine ⟨nal :: kept, held, ?_, recut.cons read goes⟩
            rw [written, annexB_cons, List.append_assoc]
          · rw [if_neg goes] at ran
            cases ran
            exact ⟨[], _, (List.append_nil _).symm, Recut.stop read goes⟩

/-! ## The file -/

theorem cut_eq (data : Bytes) (n : Int) :
    cut data n = (cutLoop n 0 [] (nals data)).map fun end' =>
      (end'.2, if (end'.1 : Int) ≤ n then (end'.1 : Int) else n) := by
  rw [cut]
  cases cutLoop n 0 [] (nals data) <;> rfl

/-- `cut` of any octets writes units of them that the splitter finds again. Cutting that once more
writes what one cut at the smaller number writes, and reports the same. -/
theorem cut_cut {data out : Bytes} {n said : Int} (ran : cut data n = .ok (out, said)) (m : Int) :
    nals out <+: nals data ∧ (cut out m).map Prod.fst = (cut data (min m n)).map Prod.fst ∧
      (0 ≤ n → cut out m = cut data (min m n)) := by
  rw [cut_eq] at ran
  cases loop : cutLoop n 0 [] (nals data) with
  | error e =>
      rw [loop] at ran
      cases ran
  | ok result =>
      obtain ⟨frames', out'⟩ := result
      obtain ⟨kept, held, written, recut⟩ := cutLoop_recut loop
      rw [loop] at ran
      cases ran
      rw [List.nil_append] at written
      subst written
      have units : nals (annexB kept) = kept := by
        refine nals_of_separable (Separable.of_prefix recut.front (nals_separable data)) ?_
        intro empty
        exact recut.proper [] (List.mem_of_getLast? empty) rfl
      have count := recut.count
      refine ⟨by rw [units]; exact recut.front, ?_⟩
      by_cases le : m ≤ n
      · have same : cut (annexB kept) m = cut data m := by
          rw [cut_eq, cut_eq, units]
          rcases recut.shorter m [] le with same | ⟨again, before⟩
          · rw [same]
          · rw [again, before]
            simp only [Except.map, List.nil_append, Except.ok.injEq, Prod.mk.injEq, true_and]
            split <;> split <;> omega
        rw [Int.min_eq_left le, same]
        exact ⟨rfl, fun _ => rfl⟩
      · have ge : n ≤ m := by omega
        have again := recut.longer m [] ge
        rw [Int.min_eq_right ge, cut_eq, cut_eq, units, again, loop]
        refine ⟨rfl, fun positive => ?_⟩
        have within := recut.within positive
        simp only [Except.map, List.nil_append, Except.ok.injEq, Prod.mk.injEq, true_and]
        split <;> split <;> omega

/-- Two pictures of one slice each with padding between them, and a start code at the end that no
octet follows: cut at two and then at one. -/
theorem cut_cut_slices :
    cut [0, 0, 1, 0x65, 0x88, 0, 0, 0, 0, 1, 0x41, 0x9A, 0, 0, 1] 2 =
      .ok ([0, 0, 0, 1, 0x65, 0x88, 0, 0, 0, 1, 0x41, 0x9A, 0, 0, 1], 2) ∧
    cut [0, 0, 0, 1, 0x65, 0x88, 0, 0, 0, 1, 0x41, 0x9A, 0, 0, 1] 1 =
      cut [0, 0, 1, 0x65, 0x88, 0, 0, 0, 0, 1, 0x41, 0x9A, 0, 0, 1] 1 := by
  have ran : cut [0, 0, 1, 0x65, 0x88, 0, 0, 0, 0, 1, 0x41, 0x9A, 0, 0, 1] 2 =
      .ok ([0, 0, 0, 1, 0x65, 0x88, 0, 0, 0, 1, 0x41, 0x9A, 0, 0, 1], 2) := by decide +kernel
  exact ⟨ran, (cut_cut ran 1).2.2 (by decide)⟩

end NalInfo
