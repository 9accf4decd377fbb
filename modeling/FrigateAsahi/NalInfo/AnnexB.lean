import FrigateAsahi.NalInfo.BitReader

/-!
# NAL units of a byte stream

`nals` looks for start codes from the front and trims the zeros in front of the next one. `cut`
writes the units of the first pictures behind four-byte start codes. A unit that the scanner can
tell from a start code and from padding is read back as it was written.
-/

namespace NalInfo

open Text (Bytes)
open Python Bits

/-! ## Splitting -/

/-- The scan from position `i` on. A start code counts where an octet follows it. -/
def scan : Nat → Bytes → List Nat
  | i, 0 :: 0 :: 1 :: b :: data => (i + 3) :: scan (i + 3) (b :: data)
  | i, _ :: data => scan (i + 1) data
  | _, [] => []

/-- `while e > s and data[e-1] == 0: e -= 1` -/
def trim (data : Bytes) (s : Nat) : Nat → Nat
  | 0 => 0
  | e + 1 => if s < e + 1 ∧ data.getD e 0 = 0 then trim data s e else e + 1

/-- Where the octets before the next start code end. -/
def nextEnd (data : Bytes) : List Nat → Nat
  | s :: _ => s - 3
  | [] => data.length

def slices (data : Bytes) : List Nat → List Bytes
  | [] => []
  | s :: starts => (data.take (trim data s (nextEnd data starts))).drop s :: slices data starts

def nals (data : Bytes) : List Bytes := slices data (scan 0 data)

/-! ## Cutting -/

/-- `nal[0] & 0x1f` -/
def unitType : Bytes → Except PyErr Nat
  | [] => .error indexError
  | b :: _ => .ok (b.toNat &&& 0x1f)

/-- `BR(nal[1:9]).ue()` -/
def firstMb (nal : Bytes) : Except PyErr Nat := do
  let (first, _) ← ue (BR.new ((nal.drop 1).take 8))
  pure first

/-- A unit behind a start code of four octets. -/
def framed (nal : Bytes) : Bytes := [0, 0, 0, 1] ++ nal

/-- The loop of `cut` with the pictures so far and the octets so far. -/
def cutLoop (n : Int) : Nat → Bytes → List Bytes → Except PyErr (Nat × Bytes)
  | frames, ob, [] => .ok (frames, ob)
  | frames, ob, nal :: rest => do
    let t ← unitType nal
    if t ∈ [1, 5] then
      let first ← firstMb nal
      if first = 0 then
        if ((frames + 1 : Nat) : Int) > n then
          pure (frames + 1, ob)
        else
          cutLoop n (frames + 1) (ob ++ framed nal) rest
      else
        cutLoop n frames (ob ++ framed nal) rest
    else if (frames : Int) ≥ n ∧ t ∉ [6] ∧ frames > 0 then
      pure (frames, ob)
    else
      cutLoop n frames (ob ++ framed nal) rest

/-- What `cut` writes, and how many pictures it says it wrote. -/
def cut (data : Bytes) (n : Int) : Except PyErr (Bytes × Int) := do
  let (frames, ob) ← cutLoop n 0 [] (nals data)
  pure (ob, if (frames : Int) ≤ n then frames else n)

/-! ## Units that can be told apart -/

/-- A unit without a start code in it or a zero at its end. Three zeros inside do no harm. -/
structure Plain (nal : Bytes) : Prop where
  nonempty : nal ≠ []
  code : ¬ [0, 0, 1] <:+: nal
  last : nal.getLast? ≠ some 0

/-- A unit in a byte stream: the zeros before its start code, whether that has four octets. -/
structure Framed : Type where
  padding : Nat
  long : Bool
  nal : Bytes

namespace Framed

def startCode (f : Framed) : Bytes := if f.long then [0, 0, 0, 1] else [0, 0, 1]

def octets (f : Framed) : Bytes := List.replicate f.padding 0 ++ f.startCode ++ f.nal

/-- The zeros before the three octets that the scanner looks for. -/
def lead (f : Framed) : Nat := f.padding + f.long.toNat

theorem octets_eq (f : Framed) : f.octets = List.replicate f.lead 0 ++ 0 :: 0 :: 1 :: f.nal := by
  rw [octets, startCode, lead]
  cases f.long with
  | false => simp
  | true => simp [List.replicate_succ']

end Framed

def byteStream (units : List Framed) (tail : Nat) : Bytes :=
  units.flatMap Framed.octets ++ List.replicate tail 0

theorem byteStream_cons (f : Framed) (units : List Framed) (tail : Nat) :
    byteStream (f :: units) tail =
      List.replicate f.lead 0 ++ 0 :: 0 :: 1 :: (f.nal ++ byteStream units tail) := by
  simp [byteStream, f.octets_eq]

/-- What `cut` writes for units. -/
def annexB (kept : List Bytes) : Bytes := kept.flatMap framed

theorem annexB_eq_byteStream (kept : List Bytes) :
    annexB kept = byteStream (kept.map fun nal => ⟨0, true, nal⟩) 0 := by
  rw [byteStream, List.flatMap_map, List.replicate_zero, List.append_nil]
  rfl

/-! ## Scanning -/

theorem scan_zeros (i z : Nat) (b : UInt8) (data : Bytes) :
    scan i (List.replicate z 0 ++ 0 :: 0 :: 1 :: b :: data) =
      (i + z + 3) :: scan (i + z + 3) (b :: data) := by
  induction z generalizing i with
  | zero => rw [List.replicate_zero, List.nil_append, scan, Nat.add_zero]
  | succ z ih =>
      have other : ∀ c rest, List.replicate z 0 ++ 0 :: 0 :: 1 :: b :: data ≠ 0 :: 1 :: c :: rest := by
        intro c rest same
        rcases z with - | ⟨- | z⟩
        · simp at same
        · simp at same
        · simp [List.replicate_succ] at same
      have count : i + 1 + z + 3 = i + (z + 1) + 3 := by omega
      rw [List.replicate_succ, List.cons_append, scan, ih, count]
      intro c rest _ same
      exact other c rest same

theorem scan_only_zeros (i z : Nat) : scan i (List.replicate z 0) = [] := by
  induction z generalizing i with
  | zero => rfl
  | succ z ih =>
      rw [List.replicate_succ, scan, ih]
      intro c rest _ same
      rcases z with - | ⟨- | z⟩
      · simp at same
      · simp at same
      · simp [List.replicate_succ] at same

/-- No start code begins in a unit. -/
theorem scan_nal {nal : Bytes} (code : ¬ [0, 0, 1] <:+: nal) (last : nal.getLast? ≠ some 0)
    (i : Nat) (data : Bytes) : scan i (nal ++ data) = scan (i + nal.length) data := by
  induction nal generalizing i with
  | nil => rfl
  | cons b nal ih =>
      have rest : scan (i + 1) (nal ++ data) = scan (i + (nal.length + 1)) data := by
        have inner : ¬ [0, 0, 1] <:+: nal := fun found => code (found.trans (nal.suffix_cons b).isInfix)
        have final : nal.getLast? ≠ some 0 := by
          intro zero
          cases nal with
          | nil => cases zero
          | cons c nal => exact last zero
        rw [ih inner final]
        congr 1
        omega
      have other : ∀ c more, b = 0 → nal ++ data ≠ 0 :: 1 :: c :: more := by
        rintro c more rfl same
        rcases nal with - | ⟨x, - | ⟨y, nal⟩⟩
        · exact last rfl
        · simp only [List.cons_append, List.nil_append, List.cons.injEq] at same
          rw [same.1] at last
          exact last rfl
        · simp only [List.cons_append, List.cons.injEq] at same
          rw [same.1, same.2.1] at code
          exact code ⟨[], nal, rfl⟩
      rw [List.cons_append, List.length_cons, scan, rest]
      exact fun c more zero => other c more zero

/-! ## Reading back -/

/-- The zeros behind a unit. -/
def gap : List Framed → Nat → Nat
  | [], tail => tail
  | f :: _, _ => f.lead

theorem nextEnd_scan (data : Bytes) (i : Nat) {units : List Framed}
    (plain : ∀ f ∈ units, Plain f.nal) (tail : Nat)
    (length : data.length = i + (byteStream units tail).length) :
    nextEnd data (scan i (byteStream units tail)) = i + gap units tail := by
  cases units with
  | nil =>
      have zeros : byteStream [] tail = List.replicate tail 0 := rfl
      rw [zeros, List.length_replicate] at length
      rw [zeros, scan_only_zeros]
      exact length
  | cons f units =>
      obtain ⟨b, nal, same⟩ := List.exists_cons_of_ne_nil (plain f (by simp)).nonempty
      rw [byteStream_cons, same, List.cons_append, scan_zeros]
      rfl

theorem trim_zeros (data : Bytes) {s e : Nat} (gap : Nat)
    (zeros : ∀ k < gap, data.getD (e + k) 0 = 0) (last : data.getD (e - 1) 0 ≠ 0) (some : s < e) :
    trim data s (e + gap) = e := by
  induction gap with
  | zero =>
      obtain ⟨e, rfl⟩ : ∃ k, e = k + 1 := ⟨e - 1, by omega⟩
      rw [Nat.add_zero, trim, if_neg (fun both => last both.2)]
  | succ gap ih =>
      have zero := zeros gap (by omega)
      rw [← Nat.add_assoc, trim, if_pos ⟨by omega, zero⟩]
      exact ih fun k below => zeros k (by omega)

/-- The octets up to the next start code are the unit and the zeros behind it. -/
theorem byteStream_gap (units : List Framed) (tail : Nat) :
    ∃ rest, byteStream units tail = List.replicate (gap units tail) 0 ++ rest := by
  cases units with
  | nil => exact ⟨[], (List.append_nil _).symm⟩
  | cons f units => exact ⟨_, byteStream_cons f units tail⟩

/-- A unit in the octets, trimmed at the end of the zeros behind it. -/
theorem trim_nal {nal : Bytes} (plain : Plain nal) (front rest : Bytes) (gap : Nat) :
    trim (front ++ (nal ++ (List.replicate gap 0 ++ rest))) front.length
      (front.length + nal.length + gap) = front.length + nal.length := by
  have some : 0 < nal.length := List.length_pos_iff.mpr plain.nonempty
  refine trim_zeros _ gap (fun k below => ?_) ?_ (by omega)
  · rw [List.getD_eq_getElem?_getD, List.getElem?_append_right (by omega),
      List.getElem?_append_right (by omega), List.getElem?_append_left (by simp; omega),
      List.getElem?_replicate, if_pos (by omega)]
    rfl
  · have place : front.length + nal.length - 1 - front.length = nal.length - 1 := by omega
    have held : nal[nal.length - 1]? = nal.getLast? := List.getLast?_eq_getElem?.symm
    rw [List.getD_eq_getElem?_getD, List.getElem?_append_right (by omega), place,
      List.getElem?_append_left (by omega), held]
    cases final : nal.getLast? with
    | none => exact absurd (List.getLast?_eq_none_iff.mp final) plain.nonempty
    | some b =>
        rintro rfl
        exact plain.last final

theorem slices_scan {units : List Framed} (plain : ∀ f ∈ units, Plain f.nal) (tail : Nat)
    (before : Bytes) :
    slices (before ++ byteStream units tail) (scan before.length (byteStream units tail)) =
      units.map Framed.nal := by
  induction units generalizing before with
  | nil =>
      have zeros : byteStream [] tail = List.replicate tail 0 := rfl
      rw [zeros, scan_only_zeros]
      rfl
  | cons f units ih =>
      have this := plain f (by simp)
      have others : ∀ g ∈ units, Plain g.nal := fun g member => plain g (by simp [member])
      obtain ⟨front, split, length⟩ : ∃ front : Bytes,
          before ++ byteStream (f :: units) tail = front ++ (f.nal ++ byteStream units tail) ∧
            front.length = before.length + f.lead + 3 :=
        ⟨before ++ (List.replicate f.lead 0 ++ [0, 0, 1]), by simp [byteStream_cons], by
          simp [Nat.add_assoc]⟩
      have found : scan before.length (byteStream (f :: units) tail) =
          front.length :: scan (front ++ f.nal).length (byteStream units tail) := by
        obtain ⟨b, nal, same⟩ := List.exists_cons_of_ne_nil this.nonempty
        have started := scan_zeros before.length f.lead b (nal ++ byteStream units tail)
        rw [← List.cons_append, ← same] at started
        rw [byteStream_cons, started, scan_nal this.code this.last, length, List.length_append,
          length]
      have finish : nextEnd (front ++ (f.nal ++ byteStream units tail))
          (scan (front ++ f.nal).length (byteStream units tail)) =
            front.length + f.nal.length + gap units tail := by
        rw [nextEnd_scan _ _ others tail (by simp [Nat.add_assoc]), List.length_append]
      have trimmed : trim (front ++ (f.nal ++ byteStream units tail)) front.length
          (front.length + f.nal.length + gap units tail) = front.length + f.nal.length := by
        obtain ⟨rest, zeros⟩ := byteStream_gap units tail
        rw [zeros]
        exact trim_nal this front rest _
      have whole := ih others (front ++ f.nal)
      rw [List.append_assoc] at whole
      rw [split, found, slices, finish, trimmed, whole, ← List.append_assoc,
        ← List.length_append, List.take_left, List.drop_left, List.map_cons]

/-- A byte stream of plain units is split into them. -/
theorem nals_byteStream {units : List Framed} (plain : ∀ f ∈ units, Plain f.nal) (tail : Nat) :
    nals (byteStream units tail) = units.map Framed.nal :=
  slices_scan plain tail []

theorem nals_annexB {kept : List Bytes} (plain : ∀ nal ∈ kept, Plain nal) :
    nals (annexB kept) = kept := by
  have each : ∀ f ∈ kept.map fun nal => (⟨0, true, nal⟩ : Framed), Plain f.nal := by
    intro f member
    obtain ⟨nal, present, rfl⟩ := List.mem_map.mp member
    exact plain nal present
  rw [annexB_eq_byteStream, nals_byteStream each, List.map_map]
  exact List.map_id kept

/-! ## What `cut` keeps -/

theorem annexB_cons (nal : Bytes) (kept : List Bytes) :
    annexB (nal :: kept) = framed nal ++ annexB kept := rfl

/-- One more unit in front of a prefix that the rest of the loop writes. -/
theorem prefix_cons {nal out ob : Bytes} {units : List Bytes}
    (rest : ∃ kept, kept <+: units ∧ out = ob ++ framed nal ++ annexB kept) :
    ∃ kept, kept <+: nal :: units ∧ out = ob ++ annexB kept := by
  obtain ⟨kept, front, rfl⟩ := rest
  refine ⟨nal :: kept, List.cons_prefix_cons.mpr ⟨rfl, front⟩, ?_⟩
  rw [annexB_cons, List.append_assoc]

/-- The loop writes a prefix of the units. -/
theorem cutLoop_prefix {n : Int} {frames frames' : Nat} {ob out : Bytes} {units : List Bytes}
    (ran : cutLoop n frames ob units = .ok (frames', out)) :
    ∃ kept, kept <+: units ∧ out = ob ++ annexB kept := by
  have stopped (ob : Bytes) (units : List Bytes) : ∃ kept, kept <+: units ∧ ob = ob ++ annexB kept :=
    ⟨[], List.nil_prefix, (List.append_nil ob).symm⟩
  induction units generalizing frames ob with
  | nil =>
      cases ran
      exact stopped _ []
  | cons nal units ih =>
      rw [cutLoop] at ran
      cases type : unitType nal with
      | error e =>
          rw [type] at ran
          cases ran
      | ok t =>
          rw [type] at ran
          dsimp only [bind, Except.bind] at ran
          split at ran
          · cases first : firstMb nal with
            | error e =>
                rw [first] at ran
                cases ran
            | ok mb =>
                rw [first] at ran
                dsimp only at ran
                split at ran
                · split at ran
                  · cases ran
                    exact stopped _ _
                  · exact prefix_cons (ih ran)
                · exact prefix_cons (ih ran)
          · split at ran
            · cases ran
              exact stopped _ _
            · exact prefix_cons (ih ran)

/-- Splitting undoes serialisation, and what `cut` writes of such a stream is read back as the units
it kept. -/
theorem nals_undo_serialisation {units : List Framed} (plain : ∀ f ∈ units, Plain f.nal)
    (tail : Nat) :
    nals (byteStream units tail) = units.map Framed.nal ∧
      ∀ n out said, cut (byteStream units tail) n = .ok (out, said) →
        ∃ kept, kept <+: units.map Framed.nal ∧ out = annexB kept ∧ nals out = kept := by
  have split := nals_byteStream plain tail
  refine ⟨split, fun n out said ran => ?_⟩
  rw [cut, split] at ran
  cases loop : cutLoop n 0 [] (units.map Framed.nal) with
  | error e =>
      rw [loop] at ran
      cases ran
  | ok result =>
      rw [loop] at ran
      cases ran
      obtain ⟨kept, front, written⟩ := cutLoop_prefix loop
      have each : ∀ nal ∈ kept, Plain nal := by
        intro nal member
        obtain ⟨f, present, rfl⟩ := List.mem_map.mp (front.subset member)
        exact plain f present
      rw [List.nil_append] at written
      exact ⟨kept, front, written, by rw [written, nals_annexB each]⟩

/-- Parameter sets and one slice of each of two pictures, of which the first is kept. -/
theorem nals_undo_serialisation_slices :
    (∀ f ∈ [(⟨1, true, [0x67, 0x42]⟩ : Framed), ⟨0, false, [0x65, 0x88]⟩, ⟨0, false, [0x41, 0x9A]⟩],
      Plain f.nal) ∧
    cut (byteStream [⟨1, true, [0x67, 0x42]⟩, ⟨0, false, [0x65, 0x88]⟩, ⟨0, false, [0x41, 0x9A]⟩] 2) 1 =
      .ok ([0, 0, 0, 1, 0x67, 0x42, 0, 0, 0, 1, 0x65, 0x88], 1) ∧
    ∃ kept, kept <+: [[0x67, 0x42], [0x65, 0x88], [0x41, 0x9A]] ∧
      nals [0, 0, 0, 1, 0x67, 0x42, 0, 0, 0, 1, 0x65, 0x88] = kept := by
  have plain : ∀ f ∈ [(⟨1, true, [0x67, 0x42]⟩ : Framed), ⟨0, false, [0x65, 0x88]⟩,
      ⟨0, false, [0x41, 0x9A]⟩], Plain f.nal := by
    intro f member
    simp only [List.mem_cons, List.not_mem_nil, or_false] at member
    rcases member with rfl | rfl | rfl
    all_goals exact ⟨by decide, by decide, by decide⟩
  have ran : cut (byteStream [⟨1, true, [0x67, 0x42]⟩, ⟨0, false, [0x65, 0x88]⟩,
      ⟨0, false, [0x41, 0x9A]⟩] 2) 1 =
        .ok ([0, 0, 0, 1, 0x67, 0x42, 0, 0, 0, 1, 0x65, 0x88], 1) := by decide +kernel
  obtain ⟨kept, front, -, read⟩ := (nals_undo_serialisation plain 2).2 1 _ _ ran
  exact ⟨plain, ran, kept, front, read⟩

end NalInfo
