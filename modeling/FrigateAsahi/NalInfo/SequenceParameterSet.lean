import FrigateAsahi.NalInfo.BitReader

/-!
# Sequence parameter sets

The syntax of clause 7.3.2.1.1 up to `direct_8x8_inference_flag`, and `parse_sps`. A scaling list is
coded by differences until one of them gives a scale of zero.
-/

namespace NalInfo

open Text (Bytes)
open Python Bits

/-! ## Scaling lists -/

/-- The loop over the entries of a list. -/
def scalingList : Nat → Int → Int → BRM Unit
  | 0, _, _ => pure ()
  | left + 1, last, nxt =>
    if nxt ≠ 0 then do
      let delta ← se
      let nxt := (last + delta + 256) % 256
      scalingList left (if nxt = 0 then last else nxt) nxt
    else
      scalingList left (if nxt = 0 then last else nxt) nxt

/-- The loop over the lists from `i` on, with the flags of those that are present. -/
def scalingLists : Nat → Nat → BRM (List Bool)
  | 0, _ => pure []
  | left + 1, i => do
    let pres ← u 1
    onlyIf (pres ≠ 0) (scalingList (if i < 6 then 16 else 64) 8 8)
    let others ← scalingLists left (i + 1)
    pure (decide (pres ≠ 0) :: others)

/-- `scaling_list`, for the differences it would code. -/
def scalingListCode (delta : Nat → Int) : Nat → Nat → Int → Int → List Bool
  | 0, _, _, _ => []
  | left + 1, j, lastScale, nextScale =>
    if nextScale = 0 then scalingListCode delta left (j + 1) lastScale nextScale
    else
      let scale := (lastScale + delta j + 256) % 256
      signedGolomb (delta j) ++
        scalingListCode delta left (j + 1) (if scale = 0 then lastScale else scale) scale

/-- The lists of a scaling matrix, those that are present with their differences. -/
abbrev ScalingMatrix : Type := Nat → Option (Nat → Int)

def scalingListsCode (lists : ScalingMatrix) : Nat → Nat → List Bool
  | 0, _ => []
  | left + 1, i =>
    (match lists i with
      | none => [false]
      | some delta => true :: scalingListCode delta (if i < 6 then 16 else 64) 0 8 8) ++
      scalingListsCode lists left (i + 1)

def listsPresent (lists : ScalingMatrix) : Nat → Nat → List Bool
  | 0, _ => []
  | left + 1, i => (lists i).isSome :: listsPresent lists left (i + 1)

theorem reads_scalingList (delta : Nat → Int) (left j : Nat) (last next : Int) :
    Reads (scalingList left last next) (scalingListCode delta left j last next) () := by
  induction left generalizing j last next with
  | zero => exact Reads.pure ()
  | succ left ih =>
      rw [scalingList, scalingListCode]
      by_cases ended : next = 0
      · rw [if_neg (fun differ => differ ended), if_pos ended, if_pos ended]
        exact ih (j + 1) last next
      · rw [if_pos ended, if_neg ended]
        exact (reads_se (delta j)).bind (ih (j + 1) _ _)

theorem reads_scalingLists (lists : ScalingMatrix) (left i : Nat) :
    Reads (scalingLists left i) (scalingListsCode lists left i) (listsPresent lists left i) := by
  induction left generalizing i with
  | zero => exact Reads.pure []
  | succ left ih =>
      rw [scalingLists, scalingListsCode, listsPresent]
      cases held : lists i with
      | none =>
          have skip : Reads (onlyIf (false.toNat ≠ 0) (scalingList (if i < 6 then 16 else 64) 8 8))
              [] () := Reads.pure ()
          exact (reads_flag false).bind (skip.bind ((ih (i + 1)).map (Reads.pure _)))
      | some delta =>
          have list : Reads (onlyIf (true.toNat ≠ 0) (scalingList (if i < 6 then 16 else 64) 8 8))
              (scalingListCode delta (if i < 6 then 16 else 64) 0 8 8) () :=
            reads_onlyIf (reads_scalingList delta _ 0 8 8)
          exact (reads_flag true).bind (list.bind ((ih (i + 1)).map (Reads.pure _)))

/-- The code of a list depends on the differences from its entry on. -/
theorem scalingListCode_congr {delta delta' : Nat → Int} (left j : Nat) (last next : Int)
    (same : ∀ i, j ≤ i → delta i = delta' i) :
    scalingListCode delta left j last next = scalingListCode delta' left j last next := by
  induction left generalizing j last next with
  | zero => rfl
  | succ left ih =>
      have later (last next : Int) := ih (j + 1) last next fun i after => same i (by omega)
      simp only [scalingListCode, same j (Nat.le_refl j), later]

theorem scalingListsCode_congr {lists lists' : ScalingMatrix} (left i : Nat)
    (same : ∀ k, i ≤ k → lists k = lists' k) :
    scalingListsCode lists left i = scalingListsCode lists' left i ∧
      listsPresent lists left i = listsPresent lists' left i := by
  induction left generalizing i with
  | zero => exact ⟨rfl, rfl⟩
  | succ left ih =>
      obtain ⟨codes, flags⟩ := ih (i + 1) fun k after => same k (by omega)
      rw [scalingListsCode, scalingListsCode, listsPresent, listsPresent, same i (Nat.le_refl i),
        codes, flags]
      exact ⟨rfl, rfl⟩

theorem took_scalingList {left : Nat} {last next : Int} {br br' : BR} {w : Unit}
    (ran : scalingList left last next br = .ok (w, br')) (j : Nat) :
    ∃ delta, Took br (scalingListCode delta left j last next) br' := by
  induction left generalizing j last next br with
  | zero =>
      obtain ⟨-, rfl⟩ := ran_pure ran
      exact ⟨fun _ => 0, Took.nil _⟩
  | succ left ih =>
      rw [scalingList] at ran
      by_cases ended : next = 0
      · rw [if_neg (fun differ => differ ended), if_pos ended] at ran
        obtain ⟨delta, took⟩ := ih ran (j + 1)
        refine ⟨delta, ?_⟩
        rwa [scalingListCode, if_pos ended]
      · rw [if_pos ended] at ran
        obtain ⟨d, middle, first, rest⟩ := ran_bind ran
        obtain ⟨delta, tail⟩ := ih rest (j + 1)
        refine ⟨Function.update delta j d, ?_⟩
        have later (last next : Int) :
            scalingListCode (Function.update delta j d) left (j + 1) last next =
              scalingListCode delta left (j + 1) last next :=
          scalingListCode_congr left (j + 1) last next fun i after =>
            Function.update_of_ne (by omega) d delta
        rw [scalingListCode, if_neg ended]
        dsimp only
        rw [Function.update_self, later]
        exact (took_se first).append tail

theorem took_scalingLists {left i : Nat} {flags : List Bool} {br br' : BR}
    (ran : scalingLists left i br = .ok (flags, br')) :
    ∃ lists, flags = listsPresent lists left i ∧ Took br (scalingListsCode lists left i) br' := by
  induction left generalizing i flags br with
  | zero =>
      obtain ⟨rfl, rfl⟩ := ran_pure ran
      exact ⟨fun _ => none, rfl, Took.nil _⟩
  | succ left ih =>
      rw [scalingLists] at ran
      obtain ⟨bit, flagged, first, ran⟩ := ran_bind ran
      obtain ⟨done, listed, list, ran⟩ := ran_bind ran
      obtain ⟨others, ended, rest, last⟩ := ran_bind ran
      obtain ⟨rfl, rfl⟩ := ran_pure last
      obtain ⟨b, rfl, flag⟩ := took_flag first
      obtain ⟨lists, rfl, tail⟩ := ih rest
      obtain ⟨entry, present, head⟩ : ∃ entry : Option (Nat → Int), entry.isSome = b ∧
          Took flagged (match entry with
            | none => []
            | some delta => scalingListCode delta (if i < 6 then 16 else 64) 0 8 8) listed := by
        cases b with
        | false =>
            obtain ⟨-, rfl⟩ := ran_pure list
            exact ⟨none, rfl, Took.nil _⟩
        | true =>
            obtain ⟨done, middle, list, last⟩ := ran_bind list
            obtain ⟨-, rfl⟩ := ran_pure last
            obtain ⟨delta, took⟩ := took_scalingList list 0
            exact ⟨some delta, rfl, took⟩
      obtain rfl := present
      obtain ⟨all, here, later⟩ : ∃ all : ScalingMatrix, all i = entry ∧ ∀ k, i + 1 ≤ k →
          all k = lists k :=
        ⟨fun k => if k = i then entry else lists k, if_pos rfl, fun k after => if_neg (by omega)⟩
      obtain ⟨codes, flags⟩ := scalingListsCode_congr left (i + 1) later
      have whole := flag.append (head.append tail)
      rw [← List.append_assoc] at whole
      refine ⟨all, ?_, ?_⟩
      · rw [listsPresent, flags, here]
        cases entry with
        | none => rfl
        | some delta => rfl
      · rw [scalingListsCode, codes, here]
        cases entry with
        | none => exact whole
        | some delta => exact whole

/-! ## The parser -/

/-- The dictionary that `parse_sps` returns. -/
structure SpsInfo : Type where
  profile : Nat
  level : Nat
  chroma : Nat
  scalingSps : Nat
  log2MaxFrameNum : Nat
  pocType : Nat
  maxNumRefFrames : Nat
  wMbs : Nat
  hMap : Nat
  frameMbsOnly : Nat
  direct8x8Inference : Nat
  deriving DecidableEq

/-- The profiles with a chroma format. -/
def highProfiles : List Nat := [100, 110, 122, 244, 44, 83, 86, 118, 128, 138, 139, 134, 135]

/-- `chroma` and `scaling_sps` of such a profile. -/
def parseHigh : BRM (Nat × Nat) := do
  let chroma ← ue
  onlyIf (chroma = 3) (u 1)
  let _ ← ue
  let _ ← ue
  let _ ← u 1
  let scaling ← u 1
  onlyIf (scaling ≠ 0) (scalingLists (if chroma ≠ 3 then 8 else 12) 0)
  pure (chroma, scaling)

/-- `chroma` and `scaling_sps`, which have defaults in the other profiles. -/
def parseChroma (profile : Nat) : BRM (Nat × Nat) :=
  if profile ∈ highProfiles then parseHigh else pure (1, 0)

def parsePoc (poc : Nat) : BRM Unit :=
  if poc = 0 then do
    let _ ← ue
    pure ()
  else if poc = 1 then do
    let _ ← u 1
    let _ ← se
    let _ ← se
    let n ← ue
    forRange se n
  else pure ()

def parseSpsBits : BRM SpsInfo := do
  let profile ← u 8
  let _ ← u 8
  let level ← u 8
  let _ ← ue
  let (chroma, scaling) ← parseChroma profile
  let frameNum ← ue
  let poc ← ue
  parsePoc poc
  let refFrames ← ue
  let _ ← u 1
  let width ← ue
  let height ← ue
  let frameMbsOnly ← u 1
  onlyIf (frameMbsOnly = 0) (u 1)
  let direct ← u 1
  pure ⟨profile, level, chroma, scaling, frameNum + 4, poc, refFrames, width + 1, height + 1,
    frameMbsOnly, direct⟩

def parseSps (b : Bytes) : Except PyErr SpsInfo := do
  let (p, _) ← parseSpsBits (BR.new (b.drop 1))
  pure p

/-! ## The syntax -/

/-- What the high profiles add. -/
structure HighSyntax : Type where
  chromaFormatIdc : Nat
  separateColourPlane : Bool
  bitDepthLumaMinus8 : Nat
  bitDepthChromaMinus8 : Nat
  qpprimeYZeroTransformBypass : Bool
  scalingMatrix : Option ScalingMatrix

inductive PicOrderCnt : Type
  | lsb (log2MaxMinus4 : Nat)
  | cycle (deltaAlwaysZero : Bool) (offsetForNonRef offsetForTopToBottom : Int)
      (offsetsForRefFrame : List Int)
  | output

structure Sps : Type where
  profileIdc : UInt8
  constraintSetFlags : UInt8
  levelIdc : UInt8
  seqParameterSetId : Nat
  high : HighSyntax
  log2MaxFrameNumMinus4 : Nat
  picOrderCnt : PicOrderCnt
  maxNumRefFrames : Nat
  gapsInFrameNumAllowed : Bool
  picWidthInMbsMinus1 : Nat
  picHeightInMapUnitsMinus1 : Nat
  frameMbsOnly : Bool
  mbAdaptiveFrameField : Bool
  direct8x8Inference : Bool

def HighSyntax.lists (h : HighSyntax) : Nat := if h.chromaFormatIdc ≠ 3 then 8 else 12

def HighSyntax.code (h : HighSyntax) : List Bool :=
  golomb h.chromaFormatIdc ++ (if h.chromaFormatIdc = 3 then [h.separateColourPlane] else []) ++
    golomb h.bitDepthLumaMinus8 ++ golomb h.bitDepthChromaMinus8 ++
    [h.qpprimeYZeroTransformBypass] ++ [h.scalingMatrix.isSome] ++
    (match h.scalingMatrix with
      | none => []
      | some lists => scalingListsCode lists h.lists 0)

def PicOrderCnt.type : PicOrderCnt → Nat
  | lsb _ => 0
  | cycle .. => 1
  | output => 2

def PicOrderCnt.code : PicOrderCnt → List Bool
  | lsb log2MaxMinus4 => golomb log2MaxMinus4
  | cycle always nonRef topToBottom offsets =>
    [always] ++ signedGolomb nonRef ++ signedGolomb topToBottom ++ golomb offsets.length ++
      offsets.flatMap signedGolomb
  | output => []

/-- Whether the syntax has a chroma format for the profile. -/
def Sps.isHigh (s : Sps) : Prop :=
  s.profileIdc ∈ [(100 : UInt8), 110, 122, 244, 44, 83, 86, 118, 128, 138, 139, 134, 135]

instance (s : Sps) : Decidable s.isHigh := inferInstanceAs (Decidable (_ ∈ _))

def Sps.code (s : Sps) : List Bool :=
  fixed 8 s.profileIdc.toNat ++ fixed 8 s.constraintSetFlags.toNat ++ fixed 8 s.levelIdc.toNat ++
    golomb s.seqParameterSetId ++ (if s.isHigh then s.high.code else []) ++
    golomb s.log2MaxFrameNumMinus4 ++ golomb s.picOrderCnt.type ++ s.picOrderCnt.code ++
    golomb s.maxNumRefFrames ++ [s.gapsInFrameNumAllowed] ++ golomb s.picWidthInMbsMinus1 ++
    golomb s.picHeightInMapUnitsMinus1 ++ [s.frameMbsOnly] ++
    (if s.frameMbsOnly then [] else [s.mbAdaptiveFrameField]) ++ [s.direct8x8Inference]

/-- The values that are reported, as the set codes them. -/
def Sps.info (s : Sps) : SpsInfo where
  profile := s.profileIdc.toNat
  level := s.levelIdc.toNat
  chroma := if s.isHigh then s.high.chromaFormatIdc else 1
  scalingSps := if s.isHigh then s.high.scalingMatrix.isSome.toNat else 0
  log2MaxFrameNum := s.log2MaxFrameNumMinus4 + 4
  pocType := s.picOrderCnt.type
  maxNumRefFrames := s.maxNumRefFrames
  wMbs := s.picWidthInMbsMinus1 + 1
  hMap := s.picHeightInMapUnitsMinus1 + 1
  frameMbsOnly := s.frameMbsOnly.toNat
  direct8x8Inference := s.direct8x8Inference.toNat

/-! ## Reading the syntax -/

theorem reads_parseHigh (h : HighSyntax) :
    Reads parseHigh h.code (h.chromaFormatIdc, h.scalingMatrix.isSome.toNat) := by
  have plane : Reads (onlyIf (h.chromaFormatIdc = 3) (u 1))
      (if h.chromaFormatIdc = 3 then [h.separateColourPlane] else []) () :=
    reads_onlyIf (reads_flag _)
  have matrix : Reads (onlyIf (h.scalingMatrix.isSome.toNat ≠ 0)
      (scalingLists (if h.chromaFormatIdc ≠ 3 then 8 else 12) 0))
      (match h.scalingMatrix with
        | none => []
        | some lists => scalingListsCode lists h.lists 0) () := by
    cases h.scalingMatrix with
    | none => exact Reads.pure ()
    | some lists => exact reads_onlyIf (reads_scalingLists lists h.lists 0)
  rw [HighSyntax.code]
  simp only [List.append_assoc]
  exact (reads_ue _).bind (plane.bind ((reads_ue _).bind ((reads_ue _).bind ((reads_flag _).bind
    ((reads_flag _).bind (matrix.map (Reads.pure _)))))))

theorem reads_parsePoc (poc : PicOrderCnt) : Reads (parsePoc poc.type) poc.code () := by
  cases poc with
  | lsb log2MaxMinus4 => exact (reads_ue log2MaxMinus4).map (Reads.pure ())
  | cycle always nonRef topToBottom offsets =>
      have loop : Reads (forRange se offsets.length) (offsets.flatMap signedGolomb) () :=
        reads_forRange fun v _ => ⟨v, reads_se v⟩
      rw [PicOrderCnt.code]
      simp only [List.append_assoc]
      exact (reads_flag _).bind ((reads_se _).bind ((reads_se _).bind ((reads_ue _).bind loop)))
  | output => exact Reads.pure ()

theorem mem_highProfiles (s : Sps) : s.profileIdc.toNat ∈ highProfiles ↔ s.isHigh := by
  simp [highProfiles, Sps.isHigh, ← UInt8.toNat_inj]

theorem reads_parseChroma (s : Sps) : Reads (parseChroma s.profileIdc.toNat)
    (if s.isHigh then s.high.code else []) (s.info.chroma, s.info.scalingSps) := by
  rw [parseChroma, Sps.info]
  by_cases isHigh : s.isHigh
  · rw [if_pos ((mem_highProfiles s).mpr isHigh), if_pos isHigh]
    simp only [if_pos isHigh]
    exact reads_parseHigh s.high
  · rw [if_neg (fun member => isHigh ((mem_highProfiles s).mp member)), if_neg isHigh]
    simp only [if_neg isHigh]
    exact Reads.pure (1, 0)

theorem reads_parseSpsBits (s : Sps) : Reads parseSpsBits s.code s.info := by
  have adaptive : Reads (onlyIf (s.frameMbsOnly.toNat = 0) (u 1))
      (if s.frameMbsOnly then [] else [s.mbAdaptiveFrameField]) () := by
    cases s.frameMbsOnly with
    | false => exact reads_onlyIf (reads_flag _)
    | true => exact Reads.pure ()
  have last : Reads (do
      let direct ← u 1
      pure ⟨s.profileIdc.toNat, s.levelIdc.toNat, s.info.chroma, s.info.scalingSps,
        s.log2MaxFrameNumMinus4 + 4, s.picOrderCnt.type, s.maxNumRefFrames,
        s.picWidthInMbsMinus1 + 1, s.picHeightInMapUnitsMinus1 + 1, s.frameMbsOnly.toNat, direct⟩)
      [s.direct8x8Inference] s.info := (reads_flag _).map (Reads.pure _)
  rw [Sps.code]
  simp only [List.append_assoc]
  exact (reads_byte _).bind ((reads_byte _).bind ((reads_byte _).bind ((reads_ue _).bind
    ((reads_parseChroma s).bind ((reads_ue _).bind ((reads_ue _).bind ((reads_parsePoc _).bind ((reads_ue _).bind
      ((reads_flag _).bind ((reads_ue _).bind ((reads_ue _).bind ((reads_flag _).bind
        (adaptive.bind last)))))))))))))

/-- `parse_sps` returns what the set codes, whatever follows `direct_8x8_inference_flag`. -/
theorem parseSps_eq (header : UInt8) (s : Sps) (rest : List Bool) :
    parseSps (header :: escape 0 (close (s.code ++ rest))) = .ok s.info := by
  have left : (BR.new (escape 0 (close (s.code ++ rest)))).left =
      s.code ++ (rest ++ stop (s.code ++ rest).length) := by
    rw [BR.left, BR.new, strip_escape, ofBytes_close, List.append_assoc]
    rfl
  rw [parseSps, List.drop_one, List.tail_cons, reads_parseSpsBits s _ _ left]
  rfl

end NalInfo
