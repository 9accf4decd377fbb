import FrigateAsahi.ConversionCache

/-!
# Conversions that are cut short

A conversion moves two files into place, one after the other, and the cache is judged by the times
of both. Stopped in between it leaves its own graph beside the weights of an earlier conversion,
and where these are still as new as the model, the next load takes the pair for a cache. Nothing
else brings two conversions together (`cache_paired`).
-/

namespace Detector

open Text Python Numpy Interaction NcnnBackend

/-! ## The pair of files -/

section Pair

variable (p : PyStr) (w : Shelf)

/-- Both files come from one conversion, and it has moved both of them into place. -/
def Paired : Prop :=
  ∃ o, w.origin (.at (cachePaths p).1) = some o ∧ w.origin (.at (cachePaths p).2) = some o ∧
    (o.conversion, (cachePaths p).1) ∈ w.placed ∧ (o.conversion, (cachePaths p).2) ∈ w.placed

/-- The weights are there, not empty and as new as the model. -/
def WeightsFresh : Prop :=
  ∃ m b, w.files (.at p) = some m ∧ w.files (.at (cachePaths p).2) = some b ∧ m.time ≤ b.time ∧
    b.octets ≠ []

/-- The last conversion has moved its graph and not its weights. -/
def Cut : Prop :=
  (w.conversions, (cachePaths p).1) ∈ w.placed ∧ (w.conversions, (cachePaths p).2) ∉ w.placed

/-- No conversion is cut off where the weights of an earlier one are still fresh. -/
def CutStale : Prop := Cut p w → ¬ WeightsFresh p w

end Pair

/-- What happens to one model and its cache. A load or a conversion may be stopped anywhere, in a
world that `allowed` allows. -/
inductive CacheHistory [NumPy] (p : PyStr) (allowed : Shelf → Prop) : Shelf → Prop
  | start {w : Shelf} {m : Entry} : w.files (.at p) = some m → m.time ≤ w.clock →
    w.files (.at (cachePaths p).1) = none → w.files (.at (cachePaths p).2) = none →
    w.placed = [] → CacheHistory p allowed w
  | saved {w w' : Shelf} {octets : Bytes} : CacheHistory p allowed w → w.Writes p octets w' →
    CacheHistory p allowed w'
  | converted {w w' : Shelf} : CacheHistory p allowed w →
    Prog.Reaches shelf (convertOnnxToNcnn p (cachePaths p).1 (cachePaths p).2 ()) w w' →
    allowed w' → CacheHistory p allowed w'
  | loaded {w w' : Shelf} (self : NcnnBackend) : CacheHistory p allowed w →
    Prog.Reaches shelf ((load p : HostM NcnnBackend Unit) self) w w' → allowed w' →
    CacheHistory p allowed w'

/-! ## What is kept -/

/-- The model is there, conversions are numbered, and weights that are fresh belong to the graph. -/
structure CacheKept (p : PyStr) (w : Shelf) : Prop where
  present : ∃ m, w.files (.at p) = some m ∧ m.time ≤ w.clock
  numbered : ∀ x ∈ w.placed, x.1 ≤ w.conversions
  paired : WeightsFresh p w → w.files (.at (cachePaths p).1) = none ∨ Paired p w

/-- The same, where the last conversion may have been cut off. -/
structure CacheMet (p : PyStr) (w : Shelf) : Prop where
  present : ∃ m, w.files (.at p) = some m ∧ m.time ≤ w.clock
  numbered : ∀ x ∈ w.placed, x.1 ≤ w.conversions
  paired : Cut p w ∨ (WeightsFresh p w → w.files (.at (cachePaths p).1) = none ∨ Paired p w)

section Kept

variable {p : PyStr} {w w' : Shelf}

theorem CacheKept.met (kept : CacheKept p w) : CacheMet p w :=
  ⟨kept.present, kept.numbered, .inr kept.paired⟩

theorem CacheMet.kept (met : CacheMet p w) (stale : CutStale p w) : CacheKept p w := by
  refine ⟨met.present, met.numbered, fun fresh => ?_⟩
  rcases met.paired with cut | paired
  · exact absurd fresh (stale cut)
  · exact paired fresh

/-- What is known of the pair depends on the two files and on what was placed. -/
theorem Paired.of_same (paired : Paired p w)
    (param : w'.files (.at (cachePaths p).1) = w.files (.at (cachePaths p).1))
    (bin : w'.files (.at (cachePaths p).2) = w.files (.at (cachePaths p).2))
    (placed : w'.placed = w.placed) : Paired p w' := by
  obtain ⟨o, first, second, moved, moved'⟩ := paired
  refine ⟨o, ?_, ?_, ?_, ?_⟩
  · rw [Shelf.origin, param]
    exact first
  · rw [Shelf.origin, bin]
    exact second
  · rw [placed]
    exact moved
  · rw [placed]
    exact moved'

/-- A model that is written is as new as everything else. -/
theorem CacheKept.saved {octets : Bytes} (kept : CacheKept p w) (writes : w.Writes p octets w') :
    CacheKept p w' := by
  obtain ⟨m, held, old⟩ := kept.present
  obtain ⟨e, there, -, later, bound, elsewhere, rest⟩ := writes.spec
  have param := elsewhere (.at (cachePaths p).1) fun same =>
    (ne_cachePaths p).1 (FilePath.at.inj same).symm
  have bin := elsewhere (.at (cachePaths p).2) fun same =>
    (ne_cachePaths p).2 (FilePath.at.inj same).symm
  have placed : w'.placed = w.placed := by rw [rest]
  have conversions : w'.conversions = w.conversions := by rw [rest]
  refine ⟨⟨e, there, bound⟩, ?_, fun fresh => ?_⟩
  · rw [placed, conversions]
    exact kept.numbered
  · obtain ⟨m', b, model, weights, newer, filled⟩ := fresh
    obtain rfl : e = m' := Option.some.inj (there.symm.trans model)
    have before : WeightsFresh p w :=
      ⟨m, b, held, bin.symm.trans weights, old.trans (later.trans newer), filled⟩
    rcases kept.paired before with absent | paired
    · exact .inl (param.trans absent)
    · exact .inr (paired.of_same param bin placed)

theorem Beside.present {param bin : PyStr} (beside : Beside param bin w w') (first : p ≠ param)
    (second : p ≠ bin) (present : ∃ m, w.files (.at p) = some m ∧ m.time ≤ w.clock) :
    ∃ m, w'.files (.at p) = some m ∧ m.time ≤ w'.clock := by
  obtain ⟨m, held, old⟩ := present
  exact ⟨m, (beside.files p first second).trans held, old.trans beside.clock⟩

theorem Done.paired (done : Done p (cachePaths p).1 (cachePaths p).2 w w') : Paired p w' := by
  refine ⟨w.next p, done.param, done.bin, ?_, ?_⟩
  · rw [done.placed]
    simp [Shelf.next]
  · rw [done.placed]
    simp [Shelf.next]

theorem CacheKept.done (kept : CacheKept p w)
    (done : Done p (cachePaths p).1 (cachePaths p).2 w w') : CacheKept p w' := by
  refine ⟨done.toBeside.present (ne_cachePaths p).1 (ne_cachePaths p).2 kept.present, ?_,
    fun _ => .inr done.paired⟩
  rw [done.placed, done.conversions]
  intro x member
  rcases List.mem_append.mp member with earlier | now
  · exact (kept.numbered x earlier).trans (Nat.le_succ _)
  · rcases List.mem_pair.mp now with rfl | rfl
    · exact le_rfl
    · exact le_rfl

/-- What a conversion makes of it. -/
theorem CacheKept.stage (kept : CacheKept p w)
    (stage : Stage p (cachePaths p).1 (cachePaths p).2 w w') : CacheMet p w' := by
  cases stage with
  | done done => exact (kept.done done).met
  | begun begun =>
      have model := begun.files p (ne_cachePaths p).1 (ne_cachePaths p).2
      refine ⟨begun.toBeside.present (ne_cachePaths p).1 (ne_cachePaths p).2 kept.present, ?_,
        .inr fun fresh => ?_⟩
      · rw [begun.placed]
        exact fun x member => (kept.numbered x member).trans begun.conversions
      · obtain ⟨m, b, held, weights, newer, filled⟩ := fresh
        have before : WeightsFresh p w :=
          ⟨m, b, model.symm.trans held, begun.bin.symm.trans weights, newer, filled⟩
        rcases kept.paired before with absent | paired
        · exact .inl (begun.param.trans absent)
        · exact .inr (paired.of_same begun.param begun.bin begun.placed)
  | halved half =>
      refine ⟨half.toBeside.present (ne_cachePaths p).1 (ne_cachePaths p).2 kept.present, ?_, .inl ?_⟩
      · rw [half.placed, half.conversions]
        intro x member
        rcases List.mem_append.mp member with earlier | now
        · exact (kept.numbered x earlier).trans (Nat.le_succ _)
        · rw [List.mem_singleton.mp now]
      · unfold Cut
        rw [half.placed, half.conversions]
        refine ⟨by simp, fun member => ?_⟩
        rcases List.mem_append.mp member with earlier | now
        · have bound : w.conversions + 1 ≤ w.conversions := kept.numbered _ earlier
          omega
        · exact cachePaths_ne p (Prod.mk.inj (List.mem_singleton.mp now)).2.symm

/-- Loading a file does not change it. -/
theorem CacheKept.filed (kept : CacheKept p w) (filed : Filed w w') : CacheKept p w' := by
  unfold Filed at filed
  rw [filed]
  exact ⟨kept.present, kept.numbered, kept.paired⟩

end Kept

/-! ## Runs -/

section Runs

variable {p : PyStr} {w : Shelf}

theorem convert_met (kept : CacheKept p w) :
    (convertOnnxToNcnn p (cachePaths p).1 (cachePaths p).2).wpc shelf (CacheMet p)
      (fun r _ w' => CacheMet p w' ∧
        (r = .ok () → Done p (cachePaths p).1 (cachePaths p).2 w w')) () w := by
  refine Py.wpc_mono (fun w' stage => kept.stage stage) (fun r _ w' outcome => ?_)
    (convertOnnxToNcnn_stage (ne_cachePaths p) (cachePaths_ne p))
  exact ⟨kept.stage outcome.1, outcome.2⟩

/-- What is returned for a cache belongs to one conversion. -/
theorem ensureConverted_paired (kept : CacheKept p w) :
    (ensureConverted p).wpc shelf (CacheMet p) (fun r _ w' => CacheMet p w' ∧
      ∀ files, r = .ok files → files = cachePaths p ∧ CacheKept p w' ∧ Paired p w') () w := by
  rw [ensureConverted, Py.wpc_bind, Py.wpc_catching]
  refine Py.wpc_mono (fun _ crash => crash) (fun r _ w' judged => ?_) (wpc_isFresh kept.met)
  obtain ⟨rfl, judged⟩ := judged
  have converted : (do
      convertOnnxToNcnn p (cachePaths p).1 (cachePaths p).2
      pure (cachePaths p) : HostM Unit (PyStr × PyStr)).wpc shelf (CacheMet p)
        (fun r _ w' => CacheMet p w' ∧
          ∀ files, r = .ok files → files = cachePaths p ∧ CacheKept p w' ∧ Paired p w') () w' := by
    rw [Py.wpc_bind]
    refine Py.wpc_mono (fun _ crash => crash) (fun r _ w'' outcome => ?_) (convert_met kept)
    obtain ⟨met, done⟩ := outcome
    cases r with
    | error e => exact ⟨met, nofun⟩
    | ok _ =>
        refine ⟨met, fun files same => ?_⟩
        cases same
        exact ⟨rfl, kept.done (done rfl), (done rfl).paired⟩
  cases r with
  | error e =>
      rw [Py.either_error, Py.wpc_ite]
      split
      · exact converted
      · exact ⟨kept.met, nofun⟩
  | ok fresh =>
      rw [Py.either_ok, Py.either_ok, Py.wpc_ite]
      split
      · next held =>
          obtain ⟨param, bin, first, second, filled⟩ := judged (congrArg Except.ok held)
          obtain ⟨m, model, newer⟩ := second.2
          refine ⟨kept.met, fun files same => ?_⟩
          cases same
          rcases kept.paired ⟨m, bin, model, second.1, newer, filled⟩ with absent | paired
          · cases absent.symm.trans first.1
          · exact ⟨rfl, kept, paired⟩
      · exact converted

/-- The net is built from the files there are, or from those of one more conversion. -/
theorem openNet_met (kept : CacheKept p w) (self : NcnnBackend) :
    (openNet p (cachePaths p)).wpc shelf (CacheMet p) (fun r _ w' => CacheMet p w' ∧
      ∀ net, r = .ok net → CacheKept p w') self w := by
  have built {v : Shelf} (kept : CacheKept p v) (self : NcnnBackend) :
      (buildNet (cachePaths p).1 (cachePaths p).2).wpc shelf (CacheMet p)
        (fun _ _ w' => CacheKept p w') self v := by
    refine Py.wpc_mono (fun w' crash => ?_) (fun _ _ w' loading => kept.filed loading.2)
      (loading_of_only (only_buildNet _ _) self v)
    obtain ⟨_, -, filed⟩ := crash
    exact (kept.filed filed).met
  rw [openNet, wpc_exceptException]
  refine Py.wpc_mono (fun _ crash => crash) (fun r s' w' kept => ?_) (built kept self)
  cases r with
  | ok net => exact ⟨kept.met, fun _ _ => kept⟩
  | error e =>
      rw [Py.either_error]
      split
      · rw [Py.wpc_bind, wpc_free]
        refine Py.wpc_mono (fun _ crash => crash) (fun r _ w'' outcome => ?_) (convert_met kept)
        obtain ⟨met, done⟩ := outcome
        cases r with
        | error e => exact ⟨met, nofun⟩
        | ok _ =>
            rw [Py.either_ok, Py.wpc_bind]
            refine Py.wpc_mono (fun _ crash => crash) (fun r _ _ kept => ?_)
              (built (kept.done (done rfl)) s')
            cases r with
            | error e => exact ⟨kept.met, nofun⟩
            | ok net =>
                rw [Py.either_ok, Py.wpc_bind]
                exact wpc_handled_shelf kept.met ⟨kept.met, fun _ _ => kept⟩
      · exact ⟨kept.met, nofun⟩

/-- A load, wherever it ends. -/
theorem load_met [NumPy] (kept : CacheKept p w) (self : NcnnBackend) :
    (load p : HostM NcnnBackend Unit).wpc shelf (CacheMet p) (fun _ _ w' => CacheMet p w')
      self w := by
  rw [load, Py.wpc_bind]
  refine wpc_idle (by exact trivial) kept.met fun r _ => ?_
  cases r with
  | error e => exact kept.met
  | ok io =>
      rw [Py.either_ok, Py.wpc_bind, wpc_free]
      refine Py.wpc_mono (fun _ crash => crash) (fun r _ w₁ ensured => ?_)
        (ensureConverted_paired kept)
      obtain ⟨met, ensured⟩ := ensured
      cases r with
      | error e => exact met
      | ok files =>
          obtain ⟨rfl, kept, -⟩ := ensured files rfl
          rw [Py.either_ok, Py.wpc_bind]
          refine Py.wpc_mono (fun _ crash => crash) (fun r s₂ w₂ opened => ?_) (openNet_met kept self)
          obtain ⟨met, opened⟩ := opened
          cases r with
          | error e => exact met
          | ok net =>
              have kept := opened net rfl
              have rest : Py.Only Idle (owning net (checkNames net io.1 io.2)) :=
                only_owning _ (only_idle (only_checkNames _ _ _))
              rw [Py.either_ok, Py.wpc_bind]
              refine wpc_only rest kept.met fun r => ?_
              cases r with
              | error e => exact kept.met
              | ok _ =>
                  rw [Py.either_ok, Py.wpc_bind, Py.wpc_get, Py.either_ok, Py.wpc_bind, Py.wpc_modify,
                    Py.either_ok]
                  refine wpc_only ?_ kept.met fun _ => kept.met
                  cases s₂.net with
                  | none => exact only_finishLoad _ _
                  | some old =>
                      exact (only_owning _ (only_finishLoad _ _)).bind fun _ => Py.Only.ask trivial

end Runs

/-! ## Histories -/

section Histories

variable [NumPy] {p : PyStr} {w : Shelf}

theorem CacheHistory.kept (history : CacheHistory p (CutStale p) w) : CacheKept p w := by
  induction history with
  | start model old param bin placed =>
      refine ⟨⟨_, model, old⟩, ?_, fun _ => .inl param⟩
      rw [placed]
      exact fun _ member => absurd member List.not_mem_nil
  | saved _ writes kept => exact kept.saved writes
  | converted _ reached stale kept =>
      exact (Prog.wpc_reaches (convert_met kept) kept.met reached).kept stale
  | loaded self _ reached stale kept =>
      exact (Prog.wpc_reaches (load_met kept self) kept.met reached).kept stale

/-- Where no conversion was cut off beside weights that are still fresh, the cache that is returned
belongs to one conversion, which was completed. -/
theorem cache_paired (history : CacheHistory p (CutStale p) w) {files : PyStr × PyStr} {w' : Shelf}
    (ran : (ensureConverted p).Exec shelf () w (.ok files) () w') :
    files = cachePaths p ∧ Paired p w' := by
  obtain ⟨-, returned⟩ := Py.wpc_exec (ensureConverted_paired history.kept) ran
  obtain ⟨same, -, paired⟩ := returned files rfl
  exact ⟨same, paired⟩

end Histories

/-! ## Two conversions of one model -/

section TwoConversions

attribute [local instance] NumPy.reference

def model : PyStr := py "m.onnx"

/-- The models directory with one model in it. -/
def oneModel : Shelf where
  files q := if q = .at model then some ⟨0, [1], none⟩ else none
  clock := 0
  conversions := 0
  placed := []
  params _ := none
  weights _ := none
  sessions _ := none

def conversion : Prog Host (Except PyErr Unit × Unit) :=
  convertOnnxToNcnn model (cachePaths model).1 (cachePaths model).2 ()

/-- After one conversion. -/
def afterFirst : Shelf := conversion.walk Shelf.scribe 20 oneModel

/-- A second one is killed between its two moves. -/
def afterSecond : Shelf := conversion.walk Shelf.scribe 12 afterFirst

theorem oneModel_history {allowed : Shelf → Prop} : CacheHistory model allowed oneModel :=
  .start rfl le_rfl rfl rfl rfl

theorem afterSecond_history : CacheHistory model (fun _ => True) afterSecond :=
  (oneModel_history.converted (Prog.reaches_walk Shelf.step_scribe 20 _ _) trivial).converted
    (Prog.reaches_walk Shelf.step_scribe 12 _ _) trivial

/-- The graph of the second conversion is returned with the weights of the first one. -/
theorem cut_cache_returned : ∃ w w', CacheHistory model (fun _ => True) w ∧
    (ensureConverted model).Exec shelf () w (.ok (cachePaths model)) () w' ∧
      w'.origin (.at (cachePaths model).1) = some ⟨2, some [1]⟩ ∧
        w'.origin (.at (cachePaths model).2) = some ⟨1, some [1]⟩ ∧ ¬ Paired model w' := by
  have outcome : ((ensureConverted model ()).run Shelf.scribe afterSecond).1 =
      (.ok (cachePaths model), ()) := by decide +kernel
  have ran := Prog.exec_run Shelf.step_scribe (ensureConverted model ()) afterSecond
  rw [outcome] at ran
  have param : ((ensureConverted model ()).run Shelf.scribe afterSecond).2.origin
      (.at (cachePaths model).1) = some ⟨2, some [1]⟩ := by decide +kernel
  have bin : ((ensureConverted model ()).run Shelf.scribe afterSecond).2.origin
      (.at (cachePaths model).2) = some ⟨1, some [1]⟩ := by decide +kernel
  refine ⟨afterSecond, _, afterSecond_history, ran, param, bin, fun paired => ?_⟩
  obtain ⟨o, first, second, -⟩ := paired
  have same := (param.symm.trans first).trans (second.symm.trans bin)
  exact absurd same (by decide)

/-- After one conversion that was not cut off. -/
theorem cache_paired_afterFirst : ∃ w', Paired model w' ∧
    w'.origin (.at (cachePaths model).1) = some ⟨1, some [1]⟩ := by
  have history : CacheHistory model (CutStale model) afterFirst := by
    refine oneModel_history.converted (Prog.reaches_walk Shelf.step_scribe 20 _ _) fun cut => ?_
    exact absurd cut.2 (not_not_intro (by decide +kernel))
  have outcome : ((ensureConverted model ()).run Shelf.scribe afterFirst).1 =
      (.ok (cachePaths model), ()) := by decide +kernel
  have ran := Prog.exec_run Shelf.step_scribe (ensureConverted model ()) afterFirst
  rw [outcome] at ran
  exact ⟨_, (cache_paired history ran).2, by decide +kernel⟩

end TwoConversions

end Detector
