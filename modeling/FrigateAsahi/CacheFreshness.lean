import FrigateAsahi.ConversionCache
import FrigateAsahi.ZmqOnnxClient

/-!
# Whether a cache belongs to its model

A load takes the cached conversion of a model if its files are at least as new as the model. With
models that are saved again and again under many names this is the conversion of what the model
file holds, provided that no two names meet in a file and that a model whose content changes gets
a later time than its cache (`installs_current`). Neither follows from a clock that does not go
back.
-/

namespace Detector

open Text Python Numpy Interaction

/-! ## Names -/

/-- The files that are loaded in place of the model. -/
def caches (p : PyStr) : List PyStr :=
  [(NcnnBackend.cachePaths p).1, (NcnnBackend.cachePaths p).2, MnnBackend.cachePath p]

/-- All files beside the model that its conversions write. -/
def cacheFiles (p : PyStr) : List PyStr := caches p ++ [MnnBackend.cachePath p ++ py ".tmp"]

/-- No model's file is written by a conversion, and no file by the conversions of two models. -/
structure Separate (models : PyStr → Prop) : Prop where
  apart : ∀ p q, models p → models q → p ∉ cacheFiles q
  disjoint : ∀ p q, models p → models q → p ≠ q → (cacheFiles p).Disjoint (cacheFiles q)

theorem nodup_cacheFiles (p : PyStr) : (cacheFiles p).Nodup := by
  have stem : cacheFiles p = [py ".ncnn.param", py ".ncnn.bin", py ".mnn", py ".mnn" ++ py ".tmp"].map
      fun suffix => (splitext p).1 ++ suffix := by
    simp [cacheFiles, caches, NcnnBackend.cachePaths, MnnBackend.cachePath]
  rw [stem]
  exact List.Nodup.map (fun _ _ => List.append_cancel_left) (by decide)

theorem mem_cacheFiles {p c : PyStr} (cache : c ∈ caches p) : c ∈ cacheFiles p :=
  List.mem_append_left _ cache

/-! ## What a load changes -/

/-- The conversion is one of what the model's file holds. -/
def Matching (p : PyStr) (w : Shelf) (origin : Option Origin) : Prop :=
  ∃ o, origin = some o ∧ o.model = (w.files (.at p)).map Entry.octets

/-- The model's file is the same, and each cache is as it was or made from it. -/
structure Refreshed (p : PyStr) (w w' : Shelf) : Prop where
  model : w'.files (.at p) = w.files (.at p)
  elsewhere : ∀ q ∉ cacheFiles p, w'.files (.at q) = w.files (.at q)
  cache : ∀ c ∈ caches p, w'.files (.at c) = w.files (.at c) ∨ Matching p w (w'.origin (.at c))
  clock : w.clock ≤ w'.clock

section Refreshed

variable {p : PyStr} {w w' w'' : Shelf}

theorem Matching.of_same {o : Option Origin} (matching : Matching p w o)
    (model : w'.files (.at p) = w.files (.at p)) : Matching p w' o := by
  obtain ⟨origin, same, made⟩ := matching
  exact ⟨origin, same, by rw [made, model]⟩

theorem Refreshed.of_files (files : w'.files = w.files) (clock : w'.clock = w.clock) :
    Refreshed p w w' := by
  refine ⟨?_, fun q _ => ?_, fun c _ => .inl ?_, clock.ge⟩
  all_goals rw [files]

theorem Refreshed.trans (first : Refreshed p w w') (next : Refreshed p w' w'') :
    Refreshed p w w'' := by
  refine ⟨next.model.trans first.model, fun q other => ?_, fun c cache => ?_,
    first.clock.trans next.clock⟩
  · exact (next.elsewhere q other).trans (first.elsewhere q other)
  · rcases next.cache c cache with same | made
    · rcases first.cache c cache with same' | made'
      · exact .inl (same.trans same')
      · refine .inr ?_
        rw [Shelf.origin, same]
        exact made'
    · exact .inr (made.of_same first.model.symm)

theorem Refreshed.of_filed (filed : Filed w w') : Refreshed p w w' := by
  unfold Filed at filed
  exact .of_files (by rw [filed]) (by rw [filed])

/-- A conversion for ncnn, wherever it has come to. -/
theorem Refreshed.of_stage (apart : p ∉ cacheFiles p)
    (stage : Stage p (NcnnBackend.cachePaths p).1 (NcnnBackend.cachePaths p).2 w w') :
    Refreshed p w w' := by
  have nodup := nodup_cacheFiles p
  simp only [cacheFiles, caches, List.cons_append, List.nil_append, List.nodup_cons,
    List.mem_cons, List.not_mem_nil, not_or, or_false] at nodup apart
  obtain ⟨⟨-, paramMnn, -⟩, ⟨binMnn, -⟩, -⟩ := nodup
  have beside : Beside (NcnnBackend.cachePaths p).1 (NcnnBackend.cachePaths p).2 w w' := by
    cases stage with
    | begun begun => exact begun.toBeside
    | halved half => exact half.toBeside
    | done done => exact done.toBeside
  have made {o : Option Origin} (same : o = some (w.next p)) : Matching p w o := ⟨_, same, rfl⟩
  have ends : (w'.files (.at (NcnnBackend.cachePaths p).1) =
        w.files (.at (NcnnBackend.cachePaths p).1) ∨
      Matching p w (w'.origin (.at (NcnnBackend.cachePaths p).1))) ∧
      (w'.files (.at (NcnnBackend.cachePaths p).2) = w.files (.at (NcnnBackend.cachePaths p).2) ∨
        Matching p w (w'.origin (.at (NcnnBackend.cachePaths p).2))) := by
    cases stage with
    | begun begun => exact ⟨.inl begun.param, .inl begun.bin⟩
    | halved half => exact ⟨.inr (made half.param), .inl half.bin⟩
    | done done => exact ⟨.inr (made done.param), .inr (made done.bin)⟩
  refine ⟨beside.files p apart.1 apart.2.1, fun q other => ?_, fun c cache => ?_, beside.clock⟩
  · simp only [cacheFiles, caches, List.cons_append, List.nil_append, List.mem_cons, not_or] at other
    exact beside.files q other.1 other.2.1
  · simp only [caches, List.mem_cons, List.not_mem_nil, or_false] at cache
    rcases cache with rfl | rfl | rfl
    · exact ends.1
    · exact ends.2
    · exact .inl (beside.files _ (Ne.symm paramMnn) (Ne.symm binMnn))

end Refreshed

/-! ## A conversion for MNN -/

section Mnn

open MnnBackend

variable {p : PyStr} {w w₁ : Shelf}

/-- The file that MNN's converter writes. -/
def tmpFile (p : PyStr) : PyStr := cachePath p ++ py ".tmp"

theorem tmpFile_mem : tmpFile p ∈ cacheFiles p := List.mem_append_right _ (List.mem_singleton_self _)

theorem ne_tmpFile {c : PyStr} (cache : c ∈ caches p) : c ≠ tmpFile p := by
  intro same
  have disjoint := (List.nodup_append.mp (nodup_cacheFiles p)).2.2
  exact disjoint c cache _ (List.mem_singleton_self _) same

theorem cachePath_mem : cachePath p ∈ caches p := by simp [caches]

/-- Only the temporary file may have changed. -/
theorem Refreshed.of_tmp (apart : p ∉ cacheFiles p)
    (same : ∀ q, q ≠ tmpFile p → w₁.files (.at q) = w.files (.at q)) (clock : w.clock ≤ w₁.clock) :
    Refreshed p w w₁ := by
  refine ⟨same p ?_, fun q other => same q ?_, fun c cache => .inl (same c (ne_tmpFile cache)), clock⟩
  · exact (ne_of_mem_of_not_mem tmpFile_mem apart).symm
  · exact (ne_of_mem_of_not_mem tmpFile_mem other).symm

/-- The temporary file has taken the place of the cache. -/
theorem Refreshed.of_move (apart : p ∉ cacheFiles p)
    (same : ∀ q, q ≠ tmpFile p → w₁.files (.at q) = w.files (.at q)) (clock : w.clock ≤ w₁.clock)
    {e : Entry} (made : Matching p w e.origin) :
    Refreshed p w (w₁.move (.at (tmpFile p)) (.at (cachePath p)) e) ∧
      Matching p w ((w₁.move (.at (tmpFile p)) (.at (cachePath p)) e).origin (.at (cachePath p))) := by
  have moved : Matching p w
      ((w₁.move (.at (tmpFile p)) (.at (cachePath p)) e).origin (.at (cachePath p))) := by
    rw [Shelf.origin, Shelf.files_move_self]
    exact made
  have elsewhere : ∀ q, q ≠ tmpFile p → q ≠ cachePath p →
      (w₁.move (.at (tmpFile p)) (.at (cachePath p)) e).files (.at q) = w.files (.at q) := by
    intro q tmp mnn
    rw [Shelf.files_move_of_ne (by simpa using tmp) (by simpa using mnn)]
    exact same q tmp
  refine ⟨⟨elsewhere p ?_ ?_, fun q other => elsewhere q ?_ ?_, fun c cache => ?_, clock⟩, moved⟩
  · exact (ne_of_mem_of_not_mem tmpFile_mem apart).symm
  · exact (ne_of_mem_of_not_mem (mem_cacheFiles cachePath_mem) apart).symm
  · exact (ne_of_mem_of_not_mem tmpFile_mem other).symm
  · exact (ne_of_mem_of_not_mem (mem_cacheFiles cachePath_mem) other).symm
  · by_cases mnn : c = cachePath p
    · rw [mnn]
      exact .inr moved
    · exact .inl (elsewhere c (ne_tmpFile cache) mnn)

/-- A conversion for MNN, wherever it ends. -/
theorem convertOnnxToMnn_made (apart : p ∉ cacheFiles p) :
    (convertOnnxToMnn p (cachePath p)).wpc shelf (Refreshed p w) (fun r _ w' => Refreshed p w w' ∧
      (r = .ok () → Matching p w (w'.origin (.at (cachePath p))))) () w := by
  have begun : Refreshed p w w := .of_files rfl rfl
  rw [convertOnnxToMnn, Py.wpc_bind]
  refine wpc_only (only_idle (only_findTool _ _)) begun fun r => ?_
  cases r with
  | error e => exact ⟨begun, by simp⟩
  | ok tool =>
      rw [Py.either_ok, Py.wpc_bind, Py.wpc_ask]
      intro r w₁ converts
      have same : ∀ q, q ≠ tmpFile p → w₁.files (.at q) = w.files (.at q) := by
        intro q other
        refine converts.frame _ fun output => other ?_
        exact FilePath.at.inj (List.mem_singleton.mp output)
      have converted : Refreshed p w w₁ := .of_tmp apart same converts.clock
      refine ⟨converted, ?_⟩
      cases r with
      | error e => exact ⟨converted, by simp⟩
      | ok result =>
          rw [Py.either_ok, Py.wpc_bind, andAlso, Py.wpc_ite]
          split
          · next success =>
              refine wpc_only (only_idle (only_isWritten _)) converted fun r => ?_
              cases r with
              | error e => exact ⟨converted, by simp⟩
              | ok written =>
                  rw [Py.either_ok, Py.wpc_ite]
                  split
                  · exact ⟨converted, by simp⟩
                  · rw [Py.wpc_ask]
                    intro r w₂ step
                    cases r with
                    | error e =>
                        obtain rfl := step
                        exact ⟨converted, converted, by simp⟩
                    | ok _ =>
                        obtain ⟨e, held, rfl⟩ := step
                        -- What is moved was written by this run of the converter.
                        have made : Matching p w e.origin := by
                          rcases converts.output _ (List.mem_singleton_self _) with
                            left | gone | written
                          · exact absurd ⟨result, rfl, of_decide_eq_true success⟩ left.2
                          · cases gone.symm.trans held
                          · obtain ⟨e', there, origin, -⟩ := written
                            cases held.symm.trans there
                            exact ⟨_, origin, rfl⟩
                        obtain ⟨moved, matching⟩ := Refreshed.of_move apart same converts.clock made
                        exact ⟨moved, moved, fun _ => matching⟩
          · exact ⟨converted, by simp⟩

end Mnn

/-! ## What a load installs -/

/-- Every cache that is as new as the model was made from it. -/
def Trusted (p : PyStr) (w : Shelf) : Prop :=
  ∀ c ∈ caches p, ∀ e, NoOlder p c w e → Matching p w e.origin

section Loads

variable {p : PyStr} {w w₀ : Shelf}

theorem Trusted.matching (trusted : Trusted p w) {c : PyStr} (cache : c ∈ caches p) {e : Entry}
    (held : NoOlder p c w e) : Matching p w (w.origin (.at c)) := by
  rw [Shelf.origin, held.1]
  exact trusted c cache e held

namespace NcnnBackend

/-- Graph and weights of a conversion of the model. -/
def FromModel (p : PyStr) (w w' : Shelf) : Prop :=
  Matching p w (w'.origin (.at (cachePaths p).1)) ∧ Matching p w (w'.origin (.at (cachePaths p).2))

/-- The net's graph and weights are from conversions of the model. -/
def NetFromModel (p : PyStr) (w : Shelf) (net : Nat) (w' : Shelf) : Prop :=
  Matching p w (w'.params net) ∧ Matching p w (w'.weights net)

theorem convert_fromModel (apart : p ∉ cacheFiles p) (refreshed : Refreshed p w₀ w) :
    (convertOnnxToNcnn p (cachePaths p).1 (cachePaths p).2).wpc shelf (Refreshed p w₀)
      (fun r _ w' => Refreshed p w₀ w' ∧ (r = .ok () → FromModel p w₀ w')) () w := by
  refine Py.wpc_mono (fun w' stage => refreshed.trans (.of_stage apart stage)) (fun r _ w' outcome => ?_)
    (convertOnnxToNcnn_stage (ne_cachePaths p) (cachePaths_ne p))
  obtain ⟨stage, done⟩ := outcome
  refine ⟨refreshed.trans (.of_stage apart stage), fun ok => ?_⟩
  have made {o : Option Origin} (same : o = some (w.next p)) : Matching p w₀ o :=
    Matching.of_same ⟨_, same, rfl⟩ refreshed.model.symm
  exact ⟨made (done ok).param, made (done ok).bin⟩

/-- What is taken for the cache was made from the model. -/
theorem ensureConverted_fromModel (apart : p ∉ cacheFiles p) (trusted : Trusted p w) :
    (ensureConverted p).wpc shelf (Refreshed p w) (fun r _ w' => Refreshed p w w' ∧
      ∀ files, r = .ok files → files = cachePaths p ∧ FromModel p w w') () w := by
  have begun : Refreshed p w w := .of_files rfl rfl
  rw [ensureConverted, Py.wpc_bind, Py.wpc_catching]
  refine Py.wpc_mono (fun _ crash => crash) (fun r _ w' judged => ?_) (wpc_isFresh begun)
  obtain ⟨rfl, judged⟩ := judged
  have converted : (do
      convertOnnxToNcnn p (cachePaths p).1 (cachePaths p).2
      pure (cachePaths p) : HostM Unit (PyStr × PyStr)).wpc shelf (Refreshed p w')
        (fun r _ w'' => Refreshed p w' w'' ∧
          ∀ files, r = .ok files → files = cachePaths p ∧ FromModel p w' w'') () w' := by
    rw [Py.wpc_bind]
    refine Py.wpc_mono (fun _ crash => crash) (fun r _ w'' outcome => ?_)
      (convert_fromModel apart begun)
    obtain ⟨refreshed, made⟩ := outcome
    cases r with
    | error e => exact ⟨refreshed, by simp⟩
    | ok _ =>
        refine ⟨refreshed, fun files same => ?_⟩
        cases same
        exact ⟨rfl, made rfl⟩
  cases r with
  | error e =>
      rw [Py.either_error, Py.wpc_ite]
      split
      · exact converted
      · exact ⟨begun, by simp⟩
  | ok fresh =>
      rw [Py.either_ok, Py.either_ok, Py.wpc_ite]
      split
      · next held =>
          obtain ⟨param, bin, first, second, -⟩ := judged (congrArg Except.ok held)
          refine ⟨begun, fun files same => ?_⟩
          cases same
          exact ⟨rfl, trusted.matching (by simp [caches]) first,
            trusted.matching (by simp [caches]) second⟩
      · exact converted

theorem buildNet_loads (param binf : PyStr) (self : NcnnBackend) :
    (buildNet param binf).wpc shelf (fun _ => True) (fun r _ w' => ∀ net, r = .ok net →
      w'.params net = w.origin (.at param) ∧ w'.weights net = w.origin (.at binf)) self w := by
  rw [buildNet, Py.wpc_bind, Py.wpc_get, Py.either_ok, Py.wpc_bind]
  refine wpc_idle (by exact trivial) trivial fun r _ => ?_
  cases r with
  | error e => exact nofun
  | ok net =>
      rw [Py.either_ok, owning, Py.wpc_catching]
      -- What raises leaves the frame with an exception.
      have raised {α : Type} (e : PyErr) (s : NcnnBackend) (v : Shelf) {Q : α → Shelf → Prop} :
          (do ask (.tracebackKeeps net); ask (.ncnnRelease net); throw e : HostM NcnnBackend α).wpc
            shelf (fun _ => True) (fun r _ w' => ∀ a, r = .ok a → Q a w') s v := by
        rw [Py.wpc_bind]
        refine wpc_idle (by exact trivial) trivial fun r _ => ?_
        cases r with
        | error e => exact nofun
        | ok _ =>
            rw [Py.either_ok, Py.wpc_bind]
            refine wpc_idle (by exact trivial) trivial fun r _ => ?_
            cases r with
            | error e => exact nofun
            | ok _ => exact nofun
      rw [Py.wpc_bind]
      refine wpc_only (only_idle only_netThreads) trivial fun r => ?_
      cases r with
      | error e => exact raised e _ _
      | ok threads =>
          rw [Py.either_ok, Py.wpc_bind]
          refine wpc_idle (by exact trivial) trivial fun r _ => ?_
          cases r with
          | error e => exact raised e _ _
          | ok _ =>
              rw [Py.either_ok, Py.wpc_bind, Py.wpc_ask]
              intro r w₁ step
              obtain rfl := step
              refine ⟨trivial, ?_⟩
              cases r with
              | error e => exact raised e _ _
              | ok ret =>
                  rw [Py.either_ok, Py.wpc_ite]
                  split
                  · exact raised _ _ _
                  · rw [Py.wpc_bind, Py.wpc_ask]
                    intro r w₂ step
                    obtain rfl := step
                    refine ⟨trivial, ?_⟩
                    cases r with
                    | error e => exact raised e _ _
                    | ok ret =>
                        rw [Py.either_ok, Py.wpc_ite]
                        split
                        · exact raised _ _ _
                        · intro net' same
                          cases same
                          simp [Shelf.origin]

/-- The net is built from the files there are, or from those of one more conversion. -/
theorem openNet_fromModel (apart : p ∉ cacheFiles p) (refreshed : Refreshed p w₀ w)
    (made : FromModel p w₀ w) (self : NcnnBackend) :
    (openNet p (cachePaths p)).wpc shelf (Refreshed p w₀) (fun r _ w' => Refreshed p w₀ w' ∧
      ∀ net, r = .ok net → NetFromModel p w₀ net w') self w := by
  have built {v : Shelf} (refreshed : Refreshed p w₀ v) (made : FromModel p w₀ v)
      (self : NcnnBackend) :
      (buildNet (cachePaths p).1 (cachePaths p).2).wpc shelf (Refreshed p w₀)
        (fun r _ w' => Refreshed p w₀ w' ∧ ∀ net, r = .ok net → NetFromModel p w₀ net w')
        self v := by
    have loading := loading_of_only (only_buildNet (cachePaths p).1 (cachePaths p).2) self v
    refine Py.wpc_mono (fun w' crash => ?_) (fun r _ w' both => ?_)
      (Py.wpc_and loading (buildNet_loads _ _ self))
    · obtain ⟨⟨_, -, filed⟩, -⟩ := crash
      exact refreshed.trans (.of_filed filed)
    · obtain ⟨⟨-, filed⟩, loads⟩ := both
      refine ⟨refreshed.trans (.of_filed filed), fun net ok => ?_⟩
      obtain ⟨params, weights⟩ := loads net ok
      unfold NetFromModel
      rw [params, weights]
      exact made
  rw [openNet, wpc_exceptException]
  refine Py.wpc_mono (fun _ crash => crash) (fun r s' w' done => ?_) (built refreshed made self)
  obtain ⟨refreshed', loads⟩ := done
  cases r with
  | ok net => exact ⟨refreshed', loads⟩
  | error e =>
      rw [Py.either_error]
      split
      · rw [Py.wpc_bind, wpc_free]
        refine Py.wpc_mono (fun _ crash => crash) (fun r _ w'' outcome => ?_)
          (convert_fromModel apart refreshed')
        obtain ⟨refreshed'', made'⟩ := outcome
        cases r with
        | error e => exact ⟨refreshed'', by simp⟩
        | ok _ =>
            rw [Py.either_ok, Py.wpc_bind]
            refine Py.wpc_mono (fun _ crash => crash) (fun r s'' v done => ?_)
              (built refreshed'' (made' rfl) s')
            obtain ⟨refreshed₃, loads⟩ := done
            cases r with
            | error e => exact ⟨refreshed₃, by simp⟩
            | ok net =>
                rw [Py.either_ok, Py.wpc_bind]
                exact wpc_handled_shelf refreshed₃ ⟨refreshed₃, loads⟩
      · exact ⟨refreshed', by simp⟩

/-- A load, wherever it ends, and what it installs. -/
theorem load_fromModel [NumPy] (apart : p ∉ cacheFiles p) (trusted : Trusted p w)
    (self : NcnnBackend) :
    (load p : HostM NcnnBackend Unit).wpc shelf (Refreshed p w) (fun r self' w' =>
      Refreshed p w w' ∧ (r = .ok () → (w.files (.at p)).isSome = true ∧
        ∃ net, self'.net = some net ∧ NetFromModel p w net w')) self w := by
  have begun : Refreshed p w w := .of_files rfl rfl
  rw [load, Py.wpc_bind]
  refine wpc_idle (by exact trivial) begun fun r step => ?_
  cases r with
  | error e => exact ⟨begun, by simp⟩
  | ok io =>
      have present := step.2 io rfl
      rw [Py.either_ok, Py.wpc_bind, wpc_free]
      refine Py.wpc_mono (fun _ crash => crash) (fun r _ w₁ ensured => ?_)
        (ensureConverted_fromModel apart trusted)
      obtain ⟨refreshed₁, ensured⟩ := ensured
      cases r with
      | error e => exact ⟨refreshed₁, by simp⟩
      | ok files =>
          obtain ⟨rfl, made⟩ := ensured files rfl
          rw [Py.either_ok, Py.wpc_bind]
          refine Py.wpc_mono (fun _ crash => crash) (fun r s₂ w₂ opened => ?_)
            (openNet_fromModel apart refreshed₁ made self)
          obtain ⟨refreshed₂, opened⟩ := opened
          cases r with
          | error e => exact ⟨refreshed₂, by simp⟩
          | ok net =>
              have fromModel := opened net rfl
              have rest : Py.Only Idle (owning net (checkNames net io.1 io.2)) :=
                only_owning _ (only_idle (only_checkNames _ _ _))
              rw [Py.either_ok, Py.wpc_bind]
              refine wpc_only rest refreshed₂ fun r => ?_
              cases r with
              | error e => exact ⟨refreshed₂, by simp⟩
              | ok _ =>
                  rw [Py.either_ok, Py.wpc_bind, Py.wpc_get, Py.either_ok, Py.wpc_bind,
                    Py.wpc_modify, Py.either_ok]
                  refine wpc_only ?_ refreshed₂ fun _ =>
                    ⟨refreshed₂, fun _ => ⟨present, net, rfl, fromModel⟩⟩
                  cases s₂.net with
                  | none => exact only_finishLoad _ _
                  | some old =>
                      exact (only_owning _ (only_finishLoad _ _)).bind fun _ => Py.Only.ask trivial

end NcnnBackend

namespace MnnBackend

theorem convert_fromModel (apart : p ∉ cacheFiles p) (refreshed : Refreshed p w₀ w) :
    (convertOnnxToMnn p (cachePath p)).wpc shelf (Refreshed p w₀) (fun r _ w' => Refreshed p w₀ w' ∧
      (r = .ok () → Matching p w₀ (w'.origin (.at (cachePath p))))) () w := by
  refine Py.wpc_mono (fun _ crash => refreshed.trans crash) (fun r _ w' outcome => ?_)
    (convertOnnxToMnn_made apart)
  exact ⟨refreshed.trans outcome.1, fun ok => (outcome.2 ok).of_same refreshed.model.symm⟩

/-- What is taken for the cache was made from the model. -/
theorem ensureConverted_fromModel (apart : p ∉ cacheFiles p) (trusted : Trusted p w) :
    (ensureConverted p).wpc shelf (Refreshed p w) (fun r _ w' => Refreshed p w w' ∧
      ∀ mnn, r = .ok mnn → mnn = cachePath p ∧ Matching p w (w'.origin (.at (cachePath p))))
      () w := by
  have begun : Refreshed p w w := .of_files rfl rfl
  rw [ensureConverted, Py.wpc_bind, Py.wpc_catching]
  refine Py.wpc_mono (fun _ crash => crash) (fun r _ w' judged => ?_) (wpc_isFresh begun)
  obtain ⟨rfl, judged⟩ := judged
  have converted : (do
      convertOnnxToMnn p (cachePath p)
      pure (cachePath p) : HostM Unit PyStr).wpc shelf (Refreshed p w')
        (fun r _ w'' => Refreshed p w' w'' ∧
          ∀ mnn, r = .ok mnn → mnn = cachePath p ∧ Matching p w' (w''.origin (.at (cachePath p))))
        () w' := by
    rw [Py.wpc_bind]
    refine Py.wpc_mono (fun _ crash => crash) (fun r _ w'' outcome => ?_)
      (convert_fromModel apart begun)
    obtain ⟨refreshed, made⟩ := outcome
    cases r with
    | error e => exact ⟨refreshed, by simp⟩
    | ok _ =>
        refine ⟨refreshed, fun mnn same => ?_⟩
        cases same
        exact ⟨rfl, made rfl⟩
  cases r with
  | error e =>
      rw [Py.either_error, Py.wpc_ite]
      split
      · exact converted
      · exact ⟨begun, by simp⟩
  | ok fresh =>
      rw [Py.either_ok, Py.either_ok, Py.wpc_ite]
      split
      · next held =>
          obtain ⟨mnn, first, -⟩ := judged (congrArg Except.ok held)
          refine ⟨begun, fun file same => ?_⟩
          cases same
          exact ⟨rfl, trusted.matching cachePath_mem first⟩
      · exact converted

/-- The session is loaded from the file. -/
theorem create_loads (mnn : PyStr) (self : MnnBackend) :
    (create mnn).wpc shelf (Filed w) (fun r _ w' => Filed w w' ∧
      ∀ h, r = .ok h → w'.sessions h = w.origin (.at mnn)) self w := by
  rw [create, Py.wpc_bind, Py.wpc_get, Py.either_ok, Py.wpc_ite]
  split
  · exact ⟨rfl, by simp⟩
  · rw [Py.wpc_bind, Py.wpc_ask]
    intro r w' step
    have filed : Filed w w' := shelf_filing (by exact trivial) step
    refine ⟨filed, ?_⟩
    rcases r with e | - | h
    · exact ⟨filed, by simp⟩
    · rw [Py.either_ok, wpc_require]
      exact ⟨nofun, fun _ => ⟨filed, by simp⟩⟩
    · obtain rfl := step
      rw [Py.either_ok, wpc_require]
      refine ⟨fun h' same => ⟨filed, fun h'' ok => ?_⟩, by simp⟩
      cases same
      cases ok
      simp

/-- A load, wherever it ends, and what it installs. -/
theorem load_fromModel [NumPy] (apart : p ∉ cacheFiles p) (trusted : Trusted p w)
    (self : MnnBackend) :
    (load p : HostM MnnBackend Unit).wpc shelf (Refreshed p w) (fun r self' w' =>
      Refreshed p w w' ∧ (r = .ok () → (w.files (.at p)).isSome = true ∧
        ∃ h, self'.h = some h ∧ Matching p w (w'.sessions h))) self w := by
  have begun : Refreshed p w w := .of_files rfl rfl
  rw [load, Py.wpc_bind]
  refine wpc_idle (by exact trivial) begun fun r step => ?_
  cases r with
  | error e => exact ⟨begun, by simp⟩
  | ok onnx =>
      have present := step.2 onnx rfl
      rw [Py.either_ok, Py.wpc_bind, wpc_free]
      refine Py.wpc_mono (fun _ crash => crash) (fun r _ w₁ ensured => ?_)
        (ensureConverted_fromModel apart trusted)
      obtain ⟨refreshed₁, ensured⟩ := ensured
      cases r with
      | error e => exact ⟨refreshed₁, by simp⟩
      | ok mnn =>
          obtain ⟨rfl, made⟩ := ensured mnn rfl
          rw [Py.either_ok, Py.wpc_bind]
          refine Py.wpc_mono (fun _ crash => refreshed₁.trans (.of_filed crash))
            (fun r s₂ w₂ created => ?_) (create_loads _ self)
          obtain ⟨filed, loads⟩ := created
          have refreshed₂ : Refreshed p w w₂ := refreshed₁.trans (.of_filed filed)
          cases r with
          | error e => exact ⟨refreshed₂, by simp⟩
          | ok h =>
              have fromModel : Matching p w (w₂.sessions h) := by
                rw [loads h rfl]
                exact made
              rw [Py.either_ok, Py.wpc_bind]
              refine wpc_only (only_idle (only_describe _)) refreshed₂ fun r => ?_
              cases r with
              | error e => exact ⟨refreshed₂, by simp⟩
              | ok shim =>
                  rw [Py.either_ok, Py.wpc_ite]
                  split
                  · rw [Py.wpc_bind]
                    refine wpc_idle (by exact trivial) refreshed₂ fun r _ => ?_
                    cases r with
                    | error e => exact ⟨refreshed₂, by simp⟩
                    | ok _ => exact ⟨refreshed₂, by simp⟩
                  · rw [Py.wpc_bind, Py.wpc_get, Py.either_ok, Py.wpc_bind, Py.wpc_modify,
                      Py.either_ok]
                    refine wpc_only ((only_finishLoad _).bind fun _ => only_drop _) refreshed₂
                      fun _ => ⟨refreshed₂, fun _ => ⟨present, h, rfl, fromModel⟩⟩

end MnnBackend

end Loads

/-! ## A model that is saved -/

def Hosted.Step {W : Type} (E : Env Host W) (w : W) :
    (c : ServerCall) → Except PyErr c.Answer → W → Prop
  | .host c, r, w' => E.step w c r w'
  | _, _, w' => w' = w

/-- The server's surroundings, where `E` are those of its files and sockets change none of them. -/
def hosted {W : Type} (E : Env Host W) : Env Server W := ⟨Hosted.Step E⟩

/-- Only the model's file may have changed, and then it is as new as anything else. -/
structure Saving (p : PyStr) (w w' : Shelf) : Prop where
  elsewhere : ∀ q, q ≠ .at p → w'.files q = w.files q
  file : w'.files (.at p) = w.files (.at p) ∨
    ∃ m, w'.files (.at p) = some m ∧ w.clock ≤ m.time ∧ m.time ≤ w'.clock
  clock : w.clock ≤ w'.clock

section Saving

variable {p : PyStr} {w w' w'' : Shelf} {σ : Type}

theorem Saving.refl : Saving p w w := ⟨fun _ _ => rfl, .inl rfl, le_rfl⟩

theorem Saving.trans (first : Saving p w w') (next : Saving p w' w'') : Saving p w w'' := by
  refine ⟨fun q other => (next.elsewhere q other).trans (first.elsewhere q other), ?_,
    first.clock.trans next.clock⟩
  rcases next.file with same | ⟨m, held, later, bound⟩
  · rcases first.file with same' | ⟨m, held, later, bound⟩
    · exact .inl (same.trans same')
    · exact .inr ⟨m, same.trans held, later, bound.trans next.clock⟩
  · exact .inr ⟨m, held, first.clock.trans later, bound⟩

/-- The relation of a part that may write the model's file. -/
def SavingAt (p : PyStr) (x y : σ × Shelf) : Prop := Saving p x.2 y.2

instance : IsPreorder (σ × Shelf) (SavingAt (σ := σ) p) where
  refl _ := .refl
  trans _ _ _ first next := Saving.trans first next

theorem Saving.of_writes {octets : Bytes} (writes : w.Writes p octets w') : Saving p w w' := by
  obtain ⟨e, there, -, later, bound, elsewhere, -⟩ := writes.spec
  exact ⟨elsewhere, .inr ⟨e, there, later, bound⟩, later.trans bound⟩

variable {β : Type}

theorem saving_makedirs (dir : PyStr) :
    Py.Within (hosted shelf) (SavingAt p) (callHost (.makedirs dir) : ServerM β Unit) := by
  refine .ask fun s w r w' step => ?_
  obtain rfl : w' = w := step
  exact Saving.refl

theorem saving_openWb :
    Py.Within (hosted shelf) (SavingAt p) (callHost (.openWb p) : ServerM β Unit) := by
  refine .ask fun s w r w' step => ?_
  cases r with
  | error e =>
      obtain rfl : w' = w := step
      exact Saving.refl
  | ok _ => exact Saving.of_writes step

theorem saving_write (data : Bytes) :
    Py.Within (hosted shelf) (SavingAt p) (callHost (.write p data) : ServerM β Unit) := by
  refine .ask fun s w r w' step => ?_
  cases r with
  | error e =>
      obtain ⟨front, -, writes⟩ := step
      exact Saving.of_writes writes
  | ok _ => exact Saving.of_writes step

theorem saving_closeFile :
    Py.Within (hosted shelf) (SavingAt p) (callHost (.closeFile p) : ServerM β Unit) :=
  .ask fun _ _ _ _ step => Saving.of_writes step

/-- Saving a model, wherever it ends. -/
theorem saveModel_saving [InferenceBackend β] (self : ZmqOnnxClient β) (name : PyStr)
    (data : Bytes) :
    (saveModel (.str name) data).wpc (hosted shelf) (Saving (pathJoin self.modelsDir name) w)
      (fun _ _ w' => Saving (pathJoin self.modelsDir name) w w') self w := by
  have body : Py.Within (hosted shelf) (SavingAt (pathJoin self.modelsDir name)) (do
      callHost (.makedirs self.modelsDir)
      let modelPath ← Py.ofExcept (modelFile self.modelsDir (.str name))
      callHost (.openWb modelPath)
      Py.andFinally (callHost (.write modelPath data)) (callHost (.closeFile modelPath))
      pure true : ServerM β Bool) := by
    refine (saving_makedirs _).bind fun _ => ?_
    rw [modelFile]
    exact saving_openWb.bind fun _ =>
      ((saving_write data).andFinally saving_closeFile).bind fun _ => .pure true
  rw [saveModel, wpc_exceptException, Py.wpc_bind, Py.wpc_get, Py.either_ok]
  refine Py.wpc_mono (fun w' crash => ?_) (fun r s' w' saved => ?_) (body self w)
  · obtain ⟨_, saving⟩ := crash
    exact saving
  · cases r with
    | ok done => exact saved
    | error e =>
        rw [Py.either_error]
        split
        · exact saved
        · exact saved

end Saving

/-! ## Histories -/

/-- Models that are saved and loaded, under all names in a set. A load or a save may be stopped
anywhere, and paths that are not equal are not one file. -/
inductive LoadHistory [NumPy] (models : PyStr → Prop) (allowed : PyStr → Shelf → Shelf → Prop) :
    Shelf → Prop
  | start {w : Shelf} : (∀ p, models p → ∀ m, w.files (.at p) = some m → m.time ≤ w.clock) →
    (∀ p, models p → ∀ c ∈ cacheFiles p, w.files (.at c) = none) → LoadHistory models allowed w
  | saved {w w' : Shelf} {β : Type} [InferenceBackend β] (self : ZmqOnnxClient β) {name : PyStr}
    {data : Bytes} : LoadHistory models allowed w → models (pathJoin self.modelsDir name) →
    Prog.Reaches (hosted shelf) ((saveModel (.str name) data : ServerM β Bool) self) w w' →
    allowed (pathJoin self.modelsDir name) w w' → LoadHistory models allowed w'
  | ncnn {w w' : Shelf} (self : NcnnBackend) {p : PyStr} : LoadHistory models allowed w →
    models p → Prog.Reaches shelf ((NcnnBackend.load p : HostM NcnnBackend Unit) self) w w' →
    LoadHistory models allowed w'
  | mnn {w w' : Shelf} (self : MnnBackend) {p : PyStr} : LoadHistory models allowed w →
    models p → Prog.Reaches shelf ((MnnBackend.load p : HostM MnnBackend Unit) self) w w' →
    LoadHistory models allowed w'

/-- A model whose content changes is from then on newer than its caches. -/
def Stamped (p : PyStr) (w w' : Shelf) : Prop :=
  (w'.files (.at p)).map Entry.octets = (w.files (.at p)).map Entry.octets ∨
    ∃ m, w'.files (.at p) = some m ∧
      ∀ c ∈ caches p, ∀ e, w.files (.at c) = some e → e.time < m.time

/-- No model is from the future, and the caches that are fresh were made from their models. -/
structure Cached (models : PyStr → Prop) (w : Shelf) : Prop where
  past : ∀ p, models p → ∀ m, w.files (.at p) = some m → m.time ≤ w.clock
  trusted : ∀ p, models p → Trusted p w

section Histories

variable {models : PyStr → Prop} {p : PyStr} {w w' : Shelf}

theorem Trusted.of_same (trusted : Trusted p w) (model : w'.files (.at p) = w.files (.at p))
    (cache : ∀ c ∈ caches p, w'.files (.at c) = w.files (.at c)) : Trusted p w' := by
  intro c member e held
  obtain ⟨there, m, present, newer⟩ := held
  have before : NoOlder p c w e :=
    ⟨(cache c member).symm.trans there, m, model.symm.trans present, newer⟩
  exact (trusted c member e before).of_same model

/-- A load of one model makes its own caches from it and leaves those of the others alone. -/
theorem Cached.refreshed (cached : Cached models w) (separate : Separate models) (model : models p)
    (refreshed : Refreshed p w w') : Cached models w' := by
  have same : ∀ q, models q → w'.files (.at q) = w.files (.at q) := fun q model' =>
    refreshed.elsewhere q (separate.apart q p model' model)
  refine ⟨fun q model' m held => ?_, fun q model' => ?_⟩
  · exact (cached.past q model' m ((same q model').symm.trans held)).trans refreshed.clock
  · by_cases this : q = p
    · subst this
      intro c member e held
      obtain ⟨there, m, present, newer⟩ := held
      rcases refreshed.cache c member with left | made
      · have before : NoOlder q c w e :=
          ⟨left.symm.trans there, m, refreshed.model.symm.trans present, newer⟩
        exact (cached.trusted q model c member e before).of_same refreshed.model
      · rw [Shelf.origin, there] at made
        exact made.of_same refreshed.model
    · refine (cached.trusted q model').of_same (same q model') fun c member => ?_
      exact refreshed.elsewhere c
        (separate.disjoint q p model' model this (mem_cacheFiles member))

/-- What was saved is newer than its caches, or is what they were made from. -/
theorem Cached.saved (cached : Cached models w) (separate : Separate models) (model : models p)
    (saving : Saving p w w') (stamped : Stamped p w w') : Cached models w' := by
  have same : ∀ q, q ≠ p → w'.files (.at q) = w.files (.at q) := fun q other =>
    saving.elsewhere _ fun equal => other (FilePath.at.inj equal)
  have apart : ∀ q, models q → ∀ c ∈ caches q, w'.files (.at c) = w.files (.at c) :=
    fun q model' c member => same c
      (ne_of_mem_of_not_mem (mem_cacheFiles member) (separate.apart p q model model'))
  refine ⟨fun q model' m held => ?_, fun q model' => ?_⟩
  · by_cases this : q = p
    · subst this
      rcases saving.file with left | ⟨m', held', -, bound⟩
      · exact (cached.past q model m (left.symm.trans held)).trans saving.clock
      · cases held.symm.trans held'
        exact bound
    · exact (cached.past q model' m ((same q this).symm.trans held)).trans saving.clock
  · by_cases this : q = p
    · subst this
      intro c member e held
      obtain ⟨there, m, present, newer⟩ := held
      have held₀ := (apart q model c member).symm.trans there
      rcases stamped with content | ⟨m', present', later⟩
      · -- The same content: it was not newer before.
        rw [present] at content
        obtain ⟨m₀, present₀, octets⟩ := Option.map_eq_some_iff.mp content.symm
        have older : m₀.time ≤ m.time := by
          rcases saving.file with left | ⟨m', present', later, -⟩
          · cases present₀.symm.trans (left.symm.trans present)
            exact le_rfl
          · cases present.symm.trans present'
            exact (cached.past q model m₀ present₀).trans later
        obtain ⟨o, origin, made⟩ :=
          cached.trusted q model c member e ⟨held₀, m₀, present₀, older.trans newer⟩
        refine ⟨o, origin, ?_⟩
        rw [made, present₀, present, Option.map_some, Option.map_some, octets]
      · cases present.symm.trans present'
        exact absurd newer (not_le.mpr (later c member e held₀))
    · exact (cached.trusted q model').of_same (same q this) (apart q model')

variable [NumPy]

theorem LoadHistory.cached (separate : Separate models) (history : LoadHistory models Stamped w) :
    Cached models w := by
  induction history with
  | start past absent =>
      refine ⟨past, fun p model c member e held => ?_⟩
      have none := absent p model c (mem_cacheFiles member)
      cases none.symm.trans held.1
  | saved self _ model reached stamped cached =>
      exact cached.saved separate model
        (Prog.wpc_reaches (saveModel_saving self _ _) .refl reached) stamped
  | ncnn self _ model reached cached =>
      exact cached.refreshed separate model (Prog.wpc_reaches
        (NcnnBackend.load_fromModel (separate.apart _ _ model model) (cached.trusted _ model) self)
        (.of_files rfl rfl) reached)
  | mnn self _ model reached cached =>
      exact cached.refreshed separate model (Prog.wpc_reaches
        (MnnBackend.load_fromModel (separate.apart _ _ model model) (cached.trusted _ model) self)
        (.of_files rfl rfl) reached)

end Histories

/-! ## What is installed -/

def ConvertedFrom (octets : Bytes) (origin : Option Origin) : Prop :=
  ∃ o, origin = some o ∧ o.model = some octets

/-- A load that succeeds installs a conversion of what the model's file holds. -/
structure InstallsCurrent [NumPy] (p : PyStr) (w : Shelf) : Prop where
  ncnn : ∀ self self' w',
    (NcnnBackend.load p : HostM NcnnBackend Unit).Exec shelf self w (.ok ()) self' w' →
      ∃ m net, w.files (.at p) = some m ∧ w'.files (.at p) = some m ∧ self'.net = some net ∧
        ConvertedFrom m.octets (w'.params net) ∧ ConvertedFrom m.octets (w'.weights net)
  mnn : ∀ self self' w',
    (MnnBackend.load p : HostM MnnBackend Unit).Exec shelf self w (.ok ()) self' w' →
      ∃ m h, w.files (.at p) = some m ∧ w'.files (.at p) = some m ∧ self'.h = some h ∧
        ConvertedFrom m.octets (w'.sessions h)

section Installed

variable [NumPy] {models : PyStr → Prop} {p : PyStr} {w : Shelf}

omit [NumPy] in
theorem Matching.convertedFrom {origin : Option Origin} (matching : Matching p w origin) {m : Entry}
    (held : w.files (.at p) = some m) : ConvertedFrom m.octets origin := by
  obtain ⟨o, same, made⟩ := matching
  exact ⟨o, same, by rw [made, held, Option.map_some]⟩

/-- Where no two names meet in a file and new content is stamped later than the caches, loading
with the cache installs what a conversion would. -/
theorem installs_current (separate : Separate models) (history : LoadHistory models Stamped w)
    (model : models p) : InstallsCurrent p w := by
  have apart := separate.apart p p model model
  have trusted := (history.cached separate).trusted p model
  refine ⟨fun self self' w' ran => ?_, fun self self' w' ran => ?_⟩
  · obtain ⟨refreshed, installed⟩ :=
      Py.wpc_exec (NcnnBackend.load_fromModel apart trusted self) ran
    obtain ⟨present, net, set, params, weights⟩ := installed rfl
    obtain ⟨m, held⟩ := Option.isSome_iff_exists.mp present
    exact ⟨m, net, held, refreshed.model.trans held, set, params.convertedFrom held,
      weights.convertedFrom held⟩
  · obtain ⟨refreshed, installed⟩ :=
      Py.wpc_exec (MnnBackend.load_fromModel apart trusted self) ran
    obtain ⟨present, h, set, session⟩ := installed rfl
    obtain ⟨m, held⟩ := Option.isSome_iff_exists.mp present
    exact ⟨m, h, held, refreshed.model.trans held, set, session.convertedFrom held⟩

end Installed

/-! ## Caches of another model -/

section Stale

attribute [local instance] NumPy.reference

def onnx : PyStr := py "m.onnx"

/-- Has the same cache as `m.onnx`. -/
def sibling : PyStr := py "m.pt"

/-- The cache of `m.onnx` for MNN, as the name of a model. -/
def cacheName : PyStr := py "m.mnn"

/-- Two models that have not been loaded yet. -/
def twoModels : Shelf where
  files q := if q = .at onnx then some ⟨0, [1], none⟩
    else if q = .at sibling then some ⟨0, [2], none⟩ else none
  clock := 0
  conversions := 0
  placed := []
  params _ := none
  weights _ := none
  sessions _ := none

def freshServer : ZmqOnnxClient MnnBackend :=
  ⟨[], [], none, false, true, some 0, .init 0 false none⟩

/-- A host on which everything works, at the server. -/
def scribeServer (w : Shelf) : (c : ServerCall) → Except PyErr c.Answer × Shelf
  | .host c => w.scribe c
  | _ => (.error Shelf.missing, w)

theorem step_scribeServer (w : Shelf) (c : ServerCall) :
    (hosted shelf).step w c (scribeServer w c).1 (scribeServer w c).2 := by
  cases c with
  | host c => exact w.step_scribe c
  | _ => rfl

def loadMnn (p : PyStr) : Prog Host (Except PyErr Unit × MnnBackend) :=
  (MnnBackend.load p : HostM MnnBackend Unit) (.init 0 false none)

def save (name : PyStr) (data : Bytes) : Prog Server (Except PyErr Bool × ZmqOnnxClient MnnBackend) :=
  (saveModel (.str name) data : ServerM MnnBackend Bool) freshServer

/-- `m.onnx` was loaded. -/
def loadedOnce : Shelf := (loadMnn onnx).walk Shelf.scribe 50 twoModels

/-- Then it was saved again, at once. -/
def savedAgain : Shelf := (save onnx [3]).walk scribeServer 50 loadedOnce

/-- A host whose clock moves on before a file is opened. -/
def scribeLater (w : Shelf) : (c : ServerCall) → Except PyErr c.Answer × Shelf
  | .host (.openWb p) => (.ok (), { w with clock := w.clock + 1 }.put p [])
  | c => scribeServer w c

theorem step_scribeLater (w : Shelf) (c : ServerCall) :
    (hosted shelf).step w c (scribeLater w c).1 (scribeLater w c).2 := by
  cases c with
  | host c =>
      cases c with
      | openWb p => exact ⟨w.clock + 1, Nat.le_succ _, rfl⟩
      | _ => exact step_scribeServer w (.host _)
  | _ => rfl

/-- It was saved again one tick later. -/
def savedLater : Shelf := (save onnx [3]).walk scribeLater 50 loadedOnce

/-- A model was saved under the name of the cache. -/
def savedOver : Shelf := (save cacheName [4]).walk scribeServer 50 twoModels

/-- A load that succeeds with a session of other content. -/
theorem not_installsCurrent {p : PyStr} {w : Shelf}
    (ok : ((loadMnn p).run Shelf.scribe w).1.1 = .ok ())
    (other : (((loadMnn p).run Shelf.scribe w).1.2.h.bind
      ((loadMnn p).run Shelf.scribe w).2.sessions).bind Origin.model ≠
        (((loadMnn p).run Shelf.scribe w).2.files (.at p)).map Entry.octets) :
    ¬ InstallsCurrent p w := by
  intro current
  have ran : (MnnBackend.load p : HostM MnnBackend Unit).Exec shelf (.init 0 false none) w (.ok ())
      ((loadMnn p).run Shelf.scribe w).1.2 ((loadMnn p).run Shelf.scribe w).2 :=
    Py.exec_run Shelf.step_scribe _ _ _ ok
  obtain ⟨m, h, -, held, set, o, session, made⟩ := current.mnn _ _ _ ran
  rw [set, held, Option.bind_some, session, Option.bind_some, made] at other
  exact other rfl

theorem twoModels_history {models : PyStr → Prop} {allowed : PyStr → Shelf → Shelf → Prop}
    (absent : ∀ p, models p → ∀ c ∈ cacheFiles p, twoModels.files (.at c) = none) :
    LoadHistory models allowed twoModels := by
  refine .start (fun p _ m held => ?_) absent
  simp only [twoModels] at held
  split at held
  · cases held
    exact le_rfl
  · split at held
    · cases held
      exact le_rfl
    · cases held

theorem onnx_separate : Separate (· = onnx) := by
  refine ⟨?_, ?_⟩
  · rintro p q rfl rfl
    decide
  · rintro p q rfl rfl other
    exact absurd rfl other

theorem loadedOnce_history {allowed : PyStr → Shelf → Shelf → Prop} :
    LoadHistory (· = onnx) allowed loadedOnce := by
  refine .mnn _ (twoModels_history ?_) rfl (Prog.reaches_walk Shelf.step_scribe 50 _ _)
  rintro p rfl
  decide

/-- A network of other content is installed where a model is saved in the same tick as its cache,
where two models have one cache, and where a model is saved under the name of a cache. -/
theorem stale_network_installed :
    (∃ w, Separate (· = onnx) ∧ LoadHistory (· = onnx) (fun _ _ _ => True) w ∧
      ¬ InstallsCurrent onnx w) ∧
    (∃ w, LoadHistory (· ∈ [onnx, sibling]) Stamped w ∧ ¬ InstallsCurrent sibling w) ∧
    ∃ w, LoadHistory (· ∈ [onnx, cacheName]) Stamped w ∧ ¬ InstallsCurrent onnx w := by
  refine ⟨⟨savedAgain, onnx_separate, ?_, ?_⟩, ⟨loadedOnce, ?_, ?_⟩, savedOver, ?_, ?_⟩
  · have reached : Prog.Reaches (hosted shelf) (save onnx [3]) loadedOnce savedAgain :=
      Prog.reaches_walk step_scribeServer 50 _ _
    exact .saved freshServer loadedOnce_history rfl reached trivial
  · exact not_installsCurrent (by decide +kernel) (by decide +kernel)
  · exact .mnn _ (twoModels_history (by decide)) (by decide)
      (Prog.reaches_walk Shelf.step_scribe 50 _ _)
  · exact not_installsCurrent (by decide +kernel) (by decide +kernel)
  · have reached : Prog.Reaches (hosted shelf) (save cacheName [4]) twoModels savedOver :=
      Prog.reaches_walk step_scribeServer 50 _ _
    refine .saved freshServer (twoModels_history (by decide)) (by decide) reached (.inr ?_)
    have absent : ∀ c ∈ caches cacheName, twoModels.files (.at c) = none := by decide
    refine ⟨⟨0, [4], none⟩, by decide +kernel, fun c member e held => ?_⟩
    cases (absent c member).symm.trans held
  · exact not_installsCurrent (by decide +kernel) (by decide +kernel)

/-- Saved later than its cache, the model is converted again by the load that follows. -/
theorem savedLater_installs : InstallsCurrent onnx savedLater ∧
    ((loadMnn onnx).run Shelf.scribe savedLater).1.1 = .ok () ∧
      ((loadMnn onnx).run Shelf.scribe savedLater).2.sessions 0 = some ⟨0, some [3]⟩ := by
  have reached : Prog.Reaches (hosted shelf) (save onnx [3]) loadedOnce savedLater :=
    Prog.reaches_walk step_scribeLater 50 _ _
  have later : Stamped onnx loadedOnce savedLater := by
    have older : ∀ c ∈ caches onnx, ∀ e ∈ loadedOnce.files (.at c), e.time < 2 := by decide +kernel
    exact .inr ⟨⟨2, [3], none⟩, by decide +kernel, fun c member e held => older c member e held⟩
  have history := LoadHistory.saved freshServer loadedOnce_history rfl reached later
  exact ⟨installs_current onnx_separate history rfl, by decide +kernel, by decide +kernel⟩

end Stale

end Detector
