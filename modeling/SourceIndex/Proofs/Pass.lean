import SourceIndex.Pass.Basic
import SourceIndex.Proofs.Analysis
import SourceIndex.Proofs.Documents

/-!
# What a pass does to a file

A pass is described file by file. A file that is gone loses its entry and its records, one that was
analysed gets the derived ones, and any other keeps what it had.
-/

namespace SourceIndex.Pass

variable (input : Input) (baseline : Option Baseline)

/-- The source at a path, of which the last counts. -/
def Input.source? (path : String) : Option Source :=
  (KeyMap.ofList (input.sources.map fun source => (source.path, source))).get? path

/-- A source as a scan sees it. -/
def Input.scan (source : Source) : ScannedFile where
  path := source.path
  language := source.language
  hash := input.config.tracking.digest.ofBytes source.content
  size := UInt64.ofNat source.content.size
  lastModified := source.modified

/-- What a baseline remembers of a file. -/
def known? (path : String) : Option FileEntry := baseline.bind (·.manifest.file? path)

/-- The store that a pass builds on. -/
def storeOf : Store := (baseline.map (·.store)).getD .empty

@[simp] theorem storeOf_some (state : Baseline) : storeOf (some state) = state.store := rfl

/-- A source that the baseline does not remember with its digest. -/
def Stale (source : Source) : Prop :=
  ∀ entry, known? baseline source.path = some entry →
    entry.hash ≠ input.config.tracking.digest.ofBytes source.content

/-- The analysis of a source. -/
def analysis? (source : Source) : Option FileAnalysis :=
  FileAnalysis.ofSource? input.parser input.config (baseline.map (·.manifest)) (storeOf baseline)
    source

/-- The fingerprints that a pass compares with. -/
theorem fingerprints?_eq (path : String) :
    (baseline.map (·.manifest)).bind (·.fingerprints? path) =
      (known? baseline path).bind (·.fingerprints) := by
  cases baseline <;> rfl

/-- What a pass does to a file: its entry and its records afterwards. -/
inductive FileStep (path : String) : Option FileEntry → List Record → Prop where
  | gone (absent : input.source? path = none) :
    FileStep path none
      (if (known? baseline path).isSome then [] else (storeOf baseline).ofFile path)
  | analyzed {source : Source} {analysis : FileAnalysis} (here : input.source? path = some source)
    (stale : Stale input baseline source)
    (found : analysis? input baseline source = some analysis) :
    FileStep path (some analysis.entry)
      (Update.renewed input.config.granularity ((storeOf baseline).ofFile path) analysis.update)
  | kept {source : Source} {entry : Option FileEntry} (here : input.source? path = some source)
    (reason : ¬ Stale input baseline source ∨ analysis? input baseline source = none)
    (same : entry.map FileEntry.timeless = (known? baseline path).map FileEntry.timeless) :
    FileStep path entry ((storeOf baseline).ofFile path)

variable {input baseline} {path : String} {source : Source}

theorem Input.source?_eq_some (found : input.source? path = some source) :
    source.path = path ∧ source ∈ input.sources := by
  obtain ⟨_, member, same⟩ := List.mem_map.1 (KeyMap.mem_of_get?_ofList found)
  cases same
  exact ⟨rfl, member⟩

/-- The files of the scan are the sources. -/
theorem get?_current :
    (input.changes baseline).current.get? path = (input.source? path).map input.scan := by
  have listed : (input.changes baseline).current =
      KeyMap.ofList ((input.sources.map fun source => (source.path, source)).map fun entry =>
        (entry.1, input.scan entry.2)) := by
    rw [Input.changes, FileChanges.current_compare, Input.scanned, List.map_map, List.map_map]
    rfl
  rw [listed, KeyMap.ofList_map, KeyMap.get?_map]
  rfl

theorem outdated_scan_iff :
    FileChanges.Outdated (baseline.map (·.manifest)) (input.scan source) ↔
      Stale input baseline source := by
  cases baseline <;> rfl

theorem stale_eq (input : Input) (changes : FileChanges) :
    input.stale changes = changes.stalePaths.filterMap input.source? := rfl

/-- The sources that have to be analysed. -/
theorem mem_stale_iff :
    source ∈ input.stale (input.changes baseline) ↔
      input.source? source.path = some source ∧ Stale input baseline source := by
  rw [stale_eq, List.mem_filterMap]
  constructor
  · rintro ⟨path, listed, found⟩
    obtain ⟨rfl, _⟩ := Input.source?_eq_some found
    obtain ⟨file, known, outdated⟩ := FileChanges.mem_stalePaths_iff.1 listed
    rw [← Input.changes, get?_current, found] at known
    cases known
    exact ⟨found, outdated_scan_iff.1 outdated⟩
  · rintro ⟨found, stale⟩
    refine ⟨source.path, FileChanges.mem_stalePaths_iff.2 ⟨input.scan source, ?_, ?_⟩, found⟩
    · rw [← Input.changes, get?_current, found]
      rfl
    · exact outdated_scan_iff.2 stale

/-- If nothing has changed, no source is stale. -/
theorem stale_of_isEmpty (same : (input.changes baseline).isEmpty = true) :
    input.stale (input.changes baseline) = [] := by
  rw [stale_eq, Input.changes, (FileChanges.isEmpty_iff.1 same).1]
  rfl

/-- The sources that have to be analysed are ordered by their paths. -/
theorem sorted_stale_paths (input : Input) (baseline : Option Baseline) :
    ((input.stale (input.changes baseline)).map (·.path)).Pairwise (· < ·) := by
  have named : ∀ path source, input.source? path = some source → source.path = id path :=
    fun _ _ found => (Input.source?_eq_some found).1
  have listed := sublist_map_filterMap named (input.changes baseline).stalePaths
  rw [List.map_id] at listed
  rw [stale_eq]
  exact (FileChanges.sorted_stalePaths ..).sublist listed

/-- No path is analysed twice. -/
theorem nodup_stale_paths (input : Input) (baseline : Option Baseline) :
    ((input.stale (input.changes baseline)).map (·.path)).Nodup := by
  refine (sorted_stale_paths input baseline).imp ?_
  rintro path _ below rfl
  exact String.lt_irrefl path below

theorem mem_deleted_iff :
    path ∈ (input.changes baseline).deleted ↔
      (known? baseline path).isSome ∧ input.source? path = none := by
  rw [Input.changes, FileChanges.mem_deleted_iff, ← Input.changes, get?_current,
    Option.map_eq_none_iff]
  cases baseline <;> rfl

/-! ## The next state -/

/-- The stale sources with their analyses. -/
def analyzedSources (input : Input) (baseline : Option Baseline) : List Analyzed :=
  (input.stale (input.changes baseline)).map fun source => (source, analysis? input baseline source)

/-- The updates that the analyses lead to. -/
def updates (input : Input) (baseline : Option Baseline) : List AnalyzedFile :=
  ((analyzedSources input baseline).filterMap (·.2)).map (·.update)

/-- The store after a pass that has something to bring up to date. -/
def nextStore (input : Input) (baseline : Option Baseline) : Store :=
  (Update.apply input.config.granularity (storeOf baseline) (input.changes baseline).deleted
    (updates input baseline)).store

theorem next_advance (input : Input) (baseline : Option Baseline) :
    (advance input baseline (input.changes baseline)).next =
      some ⟨nextManifest input (input.changes baseline) (analyzedSources input baseline) baseline
        (nextStore input baseline), nextStore input baseline⟩ := rfl

/-- The number of records that a pass reports as derived. -/
theorem reanalyzed_advance (input : Input) (baseline : Option Baseline) :
    (advance input baseline (input.changes baseline)).summary.reanalyzed =
      ((updates input baseline).flatMap (·.records)).length -
        ((analyzedSources input baseline).filterMap (·.2)).foldl
          (fun count analysis => count + analysis.carried) 0 := by
  rw [← Update.inserted_apply input.config.granularity (storeOf baseline)
    (input.changes baseline).deleted]
  rfl

/-- The number of records that a pass reports as removed. -/
theorem removed_advance (input : Input) (baseline : Option Baseline) :
    (advance input baseline (input.changes baseline)).summary.removed =
      (storeOf baseline).records.length - ((storeOf baseline).records.filter
        (Update.keeps input.config.granularity (input.changes baseline).deleted
          (updates input baseline))).length :=
  Update.removed_apply ..

theorem mem_updates_iff {file : AnalyzedFile} :
    file ∈ updates input baseline ↔
      ∃ source analysis, input.source? source.path = some source ∧ Stale input baseline source ∧
        analysis? input baseline source = some analysis ∧ analysis.update = file := by
  simp only [updates, analyzedSources, List.mem_map, List.mem_filterMap, exists_exists_and_eq_and,
    mem_stale_iff]
  constructor
  · rintro ⟨analysis, ⟨source, ⟨here, stale⟩, found⟩, rfl⟩
    exact ⟨source, analysis, here, stale, found, rfl⟩
  · rintro ⟨source, analysis, here, stale, found, rfl⟩
    exact ⟨analysis, ⟨source, ⟨here, stale⟩, found⟩, rfl⟩

theorem wellFormed_updates : ∀ file ∈ updates input baseline, file.WellFormed := by
  intro file member
  obtain ⟨source, analysis, _, _, found, rfl⟩ := mem_updates_iff.1 member
  exact FileAnalysis.wellFormed_of_ofSource? found

theorem nodup_update_paths (input : Input) (baseline : Option Baseline) :
    ((updates input baseline).map (·.path)).Nodup := by
  have listed : updates input baseline =
      (input.stale (input.changes baseline)).filterMap fun source =>
        (analysis? input baseline source).map (·.update) := by
    simp [updates, analyzedSources, List.filterMap_map, List.map_filterMap]
  rw [listed]
  refine (sublist_map_filterMap (fun source file found => ?_) _).nodup
    (nodup_stale_paths input baseline)
  obtain ⟨analysis, known, rfl⟩ := Option.map_eq_some_iff.1 found
  exact FileAnalysis.path_of_ofSource? known

/-- The records of a file after a pass. -/
theorem ofFile_nextStore_of_analysis {analysis : FileAnalysis}
    (here : input.source? path = some source) (stale : Stale input baseline source)
    (found : analysis? input baseline source = some analysis) :
    (nextStore input baseline).ofFile path =
      Update.renewed input.config.granularity ((storeOf baseline).ofFile path) analysis.update := by
  obtain ⟨rfl, _⟩ := Input.source?_eq_some here
  have named := FileAnalysis.path_of_ofSource? found
  have member : analysis.update ∈ updates input baseline :=
    mem_updates_iff.2 ⟨source, analysis, here, stale, found, rfl⟩
  have present : analysis.update.path ∉ (input.changes baseline).deleted := by
    rw [named, mem_deleted_iff, here]
    simp
  rw [← named]
  exact Update.ofFile_apply_of_mem wellFormed_updates (nodup_update_paths input baseline) _ _ member
    present

theorem ofFile_nextStore_of_none
    (skipped : ∀ source, input.source? path = some source → Stale input baseline source →
      analysis? input baseline source = none) :
    (nextStore input baseline).ofFile path =
      if path ∈ (input.changes baseline).deleted then [] else (storeOf baseline).ofFile path := by
  refine Update.ofFile_apply_of_not_mem wellFormed_updates (nodup_update_paths input baseline) _
    _ _ ?_
  rintro file member rfl
  obtain ⟨source, analysis, here, stale, found, rfl⟩ := mem_updates_iff.1 member
  rw [FileAnalysis.path_of_ofSource? found] at skipped
  simp [skipped source here stale] at found

/-- An analysed source is found among the stale ones. -/
theorem find?_analyzedSources {analysis : FileAnalysis}
    (here : input.source? path = some source) (stale : Stale input baseline source)
    (found : analysis? input baseline source = some analysis) :
    (analyzedSources input baseline).find? (fun (source, analysis) =>
      source.path = path && analysis.isSome) = some (source, some analysis) := by
  obtain ⟨rfl, _⟩ := Input.source?_eq_some here
  rw [analyzedSources, List.find?_map]
  have member : source ∈ input.stale (input.changes baseline) := mem_stale_iff.2 ⟨here, stale⟩
  cases known : (input.stale (input.changes baseline)).find? _ with
  | none =>
    have rejected := List.find?_eq_none.1 known source member
    simp [found] at rejected
  | some other =>
    have accepted := List.find?_some known
    simp only [Function.comp_apply, Bool.and_eq_true, decide_eq_true_eq] at accepted
    cases List.inj_on_of_nodup_map (nodup_stale_paths input baseline)
      (List.mem_of_find?_eq_some known) member accepted.1
    rw [Option.map_some, found]

theorem find?_analyzedSources_eq_none
    (skipped : ∀ source, input.source? path = some source → Stale input baseline source →
      analysis? input baseline source = none) :
    (analyzedSources input baseline).find? (fun (source, analysis) =>
      source.path = path && analysis.isSome) = none := by
  rw [List.find?_eq_none]
  rintro ⟨source, analysis⟩ member accepted
  obtain ⟨_, listed, same⟩ := List.mem_map.1 member
  cases same
  obtain ⟨here, stale⟩ := mem_stale_iff.1 listed
  simp only [Bool.and_eq_true, decide_eq_true_eq] at accepted
  rw [skipped source (accepted.1 ▸ here) stale] at accepted
  cases accepted.2

/-- The totals of the next manifest count what it remembers and what the store holds. -/
theorem totals_nextManifest (input : Input) (changes : FileChanges) (analyzed : List Analyzed)
    (baseline : Option Baseline) (store : Store) :
    (nextManifest input changes analyzed baseline store).totals =
      ⟨UInt64.ofNat (nextManifest input changes analyzed baseline store).files.size,
        UInt64.ofNat (nextManifest input changes analyzed baseline store).unitCount,
        UInt64.ofNat store.size, mode baseline⟩ := rfl

/-- The entry of a file in the next manifest is that of its source. -/
theorem file?_nextManifest (store : Store) :
    (nextManifest input (input.changes baseline) (analyzedSources input baseline) baseline
      store).file? path =
        (input.source? path).bind fun source =>
          entryOf? (analyzedSources input baseline) (baseline.map (·.manifest))
            (input.scan source) := by
  rw [Manifest.file?, nextManifest]
  simp only
  rw [KeyMap.get?_ofList_filterMap (entryOf? (analyzedSources input baseline) _), get?_current,
    Option.bind_map]
  rfl

theorem entryOf?_of_analysis {analysis : FileAnalysis}
    (here : input.source? (input.scan source).path = some source)
    (stale : Stale input baseline source)
    (found : analysis? input baseline source = some analysis) :
    entryOf? (analyzedSources input baseline) (baseline.map (·.manifest)) (input.scan source) =
      some analysis.entry := by
  rw [entryOf?, find?_analyzedSources here stale found]

/-- A file that was not analysed keeps its entry, which takes over the time of the same content. -/
theorem entryOf?_of_skipped
    (skipped : ∀ other, input.source? (input.scan source).path = some other →
      Stale input baseline other → analysis? input baseline other = none) :
    entryOf? (analyzedSources input baseline) (baseline.map (·.manifest)) (input.scan source) =
      (known? baseline source.path).map fun old =>
        if old.hash = (input.scan source).hash then { old with lastModified := source.modified }
        else old := by
  have remembered : (baseline.map (·.manifest)).bind (·.file? (input.scan source).path) =
      known? baseline source.path := by
    cases baseline <;> rfl
  rw [entryOf?, find?_analyzedSources_eq_none skipped]
  simp only [remembered]
  cases known? baseline source.path <;> rfl

theorem timeless_entryOf?
    (skipped : ∀ other, input.source? (input.scan source).path = some other →
      Stale input baseline other → analysis? input baseline other = none) :
    (entryOf? (analyzedSources input baseline) (baseline.map (·.manifest))
      (input.scan source)).map FileEntry.timeless =
        (known? baseline source.path).map FileEntry.timeless := by
  rw [entryOf?_of_skipped skipped, Option.map_map]
  cases known? baseline source.path with
  | none => rfl
  | some old =>
    simp only [Option.map_some, Function.comp_apply]
    split <;> rfl

/-- A source is analysed, or else its file is skipped. -/
theorem analyzed_or_skipped (baseline : Option Baseline)
    (here : input.source? source.path = some source) :
    (∃ analysis, Stale input baseline source ∧ analysis? input baseline source = some analysis) ∨
      ∀ other, input.source? source.path = some other → Stale input baseline other →
        analysis? input baseline other = none := by
  apply Classical.or_iff_not_imp_left.2
  intro underived other present stale
  cases here.symm.trans present
  by_contra found
  obtain ⟨analysis, found⟩ := Option.ne_none_iff_exists'.1 found
  exact underived ⟨analysis, stale, found⟩

/-- What a pass with something to bring up to date does to each file. -/
theorem fileStep_advance (input : Input) (baseline : Option Baseline) (path : String)
    {next : Baseline} (known : (advance input baseline (input.changes baseline)).next = some next) :
    FileStep input baseline path (next.manifest.file? path) (next.store.ofFile path) := by
  rw [next_advance] at known
  cases known
  rw [file?_nextManifest]
  cases here : input.source? path with
  | none =>
    have skipped : ∀ source, input.source? path = some source → Stale input baseline source →
        analysis? input baseline source = none := by
      intro source present
      rw [here] at present
      cases present
    have records := ofFile_nextStore_of_none skipped
    simp only [mem_deleted_iff, here, and_true] at records
    rw [records]
    exact .gone here
  | some source =>
    obtain ⟨rfl, _⟩ := Input.source?_eq_some here
    rcases analyzed_or_skipped baseline here with ⟨analysis, stale, found⟩ | skipped
    · rw [Option.bind_some, entryOf?_of_analysis here stale found,
        ofFile_nextStore_of_analysis here stale found]
      exact .analyzed here stale found
    · have present : source.path ∉ (input.changes baseline).deleted := by
        rw [mem_deleted_iff, here]
        simp
      rw [Option.bind_some, ofFile_nextStore_of_none skipped, if_neg present]
      exact .kept here (Classical.or_iff_not_imp_left.2 fun stale =>
        skipped source here (Classical.not_not.1 stale)) (timeless_entryOf? skipped)

/-- What a pass does to each file if it finds its baseline up to date: nothing. -/
theorem fileStep_confirm {input : Input} {baseline : Baseline}
    (same : (input.changes (some baseline)).isEmpty = true) (path : String) :
    FileStep input (some baseline) path (baseline.manifest.file? path)
      (baseline.store.ofFile path) := by
  have noneDeleted := (FileChanges.isEmpty_iff.1 same).2
  cases here : input.source? path with
  | none =>
    have unknown : known? (some baseline) path = none := by
      by_contra known
      have listed : path ∈ (input.changes (some baseline)).deleted :=
        mem_deleted_iff.2 ⟨Option.isSome_iff_ne_none.2 known, here⟩
      rw [Input.changes, noneDeleted] at listed
      cases listed
    have step : FileStep input (some baseline) path _ _ := .gone here
    rw [unknown] at step
    have entry : baseline.manifest.file? path = none := unknown
    rw [entry]
    exact step
  | some source =>
    obtain ⟨rfl, _⟩ := Input.source?_eq_some here
    refine .kept here (.inl fun stale => ?_) rfl
    have listed := mem_stale_iff.2 ⟨here, stale⟩
    rw [stale_of_isEmpty same] at listed
    cases listed

/-- A pass that builds on a state. -/
theorem run_some (input : Input) (state : Baseline) :
    run input (some state) =
      if (input.changes (some state)).isEmpty then
        confirm input state (input.changes (some state))
      else advance input (some state) (input.changes (some state)) := rfl

/-- A pass without a next state has found its baseline up to date. -/
theorem exists_confirmed (quiet : (run input baseline).next = none) :
    ∃ state, baseline = some state ∧ (input.changes (some state)).isEmpty = true := by
  cases baseline with
  | none => cases quiet
  | some state =>
    rw [run_some] at quiet
    split at quiet
    case isTrue same => exact ⟨state, rfl, same⟩
    case isFalse => cases quiet

/-- A pass with a next state has advanced. -/
theorem advance_of_next {next : Baseline} (known : (run input baseline).next = some next) :
    run input baseline = advance input baseline (input.changes baseline) := by
  cases baseline with
  | none => rfl
  | some state =>
    rw [run_some] at known ⊢
    split
    case isTrue same =>
      rw [if_pos same] at known
      cases known
    case isFalse => rfl

/-- The state after a pass: the next one, or else the baseline. -/
def final? (input : Input) (baseline : Option Baseline) : Option Baseline :=
  (run input baseline).next.or baseline

/-- A pass either confirms its baseline or gives the next state. -/
theorem final?_cases {final : Baseline} (known : final? input baseline = some final) :
    (baseline = some final ∧ (input.changes (some final)).isEmpty = true) ∨
      (advance input baseline (input.changes baseline)).next = some final := by
  cases baseline with
  | none =>
    rw [final?, run, next_advance, Option.or_none] at known
    exact .inr known
  | some baseline =>
    rw [final?, run] at known
    split at known
    case isTrue same =>
      cases known
      exact .inl ⟨rfl, same⟩
    case isFalse => exact .inr known

/-- What a pass does to each file. -/
theorem fileStep_run {final : Baseline} (known : final? input baseline = some final)
    (path : String) :
    FileStep input baseline path (final.manifest.file? path) (final.store.ofFile path) := by
  rcases final?_cases known with ⟨rfl, same⟩ | next
  · exact fileStep_confirm same path
  · exact fileStep_advance input baseline path next

/-- The state after a pass has its settings, if those of the baseline fit. -/
theorem compatible_final {final : Baseline} (known : final? input baseline = some final)
    (fits : ∀ state, baseline = some state → state.manifest.compatible input.config.granularity
      input.config.tracking.digest = true) :
    final.manifest.compatible input.config.granularity input.config.tracking.digest = true := by
  rcases final?_cases known with ⟨same, _⟩ | next
  · exact fits final same
  · rw [next_advance] at next
    cases next
    simp [nextManifest, Manifest.compatible]

end SourceIndex.Pass
