import SourceIndex.Proofs.History

/-!
# States that are loaded as they were written

The times of a manifest are written as texts. If they are valid, a run that builds on a state has
before it what the run before had, to the last field.
-/

namespace SourceIndex

/-! ## Times of the next manifest -/

/-- All times that a pass is given are valid. -/
structure Pass.Input.Dated (input : Input) : Prop where
  now : input.now.valid = true
  sources : ∀ source ∈ input.sources, ∀ time, source.modified = some time → time.valid = true

namespace Pass

variable {input : Input} {baseline : Option Baseline} {source : Source} {entry : FileEntry}

/-- The entry of a source bears the time of the source, or else it is an old one. -/
theorem lastModified_of_entryOf? (here : input.source? source.path = some source)
    (found : entryOf? (analyzedSources input baseline) (baseline.map (·.manifest))
      (input.scan source) = some entry) :
    entry.lastModified = source.modified ∨ known? baseline source.path = some entry := by
  rcases analyzed_or_skipped baseline here with ⟨analysis, stale, known⟩ | skipped
  · rw [entryOf?_of_analysis here stale known] at found
    cases found
    obtain ⟨_, _, made, _⟩ := FileAnalysis.exists_file_of_ofSource? known
    rw [made]
    exact .inl rfl
  · rw [entryOf?_of_skipped skipped] at found
    obtain ⟨old, known, rfl⟩ := Option.map_eq_some_iff.1 found
    split
    · exact .inl rfl
    · exact .inr known

/-- The times of the next manifest are valid, if those before it are. -/
theorem dated_advance (dated : input.Dated)
    (before : ∀ state, baseline = some state → state.manifest.Dated) {next : Baseline}
    (known : (advance input baseline (input.changes baseline)).next = some next) :
    next.manifest.Dated := by
  rw [next_advance] at known
  cases known
  refine ⟨dated.now, fun {path entry} found => ?_⟩
  rw [file?_nextManifest] at found
  obtain ⟨source, here, made⟩ := Option.bind_eq_some_iff.1 found
  obtain ⟨rfl, member⟩ := Input.source?_eq_some here
  rcases lastModified_of_entryOf? here made with own | old
  · intro time bears
    exact dated.sources source member time (own.symm.trans bears)
  · obtain ⟨state, loaded, remembered⟩ := Option.bind_eq_some_iff.1 old
    exact (before state loaded).files remembered

end Pass

/-! ## Loading -/

namespace Workspace

variable {disk after : Disk} {home : Location} {inside : Folder} {root : String} {config : Config}

/-- A manifest that was loaded has valid times. -/
theorem dated_of_loadManifest? {manifest : Manifest}
    (loaded : loadManifest? root disk = (.ok (some manifest), after)) : manifest.Dated := by
  obtain ⟨text, _, _, loaded⟩ := bind_ok loaded
  cases text with
  | none => cases loaded
  | some text =>
    cases parsed : Manifest.parse? text with
    | none =>
      simp only [Manifest.read, parsed] at loaded
      cases loaded
    | some found =>
      by_cases current : found.version = Manifest.currentVersion
      · simp only [Manifest.read, parsed, current, if_true] at loaded
        cases loaded
        exact Manifest.dated_of_parse? parsed
      · simp only [Manifest.read, parsed, current, if_false] at loaded
        cases loaded

/-- The manifest of a state that was loaded is one that can be loaded, and its settings fit. -/
theorem loadManifest?_of_loadBaseline? {state : Baseline}
    (loaded : loadBaseline? config root disk = (.ok (some state), after)) :
    loadManifest? root disk = (.ok (some state.manifest), disk) ∧
      state.manifest.compatible config.granularity config.tracking.digest = true := by
  obtain ⟨known, _, found, loaded⟩ := bind_ok loaded
  cases (reads_loadManifest? root).apply_eq found
  cases known with
  | none => cases loaded
  | some manifest =>
    simp only at loaded
    split at loaded
    case isFalse => cases loaded
    case isTrue fits =>
      obtain ⟨text, _, _, loaded⟩ := bind_ok loaded
      cases text with
      | none => cases loaded
      | some text =>
        cases read : GraphLog.read text with
        | error line =>
          simp only [read] at loaded
          cases loaded
        | ok store =>
          simp only [read] at loaded
          cases loaded
          exact ⟨found, fits⟩

/-- A manifest of this version with valid times is loaded as it was written. -/
theorem loadManifest?_of_text {manifest : Manifest}
    (text : readText? (manifestFile.path root) disk = (.ok (some manifest.write), disk))
    (dated : manifest.Dated) (version : manifest.version = Manifest.currentVersion) :
    loadManifest? root disk = (.ok (some manifest), disk) := by
  simp only [loadManifest?, bind_apply, text, Manifest.read, Manifest.parse?_write_of_dated dated,
    version, if_true]
  rfl

/-- A state whose settings fit and whose times are valid is loaded as it was written. -/
theorem loadBaseline?_of_texts {state : Baseline}
    (manifestText : readText? (manifestFile.path root) disk =
      (.ok (some state.manifest.write), disk))
    (graphText : readText? (graphFile.path root) disk =
      (.ok (some (GraphLog.write state.store)), disk))
    (dated : state.manifest.Dated)
    (fits : state.manifest.compatible config.granularity config.tracking.digest = true) :
    ∃ found : Store, found.records = state.store.records ∧
      loadBaseline? config root disk = (.ok (some ⟨state.manifest, found⟩), disk) := by
  obtain ⟨found, read, same⟩ := GraphLog.read_write state.store
  refine ⟨found, same, ?_⟩
  have manifest := loadManifest?_of_text manifestText dated (Manifest.compatible_iff.1 fits).1
  simp only [loadBaseline?, bind_apply, manifest, fits, if_true, graphText, read]
  rfl

/-- So it is in a state folder that holds it. -/
theorem Ready.loadBaseline?_exact (ready : Ready disk home inside) {state : Baseline}
    (stores : Stores inside state.manifest state.store.records) (dated : state.manifest.Dated)
    (fits : state.manifest.compatible config.granularity config.tracking.digest = true) :
    ∃ found : Store, found.records = state.store.records ∧
      loadBaseline? config (Path.absolute home) disk =
        (.ok (some ⟨state.manifest, found⟩), disk) :=
  loadBaseline?_of_texts (ready.readText?_file (by decide) stores.manifest)
    (ready.readText?_file (by decide) stores.graph) dated fits

/-- The next state has valid times and the settings of the run. -/
theorem Gathers.usable_next {reading : Reading} {next : Baseline}
    (gathers : Gathers disk home reading) (dated : reading.input.Dated)
    (known : reading.outcome.next = some next) :
    next.manifest.Dated ∧ next.manifest.compatible reading.context.config.granularity
      reading.context.config.tracking.digest = true := by
  have before : ∀ state, reading.baseline = some state → state.manifest.Dated ∧
      state.manifest.compatible reading.context.config.granularity
        reading.context.config.tracking.digest = true := by
    intro state loaded
    obtain ⟨manifest, fits⟩ := loadManifest?_of_loadBaseline? (loaded ▸ gathers.loaded)
    exact ⟨dated_of_loadManifest? manifest, fits⟩
  have advanced := known
  rw [Reading.outcome, Pass.advance_of_next known] at advanced
  constructor
  · exact Pass.dated_advance dated (fun state loaded => (before state loaded).1) advanced
  · have final : Pass.final? reading.input reading.baseline = some next := by
      rw [Pass.final?, ← Reading.outcome, known, Option.some_or]
    exact Pass.compatible_final final fun state loaded => (before state loaded).2

/-! ## The small tree, edited -/

/-- The sources of a small tree do not depend on its state. -/
theorem sources_small {file : DiskFile} {found : List Source}
    (scanned : (sources (Path.absolute ["tree"]) {} (smallDisk file [])).1 = .ok found)
    (inside : Folder) :
    sources (Path.absolute ["tree"]) {} (smallDisk file inside) =
      (.ok found, smallDisk file inside) := by
  refine Prod.ext ?_ (reads_sources _ _ _)
  rw [sources_congr proper_sample rfl (sameTree_small file [] inside) (apart_small file []),
    scanned]

theorem mode_run_some (input : Pass.Input) (state : Baseline) :
    (Pass.run input (some state)).summary.mode = .incremental := by
  simp only [Pass.run]
  split <;> rfl

/-- A state folder that holds a state exists. -/
theorem Stores.node?_of_holds {manifest : Manifest} {records : List Record}
    (stores : Stores inside manifest records) (holds : Holds disk home inside) :
    disk.node? (stateLocation home) = some (.folder inside) := by
  rcases holds with found | ⟨_, rfl⟩
  · exact found
  · cases stores.graph

/-- The first run on the small tree leaves a state with valid times. -/
theorem exists_state_sample (granularity : Granularity) :
    ∃ between inside, ∃ state : Baseline,
      History ["tree"] sampleDisk ([] ++ [.run (sampleReading granularity none)]) between ∧
      (sampleReading granularity none).outcome.next = some state ∧
      Ready between ["tree"] inside ∧ Stores inside state.manifest state.store.records ∧
      state.manifest.Dated ∧ state.manifest.compatible granularity .sha256 = true := by
  have ready : Ready sampleDisk ["tree"] [] := ⟨proper_sample, ⟨_, rfl⟩, .inr ⟨rfl, rfl⟩⟩
  have gathers : Gathers sampleDisk ["tree"] (sampleReading granularity none) :=
    ⟨valid_sample granularity, ready.loadBaseline?_missing _ rfl, sources_sample rfl⟩
  have tidy : Tidy [] := Blank.tidy fun _ _ => rfl
  obtain ⟨between, done, _⟩ := ready.exists_run tidy ready.leads gathers
  have concluded := (run_of_gathers ready.leads gathers).symm.trans done
  have left := ready.conclude tidy.plain concluded
  cases known : (sampleReading granularity none).outcome.next with
  | none => cases known
  | some state =>
    rw [known] at left
    obtain ⟨_, inside, readyAfter, stores⟩ := left
    have dated : (sampleReading granularity none).input.Dated := by
      refine ⟨rfl, fun source member time bears => ?_⟩
      cases List.mem_singleton.1 member
      cases bears
      rfl
    obtain ⟨times, fits⟩ := gathers.usable_next dated known
    exact ⟨between, inside, state, .next .none (.run ready.leads gathers done), rfl, readyAfter,
      stores, times, fits⟩

/-- After a run and an edit of the small tree, the next run builds on the state of the first. -/
theorem exists_incremental_sample (granularity : Granularity) {file : DiskFile}
    {found : List Source}
    (scanned : (sources (Path.absolute ["tree"]) {} (smallDisk file [])).1 = .ok found) :
    ∃ before after reading,
      History ["tree"] sampleDisk ([.run (sampleReading granularity none)] ++ [.edit]) before ∧
      Leads before (Path.absolute ["tree"]) ["tree"] ∧ Gathers before ["tree"] reading ∧
      reading.context = (sampleReading granularity none).context ∧ reading.sources = found ∧
      reading.baseline.map (·.manifest) =
        (sampleReading granularity none).outcome.next.map (·.manifest) ∧
      run reading.context (Path.absolute ["tree"]) before = (.ok reading.outcome.summary, after) ∧
      reading.outcome.summary.mode = .incremental ∧
      SameTree ["tree"] (smallDisk file []) after := by
  obtain ⟨between, inside, state, history, left, ready, stores, dated, fits⟩ :=
    exists_state_sample granularity
  have edit : (smallDisk file inside).node? (stateLocation ["tree"]) =
      between.node? (stateLocation ["tree"]) := (stores.node?_of_holds ready.holds).symm
  have readyEdited : Ready (smallDisk file inside) ["tree"] inside :=
    ⟨proper_sample, ⟨_, rfl⟩, .inl rfl⟩
  have settings : state.manifest.compatible
      (sampleReading granularity none).context.config.granularity
      (sampleReading granularity none).context.config.tracking.digest = true := fits
  obtain ⟨store, _, loaded⟩ := readyEdited.loadBaseline?_exact stores dated settings
  have gathers : Gathers (smallDisk file inside) ["tree"]
      ⟨(sampleReading granularity none).context, some ⟨state.manifest, store⟩, found⟩ :=
    ⟨valid_sample granularity, loaded, sources_small scanned inside⟩
  obtain ⟨after, done, same⟩ := readyEdited.exists_run stores.tidy readyEdited.leads gathers
  exact ⟨_, after, _, .next history (.edit edit), readyEdited.leads, gathers, rfl, rfl,
    by rw [left]; rfl, done, mode_run_some _ _, same.trans (sameTree_small file [] inside)⟩

/-- A run on the small tree, then an edit of its file and a second run. -/
def rerunEvents (granularity : Granularity) (reading : Reading) : List Event :=
  [.run (sampleReading granularity none)] ++ [.edit] ++ [.run reading]

/-- A second run on the small tree, after its file was replaced. It builds on the first run and
finds the file modified. -/
structure Rerun (granularity : Granularity) (file : DiskFile) (reading : Reading)
    (finish : Disk) : Prop where
  history : History ["tree"] sampleDisk (rerunEvents granularity reading) finish
  context : reading.context = (sampleReading granularity none).context
  sources : reading.sources = [sampleSource file]
  isIncremental : reading.outcome.summary.mode = .incremental
  modified : (reading.input.changes reading.baseline).modified.map (·.path) = ["a.py"]
  same : SameTree ["tree"] (smallDisk file []) finish

/-- The small file with another function body. -/
def changedFile : DiskFile := { content := "def f(): 2\n".toUTF8 }

/-- The small file in another layout. -/
def respacedFile : DiskFile := { content := "def f():\t1\n".toUTF8 }

set_option maxRecDepth 4000 in
theorem exists_rerun (granularity : Granularity) {file : DiskFile}
    (known : file ∈ [changedFile, respacedFile]) :
    ∃ reading finish, Rerun granularity file reading finish := by
  have scanned : (sources (Path.absolute ["tree"]) {} (smallDisk file [])).1 =
      .ok [sampleSource file] := by
    simp only [List.mem_cons, List.not_mem_nil, or_false] at known
    rcases known with rfl | rfl <;> rfl
  obtain ⟨before, finish, reading, history, leads, gathers, context, listed, loaded, done,
    isIncremental, same⟩ := exists_incremental_sample granularity scanned
  refine ⟨reading, finish, history.next (.run leads gathers done), context, listed, isIncremental,
    ?_, same⟩
  rw [Pass.Input.changes, loaded, Reading.input, context, listed]
  simp only [List.mem_cons, List.not_mem_nil, or_false] at known
  rcases known with rfl | rfl <;> cases granularity <;> decide +kernel

end Workspace

end SourceIndex
