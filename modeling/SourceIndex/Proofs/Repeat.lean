import SourceIndex.Proofs.Rebuild
import SourceIndex.Proofs.Reload
import SourceIndex.Proofs.Site

/-!
# Running again

A run that follows another on an untouched tree finds what the first has left: it derives nothing
and removes nothing. Only files that are not text are taken up again, each time in vain; without
them there is nothing to write.
-/

namespace SourceIndex

/-! ## Passes -/

namespace Pass

variable {input : Input} {baseline : Option Baseline} {state next : Baseline} {source : Source}

/-- What is remembered of a path after a pass over the sources: the source as it is, or something
else if the source failed. -/
def Answers (input : Input) (baseline : Option Baseline) (path : String)
    (entry : Option FileEntry) : Prop :=
  match input.source? path with
  | none => entry = none
  | some source =>
    (∃ known, entry = some known ∧ known.hash = (input.scan source).hash ∧
        known.lastModified = source.modified) ∨
      (Stale input baseline source ∧ input.analyzer.file? source = none) ∧
        ∀ known, entry = some known → known.hash ≠ (input.scan source).hash

/-- What is remembered does not depend on the time of a pass. -/
theorem answers_of_time {later : Instant} {path : String} {entry : Option FileEntry}
    (answers : Answers input baseline path entry) :
    Answers { input with now := later } baseline path entry := answers

/-- The state after a pass answers for every path. -/
theorem answers_advance (known : (advance input baseline (input.changes baseline)).next = some next)
    (path : String) : Answers input baseline path (next.manifest.file? path) := by
  rw [next_advance] at known
  cases known
  rw [Answers, file?_nextManifest]
  cases here : input.source? path with
  | none => rfl
  | some source =>
    obtain ⟨rfl, _⟩ := Input.source?_eq_some here
    rw [Option.bind_some]
    rcases analyzed_or_skipped baseline here with ⟨analysis, stale, found⟩ | skipped
    · obtain ⟨_, _, made, _⟩ := FileAnalysis.exists_file_of_ofSource? found
      rw [entryOf?_of_analysis here stale found]
      exact .inl ⟨_, rfl, by rw [made]; rfl, by rw [made]⟩
    · rw [entryOf?_of_skipped skipped]
      by_cases stale : Stale input baseline source
      · refine .inr ⟨⟨stale, analysis?_eq_none_iff.1 (skipped source here stale)⟩, ?_⟩
        intro entry found
        obtain ⟨old, remembered, rfl⟩ := Option.map_eq_some_iff.1 found
        have differs : old.hash ≠ (input.scan source).hash := stale old remembered
        rw [if_neg differs]
        exact differs
      · simp only [Stale, not_forall, ne_eq, not_not] at stale
        obtain ⟨old, remembered, same⟩ := stale
        have fits : old.hash = (input.scan source).hash := same
        refine .inl ⟨{ old with lastModified := source.modified }, ?_, same, rfl⟩
        rw [remembered, Option.map_some, if_pos fits]

/-- The failures that a pass reports do not depend on its time. -/
theorem failures_advance (input : Input) (baseline : Option Baseline) (later : Instant) :
    (advance input baseline (input.changes baseline)).summary.failures =
      failures (analyzedSources { input with now := later } baseline) := rfl

/-- A source that failed is among the failures. -/
theorem mem_failures_of_failed (here : input.source? source.path = some source)
    (stale : Stale input baseline source) (failed : input.analyzer.file? source = none) :
    Failure.ofBinary source.path ∈ failures (analyzedSources input baseline) := by
  refine List.mem_flatMap.2 ⟨(source, analysis? input baseline source), ?_, ?_⟩
  · exact List.mem_map.2 ⟨source, mem_stale_iff.2 ⟨here, stale⟩, rfl⟩
  · rw [analysis?_eq_none_iff.2 failed]
    exact .head _

section

variable (answers : ∀ path, Answers input baseline path (state.manifest.file? path))
include answers

/-- A source that has to be analysed again has failed before. -/
theorem failed_of_stale (here : input.source? source.path = some source)
    (stale : Stale input (some state) source) :
    Stale input baseline source ∧ input.analyzer.file? source = none := by
  have known := answers source.path
  rw [Answers, here] at known
  rcases known with ⟨entry, found, hash, _⟩ | ⟨failed, _⟩
  · exact absurd hash (stale entry found)
  · exact failed

theorem deleted_of_answers : (input.changes (some state)).deleted = [] := by
  rw [List.eq_nil_iff_forall_not_mem]
  intro path member
  obtain ⟨known, absent⟩ := mem_deleted_iff.1 member
  have nothing := answers path
  rw [Answers, absent] at nothing
  rw [known?, Option.bind_some, nothing] at known
  cases known

/-- No source is analysed again with success. -/
theorem analysis?_of_answers (here : input.source? source.path = some source)
    (stale : Stale input (some state) source) : analysis? input (some state) source = none :=
  analysis?_eq_none_iff.2 (failed_of_stale answers here stale).2

theorem analyses_of_answers : (analyzedSources input (some state)).filterMap (·.2) = [] := by
  rw [analyzedSources, List.filterMap_map, List.filterMap_eq_nil_iff]
  intro source listed
  obtain ⟨here, stale⟩ := mem_stale_iff.1 listed
  exact analysis?_of_answers answers here stale

theorem updates_of_answers : updates input (some state) = [] := by
  rw [updates, analyses_of_answers answers, List.map_nil]

/-- No record has to go. -/
theorem filter_keeps_of_answers (records : List Record) :
    records.filter (Update.keeps input.config.granularity (input.changes (some state)).deleted
      (updates input (some state))) = records := by
  rw [updates_of_answers answers, deleted_of_answers answers]
  exact List.filter_eq_self.2 fun _ _ => rfl

/-- The records stay as they are. -/
theorem records_of_answers : (nextStore input (some state)).records = state.store.records := by
  rw [nextStore, Update.records_apply wellFormed_updates (nodup_update_paths input (some state)),
    filter_keeps_of_answers answers, updates_of_answers answers, List.flatMap_nil, List.append_nil,
    storeOf_some]

/-- The entries of files stay as they are, their times included. -/
theorem file?_of_answers (path : String) (store : Store) :
    (nextManifest input (input.changes (some state)) (analyzedSources input (some state))
      (some state) store).file? path = state.manifest.file? path := by
  have entry := answers path
  rw [Answers] at entry
  rw [file?_nextManifest]
  cases here : input.source? path with
  | none =>
    rw [here] at entry
    exact entry.symm
  | some source =>
    rw [here] at entry
    obtain ⟨rfl, _⟩ := Input.source?_eq_some here
    have skipped : ∀ other, input.source? (input.scan source).path = some other →
        Stale input (some state) other → analysis? input (some state) other = none := by
      intro other present
      cases here.symm.trans present
      exact analysis?_of_answers answers here
    rw [Option.bind_some, entryOf?_of_skipped skipped, known?, Option.bind_some]
    rcases entry with ⟨known, found, hash, time⟩ | ⟨_, differs⟩
    · rw [found, Option.map_some, if_pos hash, ← time]
    · cases old : state.manifest.file? source.path with
      | none => rfl
      | some known => rw [Option.map_some, if_neg (differs known old)]

theorem files_of_answers (store : Store) :
    (nextManifest input (input.changes (some state)) (analyzedSources input (some state))
      (some state) store).files = state.manifest.files := by
  apply KeyMap.ext_get?
  intro path
  rw [← Manifest.file?, ← Manifest.file?]
  exact file?_of_answers answers path store

/-- What a pass does to a state that answers for its sources: nothing, whether it writes or not. -/
theorem run_of_answers :
    (run input (some state)).summary.mode = .incremental ∧
      (run input (some state)).summary.reanalyzed = 0 ∧
      (run input (some state)).summary.removed = 0 ∧
      ∀ next, (run input (some state)).next = some next →
        next.manifest.files = state.manifest.files ∧
          next.store.records = state.store.records := by
  rw [run_some]
  split
  case isTrue => exact ⟨rfl, rfl, rfl, fun next known => by cases known⟩
  case isFalse =>
    refine ⟨rfl, ?_, ?_, ?_⟩
    · rw [reanalyzed_advance, updates_of_answers answers, List.flatMap_nil, List.length_nil,
        Nat.zero_sub]
    · rw [removed_advance, filter_keeps_of_answers answers, Nat.sub_self]
    · intro next known
      rw [next_advance] at known
      cases known
      simp only [files_of_answers answers, records_of_answers answers, and_self]

/-- If no file has failed as a whole, nothing has to be brought up to date. -/
theorem isEmpty_of_answers
    (whole : ∀ failure ∈ failures (analyzedSources input baseline), failure.unit ≠ none) :
    (input.changes (some state)).isEmpty = true := by
  refine FileChanges.isEmpty_iff.2 ⟨?_, deleted_of_answers answers⟩
  rw [List.eq_nil_iff_forall_not_mem]
  intro path member
  obtain ⟨file, known, outdated⟩ := FileChanges.mem_stalePaths_iff.1 member
  rw [← Input.changes, get?_current] at known
  obtain ⟨source, here, rfl⟩ := Option.map_eq_some_iff.1 known
  obtain ⟨rfl, _⟩ := Input.source?_eq_some here
  have failed := failed_of_stale answers here (outdated_scan_iff.1 outdated)
  exact whole _ (mem_failures_of_failed here failed.1 failed.2) rfl

end

end Pass

/-! ## Runs -/

namespace Workspace

variable {disk after : Disk} {home place : Location} {inside : Folder} {root : String}
variable {reading : Reading} {state next : Baseline}

/-- What a run reads that follows another on the same sources. -/
def Reading.repeated (reading : Reading) (later : Instant) (state : Baseline) : Reading :=
  ⟨{ reading.context with now := later }, some state, reading.sources⟩

theorem Reading.context_repeated (reading : Reading) (later : Instant) (state : Baseline) :
    (reading.repeated later state).context = { reading.context with now := later } := rfl

/-- What has changed does not depend on the time of a run. -/
theorem Reading.changes_repeated (reading : Reading) (later : Instant) (state : Baseline)
    (baseline : Option Baseline) :
    (reading.repeated later state).input.changes baseline = reading.input.changes baseline := rfl

/-- The sources are the same after the state was written. -/
theorem Rewritten.sources (rewritten : Rewritten disk home next after) (proper : Disk.Proper home)
    {outside : Folder} (upper : disk.node? home = some (.folder outside)) {scan : Scan}
    (aside : ∀ path ∈ ignorePaths (Path.absolute home) scan, Aside disk home path) :
    (Workspace.sources (Path.absolute home) scan after).1 =
      (Workspace.sources (Path.absolute home) scan disk).1 := by
  obtain ⟨other, found, files⟩ := rewritten.tree upper
  exact sources_of_files proper upper found files fun path member =>
    aside path member after rewritten.restated

/-- What is read after the next state was written: that state and the same sources. -/
theorem Rewritten.gathers (rewritten : Rewritten disk home next after)
    (gathers : Gathers disk home reading) (leads : Leads disk root home)
    (proper : Disk.Proper home) (dated : reading.input.Dated)
    (aside : ∀ path ∈ ignorePaths (Path.absolute home) reading.context.config.scan,
      Aside disk home path)
    (known : reading.outcome.next = some next) (later : Instant) :
    ∃ found : Store, found.records = next.store.records ∧
      Gathers after home (reading.repeated later ⟨next.manifest, found⟩) := by
  obtain ⟨place, inside, site, stores⟩ := rewritten.site
  obtain ⟨times, fits⟩ := gathers.usable_next dated known
  obtain ⟨found, same, loaded⟩ := loadBaseline?_of_texts
    (site.readText?_file (by decide) stores.manifest)
    (site.readText?_file (by decide) stores.graph) times fits
  obtain ⟨outside, upper⟩ := leads
  have scanned := rewritten.sources proper (Disk.node?_of_folder? upper) aside
  rw [gathers.scanned] at scanned
  exact ⟨found, same, gathers.valid, loaded, Prod.ext scanned (reads_sources _ _ after)⟩

/-- A run derives and removes nothing, and the state files say what they said before. -/
structure Repeats (home : Location) (before : Disk) (summary : Summary) (after : Disk) : Prop where
  mode : summary.mode = .incremental
  reanalyzed : summary.reanalyzed = 0
  removed : summary.removed = 0
  graph : after.read (graphFile.path (Path.absolute home)) =
    before.read (graphFile.path (Path.absolute home))
  manifest : ∃ old new : Manifest,
    loadManifest? (Path.absolute home) before = (.ok (some old), before) ∧
      loadManifest? (Path.absolute home) after = (.ok (some new), after) ∧ new.files = old.files

/-- A run finds no changes and writes nothing. -/
structure Idle (before : Disk) (summary : Summary) (after : Disk) : Prop where
  added : summary.added = 0
  modified : summary.modified = 0
  deleted : summary.deleted = 0
  written : summary.written = false
  disk : after = before

/-- There is nothing for the next run to do. -/
def UpToDate (context : Context) (root : String) (disk : Disk) : Prop :=
  ∃ status, Workspace.status context root disk = (.ok status, disk) ∧
    status.changes.added = [] ∧ status.changes.modified = [] ∧ status.changes.deleted = []

/-- A run that finds its state up to date leaves everything as it is. -/
theorem conclude_of_isEmpty (gathers : Gathers disk home reading)
    (loaded : reading.baseline = some state)
    (same : (reading.input.changes (some state)).isEmpty = true) :
    conclude (Path.absolute home) reading.outcome disk = (.ok reading.outcome.summary, disk) ∧
      Repeats home disk reading.outcome.summary disk ∧ Idle disk reading.outcome.summary disk := by
  have manifest := (loadManifest?_of_loadBaseline? (loaded ▸ gathers.loaded)).1
  have confirmed : reading.outcome =
      Pass.confirm reading.input state (reading.input.changes (some state)) := by
    rw [Reading.outcome, loaded, Pass.run_some, if_pos same]
  obtain ⟨added, modified, deleted⟩ := FileChanges.eq_nil_of_isEmpty same
  rw [confirmed]
  refine ⟨rfl, ⟨rfl, rfl, rfl, rfl, _, _, manifest, manifest, rfl⟩, ?_, ?_, ?_, rfl, rfl⟩
  · exact congrArg List.length added
  · exact congrArg List.length modified
  · exact congrArg List.length deleted

/-- A run on a written state that answers for the sources repeats it. -/
theorem Sited.conclude_of_answers (site : Sited disk home place inside)
    (stores : Stores inside state.manifest state.store.records)
    (gathers : Gathers disk home reading) (dated : reading.input.Dated)
    (loaded : reading.baseline = some state) {baseline : Option Baseline}
    (answers : ∀ path, Pass.Answers reading.input baseline path (state.manifest.file? path)) :
    ∃ final, conclude (Path.absolute home) reading.outcome disk =
        (.ok reading.outcome.summary, final) ∧
      Repeats home disk reading.outcome.summary final := by
  have manifest := (loadManifest?_of_loadBaseline? (loaded ▸ gathers.loaded)).1
  obtain ⟨mode, reanalyzed, removed, kept⟩ := Pass.run_of_answers answers
  rw [← loaded, ← Reading.outcome] at mode reanalyzed removed kept
  cases known : reading.outcome.next with
  | none =>
    refine ⟨disk, ?_, mode, reanalyzed, removed, rfl, _, _, manifest, manifest, rfl⟩
    rw [conclude, known]
    rfl
  | some next =>
    obtain ⟨files, records⟩ := kept next known
    obtain ⟨times, fits⟩ := gathers.usable_next dated known
    have free := stores.tidy.free
    have fit := stores.tidy.plain.fit disk place
    have written := (site.persist_eq_ok_iff fit next).2 ⟨free, rfl⟩
    have moved := site.replace (site.grows_written fit free next)
    have stored := stores_written inside next
    have renewed := loadManifest?_of_text (moved.readText?_file (by decide) stored.manifest) times
      (Manifest.compatible_iff.1 fits).1
    refine ⟨_, ?_, mode, reanalyzed, removed, ?_, _, _, manifest, renewed, files⟩
    · simp only [conclude, known, bind_apply, written]
      rfl
    · rw [moved.read_graph stored, site.read_graph stores, records]

/-- What a run and the status report on a state that is up to date under some condition. -/
theorem exists_repeat {condition : Prop} (leads : Leads disk root home)
    (gathers : Gathers disk home reading) (loaded : reading.baseline = some state)
    (repeats : ∃ final, conclude (Path.absolute home) reading.outcome disk =
        (.ok reading.outcome.summary, final) ∧ Repeats home disk reading.outcome.summary final)
    (same : condition → (reading.input.changes (some state)).isEmpty = true) :
    ∃ again final, run reading.context root disk = (.ok again, final) ∧
      Repeats home disk again final ∧
      (condition → Idle disk again final ∧ UpToDate reading.context root final) := by
  obtain ⟨final, concluded, repeats⟩ := repeats
  refine ⟨_, final, (run_of_gathers leads gathers).trans concluded, repeats, ?_⟩
  intro holds
  obtain ⟨quiet, _, idle⟩ := conclude_of_isEmpty gathers loaded (same holds)
  cases quiet.symm.trans concluded
  refine ⟨idle, _, status_of_gathers leads gathers, ?_⟩
  rw [loaded]
  exact FileChanges.eq_nil_of_isEmpty (same holds)

/-- After a run that has written nothing. -/
theorem exists_repeat_of_quiet {condition : Prop} (leads : Leads disk root home)
    (gathers : Gathers disk home reading) (quiet : reading.outcome.next = none) (later : Instant) :
    ∃ again final, run { reading.context with now := later } root disk = (.ok again, final) ∧
      Repeats home disk again final ∧
      (condition → Idle disk again final ∧
        UpToDate { reading.context with now := later } root final) := by
  obtain ⟨state, loaded, same⟩ := Pass.exists_confirmed quiet
  have load := gathers.loaded
  rw [loaded] at load
  have second : Gathers disk home (reading.repeated later state) :=
    ⟨gathers.valid, load, gathers.scanned⟩
  rw [← reading.changes_repeated later state] at same
  obtain ⟨concluded, repeats, _⟩ := conclude_of_isEmpty second rfl same
  have result := exists_repeat leads second rfl ⟨disk, concluded, repeats⟩
    fun _ : condition => same
  rw [Reading.context_repeated] at result
  exact result

/-- After a run that has written the next state. -/
theorem Rewritten.exists_repeat (rewritten : Rewritten disk home next after)
    (leads : Leads disk root home) (proper : Disk.Proper home)
    (gathers : Gathers disk home reading) (dated : reading.input.Dated)
    (aside : ∀ path ∈ ignorePaths (Path.absolute home) reading.context.config.scan,
      Aside disk home path)
    (known : reading.outcome.next = some next) {later : Instant} (valid : later.valid = true) :
    ∃ again final, run { reading.context with now := later } root after = (.ok again, final) ∧
      Repeats home after again final ∧
      ((∀ failure ∈ reading.outcome.summary.failures, failure.unit ≠ none) →
        Idle after again final ∧ UpToDate { reading.context with now := later } root final) := by
  obtain ⟨found, records, second⟩ :=
    rewritten.gathers gathers leads proper dated aside known later
  obtain ⟨place, inside, site, stores⟩ := rewritten.site
  have advanced := known
  rw [Reading.outcome, Pass.advance_of_next known] at advanced
  have answers : ∀ path, Pass.Answers (reading.repeated later ⟨next.manifest, found⟩).input
      reading.baseline path (next.manifest.file? path) :=
    fun path => Pass.answers_of_time (Pass.answers_advance advanced path)
  have same : (∀ failure ∈ reading.outcome.summary.failures, failure.unit ≠ none) →
      ((reading.repeated later ⟨next.manifest, found⟩).input.changes
        (some ⟨next.manifest, found⟩)).isEmpty = true := by
    intro whole
    rw [Reading.outcome, Pass.advance_of_next known, Pass.failures_advance _ _ later] at whole
    exact Pass.isEmpty_of_answers answers whole
  rw [← records] at stores
  have repeats := site.conclude_of_answers stores second ⟨valid, dated.sources⟩ rfl answers
  have led := leads.of_grows rewritten.grows rewritten.current
  have result := Workspace.exists_repeat led second rfl repeats same
  rw [Reading.context_repeated] at result
  exact result

/-- All times of the sources of a tree lie in years that dates can have. -/
def SourcesDated (disk : Disk) (home : Location) (scan : Scan) : Prop :=
  ∀ found, Workspace.sources (Path.absolute home) scan disk = (.ok found, disk) →
    ∀ source ∈ found, ∀ time, source.modified = some time →
      Instant.yearRange.1 ≤ time.year ∧ time.year ≤ Instant.yearRange.2 ∧ time.nano < 1000000000

/-- The times of sources are counted from 1970, so it is enough to know their years. -/
theorem SourcesDated.valid {scan : Scan} (dated : SourcesDated disk home scan) {found : List Source}
    (scanned : Workspace.sources (Path.absolute home) scan disk = (.ok found, disk)) :
    ∀ source ∈ found, ∀ time, source.modified = some time → time.valid = true := by
  intro source member time bears
  obtain ⟨least, most, fits⟩ := dated found scanned source member time bears
  obtain ⟨_, _, _, -, rfl⟩ := exists_walk_of_sources scanned
  obtain ⟨walked, -, rfl⟩ := List.mem_map.1 member
  cases bears
  exact Instant.valid_ofUnix least most fits

/-- A disk with the small tree whose state folder is a link to another folder, in which the graph
log is a link to a file that is missing. -/
def linkedDisk : Disk :=
  { top :=
      [("state", .folder [("graph.jsonl", .link "old.jsonl")]),
       ("tree", .folder [("a.py", .file sampleFile), (".arbor", .link "../state")])] }

theorem resolve_linked : linkedDisk.resolve (stateFolder (Path.absolute ["tree"])) =
    .found ["state"] (.folder [("graph.jsonl", .link "old.jsonl")]) := rfl

theorem futile_linked : linkedDisk.Futile ["state"] "old.jsonl" := by
  intro links rest place inside
  have steps : Path.steps "old.jsonl" = [.name "old.jsonl"] := by decide
  have missing : linkedDisk.node? (["state"] ++ ["old.jsonl"]) = none := rfl
  rw [steps, List.singleton_append, Disk.follow_of_done (Disk.advance_missing missing)]
  split <;> simp

theorem fit_linked (place : Location) (inside : Folder)
    (site : Sited linkedDisk ["tree"] place inside) : Fit linkedDisk place inside := by
  cases resolve_linked.symm.trans site.leads
  constructor
  · intro artifact member target known
    simp only [List.mem_cons, List.not_mem_nil, or_false] at member
    rcases member with rfl | rfl <;> cases known
  · intro name member target known
    simp only [stateNames, List.mem_cons, List.not_mem_nil, or_false] at member
    rcases member with rfl | rfl | rfl | rfl <;> cases known
    exact futile_linked

/-- No folder lists a name twice, if neither the folder above nor one below its names does. -/
theorem distinct_of_entries {folder : Folder} (own : folder.Distinct)
    (lower : ∀ name inner, folder.get? name = some (.folder inner) →
      ∀ location entries, Folder.node? inner location = some (.folder entries) →
        Folder.Distinct entries) :
    ∀ location entries, folder.node? location = some (.folder entries) →
      Folder.Distinct entries := by
  intro location entries found
  cases location with
  | nil =>
    cases found
    exact own
  | cons name rest =>
    obtain ⟨inner, known, below⟩ := Folder.exists_folder_of_cons found
    exact lower name inner known rest entries below

theorem distinct_linked : linkedDisk.Distinct := by
  refine distinct_of_entries (by decide) fun name inner known => ?_
  rw [linkedDisk, Folder.get?_cons, Folder.get?_cons] at known
  split at known
  · cases known
    refine distinct_of_entries (by decide) fun name inner known => ?_
    rw [Folder.get?_cons] at known
    split at known <;> cases known
  · split at known
    · cases known
      refine distinct_of_entries (by decide) fun name inner known => ?_
      rw [Folder.get?_cons, Folder.get?_cons] at known
      split at known
      · cases known
      · split at known <;> cases known
    · cases known

theorem aside_linked :
    ∀ path ∈ ignorePaths (Path.absolute ["tree"]) {}, Aside linkedDisk ["tree"] path := by
  intro path member
  simp only [ignorePaths, List.mem_cons, List.not_mem_nil, or_false] at member
  rcases member with rfl | rfl <;>
  · apply aside_of_name proper_sample rfl (by decide) (by decide) (by decide)
    intro target known
    cases known

theorem dated_linked : SourcesDated linkedDisk ["tree"] {} := by
  intro found scanned source member time bears
  have known : (sources (Path.absolute ["tree"]) {} linkedDisk).1 =
      .ok [sampleSource sampleFile] := rfl
  rw [scanned] at known
  cases known
  cases List.mem_singleton.1 member
  cases bears
  decide

/-- A disk with a tree that has nothing but its state folder. -/
def bareDisk (inside : Folder) : Disk :=
  { top := [("tree", .folder [(".arbor", .folder inside)])] }

/-- The modes of a run and of the run after it, as far as they succeed. -/
def modesOfTwo (context : Context) (root : String) (disk : Disk) : Option Mode × Option Mode :=
  let (first, after) := run context root disk
  (first.toOption.map (·.mode), (run context root after).1.toOption.map (·.mode))

end Workspace

end SourceIndex
