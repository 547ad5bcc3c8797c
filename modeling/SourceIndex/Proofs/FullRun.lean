import SourceIndex.Proofs.Rebuild

/-!
# Full runs

A run without a state to build on analyses every source. What it writes to the graph log is what the
sources contribute one by one: the records of their units without a syntax error, in order of their
paths. Neither the granularity nor the digest nor anything else by which changes are tracked has a
part in it.
-/

namespace SourceIndex

/-! ## Digests -/

/-- A unit without its digest. -/
def SourceUnit.unhashed (unit : SourceUnit) : SourceUnit := { unit with hash := "" }

/-- A file without the digests of its units. -/
def SourceFile.unhashed (file : SourceFile) : SourceFile :=
  { file with units := file.units.map SourceUnit.unhashed }

/-- Units are told from each other in the same way, whatever their digests. -/
theorem Extraction.map_unhashed_finishAll (grammar : Grammar) (source : String)
    (first second : Digest) (calls : List (Nat × String)) (used : List String) (index : Nat)
    (drafts : List Draft) :
    (finishAll grammar source first calls used index drafts).map SourceUnit.unhashed =
      (finishAll grammar source second calls used index drafts).map SourceUnit.unhashed := by
  induction drafts generalizing used index with
  | nil => rfl
  | cons draft drafts ih =>
    have key : (finish grammar source first calls used index draft).key =
        (finish grammar source second calls used index draft).key := rfl
    rw [finishAll, finishAll, List.map_cons, List.map_cons, key, ih]
    rfl

/-- Only the digests of its units depend on the digest with which a file is read. -/
theorem SourceFile.map_unhashed_ofContent? (parser : Parser) (first second : Digest)
    (path : String) (language : Language) (content : ByteArray) :
    (ofContent? parser first path language content).map unhashed =
      (ofContent? parser second path language content).map unhashed := by
  rw [ofContent?, ofContent?, Option.map_map, Option.map_map]
  congr 1
  funext source
  simp only [Function.comp_apply, unhashed, Extraction.ofTree]
  rw [Extraction.map_unhashed_finishAll]

/-! ## What a source contributes -/

/-- What a source adds to an index. -/
structure Contribution where
  records : List Record
  failures : List Failure
  /-- The identifiers that the manifest lists for it, if it has an entry. -/
  units : Option (List String)

/-- A file contributes its units without a syntax error, in source order; the others fail. -/
def SourceFile.contribution (maxCalls : Nat) (file : SourceFile) : Contribution where
  records := file.soundUnits.map (·.record maxCalls file)
  failures := file.brokenUnits.map (Failure.ofUnit file.path)
  units := some (file.soundUnits.map (·.identifier file.path))

theorem SourceFile.contribution_unhashed (maxCalls : Nat) (file : SourceFile) :
    file.unhashed.contribution maxCalls = file.contribution maxCalls := by
  simp only [contribution, soundUnits, brokenUnits, unhashed, List.filter_map, List.map_map]
  rfl

/-- A source that is not text fails as a whole. -/
def Analyzer.contribution (analyzer : Analyzer) (source : Source) : Contribution :=
  match analyzer.file? source with
  | some file => file.contribution analyzer.maxCalls
  | none => ⟨[], [Failure.ofBinary source.path], none⟩

/-- What a source contributes does not depend on the digest. -/
theorem Analyzer.contribution_congr {first second : Analyzer}
    (parser : first.parser = second.parser) (calls : first.maxCalls = second.maxCalls)
    (source : Source) :
    first.contribution source = second.contribution source := by
  have same := SourceFile.map_unhashed_ofContent? first.parser first.digest second.digest
    source.path source.language source.content
  rw [contribution, contribution, file?, file?, ← parser, ← calls]
  cases one : SourceFile.ofContent? first.parser first.digest source.path source.language
      source.content with
  | none =>
    rw [one, Option.map_none, eq_comm, Option.map_eq_none_iff] at same
    rw [same]
  | some file =>
    rw [one, Option.map_some, eq_comm] at same
    obtain ⟨other, two, equal⟩ := Option.map_eq_some_iff.1 same
    rw [two]
    simp only
    rw [← SourceFile.contribution_unhashed, ← equal, SourceFile.contribution_unhashed]

/-- Sources by their paths, of which the last with a path counts. -/
def Source.byPath (sources : List Source) : KeyMap Source :=
  KeyMap.ofList (sources.map fun source => (source.path, source))

/-- The records of all sources, in order of their paths. -/
def Analyzer.fullRecords (analyzer : Analyzer) (sources : List Source) : List Record :=
  (Source.byPath sources).values.flatMap fun source => (analyzer.contribution source).records

/-- The failures of all sources, in order of their paths. -/
def Analyzer.fullFailures (analyzer : Analyzer) (sources : List Source) : List Failure :=
  (Source.byPath sources).values.flatMap fun source => (analyzer.contribution source).failures

/-- The identifiers that are listed for each path. -/
def Analyzer.fullUnits? (analyzer : Analyzer) (sources : List Source) (path : String) :
    Option (List String) :=
  ((Source.byPath sources).get? path).bind fun source => (analyzer.contribution source).units

/-! ## Files without a past -/

namespace FileAnalysis

variable {file : SourceFile}

theorem get?_empty_store (path id : String) : Store.empty.get? path id = none := by
  rw [Store.get?_eq_find?]
  rfl

/-- Without old records a file is replaced by the records of its sound units. -/
theorem deriveFile_empty (maxCalls : Nat) (file : SourceFile) :
    (deriveFile maxCalls .empty file).records = file.soundUnits.map (·.record maxCalls file) ∧
      (deriveFile maxCalls .empty file).keptIds = [] := by
  have none : ∀ unit, oldRecord? .empty file unit = none := fun unit => get?_empty_store _ _
  constructor
  · rw [records_deriveFile, SourceFile.soundUnits, ← List.filterMap_eq_map, List.filterMap_filter]
    apply List.filterMap_congr
    intro unit _
    rw [replacement?, none]
    cases unit.hasError <;> rfl
  · simp [deriveFile, none]

/-- Without old fingerprints every sound unit is new. -/
theorem deriveUnits_none (maxCalls : Nat) (tracking : Tracking) (store : Store)
    (distinct : (file.units.map (·.key)).Nodup) :
    (deriveUnits maxCalls tracking none store file).records =
        file.soundUnits.map (·.record maxCalls file) ∧
      (deriveUnits maxCalls tracking none store file).keptIds = [] := by
  rw [deriveUnits_eq]
  refine ⟨?_, rfl⟩
  simp only
  congr 1
  apply List.filter_congr
  intro unit member
  rw [Bool.eq_iff_iff, needsRecord_iff distinct member, SourceFile.soundUnits, List.mem_filter]
  simp [member, Remembered]

theorem derive_none (config : Config) (distinct : (file.units.map (·.key)).Nodup) :
    (derive config none .empty file).records =
        file.soundUnits.map (·.record config.analysis.maxCallsPerUnit.toNat file) ∧
      (derive config none .empty file).keptIds = [] := by
  cases granularity : config.granularity with
  | file =>
    rw [derive_of_file granularity]
    exact deriveFile_empty _ file
  | unit =>
    rw [derive_of_unit granularity]
    exact deriveUnits_none _ _ _ distinct

end FileAnalysis

/-! ## Passes without a baseline -/

namespace Pass

variable {input : Input} {source : Source}

/-- Without a baseline every source is analysed, in order of the paths. -/
theorem stale_none (input : Input) :
    input.stale (input.changes none) = (Source.byPath input.sources).values := by
  have placed : ∀ entry ∈ (Source.byPath input.sources).entries, entry.2.path = entry.1 :=
    fun entry member => (Input.source?_eq_some (KeyMap.get?_eq_some_iff.2 member)).1
  have sorted : (Source.byPath input.sources).values.Pairwise fun first second =>
      first.path < second.path := by
    rw [KeyMap.values, List.pairwise_map]
    refine (Source.byPath input.sources).sorted.imp_of_mem ?_
    intro first second here there below
    rw [placed first here, placed second there]
    exact below
  have increasing := List.pairwise_map.1 (sorted_stale_paths input none)
  have differ : ∀ {first second : Source}, first.path < second.path → first ≠ second := by
    rintro first _ below rfl
    exact String.lt_irrefl _ below
  have same : (input.stale (input.changes none)).Perm (Source.byPath input.sources).values := by
    rw [List.perm_ext_iff_of_nodup (increasing.imp differ) (sorted.imp differ)]
    intro source
    rw [mem_stale_iff, KeyMap.mem_values_iff]
    constructor
    · intro stale
      exact ⟨source.path, stale.1⟩
    · rintro ⟨path, found⟩
      obtain ⟨rfl, _⟩ := Input.source?_eq_some found
      exact ⟨found, fun entry known => by cases known⟩
  refine same.eq_of_pairwise ?_ increasing sorted
  intro first second _ _ below above
  exact absurd (String.lt_trans below above) (String.lt_irrefl _)

/-- The analysis of a source gives what the source contributes. -/
theorem contribution_of_analysis? {analysis : FileAnalysis}
    (found : analysis? input none source = some analysis) :
    input.analyzer.contribution source =
      ⟨analysis.update.records, analysis.failures, some analysis.entry.units⟩ := by
  obtain ⟨file, read, rest⟩ := Option.bind_eq_some_iff.1 found
  cases rest
  obtain ⟨records, kept⟩ := FileAnalysis.derive_none input.config
    (SourceFile.nodup_keys_of_ofContent? read)
  have known : input.analyzer.file? source = some file := read
  rw [Analyzer.contribution, known, storeOf, Option.map_none, Option.map_none, Option.getD_none]
  simp only [records, kept, List.append_nil, SourceFile.contribution, SourceFile.states,
    List.map_map]
  rfl

/-- A source without an analysis is not text. -/
theorem contribution_of_none (failed : analysis? input none source = none) :
    input.analyzer.contribution source = ⟨[], [Failure.ofBinary source.path], none⟩ := by
  rw [Analyzer.contribution, analysis?_eq_none_iff.1 failed]

theorem records_nextStore_none (input : Input) :
    (nextStore input none).records = input.analyzer.fullRecords input.sources := by
  rw [nextStore, Update.records_apply wellFormed_updates (nodup_update_paths input none), updates,
    analyzedSources, stale_none, List.filterMap_map, List.flatMap_map,
    List.filterMap_eq_flatMap_toList, List.flatMap_assoc]
  refine List.flatMap_congr fun source _ => ?_
  simp only [Function.comp_apply]
  cases found : analysis? input none source with
  | none =>
    rw [contribution_of_none found]
    rfl
  | some analysis =>
    rw [contribution_of_analysis? found]
    simp

theorem failures_none (input : Input) :
    (run input none).summary.failures = input.analyzer.fullFailures input.sources := by
  have listed : (run input none).summary.failures = failures (analyzedSources input none) := rfl
  rw [listed, failures, analyzedSources, stale_none, List.flatMap_map]
  refine List.flatMap_congr fun source _ => ?_
  cases found : analysis? input none source with
  | none => rw [contribution_of_none found]
  | some analysis => rw [contribution_of_analysis? found]

theorem units_nextManifest_none (store : Store) (path : String) :
    ((nextManifest input (input.changes none) (analyzedSources input none) none store).file?
      path).map (·.units) = input.analyzer.fullUnits? input.sources path := by
  have listed : (Source.byPath input.sources).get? path = input.source? path := rfl
  rw [file?_nextManifest, Analyzer.fullUnits?, listed]
  cases here : input.source? path with
  | none => rfl
  | some source =>
    obtain ⟨rfl, _⟩ := Input.source?_eq_some here
    rw [Option.bind_some, Option.bind_some]
    rcases analyzed_or_skipped none here with ⟨analysis, stale, found⟩ | skipped
    · have entry := entryOf?_of_analysis here stale found
      rw [entry, contribution_of_analysis? found, Option.map_some]
    · have entry := entryOf?_of_skipped skipped
      have failed := skipped source here fun entry known => by cases known
      rw [entry, contribution_of_none failed]
      rfl

end Pass

/-! ## Runs on a tree without state -/

namespace Workspace

variable {disk after : Disk} {home : Location} {inside : Folder} {root : String}

/-- A run that cannot read the sources fails with the same error and writes nothing. -/
theorem run_of_unscanned {context : Context} {baseline : Option Baseline} {error : WorkspaceError}
    (leads : Leads disk root home) (valid : context.config.fault? = none)
    (loaded : loadBaseline? context.config (Path.absolute home) disk = (.ok baseline, disk))
    (failed : sources (Path.absolute home) context.config.scan disk = (.error error, disk)) :
    run context root disk = (.error error, disk) := by
  obtain ⟨entries, known⟩ := leads
  simp only [run, bind_apply, checkConfig_apply, valid, resolveRoot_apply, known, loaded, failed]

/-- What a run leaves that has succeeded: what it reports, and the manifest that is on the disk. -/
structure Finished (context : Context) (root : String) (home : Location) (disk : Disk) where
  summary : Summary
  after : Disk
  manifest : Manifest
  done : run context root disk = (.ok summary, after)
  stored : after.read (manifestFile.path (Path.absolute home)) = .ok manifest.write.toUTF8

/-- The content of the graph log that a run leaves. -/
def Finished.graph {context : Context} (finished : Finished context root home disk) :
    Except Disk.Fault ByteArray :=
  finished.after.read (graphFile.path (Path.absolute home))

/-- A run on a tree without state writes what the sources contribute. -/
theorem exists_full_run (proper : Disk.Proper home) (leads : Leads disk root home)
    (stateless : Stateless disk home) (context : Context) (valid : context.config.fault? = none)
    {found : List Source}
    (scanned : sources (Path.absolute home) context.config.scan disk = (.ok found, disk)) :
    ∃ finished : Finished context root home disk,
      finished.graph = .ok (String.ofList (((context.config.analyzer context.parser).fullRecords
        found).flatMap GraphLog.line)).toUTF8 ∧
      finished.summary.failures =
        (context.config.analyzer context.parser).fullFailures found ∧
      ∀ path, (finished.manifest.file? path).map (·.units) =
        (context.config.analyzer context.parser).fullUnits? found path := by
  obtain ⟨inside, holds, blank⟩ := stateless
  have ready := leads.ready proper holds
  have missing := ready.loadBaseline?_missing context.config (blank manifestFile.name (by decide))
  let reading : Reading := ⟨context, none, found⟩
  have gathers : Gathers disk home reading := ⟨valid, missing, scanned⟩
  obtain ⟨after, done, _⟩ := ready.exists_run blank.tidy leads gathers
  have left := ready.conclude blank.tidy.plain ((run_of_gathers leads gathers).symm.trans done)
  have next : reading.outcome.next = some ⟨Pass.nextManifest reading.input
      (reading.input.changes none) (Pass.analyzedSources reading.input none) none
      (Pass.nextStore reading.input none), Pass.nextStore reading.input none⟩ :=
    Pass.next_advance reading.input none
  rw [next] at left
  obtain ⟨_, folder, readyAfter, stores⟩ := left
  have graph := readyAfter.read_text (by decide) stores.graph
  simp only [Pass.records_nextStore_none] at graph
  exact ⟨⟨_, after, _, done, readyAfter.read_text (by decide) stores.manifest⟩, graph,
    Pass.failures_none reading.input, Pass.units_nextManifest_none _⟩

/-- What a full run writes does not depend on how changes are tracked. On a tree without state, two
runs that scan the same files and limit calls in the same way leave the same graph log, report the
same failures, and list the same units for every file, whatever their granularity, digest and other
settings. The graph log holds the records of all units without a syntax error, by path and then in
source order. If some sources cannot be read, both runs fail with the error that lists them. -/
theorem full_run_ignores_tracking (parser : Parser) {first second : Config} (now later : Instant)
    (proper : Disk.Proper home) (leads : Leads disk root home) (stateless : Stateless disk home)
    (firstValid : first.fault? = none) (secondValid : second.fault? = none)
    (scan : first.scan = second.scan)
    (calls : first.analysis.maxCallsPerUnit = second.analysis.maxCallsPerUnit) :
    (∀ error, sources (Path.absolute home) first.scan disk = (.error error, disk) →
      run ⟨parser, first, now⟩ root disk = (.error error, disk) ∧
        run ⟨parser, second, later⟩ root disk = (.error error, disk)) ∧
    ∀ found, sources (Path.absolute home) first.scan disk = (.ok found, disk) →
      ∃ (one : Finished ⟨parser, first, now⟩ root home disk)
        (two : Finished ⟨parser, second, later⟩ root home disk),
        one.graph = two.graph ∧ one.summary.failures = two.summary.failures ∧
        (∀ path, (one.manifest.file? path).map (·.units) =
          (two.manifest.file? path).map (·.units)) ∧
        one.graph = .ok (String.ofList (((first.analyzer parser).fullRecords found).flatMap
          GraphLog.line)).toUTF8 := by
  have same : (first.analyzer parser).contribution = (second.analyzer parser).contribution := by
    funext source
    apply Analyzer.contribution_congr
    · rfl
    · exact congrArg UInt64.toNat calls
  constructor
  · intro error failed
    obtain ⟨inside, holds, blank⟩ := stateless
    have ready := leads.ready proper holds
    have missing (config : Config) :=
      ready.loadBaseline?_missing config (blank manifestFile.name (by decide))
    exact ⟨run_of_unscanned leads firstValid (missing first) failed,
      run_of_unscanned leads secondValid (missing second) (scan ▸ failed)⟩
  · intro found scanned
    obtain ⟨one, graph, failures, units⟩ := exists_full_run proper leads stateless
      ⟨parser, first, now⟩ firstValid scanned
    obtain ⟨two, graph', failures', units'⟩ := exists_full_run proper leads stateless
      ⟨parser, second, later⟩ secondValid (scan ▸ scanned)
    simp only [Analyzer.fullRecords, Analyzer.fullFailures, Analyzer.fullUnits?, ← same]
      at graph' failures' units'
    exact ⟨one, two, graph.trans graph'.symm, failures.trans failures'.symm,
      fun path => (units path).trans (units' path).symm, graph⟩

/-- A disk with one tree, in which a file of one function is listed before one that is not text. -/
def mixedDisk : Disk :=
  { top := [("tree", .folder [("b.py", .file sampleFile),
      ("a.py", .file { content := ⟨#[255]⟩ })])] }

/-- A configuration that tracks as much as possible. -/
def thoroughConfig : Config where
  granularity := .unit
  tracking := { digest := .blake3, storeSource := true, detectRenames := true, threshold := 0.5 }
  analysis := { trackDependencies := false }

set_option maxRecDepth 4000 in
theorem sources_mixed :
    sources (Path.absolute ["tree"]) {} mixedDisk =
      (.ok [⟨"a.py", .python, ⟨#[255]⟩, some (Instant.ofUnix 0 0)⟩,
        ⟨"b.py", .python, sampleFile.content, some (Instant.ofUnix 0 0)⟩], mixedDisk) := by
  refine Prod.ext ?_ (reads_sources _ _ _)
  rw [sources_apply]
  rfl

theorem full_run_ignores_tracking_mixed :
    ∃ (one : Finished ⟨fun _ _ => sampleTree, {}, Instant.ofUnix 0 0⟩ "/tree" ["tree"] mixedDisk)
      (two : Finished ⟨fun _ _ => sampleTree, thoroughConfig, Instant.ofUnix 1 0⟩ "/tree" ["tree"]
        mixedDisk),
      one.graph = two.graph ∧ one.summary.failures = two.summary.failures ∧
      ∀ path, (one.manifest.file? path).map (·.units) =
        (two.manifest.file? path).map (·.units) := by
  have leads : Leads mixedDisk "/tree" ["tree"] := ⟨_, rfl⟩
  have stateless : Stateless mixedDisk ["tree"] := ⟨[], .inr ⟨rfl, rfl⟩, fun _ _ => rfl⟩
  have valid : ({} : Config).fault? = none := rfl
  have alsoValid : thoroughConfig.fault? = none := rfl
  have agree := full_run_ignores_tracking (fun _ _ => sampleTree) (Instant.ofUnix 0 0)
    (Instant.ofUnix 1 0) proper_sample leads stateless valid alsoValid rfl rfl
  obtain ⟨one, two, graph, failures, units, _⟩ := agree.2 _ sources_mixed
  exact ⟨one, two, graph, failures, units⟩

end Workspace

end SourceIndex
