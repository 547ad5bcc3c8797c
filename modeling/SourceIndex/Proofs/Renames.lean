import SourceIndex.Proofs.Contents
import SourceIndex.Proofs.Repeat

/-!
# Rename detection

Whether renames are looked for, how similar renamed units have to be, and whether the sources of
units are kept for it, concerns only which changes of units are reported. Two runs that differ in
nothing else derive the same records and drop the same, so that they leave the same graph log, and
their manifests say the same apart from the sources of units. Only links in the state folder can
bring these sources into the graph log.
-/

namespace SourceIndex

/-- Configurations that differ at most in how renames are looked for. -/
structure Config.Alike (first second : Config) : Prop where
  granularity : first.granularity = second.granularity
  digest : first.tracking.digest = second.tracking.digest
  analysis : first.analysis = second.analysis
  scan : first.scan = second.scan

/-- A fingerprint without the source of its unit. -/
def Fingerprint.unsourced (fingerprint : Fingerprint) : Fingerprint :=
  { fingerprint with source := none }

/-- A file entry without the sources of units. -/
def FileEntry.unsourced (entry : FileEntry) : FileEntry :=
  { entry with fingerprints := entry.fingerprints.map (·.map Fingerprint.unsourced) }

/-- Manifests that say the same apart from their times and the sources of units. -/
structure Manifest.Alike (first second : Manifest) : Prop where
  version : first.version = second.version
  granularity : first.granularity = second.granularity
  digest : first.digest = second.digest
  files : first.files.map FileEntry.unsourced = second.files.map FileEntry.unsourced
  totals : first.totals = second.totals

/-- The source of a unit, if a manifest remembers the unit and perhaps its source. -/
def Manifest.source? (manifest : Manifest) (path key : String) : Option (Option String) :=
  ((manifest.fingerprints? path).bind (·.get? key)).map (·.source)

/-- What a pass reports apart from the changes of units, renames among them. -/
def Summary.plain (summary : Summary) : Summary :=
  { summary with renames := [], unitChanges := [] }

/-! ## Analyses -/

namespace FileAnalysis

section

variable {maxCalls : Nat} {store : Store} {file : SourceFile} {prior : Option (KeyMap Fingerprint)}
variable (first second : Tracking)

/-- The fingerprints of a file are the same apart from the sources. -/
theorem map_unsourced_fingerprintEntries :
    (fingerprintEntries first prior file).map (fun entry => (entry.1, entry.2.unsourced)) =
      (fingerprintEntries second prior file).map fun entry => (entry.1, entry.2.unsourced) := by
  simp only [fingerprintEntries, SourceFile.states, List.map_append, List.map_map]
  rfl

variable (distinct : (file.units.map (·.key)).Nodup)
include distinct

/-- The same records are derived. -/
theorem records_deriveUnits_congr :
    (deriveUnits maxCalls first prior store file).records =
      (deriveUnits maxCalls second prior store file).records := by
  rw [deriveUnits_eq, deriveUnits_eq]
  simp only
  congr 1
  apply List.filter_congr
  intro unit member
  rw [Bool.eq_iff_iff, needsRecord_iff distinct member, needsRecord_iff distinct member]

/-- The same records become stale. -/
theorem outdates_unitUpdate_congr :
    Update.outdates .unit (unitUpdate maxCalls first prior store file) =
      Update.outdates .unit (unitUpdate maxCalls second prior store file) := by
  funext record
  by_cases here : record.file = file.path
  · have same : Update.outdates .unit (unitUpdate maxCalls first prior store file) record = false ↔
        Update.outdates .unit (unitUpdate maxCalls second prior store file) record = false := by
      rw [outdates_unitUpdate_iff here, outdates_unitUpdate_iff here]
      simp only [unitUpdate, records_deriveUnits_congr first second distinct]
      apply and_congr_right
      rintro ⟨old, rfl⟩
      rw [mem_staleIds_iff distinct, mem_staleIds_iff distinct]
    rw [Bool.eq_iff_iff]
    simpa using not_congr same
  · rw [Update.outdates_of_ne (Ne.symm here), Update.outdates_of_ne (Ne.symm here)]

end

/-- Derivations from a file that lead to the same next state, apart from the sources of units. -/
structure SameEffect (granularity : Granularity) (path : String) (first second : Derivation) :
    Prop where
  records : first.records = second.records
  outdates : Update.outdates granularity ⟨path, first.records, first.changes⟩ =
    Update.outdates granularity ⟨path, second.records, second.changes⟩
  keptIds : first.keptIds = second.keptIds
  fingerprints : first.fingerprints.map (·.map Fingerprint.unsourced) =
    second.fingerprints.map (·.map Fingerprint.unsourced)
  carried : first.carried = second.carried

variable {first second : Config}

theorem sameEffect_derive (alike : first.Alike second) (manifest : Option Manifest) (store : Store)
    {file : SourceFile} (distinct : (file.units.map (·.key)).Nodup) :
    SameEffect first.granularity file.path (derive first manifest store file)
      (derive second manifest store file) := by
  cases granularity : first.granularity with
  | file =>
    have same := alike.granularity.symm.trans granularity
    rw [derive_of_file granularity, derive_of_file same, alike.analysis]
    exact ⟨rfl, rfl, rfl, rfl, rfl⟩
  | unit =>
    have same := alike.granularity.symm.trans granularity
    rw [derive_of_unit granularity, derive_of_unit same, alike.analysis]
    refine ⟨records_deriveUnits_congr _ _ distinct, outdates_unitUpdate_congr _ _ distinct, rfl, ?_,
      rfl⟩
    rw [deriveUnits_eq, deriveUnits_eq, Option.map_some, Option.map_some, ← KeyMap.ofList_map,
      ← KeyMap.ofList_map, map_unsourced_fingerprintEntries]

/-- What an analysis means for the next state, apart from the sources of units. -/
structure Essence where
  entry : FileEntry
  records : List Record
  outdates : Record → Bool
  failures : List Failure
  carried : Nat

def essence (granularity : Granularity) (analysis : FileAnalysis) : Essence where
  entry := analysis.entry.unsourced
  records := analysis.update.records
  outdates := Update.outdates granularity analysis.update
  failures := analysis.failures
  carried := analysis.carried

/-- Analyses are the same in that. -/
theorem map_essence_ofSource? (alike : first.Alike second) (parser : Parser)
    (manifest : Option Manifest) (store : Store) (source : Source) :
    (ofSource? parser first manifest store source).map (essence first.granularity) =
      (ofSource? parser second manifest store source).map (essence first.granularity) := by
  have identifiers (file : SourceFile) (keepSource : Bool) :
      (file.states keepSource).map (·.fingerprint.id) =
        file.soundUnits.map (·.identifier file.path) := by
    rw [SourceFile.states, List.map_map]
    rfl
  rw [ofSource?, ofSource?, ← alike.digest]
  cases read : SourceFile.ofContent? parser first.tracking.digest source.path source.language
      source.content with
  | none => rfl
  | some file =>
    have same := sameEffect_derive alike manifest store (SourceFile.nodup_keys_of_ofContent? read)
    simp only [Option.bind_eq_bind, Option.bind_some, Option.pure_def, Option.map_some, essence,
      FileEntry.unsourced, identifiers, same.keptIds, same.fingerprints, same.carried]
    rw [same.outdates, same.records]

end FileAnalysis

/-! ## Passes -/

namespace Pass

/-- Inputs of passes that differ at most in how renames are looked for, and in the time. -/
structure Input.Alike (first second : Input) : Prop where
  parser : first.parser = second.parser
  config : first.config.Alike second.config
  sources : first.sources = second.sources

/-- Next states with the same store, and with manifests that say the same apart from the sources of
units. -/
inductive SameNext : Option Baseline → Option Baseline → Prop where
  | unchanged : SameNext none none
  | renewed {one two : Manifest} (alike : one.Alike two) (store : Store) :
    SameNext (some ⟨one, store⟩) (some ⟨two, store⟩)

/-- What the analyses of a pass mean for the next state, in order of their paths. -/
def essences (granularity : Granularity) (input : Input) (baseline : Option Baseline) :
    List FileAnalysis.Essence :=
  ((analyzedSources input baseline).filterMap (·.2)).map (FileAnalysis.essence granularity)

/-- Which records of a store are kept. -/
theorem keeps_updates (input : Input) (baseline : Option Baseline) (granularity : Granularity)
    (deleted : List String) :
    Update.keeps granularity deleted (updates input baseline) = fun record =>
      !(deleted.contains record.file ||
        (essences granularity input baseline).any (·.outdates record)) := by
  funext record
  rw [Update.keeps, updates, essences, List.any_map, List.any_map]
  rfl

theorem flatMap_records_updates (input : Input) (baseline : Option Baseline)
    (granularity : Granularity) :
    (updates input baseline).flatMap (·.records) =
      (essences granularity input baseline).flatMap (·.records) := by
  rw [updates, essences, List.flatMap_map, List.flatMap_map]
  rfl

/-- What a pass reports apart from the changes of units. -/
theorem plain_summary_eq (input : Input) (baseline : Option Baseline) :
    (advance input baseline (input.changes baseline)).summary.plain =
      let update := Update.apply input.config.granularity (storeOf baseline)
        (input.changes baseline).deleted (updates input baseline)
      let carried := ((analyzedSources input baseline).filterMap (·.2)).foldl
        (fun count analysis => count + analysis.carried) 0
      let reanalyzed := update.inserted - carried
      { Summary.ofChanges (mode baseline) input.config.granularity (input.changes baseline) with
        reanalyzed
        retained := update.store.size - reanalyzed
        removed := update.removed
        records := update.store.size
        written := true
        failures := failures (analyzedSources input baseline)
        graph := input.graphStats? update.store } := by
  simp only [advance, Summary.plain, analyzedSources, updates, storeOf, analysis?]
  rfl

section

variable {first second : Input} (alike : first.Alike second) (baseline : Option Baseline)
include alike

theorem scan_congr : first.scan = second.scan := by
  funext source
  rw [Input.scan, Input.scan, alike.config.digest]

theorem changes_congr : first.changes baseline = second.changes baseline := by
  have scanned : first.scanned = second.scanned := by
    rw [Input.scanned, Input.scanned, alike.sources, alike.config.digest]
  rw [Input.changes, Input.changes, scanned]

theorem source?_congr : first.source? = second.source? := by
  funext path
  rw [Input.source?, Input.source?, alike.sources]

theorem map_essence_analysis? (source : Source) :
    (analysis? first baseline source).map (FileAnalysis.essence first.config.granularity) =
      (analysis? second baseline source).map (FileAnalysis.essence first.config.granularity) := by
  rw [analysis?, analysis?, ← alike.parser]
  exact FileAnalysis.map_essence_ofSource? alike.config ..

theorem stale_congr :
    first.stale (first.changes baseline) = second.stale (second.changes baseline) := by
  rw [stale_eq, stale_eq, changes_congr alike, source?_congr alike]

theorem essences_congr :
    essences first.config.granularity first baseline =
      essences first.config.granularity second baseline := by
  simp only [essences, analyzedSources, List.filterMap_map, List.map_filterMap, stale_congr alike]
  apply List.filterMap_congr
  intro source _
  exact map_essence_analysis? alike baseline source

theorem failures_congr :
    failures (analyzedSources first baseline) = failures (analyzedSources second baseline) := by
  rw [failures, failures, analyzedSources, analyzedSources, List.flatMap_map, List.flatMap_map,
    stale_congr alike]
  refine List.flatMap_congr fun source _ => ?_
  have same := congrArg (Option.map (·.failures)) (map_essence_analysis? alike baseline source)
  rw [Option.map_map, Option.map_map] at same
  generalize analysis? first baseline source = one, analysis? second baseline source = two
    at same ⊢
  cases one with
  | none =>
    cases two with
    | none => rfl
    | some analysis => cases same
  | some analysis =>
    cases two with
    | none => cases same
    | some other => exact Option.some.inj same

/-- The store is brought up to date in the same way. -/
theorem apply_congr :
    Update.apply first.config.granularity (storeOf baseline) (first.changes baseline).deleted
        (updates first baseline) =
      Update.apply second.config.granularity (storeOf baseline) (second.changes baseline).deleted
        (updates second baseline) := by
  rw [Update.apply_eq, Update.apply_eq,
    flatMap_records_updates first baseline first.config.granularity,
    flatMap_records_updates second baseline first.config.granularity, ← alike.config.granularity,
    keeps_updates, keeps_updates, essences_congr alike, changes_congr alike]

theorem nextStore_congr : nextStore first baseline = nextStore second baseline := by
  rw [nextStore, nextStore, apply_congr alike]

theorem carried_congr :
    ((analyzedSources first baseline).filterMap (·.2)).foldl
        (fun count analysis => count + analysis.carried) 0 =
      ((analyzedSources second baseline).filterMap (·.2)).foldl
        (fun count analysis => count + analysis.carried) 0 := by
  have same := congrArg (List.foldl (fun count essence => count + essence.carried) 0)
    (essences_congr alike baseline)
  rw [essences, essences, List.foldl_map, List.foldl_map] at same
  exact same

theorem graphStats?_congr : first.graphStats? = second.graphStats? := by
  funext store
  rw [Input.graphStats?, Input.graphStats?, alike.config.analysis]

/-- The same is reported, apart from the changes of units. -/
theorem plain_summary_advance :
    (advance first baseline (first.changes baseline)).summary.plain =
      (advance second baseline (second.changes baseline)).summary.plain := by
  rw [plain_summary_eq, plain_summary_eq, apply_congr alike, carried_congr alike,
    failures_congr alike, graphStats?_congr alike, changes_congr alike, alike.config.granularity]

theorem stale_iff {source : Source} :
    Stale first baseline source ↔ Stale second baseline source := by
  rw [Stale, Stale, alike.config.digest]

theorem analysis?_eq_none_congr {source : Source} :
    analysis? first baseline source = none ↔ analysis? second baseline source = none := by
  have same := map_essence_analysis? alike baseline source
  rw [← Option.map_eq_none_iff, same, Option.map_eq_none_iff]

/-- The entries of a source are the same, apart from the sources of units. -/
theorem map_unsourced_entryOf? {source : Source} (here : first.source? source.path = some source) :
    (entryOf? (analyzedSources first baseline) (baseline.map (·.manifest))
        (first.scan source)).map FileEntry.unsourced =
      (entryOf? (analyzedSources second baseline) (baseline.map (·.manifest))
        (second.scan source)).map FileEntry.unsourced := by
  have there : second.source? source.path = some source := by rw [← source?_congr alike, here]
  rcases analyzed_or_skipped baseline here with ⟨analysis, stale, found⟩ | skipped
  · have same := map_essence_analysis? alike baseline source
    rw [found, Option.map_some, eq_comm, Option.map_eq_some_iff] at same
    obtain ⟨other, known, same⟩ := same
    rw [entryOf?_of_analysis here stale found,
      entryOf?_of_analysis there ((stale_iff alike baseline).1 stale) known]
    exact congrArg (fun essence => some essence.entry) same.symm
  · have skippedToo : ∀ other, second.source? source.path = some other →
        Stale second baseline other → analysis? second baseline other = none := by
      intro other present stale
      rw [← source?_congr alike] at present
      exact (analysis?_eq_none_congr alike baseline).1
        (skipped other present ((stale_iff alike baseline).2 stale))
    rw [entryOf?_of_skipped skipped, entryOf?_of_skipped skippedToo, scan_congr alike]

/-- The manifests say the same, apart from the sources of units. -/
theorem alike_nextManifest (store : Store) :
    (nextManifest first (first.changes baseline) (analyzedSources first baseline) baseline
      store).Alike (nextManifest second (second.changes baseline) (analyzedSources second baseline)
        baseline store) := by
  have files :
      (nextManifest first (first.changes baseline) (analyzedSources first baseline) baseline
      store).files.map FileEntry.unsourced = (nextManifest second (second.changes baseline)
        (analyzedSources second baseline) baseline store).files.map FileEntry.unsourced := by
    apply KeyMap.ext_get?
    intro path
    rw [KeyMap.get?_map, KeyMap.get?_map, ← Manifest.file?, ← Manifest.file?, file?_nextManifest,
      file?_nextManifest, ← source?_congr alike]
    cases here : first.source? path with
    | none => rfl
    | some source =>
      obtain ⟨rfl, _⟩ := Input.source?_eq_some here
      rw [Option.bind_some, Option.bind_some]
      exact map_unsourced_entryOf? alike baseline here
  refine ⟨rfl, alike.config.granularity, alike.config.digest, files, ?_⟩
  have units := Manifest.unitCount_eq fun entry => show entry.unsourced.units = entry.units from rfl
  have size (manifest : Manifest) :
      manifest.files.size = (manifest.files.map FileEntry.unsourced).size := by
    simp [KeyMap.size, KeyMap.map]
  rw [totals_nextManifest, totals_nextManifest, units, units, size, size, files]

theorem sameNext_run : SameNext (run first baseline).next (run second baseline).next := by
  have advanced : SameNext (advance first baseline (first.changes baseline)).next
      (advance second baseline (second.changes baseline)).next := by
    rw [next_advance, next_advance, nextStore_congr alike]
    exact .renewed (alike_nextManifest alike baseline _) _
  cases baseline with
  | none => exact advanced
  | some state =>
    rw [run_some, run_some]
    rw [changes_congr alike] at advanced ⊢
    split
    · exact .unchanged
    · exact advanced

theorem plain_summary_run :
    (run first baseline).summary.plain = (run second baseline).summary.plain := by
  have advanced := plain_summary_advance alike baseline
  cases baseline with
  | none => exact advanced
  | some state =>
    rw [run_some, run_some]
    rw [changes_congr alike] at advanced ⊢
    split
    · simp only [confirm, graphStats?_congr alike, alike.config.granularity]
    · exact advanced

end

end Pass

/-! ## Runs -/

/-- The same file, or manifests that say the same apart from the sources of units. -/
inductive DiskFile.Alike : DiskFile → DiskFile → Prop where
  | same (file : DiskFile) : Alike file file
  | manifests {one two : Manifest} (alike : one.Alike two) :
    Alike { content := one.write.toUTF8 } { content := two.write.toUTF8 }

namespace Workspace

theorem agrees_persist (root : String) {one two : Manifest} (alike : one.Alike two) (store : Store)
    (disk : Disk) :
    Agrees DiskFile.Alike (persist root ⟨one, store⟩ disk) (persist root ⟨two, store⟩ disk) :=
  agrees_bind (agrees_ensureFolder root (Disk.matches_refl .same disk)) fun _ _ _ made =>
    agrees_bind (agrees_save root graphFile (.same _) made) fun _ _ _ saved =>
      agrees_save root manifestFile (.manifests alike) saved

/-- Writing next states that are the same apart from the sources of units. -/
theorem agrees_conclude (root : String) {first second : Outcome}
    (summary : first.summary.plain = second.summary.plain)
    (next : Pass.SameNext first.next second.next) (disk : Disk) :
    Agrees DiskFile.Alike ((Summary.plain <$> conclude root first) disk)
      ((Summary.plain <$> conclude root second) disk) := by
  rw [conclude, conclude]
  generalize first.next = one, second.next = two at next
  cases next with
  | unchanged =>
    simp only [map_pure, pure_apply, summary]
    exact ⟨rfl, Disk.matches_refl .same disk⟩
  | renewed alike store =>
    simp only [map_bind, map_pure, summary]
    exact agrees_bind (agrees_persist root alike store disk) fun _ _ _ matched => ⟨rfl, matched⟩

theorem loadBaseline?_congr {first second : Config} (alike : first.Alike second) :
    loadBaseline? first = loadBaseline? second := by
  funext root
  rw [loadBaseline?, loadBaseline?, alike.granularity, alike.digest]

/-- Next states with the same store lead to the same graph log. -/
theorem read_graph_conclude {disk : Disk} {home : Location} {outside : Folder}
    (proper : Disk.Proper home) (upper : disk.node? home = some (.folder outside))
    (fit : ∀ place inside, Sited disk home place inside → Fit disk place inside)
    {first second : Outcome} (next : Pass.SameNext first.next second.next) :
    (conclude (Path.absolute home) first disk).2.read (graphFile.path (Path.absolute home)) =
      (conclude (Path.absolute home) second disk).2.read (graphFile.path (Path.absolute home)) := by
  generalize left : first.next = one, right : second.next = two at next
  cases next with
  | unchanged =>
    rw [conclude, conclude, left, right]
    rfl
  | renewed alike store =>
    rw [snd_conclude left, snd_conclude right]
    exact read_graph_persist proper upper fit rfl

section

variable (parser : Parser) {first second : Config} (now later : Instant)
variable (alike : first.Alike second) (firstValid : first.fault? = none)
variable (secondValid : second.fault? = none) (root : String)
include alike firstValid secondValid

/-- What is read does not depend on how renames are looked for. -/
theorem gather_congr :
    gather ⟨parser, second, later⟩ root = (fun found : String × Reading =>
      (found.1, ⟨⟨parser, second, later⟩, found.2.baseline, found.2.sources⟩)) <$>
        gather ⟨parser, first, now⟩ root := by
  have valid : checkConfig second = checkConfig first := by
    rw [checkConfig, checkConfig, firstValid, secondValid]
  simp only [gather, map_bind, map_pure, valid, loadBaseline?_congr alike, alike.scan]

/-- Either both runs fail before they write, or both conclude with what they have read. -/
theorem run_congr_cases (disk : Disk) :
    (∃ error, run ⟨parser, first, now⟩ root disk = (.error error, disk) ∧
      run ⟨parser, second, later⟩ root disk = (.error error, disk)) ∨
    ∃ home one two, Leads disk root home ∧ one.summary.plain = two.summary.plain ∧
      Pass.SameNext one.next two.next ∧
      run ⟨parser, first, now⟩ root disk = conclude (Path.absolute home) one disk ∧
      run ⟨parser, second, later⟩ root disk = conclude (Path.absolute home) two disk := by
  have unmoved := reads_gather ⟨parser, first, now⟩ root disk
  rw [run_eq, run_eq, gather_congr parser now later alike firstValid secondValid root, bind_apply,
    bind_apply, map_apply]
  rcases gathered : gather ⟨parser, first, now⟩ root disk with ⟨error | ⟨path, reading⟩, after⟩
  · rw [gathered] at unmoved
    cases unmoved
    exact .inl ⟨error, rfl, rfl⟩
  · obtain ⟨rfl, context, home, leads, rfl, _⟩ := gathers_of_gather gathered
    let other : Reading := ⟨⟨parser, second, later⟩, reading.baseline, reading.sources⟩
    have inputs : reading.input.Alike other.input := by
      rw [Reading.input, Reading.input, context]
      exact ⟨rfl, alike, rfl⟩
    exact .inr ⟨home, reading.outcome, other.outcome, leads, Pass.plain_summary_run inputs _,
      Pass.sameNext_run inputs _, rfl, rfl⟩

end

/-- Whether renames are looked for, how similar units have to be for it, and whether sources are
kept for it makes no difference to the graph. From any disk two runs that differ in nothing else
report the same apart from the changes of units, or fail with the same error; one about files that
cannot be read lists all of them. Every file then holds the same on both disks, or manifests that
say the same apart from their times and the sources of units. In particular the graph logs are the
same, unless links among the names that a run writes to lead it to put the manifest into the graph
log. -/
theorem rename_detection_leaves_graph (parser : Parser) {first second : Config}
    (now later : Instant) (alike : first.Alike second) (firstValid : first.fault? = none)
    (secondValid : second.fault? = none) (root : String) (disk : Disk) :
    (run ⟨parser, first, now⟩ root disk).1.map Summary.plain =
        (run ⟨parser, second, later⟩ root disk).1.map Summary.plain ∧
      (∀ path, (run ⟨parser, first, now⟩ root disk).2.read path =
          (run ⟨parser, second, later⟩ root disk).2.read path ∨
        ∃ one two : Manifest, one.Alike two ∧
          (run ⟨parser, first, now⟩ root disk).2.read path = .ok one.write.toUTF8 ∧
          (run ⟨parser, second, later⟩ root disk).2.read path = .ok two.write.toUTF8) ∧
      ∀ home, Disk.Proper home → Leads disk root home →
        (∀ place inside, Sited disk home place inside → Fit disk place inside) →
        (run ⟨parser, first, now⟩ root disk).2.read (graphFile.path (Path.absolute home)) =
          (run ⟨parser, second, later⟩ root disk).2.read (graphFile.path (Path.absolute home)) := by
  rcases run_congr_cases parser now later alike firstValid secondValid root disk with
    ⟨error, one, two⟩ | ⟨home, left, right, leads, summary, next, one, two⟩
  · rw [one, two]
    exact ⟨rfl, fun _ => .inl rfl, fun _ _ _ _ => rfl⟩
  · rw [one, two]
    have agrees := agrees_conclude (Path.absolute home) summary next disk
    rw [map_apply, map_apply] at agrees
    refine ⟨agrees.result, ?_, ?_⟩
    · intro path
      rcases agrees.disk.read path with same | ⟨_, _, held, leftRead, rightRead⟩
      · exact .inl same
      · cases held with
        | same file => exact .inl (leftRead.trans rightRead.symm)
        | manifests alike =>
          simp only [if_true] at leftRead rightRead
          exact .inr ⟨_, _, alike, leftRead, rightRead⟩
    · intro place proper known fit
      cases known.unique leads
      obtain ⟨entries, found⟩ := leads
      exact read_graph_conclude proper (Disk.node?_of_folder? found) fit next

/-- A configuration that looks for renames. -/
def renamingConfig : Config where
  granularity := .unit
  tracking := { storeSource := true, detectRenames := true, threshold := 0.5 }

theorem rename_detection_leaves_graph_linked :
    Config.Alike { granularity := .unit } renamingConfig ∧ renamingConfig.fault? = none ∧
      (run ⟨fun _ _ => sampleTree, { granularity := .unit }, Instant.ofUnix 0 0⟩
          (Path.absolute ["tree"]) linkedDisk).2.read (graphFile.path (Path.absolute ["tree"])) =
        (run ⟨fun _ _ => sampleTree, renamingConfig, Instant.ofUnix 1 0⟩
          (Path.absolute ["tree"]) linkedDisk).2.read
          (graphFile.path (Path.absolute ["tree"])) := by
  have alike : Config.Alike { granularity := .unit } renamingConfig := ⟨rfl, rfl, rfl, rfl⟩
  have valid : ({ granularity := .unit } : Config).fault? = none := rfl
  have alsoValid : renamingConfig.fault? = none := rfl
  have leads : Leads linkedDisk (Path.absolute ["tree"]) ["tree"] := ⟨_, rfl⟩
  have unaffected := rename_detection_leaves_graph (fun _ _ => sampleTree) (Instant.ofUnix 0 0)
    (Instant.ofUnix 1 0) alike valid alsoValid (Path.absolute ["tree"]) linkedDisk
  have graphs := unaffected.2.2 ["tree"] proper_sample leads fit_linked
  exact ⟨alike, alsoValid, graphs⟩

/-! ## A draft that is a link -/

/-- A state folder in which the draft of the manifest is a link to the graph log. -/
def misled (rest : Folder) : Folder := ("manifest.tmp", .link "graph.jsonl") :: rest

/-- The small tree with such a state folder. -/
abbrev misledDisk (rest : Folder) : Disk := smallDisk sampleFile (misled rest)

/-- The manifest then ends up in the graph log. -/
theorem read_graph_misled (next : Baseline) :
    (persist (Path.absolute ["tree"]) next (misledDisk [])).2.read
      (graphFile.path (Path.absolute ["tree"])) = .ok next.manifest.write.toUTF8 := by
  have site (inside : Folder) :
      Sited (smallDisk sampleFile inside) ["tree"] ["tree", ".arbor"] inside :=
    ⟨proper_sample, rfl⟩
  have first (text : String) : save (Path.absolute ["tree"]) graphFile text (misledDisk []) =
      (.ok (), misledDisk [("graph.jsonl", .file { content := text.toUTF8 })]) :=
    ((site _).save_eq_ok_iff graphFile (by decide) (by decide) (by decide)
      (fun _ known => by cases known) text).2 ⟨rfl, rfl, rfl⟩
  -- The draft of the manifest goes where the link leads, and renaming moves the link.
  have drafted (file new : DiskFile) : (misledDisk [("graph.jsonl", .file file)]).write
      (manifestFile.draftPath (Path.absolute ["tree"])) new =
        .ok (misledDisk [("graph.jsonl", .file new)]) := rfl
  have renamed (file : DiskFile) : (misledDisk [("graph.jsonl", .file file)]).rename
      (manifestFile.draftPath (Path.absolute ["tree"]))
      (manifestFile.path (Path.absolute ["tree"])) =
        .ok (smallDisk sampleFile
          [("graph.jsonl", .file file), ("manifest.json", .link "graph.jsonl")]) :=
    (site _).rename (by decide) (by decide) rfl (by simp)
  have known (file : DiskFile) : Folder.get?
      [("graph.jsonl", .file file), ("manifest.json", .link "graph.jsonl")] graphFile.name =
        some (.file file) := rfl
  simp only [persist, bind_apply, (site _).ensureFolder, first]
  simp only [save, bind_apply, (site _).ensureFolder, perform_apply, drafted, renamed]
  exact (site _).read_text (by decide) (known _)

/-- What a run that keeps the sources of units, or does not, reads from that disk. -/
def misledReading (storeSource : Bool) : Reading where
  context := ⟨fun _ _ => sampleTree, { granularity := .unit, tracking := { storeSource } },
    Instant.ofUnix 0 0⟩
  baseline := none
  sources := (sampleReading .unit none).sources

theorem gathers_misled (storeSource : Bool) :
    Gathers (misledDisk []) ["tree"] (misledReading storeSource) := by
  have ready : Ready (misledDisk []) ["tree"] (misled []) :=
    ⟨proper_sample, ⟨_, rfl⟩, .inl rfl⟩
  have valid : (misledReading storeSource).context.config.fault? = none := by
    cases storeSource <;> rfl
  exact ⟨valid, ready.loadBaseline?_missing _ rfl, sources_sample rfl⟩

/-- The manifest that such a run leaves in the graph log. -/
theorem exists_manifest_misled (storeSource : Bool) :
    ∃ manifest : Manifest, manifest.Dated ∧
      manifest.source? "a.py" "f" = some (if storeSource then some "def f(): 1" else none) ∧
      (run (misledReading storeSource).context (Path.absolute ["tree"]) (misledDisk [])).2.read
        (graphFile.path (Path.absolute ["tree"])) = .ok manifest.write.toUTF8 := by
  have dated : (misledReading storeSource).input.Dated := by
    refine ⟨rfl, fun source member time bears => ?_⟩
    cases List.mem_singleton.1 member
    cases bears
    rfl
  have kept : (misledReading storeSource).outcome.next.bind (·.manifest.source? "a.py" "f") =
      some (if storeSource then some "def f(): 1" else none) := by
    cases storeSource <;> decide +kernel
  have leads : Leads (misledDisk []) (Path.absolute ["tree"]) ["tree"] := ⟨_, rfl⟩
  cases known : (misledReading storeSource).outcome.next with
  | none => cases known
  | some next =>
    have times := Pass.dated_advance dated (fun _ loaded => by cases loaded) known
    rw [known] at kept
    refine ⟨next.manifest, times, kept, ?_⟩
    rw [run_of_gathers leads (gathers_misled storeSource), snd_conclude known]
    exact read_graph_misled next

/-- Then whether sources are kept for renames shows in the graph log. -/
theorem misled_manifest_shows_sources :
    (misledReading false).context.config.Alike (misledReading true).context.config ∧
    (run (misledReading false).context (Path.absolute ["tree"]) (misledDisk [])).2.read
        (graphFile.path (Path.absolute ["tree"])) ≠
      (run (misledReading true).context (Path.absolute ["tree"]) (misledDisk [])).2.read
        (graphFile.path (Path.absolute ["tree"])) := by
  refine ⟨⟨rfl, rfl, rfl, rfl⟩, ?_⟩
  intro same
  obtain ⟨one, oneDated, oneSource, oneLeft⟩ := exists_manifest_misled false
  obtain ⟨two, twoDated, twoSource, twoLeft⟩ := exists_manifest_misled true
  rw [oneLeft, twoLeft, Except.ok.injEq] at same
  have manifests := congrArg Manifest.parse? (String.toByteArray_inj.1 same)
  rw [Manifest.parse?_write_of_dated oneDated, Manifest.parse?_write_of_dated twoDated] at manifests
  cases manifests
  rw [oneSource] at twoSource
  cases twoSource

end Workspace

end SourceIndex
