import SourceIndex.Proofs.Provenance
import SourceIndex.Proofs.Reachability
import SourceIndex.Proofs.Rebuild
import SourceIndex.Proofs.Reload

/-!
# Call graphs after a history

At unit granularity a unit keeps its record as long as its source changes in its layout only. After
any history the call graph is that of a rebuild, if the layout of a unit has no part in what it
calls.
-/

namespace SourceIndex

/-! ## Units of a call graph -/

namespace SourceUnit

/-- Units that are one node of a call graph, with the same calls. -/
structure SameNode (first second : SourceUnit) : Prop where
  key : first.key = second.key
  name : first.name = second.name
  anonymous : first.isAnonymous = second.isAnonymous
  calls : first.calls = second.calls

theorem SameNode.node_record {first second : SourceUnit} (same : SameNode first second)
    (maxCalls : Nat) {file other : SourceFile} (path : file.path = other.path) :
    (first.record maxCalls file).node = (second.record maxCalls other).node := by
  rw [Record.node, Record.node, nodeName_record, nodeName_record, identifier, identifier, same.key,
    same.name, same.anonymous, path]
  simp only [record, same.calls]

end SourceUnit

/-- The digest of a unit is that of its source. -/
theorem Extraction.hash_of_mem_finishAll {grammar : Grammar} {source : String} {digest : Digest}
    {calls : List (Nat × String)} {used : List String} {index : Nat} {drafts : List Draft}
    {unit : SourceUnit} (member : unit ∈ finishAll grammar source digest calls used index drafts) :
    unit.hash = digest.ofSource unit.source := by
  induction drafts generalizing used index with
  | nil => cases member
  | cons draft drafts ih =>
    rw [finishAll] at member
    cases List.mem_cons.1 member with
    | inl first => simp only [first, finish]
    | inr later => exact ih later

theorem SourceFile.hash_of_ofContent? {parser : Parser} {digest : Digest} {path : String}
    {language : Language} {content : ByteArray} {file : SourceFile} {unit : SourceUnit}
    (read : ofContent? parser digest path language content = some file)
    (member : unit ∈ file.units) : unit.hash = digest.ofSource unit.source := by
  obtain ⟨text, _, rfl⟩ := Option.map_eq_some_iff.1 read
  exact Extraction.hash_of_mem_finishAll member

/-! ## Entries -/

/-- An entry remembers a unit with a digest. -/
def FileEntry.Remembers (entry : FileEntry) (key hash : String) : Prop :=
  ∃ fingerprints fingerprint, entry.fingerprints = some fingerprints ∧
    fingerprints.get? key = some fingerprint ∧ fingerprint.hash = hash

namespace Pass

variable {input : Input} {baseline : Option Baseline} {source : Source} {file : SourceFile}
variable {analysis : FileAnalysis}

/-- At unit granularity, the entry of a whole file remembers its units and no others. -/
theorem remembers_of_whole (granularity : input.config.granularity = .unit)
    (found : analysis? input baseline source = some analysis)
    (read : input.analyzer.file? source = some file) (whole : file.Whole) {key hash : String} :
    analysis.entry.Remembers key hash ↔ ∃ unit ∈ file.units, unit.key = key ∧ unit.hash = hash := by
  obtain ⟨other, reread, _, _, fingerprints⟩ := FileAnalysis.renewed_of_unit granularity found
  cases read.symm.trans reread
  have distinct := SourceFile.nodup_keys_of_ofContent? reread
  have sound : ∀ {unit}, unit ∈ file.soundUnits ↔ unit ∈ file.units := by
    intro unit
    rw [SourceFile.soundUnits, List.mem_filter, and_iff_left_iff_imp]
    intro member
    simp [whole unit member]
  have unbroken : FileAnalysis.isBroken file key = false := by
    rw [FileAnalysis.isBroken, List.any_eq_false]
    intro unit member
    obtain ⟨listed, broken⟩ := List.mem_filter.1 member
    rw [whole unit listed] at broken
    cases broken
  rw [FileEntry.Remembers, fingerprints]
  constructor
  · rintro ⟨_, fingerprint, listed, known, rfl⟩
    cases listed
    rcases (FileAnalysis.get?_fingerprints_iff distinct).1 known with
      ⟨unit, member, same, rfl⟩ | ⟨broken, _⟩
    · exact ⟨unit, sound.1 member, same, rfl⟩
    · rw [unbroken] at broken
      cases broken
  · rintro ⟨unit, member, rfl, rfl⟩
    exact ⟨_, _, rfl, (FileAnalysis.get?_fingerprints_iff distinct).2
      (.inl ⟨unit, sound.2 member, rfl, rfl⟩), rfl⟩

end Pass

/-! ## Histories -/

namespace Workspace

/-- The entry of a file, apart from its time, is what a run of the history has derived from a
source. -/
inductive EntryOrigin (events : List Event) (granularity : Granularity) (digest : Digest)
    (path : String) : FileEntry → Prop where
  | analyzed {reading : Reading} {source : Source} {analysis : FileAnalysis} {entry : FileEntry}
    (ran : reading ∈ readings events) (listed : source ∈ reading.sources)
    (here : source.path = path)
    (units : reading.context.config.granularity = granularity)
    (hashes : reading.context.config.tracking.digest = digest)
    (found : Pass.analysis? reading.input reading.baseline source = some analysis)
    (same : entry.timeless = analysis.entry.timeless) :
    EntryOrigin events granularity digest path entry

/-- Every entry of a state has an origin. -/
def Derivable (events : List Event) (state : Baseline) : Prop :=
  ∀ path entry, state.manifest.file? path = some entry →
    EntryOrigin events state.manifest.granularity state.manifest.digest path entry

section

variable {events more : List Event} {granularity : Granularity} {digest : Digest} {path : String}
variable {entry other : FileEntry}

theorem EntryOrigin.mono (listed : readings events ⊆ readings more)
    (origin : EntryOrigin events granularity digest path entry) :
    EntryOrigin more granularity digest path entry := by
  cases origin with
  | analyzed ran seen here units hashes found same =>
    exact .analyzed (listed ran) seen here units hashes found same

theorem EntryOrigin.congr (equal : other.timeless = entry.timeless)
    (origin : EntryOrigin events granularity digest path entry) :
    EntryOrigin events granularity digest path other := by
  cases origin with
  | analyzed ran seen here units hashes found same =>
    exact .analyzed ran seen here units hashes found (equal.trans same)

/-- Entries that agree apart from their times exist together. -/
theorem exists_timeless_eq {first second : Option FileEntry}
    (same : first.map FileEntry.timeless = second.map FileEntry.timeless)
    (known : first = some entry) :
    ∃ other, second = some other ∧ entry.timeless = other.timeless := by
  rw [known, Option.map_some] at same
  obtain ⟨other, found, equal⟩ := Option.map_eq_some_iff.1 same.symm
  exact ⟨other, found, equal.symm⟩

end

theorem kept_derivable : Kept Derivable where
  similar := by
    intro events first second derivable similar _ path entry known
    obtain ⟨other, found, equal⟩ := exists_timeless_eq (similar.file? path) known
    rw [similar.granularity, similar.digest]
    exact (derivable path other found).congr equal
  edit := by
    intro events state derivable path entry known
    exact (derivable path entry known).mono (by rw [readings_edit]; exact .refl _)
  run := by
    intro events reading final before known path entry remembered
    have settings := Manifest.compatible_iff.1
      (Pass.compatible_final known fun state loaded => (before state loaded).1)
    have step := Pass.fileStep_run known path
    rw [settings.2.1, settings.2.2]
    generalize final.manifest.file? path = after at step remembered
    generalize final.store.ofFile path = records at step
    cases step with
    | gone absent => cases remembered
    | analyzed here stale found =>
      cases remembered
      obtain ⟨rfl, member⟩ := Pass.Input.source?_eq_some here
      exact .analyzed (by simp) member rfl rfl rfl found rfl
    | kept here reason same =>
      obtain ⟨other, old, equal⟩ := exists_timeless_eq same remembered
      obtain ⟨state, loaded, found⟩ := Option.bind_eq_some_iff.1 old
      obtain ⟨fits, derivable⟩ := before state loaded
      have origin := derivable path other found
      have compatible := Manifest.compatible_iff.1 fits
      rw [compatible.2.1, compatible.2.2] at origin
      exact (origin.congr equal).mono (by rw [readings_run]; exact List.subset_append_left _ _)

/-- All runs of a history have one parser and one configuration. -/
def Uniform (parser : Parser) (config : Config) (events : List Event) : Prop :=
  ∀ reading ∈ readings events, reading.context.parser = parser ∧ reading.context.config = config

/-- A unit without a syntax error, in a source that a run of the history has read. -/
inductive Occurs (events : List Event) (path : String) : SourceUnit → Prop where
  | read {reading : Reading} {source : Source} {file : SourceFile} {unit : SourceUnit}
    (ran : reading ∈ readings events) (listed : source ∈ reading.sources)
    (here : source.path = path) (read : reading.input.analyzer.file? source = some file)
    (member : unit ∈ file.units) (sound : unit.hasError = false) : Occurs events path unit

/-- The digest tells apart the units that a history has seen, up to their layout. -/
def TellsUnitsApart (digest : Digest) (events : List Event) : Prop :=
  ∀ path first second, Occurs events path first → Occurs events path second →
    digest.ofSource first.source = digest.ofSource second.source →
    Text.normalize first.source = Text.normalize second.source

/-- The layout of a unit has no part in what the call graph sees of it. -/
def LayoutFree (events : List Event) : Prop :=
  ∀ path first second, Occurs events path first → Occurs events path second →
    first.key = second.key → Text.normalize first.source = Text.normalize second.source →
    first.SameNode second

/-- What the sources of a run, on their own, give a call graph to see. -/
def Reading.HasNode (reading : Reading) (node : String × List String) : Prop :=
  ∃ path source file, ∃ unit ∈ file.units, reading.input.source? path = some source ∧
    reading.input.analyzer.file? source = some file ∧
    (unit.record reading.input.analyzer.maxCalls file).node = node

section

variable {events : List Event} {reading : Reading} {state : Baseline} {path : String}
variable {source : Source} {file : SourceFile} {unit : SourceUnit}

theorem Reading.Whole.occurs (whole : reading.Whole) (ran : reading ∈ readings events)
    (here : reading.input.source? path = some source)
    (read : reading.input.analyzer.file? source = some file) (member : unit ∈ file.units) :
    Occurs events path unit := by
  obtain ⟨rfl, listed⟩ := Pass.Input.source?_eq_some here
  obtain ⟨other, reread, sound⟩ := whole source listed
  cases read.symm.trans reread
  exact .read ran listed rfl read member (sound unit member)

/-- Units with one key and one digest are one node, if the digest tells units apart and their
layout has no part. -/
theorem sameNode_of_hash {other : SourceUnit} {digest : Digest}
    (unitsApart : TellsUnitsApart digest events) (layoutFree : LayoutFree events)
    (first : Occurs events path unit) (second : Occurs events path other)
    (hash : unit.hash = digest.ofSource unit.source)
    (otherHash : other.hash = digest.ofSource other.source)
    (key : unit.key = other.key) (same : unit.hash = other.hash) : unit.SameNode other := by
  rw [hash, otherHash] at same
  exact layoutFree path unit other first second key (unitsApart path unit other first second same)

variable
  (uniform : Uniform reading.context.parser reading.context.config (events ++ [.run reading]))
  (whole : reading.Whole)
include uniform whole

/-- A record whose origin fits a unit is the same to a call graph as the record of the unit. -/
theorem node_of_origin
    (unitsApart : TellsUnitsApart reading.context.config.tracking.digest (events ++ [.run reading]))
    (layoutFree : LayoutFree (events ++ [.run reading])) {record : Record}
    (here : reading.input.source? path = some source)
    (read : reading.input.analyzer.file? source = some file) (member : unit ∈ file.units)
    (origin : Origin (events ++ [.run reading]) path unit.key unit.hash record) :
    record.node = (unit.record reading.input.analyzer.maxCalls file).node := by
  have occurs : Occurs (events ++ [.run reading]) path unit :=
    whole.occurs (by simp) here read member
  have hash : unit.hash = reading.context.config.tracking.digest.ofSource unit.source :=
    SourceFile.hash_of_ofContent? read member
  have filePath := SourceFile.path_of_ofContent? read
  obtain ⟨samePath, _⟩ := Pass.Input.source?_eq_some here
  generalize known : unit.key = key at origin
  generalize remembered : unit.hash = digest at origin
  cases origin with
  | @built earlier old oldFile oldUnit ran analyzed oldPath reread oldMember sound =>
    obtain ⟨_, sameConfig⟩ := uniform earlier ran
    obtain ⟨oldHere, _⟩ := Pass.mem_stale_iff.1 analyzed
    have oldOccurs : Occurs (events ++ [.run reading]) path oldUnit :=
      .read ran (Pass.Input.source?_eq_some oldHere).2 oldPath reread oldMember sound
    have oldHash : oldUnit.hash = earlier.context.config.tracking.digest.ofSource oldUnit.source :=
      SourceFile.hash_of_ofContent? reread oldMember
    have oldFilePath := SourceFile.path_of_ofContent? reread
    rw [sameConfig] at oldHash ⊢
    have same := sameNode_of_hash unitsApart layoutFree occurs oldOccurs hash oldHash known
      remembered
    exact (same.node_record _ (by rw [filePath, oldFilePath, samePath, oldPath])).symm

/-- After a run over whole files, the entry of each remembers its units and no others. -/
theorem exists_entry_of_source (granularity : reading.context.config.granularity = .unit)
    (tellsApart : TellsApart reading.context.config.tracking.digest (events ++ [.run reading]))
    (language : ∀ source ∈ seenSources (events ++ [.run reading]),
      Language.ofPath? source.path = some source.language)
    (derivable : Derivable (events ++ [.run reading]) state)
    (matched : Matched (events ++ [.run reading]) state)
    (covered : Covered (events ++ [.run reading]) state)
    (here : reading.input.source? path = some source)
    (read : reading.input.analyzer.file? source = some file) :
    ∃ entry, state.manifest.file? path = some entry ∧ ∀ {key hash},
      entry.Remembers key hash ↔ ∃ unit ∈ file.units, unit.key = key ∧ unit.hash = hash := by
  have settings := Manifest.compatible_iff.1 (matched reading (lastReading?_run ..))
  have covers := covered reading (lastReading?_run ..) path
  rw [Pass.Covers, here] at covers
  obtain ⟨known, found, hash⟩ := covers (Option.isSome_iff_exists.2 ⟨file, read⟩)
  obtain ⟨entry, remembered, rfl⟩ := Option.map_eq_some_iff.1 found
  refine ⟨entry, remembered, fun {key digest} => ?_⟩
  obtain ⟨rfl, member⟩ := Pass.Input.source?_eq_some here
  have seen : source ∈ seenSources (events ++ [.run reading]) :=
    List.mem_flatMap.2 ⟨reading, by simp, member⟩
  cases derivable _ entry remembered with
  | @analyzed earlier old analysis _ ran listed oldPath _ _ derived same =>
    obtain ⟨sameParser, sameConfig⟩ := uniform earlier ran
    have oldSeen : old ∈ seenSources (events ++ [.run reading]) :=
      List.mem_flatMap.2 ⟨earlier, ran, listed⟩
    obtain ⟨_, _, derivedEntry, _⟩ := FileAnalysis.exists_file_of_ofSource? derived
    have analyzer : earlier.input.analyzer = reading.input.analyzer := by
      rw [Pass.Input.analyzer, Pass.Input.analyzer, Reading.input, Reading.input, sameParser,
        sameConfig]
    -- The entry was derived from the content that the source has now.
    have content : old.content = source.content := by
      apply tellsApart old oldSeen source seen
      have oldHash : entry.timeless.hash =
          earlier.context.config.tracking.digest.ofBytes old.content := by
        rw [same, derivedEntry]
        rfl
      rw [← sameConfig, ← oldHash, hash, sameConfig]
      rfl
    have sameLanguage : old.language = source.language := Option.some.inj
      ((language old oldSeen).symm.trans (oldPath ▸ language source seen))
    have reread : earlier.input.analyzer.file? old = some file := by
      rw [analyzer, Analyzer.file?, oldPath, sameLanguage, content]
      exact read
    obtain ⟨other, again, sound⟩ := whole source member
    cases read.symm.trans again
    have fingerprints : entry.fingerprints = analysis.entry.fingerprints := by
      have equal := congrArg FileEntry.fingerprints same
      exact equal
    rw [FileEntry.Remembers, fingerprints]
    exact Pass.remembers_of_whole ((congrArg Config.granularity sameConfig).trans granularity)
      derived reread sound

/-- After a run over whole files, a call graph sees what their sources give on their own. -/
theorem mem_nodes_of_state (granularity : reading.context.config.granularity = .unit)
    (tellsApart : TellsApart reading.context.config.tracking.digest (events ++ [.run reading]))
    (unitsApart : TellsUnitsApart reading.context.config.tracking.digest (events ++ [.run reading]))
    (layoutFree : LayoutFree (events ++ [.run reading]))
    (language : ∀ source ∈ seenSources (events ++ [.run reading]),
      Language.ofPath? source.path = some source.language)
    (inStep : InStep (Origin (events ++ [.run reading])) state)
    (derivable : Derivable (events ++ [.run reading]) state)
    (matched : Matched (events ++ [.run reading]) state)
    (covered : Covered (events ++ [.run reading]) state) {node : String × List String} :
    node ∈ state.store.records.map Record.node ↔ reading.HasNode node := by
  have settings := Manifest.compatible_iff.1 (matched reading (lastReading?_run ..))
  have unitwise := settings.2.1.trans granularity
  rw [List.mem_map]
  constructor
  · rintro ⟨record, member, rfl⟩
    obtain ⟨entry, remembered⟩ := inStep.covered member
    obtain ⟨_, _, tracked⟩ := remembered ▸ inStep.files record.file
    obtain ⟨fingerprints, listed, tracked⟩ := tracked unitwise
    obtain ⟨key, fingerprint, found, id⟩ :=
      tracked.covered record (Store.mem_ofFile_iff.2 ⟨member, rfl⟩)
    obtain ⟨_, other, isRecord, origin⟩ := exists_isRecord unitwise inStep
      (Option.bind_eq_some_iff.2 ⟨entry, remembered, listed⟩) found
    cases (isRecord record).1 ⟨member, rfl, id.symm⟩
    have covers := covered reading (lastReading?_run ..) record.file
    rw [Pass.Covers, remembered] at covers
    cases here : reading.input.source? record.file with
    | none =>
      rw [here] at covers
      cases covers
    | some source =>
      obtain ⟨file, read, _⟩ := whole source (Pass.Input.source?_eq_some here).2
      obtain ⟨same, known, units⟩ := exists_entry_of_source uniform whole granularity
        tellsApart language derivable matched covered here read
      cases remembered.symm.trans known
      obtain ⟨unit, unitMember, rfl, hash⟩ :=
        units.1 ⟨fingerprints, fingerprint, listed, found, rfl⟩
      rw [← hash] at origin
      exact ⟨record.file, source, file, unit, unitMember, here, read,
        (node_of_origin uniform whole unitsApart layoutFree here read unitMember origin).symm⟩
  · rintro ⟨path, source, file, unit, member, here, read, rfl⟩
    obtain ⟨entry, remembered, units⟩ := exists_entry_of_source uniform whole granularity
      tellsApart language derivable matched covered here read
    obtain ⟨fingerprints, fingerprint, listed, found, hash⟩ := units.2 ⟨unit, member, rfl, rfl⟩
    obtain ⟨_, record, isRecord, origin⟩ := exists_isRecord unitwise inStep
      (Option.bind_eq_some_iff.2 ⟨entry, remembered, listed⟩) found
    rw [hash] at origin
    exact ⟨record, ((isRecord record).2 rfl).1,
      node_of_origin uniform whole unitsApart layoutFree here read member origin⟩

end

/-- What occurs in a rebuild occurs in the run that it repeats. -/
theorem Occurs.of_again {events : List Event} {reading : Reading} {now : Instant} {path : String}
    {unit : SourceUnit} (occurs : Occurs ([] ++ [.run (reading.again now)]) path unit) :
    Occurs (events ++ [.run reading]) path unit := by
  cases occurs with
  | read ran listed here read member sound =>
    cases List.mem_singleton.1 ran
    have last : reading ∈ readings (events ++ [.run reading]) := by simp
    exact .read last listed here read member sound

/-- After any history of runs with one configuration, the last of them at unit granularity and over
whole files, the call graph has the nodes and the edges that it has after a run from a cleared
state, if the layout of units has no part in what they call. -/
theorem call_graph_eq_rebuild {home : Location} {start finish : Disk} {events : List Event}
    {reading : Reading} (proper : Disk.Proper home) (stateless : Stateless start home)
    (history : History home start (events ++ [.run reading]) finish)
    (uniform : Uniform reading.context.parser reading.context.config events)
    (granularity : reading.context.config.granularity = .unit) (whole : reading.Whole)
    (tellsApart : TellsApart reading.context.config.tracking.digest (events ++ [.run reading]))
    (unitsApart : TellsUnitsApart reading.context.config.tracking.digest
      (events ++ [.run reading]))
    (layoutFree : LayoutFree (events ++ [.run reading]))
    (apart : ∀ path ∈ ignorePaths (Path.absolute home) reading.context.config.scan,
      Apart finish home path) (now : Instant) :
    ∃ cleared rebuilt summary, ∃ state full : Baseline,
      clear (Path.absolute home) finish = (.ok (), cleared) ∧
      run { reading.context with now } (Path.absolute home) cleared = (.ok summary, rebuilt) ∧
      Persisted finish home state.manifest state.store.records ∧
      Persisted rebuilt home full.manifest full.store.records ∧
      (CallGraph.build state.store.records).nodes.Perm
        (CallGraph.build full.store.records).nodes ∧
      (CallGraph.build state.store.records).edges.Perm
        (CallGraph.build full.store.records).edges := by
  have kept := kept_inStep.and (kept_derivable.and (kept_matched.and kept_covered))
  obtain ⟨before, ran⟩ := history.ran kept proper stateless
  obtain ⟨cleared, rebuilt, summary, done, finished, blank, again⟩ := ran.exists_rebuild apart now
  obtain ⟨inside, state, ready, stores, inStep, derivable, matched, covered⟩ := ran.left
  have uniformAll : Uniform reading.context.parser reading.context.config
      (events ++ [.run reading]) := by
    simpa [Uniform, or_imp, forall_and] using uniform
  have nodes (node : String × List String) :
      node ∈ state.store.records.map Record.node ↔ reading.HasNode node :=
    mem_nodes_of_state uniformAll whole granularity tellsApart unitsApart layoutFree
      history.language inStep derivable matched covered
  -- The rebuild reads what the last run has read, so nothing else occurs in it.
  obtain ⟨full, persisted, inStep, derivable, matched, covered⟩ := again.persisted kept proper blank
  have wholeAgain : (reading.again now).Whole := whole
  have listed : seenSources ([] ++ [.run (reading.again now)]) ⊆
      seenSources (events ++ [.run reading]) := by
    simp [seenSources, readings, Reading.again]
  have rebuiltNodes (node : String × List String) :
      node ∈ full.store.records.map Record.node ↔ (reading.again now).HasNode node := by
    apply mem_nodes_of_state _ wholeAgain granularity _ _ _ again.language inStep derivable matched
      covered
    · intro other member
      cases List.mem_singleton.1 member
      exact ⟨rfl, rfl⟩
    · intro first seen second seenToo
      exact tellsApart first (listed seen) second (listed seenToo)
    · intro path first second left right
      exact unitsApart path first second left.of_again right.of_again
    · intro path first second left right
      exact layoutFree path first second left.of_again right.of_again
  refine ⟨cleared, rebuilt, summary, state, full, done, finished, ⟨inside, ready.holds, stores⟩,
    persisted, CallGraph.perm_build fun node => ?_⟩
  rw [nodes, rebuiltNodes]
  rfl

/-- What counts of a unit, apart from its layout. -/
def unitView (unit : SourceUnit) : String × String × Bool × List String × String :=
  (unit.key, unit.name, unit.isAnonymous, unit.calls, Text.normalize unit.source)

/-- In both layouts the small file has the same unit. -/
theorem unitView_sample {file : DiskFile} (known : file ∈ [sampleFile, respacedFile]) :
    ∃ found, (sampleReading .unit none).input.analyzer.file? (sampleSource file) = some found ∧
      ∀ unit ∈ found.units, unitView unit = ("f", "f", false, [], "def f():1") := by
  have all : ((sampleReading .unit none).input.analyzer.file? (sampleSource file)).map
      (fun found => decide
        (∀ unit ∈ found.units, unitView unit = ("f", "f", false, [], "def f():1"))) =
      some true := by
    simp only [List.mem_cons, List.not_mem_nil, or_false] at known
    rcases known with rfl | rfl <;> decide +kernel
  obtain ⟨found, read, view⟩ := Option.map_eq_some_iff.1 all
  exact ⟨found, read, of_decide_eq_true view⟩

section

variable {reading : Reading} {finish : Disk} (rerun : Rerun .unit respacedFile reading finish)
include rerun

theorem unitView_of_relaid {path : String} {unit : SourceUnit}
    (occurs : Occurs (rerunEvents .unit reading) path unit) :
    unitView unit = ("f", "f", false, [], "def f():1") := by
  cases occurs with
  | @read read source file _ ran member here known unitMember sound =>
    obtain ⟨version, either, rfl⟩ := rerun.exists_file (List.mem_flatMap.2 ⟨read, ran, member⟩)
    obtain ⟨found, reread, view⟩ := unitView_sample either
    rw [rerun.analyzer ran] at known
    cases known.symm.trans reread
    exact view unit unitMember

/-- All units that occur are one unit, up to its layout. -/
theorem layoutFree_relaid :
    TellsUnitsApart .sha256 (rerunEvents .unit reading) ∧
      LayoutFree (rerunEvents .unit reading) := by
  have view {path : String} {first second : SourceUnit}
      (left : Occurs (rerunEvents .unit reading) path first)
      (right : Occurs (rerunEvents .unit reading) path second) : unitView first = unitView second :=
    (unitView_of_relaid rerun left).trans (unitView_of_relaid rerun right).symm
  simp only [unitView, Prod.mk.injEq] at view
  constructor
  · intro path first second left right _
    exact (view left right).2.2.2.2
  · intro path first second left right key _
    obtain ⟨_, name, anonymous, calls, _⟩ := view left right
    exact ⟨key, name, anonymous, calls⟩

end

/-- After the small file was laid out anew, the call graph is still that of a rebuild. -/
theorem call_graph_eq_rebuild_relaid :
    ∃ reading finish cleared rebuilt summary, ∃ state full : Baseline,
      Rerun .unit respacedFile reading finish ∧
      clear (Path.absolute ["tree"]) finish = (.ok (), cleared) ∧
      run (sampleReading .unit none).context (Path.absolute ["tree"]) cleared =
        (.ok summary, rebuilt) ∧
      Persisted finish ["tree"] state.manifest state.store.records ∧
      Persisted rebuilt ["tree"] full.manifest full.store.records ∧
      (CallGraph.build state.store.records).nodes.Perm
        (CallGraph.build full.store.records).nodes ∧
      (CallGraph.build state.store.records).edges.Perm
        (CallGraph.build full.store.records).edges := by
  have known : respacedFile ∈ [changedFile, respacedFile] := by simp
  obtain ⟨reading, finish, rerun⟩ := exists_rerun .unit known
  obtain ⟨unitsApart, layoutFree⟩ := layoutFree_relaid rerun
  have result := call_graph_eq_rebuild proper_sample stateless_sample rerun.history
    (by simp [Uniform, readings, rerun.context]) (congrArg (·.config.granularity) rerun.context)
    (rerun.whole known) (by rw [rerun.context]; exact rerun.tellsApart known)
    (by rw [rerun.context]; exact unitsApart) layoutFree rerun.apart (Instant.ofUnix 0 0)
  obtain ⟨cleared, rebuilt, summary, state, full, done, again, rest⟩ := result
  rw [rerun.context] at again
  exact ⟨reading, finish, cleared, rebuilt, summary, state, full, rerun, done, again, rest⟩

/-! ## Layout that matters -/

/-- A function that calls itself after a line comment. -/
def callingText : String := "function f() \x7b\n  // x\n  f();\n\x7d\n"

/-- The same text in another layout, in which the comment takes in the call. -/
def silentText : String := "function f() \x7b\n  // x f();\n\x7d\n"

/-- The syntax trees of the two texts. -/
def commentParser : Parser := fun _ text =>
  let calls : List Node :=
    if text = callingText then
      [⟨"call_expression", none, true, false, 24, 27,
        [⟨"identifier", some "function", true, false, 24, 25, []⟩]⟩]
    else []
  ⟨"program", none, true, false, 0, text.utf8ByteSize,
    [⟨"function_declaration", none, true, false, 0, text.utf8ByteSize - 1,
      [⟨"identifier", some "name", true, false, 9, 10, []⟩,
       ⟨"statement_block", some "body", true, false, 13, text.utf8ByteSize - 1, calls⟩]⟩]⟩

/-- A pass at unit granularity over a file with one of the two texts. -/
def commentInput (text : String) : Pass.Input :=
  ⟨commentParser, { granularity := .unit }, Instant.ofUnix 0 0,
    [⟨"a.js", .javascript, text.toUTF8, some (Instant.ofUnix 0 0)⟩]⟩

/-- The edges after a pass. -/
def edgesAfter (input : Pass.Input) (baseline : Option Baseline) :
    Option (List (String × String)) :=
  (Pass.final? input baseline).map fun state => (CallGraph.build state.store.records).edges

/-- Where the layout of a unit has a part in what it calls, a call that is gone can stay in the call
graph: the digest of the unit does not see the change. -/
theorem call_graph_keeps_swallowed_call :
    Text.normalize callingText = Text.normalize silentText ∧
      edgesAfter (commentInput silentText) (Pass.final? (commentInput callingText) none) =
        some [("f", "f")] ∧
      edgesAfter (commentInput silentText) none = some [] := by
  decide +kernel

end Workspace

end SourceIndex
