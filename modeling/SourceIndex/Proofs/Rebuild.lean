import SourceIndex.Proofs.Reload

/-!
# Runs and rebuilds

At file granularity, a run that builds on older state leaves what a run without any state leaves.
Whatever is remembered of a file was derived from one of its contents, and it is remembered with the
digest of that content: if the digest still fits, so does the rest.
-/

namespace SourceIndex

/-! ## Whole files -/

/-- What the analysis of a whole file depends on, apart from the file. -/
structure Analyzer where
  parser : Parser
  digest : Digest
  maxCalls : Nat

/-- A file of which every unit can be analysed. -/
def SourceFile.Whole (file : SourceFile) : Prop := ∀ unit ∈ file.units, unit.hasError = false

instance (file : SourceFile) : Decidable file.Whole :=
  inferInstanceAs (Decidable (∀ unit ∈ file.units, unit.hasError = false))

namespace Analyzer

/-- The units of a source, if it is text. -/
def file? (analyzer : Analyzer) (source : Source) : Option SourceFile :=
  SourceFile.ofContent? analyzer.parser analyzer.digest source.path source.language source.content

/-- The entry of a source without its time, given its units. -/
def entry (analyzer : Analyzer) (source : Source) (file : SourceFile) : FileEntry where
  hash := analyzer.digest.ofBytes source.content
  size := UInt64.ofNat source.content.size
  lastModified := none
  units := file.units.map (·.identifier file.path)
  fingerprints := none

/-- The records of all units of a file. -/
def records (analyzer : Analyzer) (file : SourceFile) : List Record :=
  file.units.map (·.record analyzer.maxCalls file)

/-- What is known of a file was derived from a source. Broken units keep older records, so that only
a whole file determines what is known of it. -/
structure Reflects (analyzer : Analyzer) (source : Source) (entry : FileEntry)
    (records : List Record) : Prop where
  hash : entry.hash = analyzer.digest.ofBytes source.content
  whole : ∀ file, analyzer.file? source = some file → file.Whole →
    entry = analyzer.entry source file ∧ records = analyzer.records file

/-- What is known of a file was derived from one of some sources. -/
def Reflected (analyzer : Analyzer) (sources : List Source) (path : String)
    (records : List Record) : Option FileEntry → Prop
  | none => records = []
  | some entry => ∃ source ∈ sources, source.path = path ∧ analyzer.Reflects source entry records

theorem Reflected.mono {analyzer : Analyzer} {first second : List Source} {path : String}
    {records : List Record} {entry : Option FileEntry} (listed : first ⊆ second)
    (reflected : analyzer.Reflected first path records entry) :
    analyzer.Reflected second path records entry := by
  cases entry with
  | none => exact reflected
  | some entry =>
    obtain ⟨source, member, known⟩ := reflected
    exact ⟨source, listed member, known⟩

end Analyzer

/-- The analyzer of a configuration. -/
def Config.analyzer (config : Config) (parser : Parser) : Analyzer :=
  ⟨parser, config.tracking.digest, config.analysis.maxCallsPerUnit.toNat⟩

namespace FileAnalysis

variable {parser : Parser} {config : Config} {manifest : Option Manifest} {store : Store}
variable {source : Source} {analysis : FileAnalysis}

/-- In a whole file nothing is carried over. -/
theorem deriveFile_of_whole (maxCalls : Nat) (store : Store) {file : SourceFile}
    (whole : file.Whole) :
    (deriveFile maxCalls store file).records = file.units.map (·.record maxCalls file) ∧
      (deriveFile maxCalls store file).keptIds = [] ∧ file.soundUnits = file.units := by
  have derived : ∀ unit ∈ file.units,
      replacement? maxCalls store file unit = some (unit.record maxCalls file) := by
    intro unit member
    rw [replacement?, whole unit member]
    rfl
  have broken : file.brokenUnits = [] := by
    rw [SourceFile.brokenUnits, List.filter_eq_nil_iff]
    intro unit member
    simp [whole unit member]
  refine ⟨?_, by rw [deriveFile, broken]; rfl, ?_⟩
  · rw [records_deriveFile, List.filterMap_congr derived, ← List.filterMap_eq_map]
    rfl
  · rw [SourceFile.soundUnits, List.filter_eq_self]
    intro unit member
    simp [whole unit member]

/-- An analysis at file granularity is known to come from its source. -/
theorem reflects_of_ofSource? (granularity : config.granularity = .file)
    (found : ofSource? parser config manifest store source = some analysis) :
    (config.analyzer parser).Reflects source analysis.entry.timeless
      (Update.renewed config.granularity (store.ofFile source.path) analysis.update) := by
  obtain ⟨file, read, records, units, fingerprints⟩ := renewed_of_file granularity found
  obtain ⟨_, _, entry, _⟩ := exists_file_of_ofSource? found
  refine ⟨by rw [entry]; rfl, fun other known whole => ?_⟩
  cases read.symm.trans known
  obtain ⟨all, none, sound⟩ := deriveFile_of_whole config.analysis.maxCallsPerUnit.toNat store whole
  refine ⟨?_, records.trans all⟩
  rw [FileEntry.timeless, units, fingerprints, none, SourceFile.states, sound, entry]
  simp [Analyzer.entry, Config.analyzer, SourceUnit.state, SourceUnit.fingerprint]

end FileAnalysis

/-! ## Passes -/

namespace Pass

variable {input : Input} {baseline : Option Baseline} {path : String} {entry : Option FileEntry}
variable {records : List Record}

/-- The analyzer of a pass. -/
def Input.analyzer (input : Input) : Analyzer := input.config.analyzer input.parser

/-- Without text there is no analysis. -/
theorem analysis?_eq_none_iff {source : Source} :
    analysis? input baseline source = none ↔ input.analyzer.file? source = none := by
  constructor
  · intro failed
    cases read : input.analyzer.file? source with
    | none => rfl
    | some file => cases Option.bind_eq_none_iff.1 failed file read
  · intro binary
    exact Option.bind_eq_none_iff.2 fun file read => by cases binary.symm.trans read

/-- A pass at file granularity keeps it true that what is known was derived from some source. -/
theorem reflected_fileStep {sources : List Source} (granularity : input.config.granularity = .file)
    (listed : input.sources ⊆ sources)
    (before : ∀ path, input.analyzer.Reflected sources path ((storeOf baseline).ofFile path)
      ((known? baseline path).map FileEntry.timeless))
    (step : FileStep input baseline path entry records) :
    input.analyzer.Reflected sources path records (entry.map FileEntry.timeless) := by
  cases step with
  | gone absent =>
    have known := before path
    cases entry : known? baseline path with
    | none =>
      rw [entry] at known
      exact known
    | some entry => rfl
  | @analyzed source analysis here stale found =>
    obtain ⟨rfl, member⟩ := Input.source?_eq_some here
    exact ⟨source, listed member, rfl, FileAnalysis.reflects_of_ofSource? granularity found⟩
  | kept here reason same =>
    rw [same]
    exact before path

/-- What is remembered of a path covers the source there: a source that is text is remembered with
its digest, and without a source nothing is. -/
def Covers (input : Input) (path : String) (entry : Option FileEntry) : Prop :=
  match input.source? path with
  | none => entry = none
  | some source => (input.analyzer.file? source).isSome →
    ∃ known, entry = some known ∧ known.hash = input.analyzer.digest.ofBytes source.content

/-- After a pass the sources are covered. -/
theorem covers_fileStep (step : FileStep input baseline path entry records) :
    Covers input path (entry.map FileEntry.timeless) := by
  cases step with
  | gone absent =>
    rw [Covers, absent]
    rfl
  | @analyzed source analysis here stale found =>
    rw [Covers, here]
    obtain ⟨_, _, entry, _⟩ := FileAnalysis.exists_file_of_ofSource? found
    exact fun _ => ⟨_, rfl, by rw [entry]; rfl⟩
  | @kept source entry here reason same =>
    rw [Covers, here, same]
    intro isText
    obtain ⟨rfl, _⟩ := Input.source?_eq_some here
    rcases reason with fresh | failed
    · simp only [Stale, not_forall, ne_eq, not_not] at fresh
      obtain ⟨known, remembered, hash⟩ := fresh
      exact ⟨known.timeless, by rw [remembered]; rfl, hash⟩
    · obtain ⟨file, read⟩ := Option.isSome_iff_exists.1 isText
      have analyzed := Option.bind_eq_none_iff.1 failed file read
      cases analyzed

end Pass

/-! ## Histories -/

namespace Workspace

/-- The sources that the runs of a history have read. -/
def seenSources (events : List Event) : List Source := (readings events).flatMap (·.sources)

/-- All runs of a history have one parser and one limit of calls. -/
def Steady (parser : Parser) (maxCalls : UInt64) (events : List Event) : Prop :=
  ∀ reading ∈ readings events, reading.context.parser = parser ∧
    reading.context.config.analysis.maxCallsPerUnit = maxCalls

/-- What is known of each file was derived from a source that the history has seen. -/
def Derived (parser : Parser) (maxCalls : UInt64) (events : List Event) (state : Baseline) : Prop :=
  Steady parser maxCalls events → state.manifest.granularity = .file → ∀ path,
    Analyzer.Reflected ⟨parser, state.manifest.digest, maxCalls.toNat⟩ (seenSources events) path
      (state.store.ofFile path) ((state.manifest.file? path).map FileEntry.timeless)

theorem kept_derived (parser : Parser) (maxCalls : UInt64) : Kept (Derived parser maxCalls) where
  similar := by
    intro events first second known similar same steady granularity path
    rw [similar.file? path, similar.digest, Store.ofFile, same]
    exact known steady (similar.granularity.symm.trans granularity) path
  edit := by
    intro events state known
    simpa only [Derived, Steady, seenSources, readings_edit] using known
  run := by
    intro events reading final before known steady granularity path
    have settings := Manifest.compatible_iff.1
      (Pass.compatible_final known fun state loaded => (before state loaded).1)
    simp only [Steady, readings_run, List.forall_mem_append, List.forall_mem_singleton] at steady
    obtain ⟨earlier, sameParser, sameLimit⟩ := steady
    have analyzer : (⟨parser, final.manifest.digest, maxCalls.toNat⟩ : Analyzer) =
        reading.input.analyzer := by
      rw [settings.2.2, ← sameParser, ← sameLimit]
      rfl
    have all : seenSources (events ++ [.run reading]) = seenSources events ++ reading.sources := by
      simp [seenSources]
    rw [analyzer, all]
    refine Pass.reflected_fileStep (settings.2.1.symm.trans granularity)
      (List.subset_append_right _ _) (fun other => ?_) (Pass.fileStep_run known path)
    cases loaded : reading.baseline with
    | none => rfl
    | some state =>
      obtain ⟨fits, derived⟩ := before state loaded
      have same := Manifest.compatible_iff.1 fits
      have digest : state.manifest.digest = final.manifest.digest :=
        same.2.2.trans settings.2.2.symm
      have reflected := derived earlier (same.2.1.trans (settings.2.1.symm.trans granularity)) other
      rw [digest, analyzer] at reflected
      exact reflected.mono (List.subset_append_left _ _)

/-- The sources of the last run are covered. -/
def Covered (events : List Event) (state : Baseline) : Prop :=
  ∀ reading, lastReading? events = some reading → ∀ path,
    Pass.Covers reading.input path ((state.manifest.file? path).map FileEntry.timeless)

theorem kept_covered : Kept Covered where
  similar := by
    intro events first second covered similar _ reading last path
    rw [similar.file? path]
    exact covered reading last path
  edit _ := by simp [Covered]
  run := by
    intro events reading final before known other last path
    rw [lastReading?_run] at last
    cases last
    exact Pass.covers_fileStep (Pass.fileStep_run known path)

/-- The sources of a history have the languages of their paths. -/
theorem History.language {home : Location} {start finish : Disk} {events : List Event}
    (history : History home start events finish) :
    ∀ source ∈ seenSources events, Language.ofPath? source.path = some source.language := by
  induction history with
  | none => simp [seenSources, readings]
  | next history step ih =>
    cases step with
    | edit => simpa only [seenSources, readings_edit] using ih
    | clear => simpa [seenSources, readings] using ih
    | run leads gathers done =>
      simp only [seenSources, readings_run, List.flatMap_append, List.flatMap_singleton,
        List.forall_mem_append]
      exact ⟨ih, fun source member => language_of_mem_sources gathers.scanned member⟩

/-- The digest tells apart the contents that a history has seen. -/
def TellsApart (digest : Digest) (events : List Event) : Prop :=
  ∀ first ∈ seenSources events, ∀ second ∈ seenSources events,
    digest.ofBytes first.content = digest.ofBytes second.content → first.content = second.content

/-- The sources of a run are text, without any broken unit. -/
def Reading.Whole (reading : Reading) : Prop :=
  ∀ source ∈ reading.sources, ∃ file, reading.input.analyzer.file? source = some file ∧ file.Whole

/-- What a state knows of a file is what the source of a run gives on its own. -/
structure Fresh (reading : Reading) (state : Baseline) (path : String) : Prop where
  entry : (state.manifest.file? path).map FileEntry.timeless =
    (reading.input.source? path).bind fun source =>
      (reading.input.analyzer.file? source).map (reading.input.analyzer.entry source)
  records : state.store.ofFile path =
    ((reading.input.source? path).bind reading.input.analyzer.file?).elim []
      reading.input.analyzer.records

variable {home : Location} {start finish : Disk} {events : List Event} {reading : Reading}
variable {state : Baseline}

/-- If what is known was derived from sources that the digest tells apart, it is up to date. -/
theorem Reading.Whole.entry_eq {sources : List Source} {path : String} {source : Source}
    {entry : FileEntry} {records : List Record} (whole : reading.Whole)
    (here : reading.input.source? path = some source)
    (reflected : reading.input.analyzer.Reflected sources path records (some entry))
    (hash : entry.hash = reading.input.analyzer.digest.ofBytes source.content)
    (same : ∀ old ∈ sources, old.path = source.path →
      reading.input.analyzer.digest.ofBytes old.content =
        reading.input.analyzer.digest.ofBytes source.content →
      old.content = source.content ∧ old.language = source.language) :
    ∃ file, reading.input.analyzer.file? source = some file ∧
      entry = reading.input.analyzer.entry source file ∧
      records = reading.input.analyzer.records file := by
  obtain ⟨rfl, member⟩ := Pass.Input.source?_eq_some here
  obtain ⟨file, read, sound⟩ := whole source member
  obtain ⟨old, seen, path, reflects⟩ := reflected
  obtain ⟨content, language⟩ := same old seen path (reflects.hash.symm.trans hash)
  have reread : reading.input.analyzer.file? old = some file := by
    rw [Analyzer.file?, path, language, content]
    exact read
  obtain ⟨equal, listed⟩ := reflects.whole file reread sound
  refine ⟨file, read, ?_, listed⟩
  rw [equal, Analyzer.entry, Analyzer.entry, content]

/-- At file granularity, a run over whole files leaves what their sources give on their own. -/
theorem fresh_of_derived
    (steady : Steady reading.context.parser reading.context.config.analysis.maxCallsPerUnit events)
    (granularity : reading.context.config.granularity = .file) (whole : reading.Whole)
    (language : ∀ source ∈ seenSources (events ++ [.run reading]),
      Language.ofPath? source.path = some source.language)
    (tellsApart : TellsApart reading.context.config.tracking.digest (events ++ [.run reading]))
    (matched : Matched (events ++ [.run reading]) state)
    (derived : Derived reading.context.parser reading.context.config.analysis.maxCallsPerUnit
      (events ++ [.run reading]) state)
    (covered : Covered (events ++ [.run reading]) state) (path : String) :
    Fresh reading state path := by
  have settings := Manifest.compatible_iff.1 (matched reading (lastReading?_run ..))
  have steadyAll : Steady reading.context.parser
      reading.context.config.analysis.maxCallsPerUnit (events ++ [.run reading]) := by
    simpa [Steady, or_imp, forall_and] using steady
  have reflected := derived steadyAll (settings.2.1.trans granularity)
  rw [settings.2.2] at reflected
  have known := reflected path
  have covers := covered reading (lastReading?_run ..) path
  rw [Pass.Covers] at covers
  cases here : reading.input.source? path with
  | none =>
    rw [here] at covers
    rw [covers] at known
    exact ⟨by rw [covers, here]; rfl, by rw [here]; exact known⟩
  | some source =>
    obtain ⟨rfl, member⟩ := Pass.Input.source?_eq_some here
    have seen : source ∈ seenSources (events ++ [.run reading]) := by
      simp only [seenSources, readings_run, List.flatMap_append, List.flatMap_singleton]
      exact List.mem_append_right _ member
    obtain ⟨file, read, _⟩ := whole source member
    rw [here] at covers
    obtain ⟨entry, found, hash⟩ := covers (Option.isSome_iff_exists.2 ⟨file, read⟩)
    rw [found] at known
    obtain ⟨file, read, equal, listed⟩ := whole.entry_eq here known hash fun old occurs path same =>
      ⟨tellsApart old occurs source seen same, Option.some.inj
        ((language old occurs).symm.trans (path ▸ language source seen))⟩
    exact ⟨by rw [found, equal, here, Option.bind_some, read]; rfl,
      by rw [listed, here, Option.bind_some, read]; rfl⟩

/-- Two states that are up to date for the same sources know the same, apart from times. -/
theorem Fresh.eq_of_sources {other : Reading} {full : Baseline}
    (fresh : ∀ path, Fresh reading state path) (rebuilt : ∀ path, Fresh other full path)
    (sources : other.sources = reading.sources)
    (analyzer : other.input.analyzer = reading.input.analyzer) :
    (∀ path, state.store.ofFile path = full.store.ofFile path) ∧
      state.manifest.files.map FileEntry.timeless = full.manifest.files.map FileEntry.timeless := by
  have found (path : String) : other.input.source? path = reading.input.source? path := by
    rw [Pass.Input.source?, Pass.Input.source?, Reading.input, Reading.input, sources]
  refine ⟨fun path => ?_, KeyMap.ext_get? fun path => ?_⟩
  · rw [(fresh path).records, (rebuilt path).records, found, analyzer]
  · have entry := (fresh path).entry
    rw [← analyzer, ← found, ← (rebuilt path).entry] at entry
    rw [KeyMap.get?_map, KeyMap.get?_map]
    exact entry

/-- The reading of a run like another one, but without older state and at another time. -/
def Reading.again (reading : Reading) (now : Instant) : Reading :=
  ⟨{ reading.context with now }, none, reading.sources⟩

/-- After a run, the state can be cleared and the run made again: it reads the same sources. -/
theorem Ran.exists_rebuild {holds : Baseline → Prop} {before : Disk}
    (ran : Ran holds home reading before finish)
    (apart : ∀ path ∈ ignorePaths (Path.absolute home) reading.context.config.scan,
      Apart finish home path) (now : Instant) :
    ∃ cleared rebuilt summary,
      clear (Path.absolute home) finish = (.ok (), cleared) ∧
      run { reading.context with now } (Path.absolute home) cleared = (.ok summary, rebuilt) ∧
      Stateless cleared home ∧ History home cleared ([] ++ [.run (reading.again now)]) rebuilt := by
  obtain ⟨inside, state, ready, stores, _⟩ := ran.left
  obtain ⟨cleared, empty, done, same, readyCleared, blank⟩ := ready.clear ready.leads stores.tidy
  obtain ⟨outside, upper⟩ := ready.upper
  have scanned : (sources (Path.absolute home) reading.context.config.scan cleared).1 =
      .ok reading.sources := by
    rw [sources_congr ready.proper upper same apart,
      ← sources_congr ready.proper upper ran.same.symm apart, ran.gathers.scanned]
  have gathers : Gathers cleared home (reading.again now) :=
    ⟨ran.gathers.valid, readyCleared.loadBaseline?_missing _ (blank manifestFile.name (by decide)),
      Prod.ext scanned (reads_sources _ _ cleared)⟩
  obtain ⟨rebuilt, finished, _⟩ := readyCleared.exists_run blank.tidy readyCleared.leads gathers
  exact ⟨cleared, rebuilt, _, done, finished, ⟨empty, readyCleared.holds, blank⟩,
    .next .none (.run readyCleared.leads gathers finished)⟩

/-- After any history, a run at file granularity over whole files leaves the same records, file by
file and in order, and the same manifest, apart from times, as one that starts from a cleared
state. -/
theorem run_eq_rebuild (proper : Disk.Proper home) (stateless : Stateless start home)
    (history : History home start (events ++ [.run reading]) finish)
    (steady : Steady reading.context.parser reading.context.config.analysis.maxCallsPerUnit events)
    (granularity : reading.context.config.granularity = .file) (whole : reading.Whole)
    (tellsApart : TellsApart reading.context.config.tracking.digest (events ++ [.run reading]))
    (apart : ∀ path ∈ ignorePaths (Path.absolute home) reading.context.config.scan,
      Apart finish home path) (now : Instant) :
    ∃ cleared rebuilt summary, ∃ state full : Baseline,
      clear (Path.absolute home) finish = (.ok (), cleared) ∧
      run { reading.context with now } (Path.absolute home) cleared = (.ok summary, rebuilt) ∧
      Persisted finish home state.manifest state.store.records ∧
      Persisted rebuilt home full.manifest full.store.records ∧
      (∀ path, state.store.ofFile path = full.store.ofFile path) ∧
      state.manifest.files.map FileEntry.timeless = full.manifest.files.map FileEntry.timeless := by
  have kept := kept_matched.and ((kept_derived reading.context.parser
    reading.context.config.analysis.maxCallsPerUnit).and kept_covered)
  obtain ⟨before, ran⟩ := history.ran kept proper stateless
  obtain ⟨cleared, rebuilt, summary, done, finished, blank, again⟩ := ran.exists_rebuild apart now
  obtain ⟨inside, state, ready, stores, matched, derived, covered⟩ := ran.left
  have fresh :=
    fresh_of_derived steady granularity whole history.language tellsApart matched derived covered
  -- The second history has seen only sources that the first has seen.
  obtain ⟨full, persisted, matched, derived, covered⟩ := again.persisted kept proper blank
  have seen : seenSources ([] ++ [.run (reading.again now)]) ⊆
      seenSources (events ++ [.run reading]) := by
    simp [seenSources, readings, Reading.again]
  have refreshed : ∀ path, Fresh (reading.again now) full path :=
    fresh_of_derived (by simp [Steady, readings]) granularity whole again.language
      (fun first occurs other also => tellsApart first (seen occurs) other (seen also)) matched
      derived covered
  exact ⟨cleared, rebuilt, summary, state, full, done, finished, ⟨inside, ready.holds, stores⟩,
    persisted, Fresh.eq_of_sources fresh refreshed rfl rfl⟩

section

variable {granularity : Granularity} {file : DiskFile}

/-- Both runs on the small tree analyse with the same settings. -/
theorem Rerun.analyzer (rerun : Rerun granularity file reading finish) {read : Reading}
    (ran : read ∈ readings (rerunEvents granularity reading)) :
    read.input.analyzer = (sampleReading granularity none).input.analyzer := by
  rw [rerunEvents, readings_run] at ran
  cases List.mem_append.1 ran with
  | inl first =>
    cases List.mem_singleton.1 first
    rfl
  | inr last =>
    cases List.mem_singleton.1 last
    rw [Pass.Input.analyzer, Reading.input, rerun.context]
    rfl

theorem Rerun.exists_file (rerun : Rerun granularity file reading finish) {source : Source}
    (seen : source ∈ seenSources (rerunEvents granularity reading)) :
    ∃ version ∈ [sampleFile, file], source = sampleSource version := by
  obtain ⟨read, ran, member⟩ := List.mem_flatMap.1 seen
  rw [rerunEvents, readings_run] at ran
  cases List.mem_append.1 ran with
  | inl first =>
    cases List.mem_singleton.1 first
    exact ⟨sampleFile, by simp, List.mem_singleton.1 member⟩
  | inr last =>
    cases List.mem_singleton.1 last
    rw [rerun.sources] at member
    exact ⟨file, by simp, List.mem_singleton.1 member⟩

/-- The digests of the two versions of the file differ. -/
theorem Rerun.tellsApart (rerun : Rerun granularity file reading finish)
    (known : file ∈ [changedFile, respacedFile]) :
    TellsApart .sha256 (rerunEvents granularity reading) := by
  have differs : Digest.sha256.ofBytes sampleFile.content ≠ Digest.sha256.ofBytes file.content := by
    simp only [List.mem_cons, List.not_mem_nil, or_false] at known
    rcases known with rfl | rfl <;> decide +kernel
  intro first seen second seenToo same
  obtain ⟨left, one, rfl⟩ := rerun.exists_file seen
  obtain ⟨right, other, rfl⟩ := rerun.exists_file seenToo
  simp only [List.mem_cons, List.not_mem_nil, or_false] at one other
  rcases one with rfl | rfl <;> rcases other with rfl | rfl
  · rfl
  · exact absurd same differs
  · exact absurd same.symm differs
  · rfl

theorem Rerun.whole (rerun : Rerun granularity file reading finish)
    (known : file ∈ [changedFile, respacedFile]) : reading.Whole := by
  have all : ((sampleReading granularity none).input.analyzer.file? (sampleSource file)).map
      (fun found => decide found.Whole) = some true := by
    simp only [List.mem_cons, List.not_mem_nil, or_false] at known
    rcases known with rfl | rfl <;> cases granularity <;> decide +kernel
  have last : reading ∈ readings (rerunEvents granularity reading) := by
    simp [rerunEvents, readings]
  intro source member
  rw [rerun.sources] at member
  cases List.mem_singleton.1 member
  obtain ⟨found, read, whole⟩ := Option.map_eq_some_iff.1 all
  exact ⟨found, by rw [rerun.analyzer last, read], of_decide_eq_true whole⟩

/-- The ignore files of the tree do not lie in the state folder that the runs have left. -/
theorem Rerun.apart (rerun : Rerun granularity file reading finish) :
    ∀ path ∈ ignorePaths (Path.absolute ["tree"]) reading.context.config.scan,
      Apart finish ["tree"] path := by
  rw [rerun.context]
  exact fun path member => (apart_small file [] path member).congr rerun.same

end

/-- The second run on a small tree, whose file has changed, leaves what a rebuild leaves. -/
theorem run_eq_rebuild_rerun :
    ∃ reading finish cleared rebuilt summary, ∃ state full : Baseline,
      Rerun .file changedFile reading finish ∧
      clear (Path.absolute ["tree"]) finish = (.ok (), cleared) ∧
      run (sampleReading .file none).context (Path.absolute ["tree"]) cleared =
        (.ok summary, rebuilt) ∧
      Persisted finish ["tree"] state.manifest state.store.records ∧
      Persisted rebuilt ["tree"] full.manifest full.store.records ∧
      (∀ path, state.store.ofFile path = full.store.ofFile path) ∧
      state.manifest.files.map FileEntry.timeless = full.manifest.files.map FileEntry.timeless := by
  have known : changedFile ∈ [changedFile, respacedFile] := by simp
  obtain ⟨reading, finish, rerun⟩ := exists_rerun .file known
  have result := run_eq_rebuild proper_sample stateless_sample rerun.history
    (by simp [Steady, readings, rerun.context]) (congrArg (·.config.granularity) rerun.context)
    (rerun.whole known) (by rw [rerun.context]; exact rerun.tellsApart known) rerun.apart
    (Instant.ofUnix 0 0)
  obtain ⟨cleared, rebuilt, summary, state, full, done, finished, rest⟩ := result
  rw [rerun.context] at finished
  exact ⟨reading, finish, cleared, rebuilt, summary, state, full, rerun, done, finished, rest⟩

end Workspace

end SourceIndex
