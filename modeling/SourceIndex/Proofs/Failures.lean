import SourceIndex.Proofs.Incremental

/-!
# What failures keep

A file that is not text keeps its entry and its records, and a unit with a syntax error keeps its
record and its fingerprint, whatever else a run changes. The two granularities keep a broken unit in
different ways: a whole file is replaced and the old record carried over, or the unit is left out of
the comparison and its old fingerprint added again.
-/

namespace SourceIndex

namespace FileAnalysis

variable {maxCalls : Nat} {store : Store} {file : SourceFile} {unit : SourceUnit} {record : Record}
variable (distinct : (file.units.map (·.key)).Nodup) (member : unit ∈ file.units)
variable (broken : unit.hasError = true)

include member broken in
theorem isBroken_of_mem : isBroken file unit.key = true := by
  rw [isBroken, List.any_eq_true]
  exact ⟨unit, List.mem_filter.2 ⟨member, broken⟩, decide_eq_true rfl⟩

include distinct member broken

/-- A broken unit is not a sound one with the same identifier. -/
theorem identifier_ne_of_sound {other : SourceUnit} (sound : other ∈ file.soundUnits) :
    other.identifier file.path ≠ unit.identifier file.path := by
  intro same
  obtain ⟨listed, whole⟩ := List.mem_filter.1 sound
  cases SourceFile.unit_eq_of_identifier distinct listed member same
  simp [broken] at whole

/-- In a file that is replaced, a broken unit has its old record. -/
theorem mem_deriveFile_of_broken (same : record.id = unit.identifier file.path) :
    record ∈ (deriveFile maxCalls store file).records ↔ record ∈ store.ofFile file.path := by
  have replaced : replacement? maxCalls store file unit = oldRecord? store file unit := by
    rw [replacement?, if_pos broken]
  rw [records_deriveFile, List.mem_filterMap, Store.mem_ofFile_iff]
  constructor
  · rintro ⟨other, listed, found⟩
    have identifier := (key_of_replacement? found).2.symm.trans same
    cases SourceFile.unit_eq_of_identifier distinct listed member identifier
    rw [replaced] at found
    obtain ⟨stored, here, _⟩ := key_of_oldRecord? found
    exact ⟨stored, here⟩
  · rintro ⟨stored, here⟩
    refine ⟨unit, member, ?_⟩
    rw [replaced, oldRecord?, Store.get?_eq_some_iff]
    exact ⟨stored, by rw [Record.key, here, same]⟩

/-- In a file whose units are tracked, a broken unit has its old record, if the fingerprints belong
to the records. -/
theorem mem_unitRecords_of_broken {tracking : Tracking} {prior : Option (KeyMap Fingerprint)}
    {origin : (key hash : String) → Record → Prop}
    (known : store.ofFile file.path ≠ [] → ∃ old, prior = some old)
    (before : ∀ old, prior = some old → Tracked origin file.path old (store.ofFile file.path))
    (same : record.id = unit.identifier file.path) :
    record ∈ unitRecords maxCalls tracking prior store file ↔ record ∈ store.ofFile file.path := by
  rw [unitRecords, Update.renewed, List.mem_append, List.mem_filter, Bool.not_eq_true']
  constructor
  · rintro (⟨stored, _⟩ | derived)
    · exact stored
    · obtain ⟨other, sound, _, rfl⟩ := (mem_records_unitUpdate distinct).1 derived
      exact absurd same (identifier_ne_of_sound distinct member broken sound)
  · intro stored
    obtain ⟨old, rfl⟩ := known (List.ne_nil_of_mem stored)
    have tracked := before old rfl
    obtain ⟨key, fingerprint, found, equal⟩ := tracked.covered record stored
    have here : key = unit.key := by
      rw [same, tracked.named found] at equal
      exact SourceUnit.identifierOf_inj.1 equal
    subst here
    refine .inl ⟨stored, (outdates_unitUpdate_iff (Store.mem_ofFile_iff.1 stored).2).2
      ⟨⟨old, rfl⟩, ?_, ?_⟩⟩
    · rw [← equal]
      exact not_mem_staleIds distinct tracked found (.inl (isBroken_of_mem member broken))
    · intro fresh derived identifier
      obtain ⟨other, sound, _, rfl⟩ := (mem_records_unitUpdate distinct).1 derived
      exact identifier_ne_of_sound distinct member broken sound (identifier.trans same)

/-- A broken unit is remembered as before. -/
theorem get?_fingerprints_of_broken (tracking : Tracking) (prior : Option (KeyMap Fingerprint)) :
    (KeyMap.ofList (fingerprintEntries tracking prior file)).get? unit.key =
      prior.bind (·.get? unit.key) := by
  apply Option.ext
  intro fingerprint
  rw [get?_fingerprints_iff distinct, Option.bind_eq_some_iff]
  constructor
  · rintro (⟨other, sound, key, _⟩ | ⟨_, known⟩)
    · exact absurd (congrArg (SourceUnit.identifierOf file.path) key)
        (identifier_ne_of_sound distinct member broken sound)
    · exact known
  · exact fun known => .inr ⟨isBroken_of_mem member broken, known⟩

end FileAnalysis

/-- A record is found under its identifier in its file. -/
theorem Store.get?_eq_some_iff_mem_ofFile {store : Store} {path id : String} {record : Record} :
    store.get? path id = some record ↔ record ∈ store.ofFile path ∧ record.id = id := by
  rw [get?_eq_some_iff, mem_ofFile_iff, Record.key, Prod.mk.injEq, and_assoc]

/-! ## Passes -/

/-- What failures keep of a state: a file that is not text has its entry and its records, and a unit
with a syntax error has its record and, if units are tracked, its fingerprint. -/
structure Pass.KeepsFailed (input : Input) (analyzed : List Source) (state final : Baseline) :
    Prop where
  file : ∀ source ∈ analyzed, input.analyzer.file? source = none →
    final.store.ofFile source.path = state.store.ofFile source.path ∧
      final.manifest.file? source.path = state.manifest.file? source.path
  unit : ∀ source ∈ analyzed, ∀ file, input.analyzer.file? source = some file →
    ∀ unit ∈ file.units, unit.hasError = true →
      final.store.get? source.path (unit.identifier source.path) =
        state.store.get? source.path (unit.identifier source.path) ∧
      (input.config.granularity = .unit →
        (final.manifest.fingerprints? source.path).bind (·.get? unit.key) =
          (state.manifest.fingerprints? source.path).bind (·.get? unit.key))

namespace Pass

variable {input : Input} {state next : Baseline} {source : Source} {origin : Origins}

/-- The entry of a file that has changed but could not be analysed is the old one. -/
theorem entryOf?_of_failed {baseline : Option Baseline}
    (here : input.source? source.path = some source) (stale : Stale input baseline source)
    (failed : analysis? input baseline source = none) :
    entryOf? (analyzedSources input baseline) (baseline.map (·.manifest)) (input.scan source) =
      known? baseline source.path := by
  have skipped : ∀ other, input.source? (input.scan source).path = some other →
      Stale input baseline other → analysis? input baseline other = none := by
    intro other present _
    cases here.symm.trans present
    exact failed
  rw [entryOf?_of_skipped skipped]
  cases known : known? baseline source.path with
  | none => rfl
  | some old =>
    have differs : old.hash ≠ (input.scan source).hash := stale old known
    rw [Option.map_some, if_neg differs]

/-- A pass keeps the record of a broken unit. -/
theorem mem_renewed_of_broken (sound : Sound origin input (some state)) {analysis : FileAnalysis}
    (found : analysis? input (some state) source = some analysis) {file : SourceFile}
    (read : input.analyzer.file? source = some file) {unit : SourceUnit}
    (member : unit ∈ file.units) (broken : unit.hasError = true) {record : Record}
    (same : record.id = unit.identifier source.path) :
    record ∈ Update.renewed input.config.granularity (state.store.ofFile source.path)
        analysis.update ↔ record ∈ state.store.ofFile source.path := by
  have distinct := SourceFile.nodup_keys_of_ofContent? read
  have path := SourceFile.path_of_ofContent? read
  rw [← path] at same
  cases granularity : input.config.granularity with
  | file =>
    obtain ⟨other, reread, records, _⟩ := FileAnalysis.renewed_of_file granularity found
    cases read.symm.trans reread
    rw [granularity] at records
    rw [storeOf_some] at records
    rw [records, ← path]
    exact FileAnalysis.mem_deriveFile_of_broken distinct member broken same
  | unit =>
    obtain ⟨other, reread, records, _⟩ := FileAnalysis.renewed_of_unit granularity found
    cases read.symm.trans reread
    rw [granularity] at records
    rw [storeOf_some] at records
    rw [records, ← path]
    have known : state.store.ofFile file.path ≠ [] →
        ∃ old, state.manifest.fingerprints? file.path = some old := by
      intro some
      obtain ⟨stored, listed⟩ := List.exists_mem_of_ne_nil _ some
      obtain ⟨among, here⟩ := Store.mem_ofFile_iff.1 listed
      rw [← here]
      exact exists_fingerprints_of_mem granularity sound among
    exact FileAnalysis.mem_unitRecords_of_broken distinct member broken known
      (fun old prior => sound.tracked granularity prior) same

/-- A pass that has something to bring up to date keeps what failures keep. -/
theorem keepsFailed_advance (sound : Sound origin input (some state))
    (known : (advance input (some state) (input.changes (some state))).next = some next) :
    KeepsFailed input (input.stale (input.changes (some state))) state next where
  file source listed binary := by
    obtain ⟨here, stale⟩ := mem_stale_iff.1 listed
    have failed : analysis? input (some state) source = none := analysis?_eq_none_iff.2 binary
    have entry : next.manifest.file? source.path = state.manifest.file? source.path := by
      rw [next_advance] at known
      cases known
      rw [file?_nextManifest, here, Option.bind_some, entryOf?_of_failed here stale failed]
      rfl
    have step := fileStep_advance input (some state) source.path known
    generalize next.manifest.file? source.path = after at step entry
    generalize next.store.ofFile source.path = records at step ⊢
    cases step with
    | gone absent => cases here.symm.trans absent
    | analyzed present _ found =>
      cases here.symm.trans present
      cases failed.symm.trans found
    | kept => exact ⟨rfl, entry⟩
  unit source listed file read unit member broken := by
    obtain ⟨here, stale⟩ := mem_stale_iff.1 listed
    obtain ⟨analysis, found⟩ : ∃ analysis, analysis? input (some state) source = some analysis := by
      rw [← Option.ne_none_iff_exists']
      exact fun failed => by cases (analysis?_eq_none_iff.1 failed).symm.trans read
    have step := fileStep_advance input (some state) source.path known
    constructor
    · apply Option.ext
      intro record
      rw [Store.get?_eq_some_iff_mem_ofFile, Store.get?_eq_some_iff_mem_ofFile]
      refine and_congr_left fun same => ?_
      generalize next.manifest.file? source.path = after at step
      generalize next.store.ofFile source.path = records at step ⊢
      cases step with
      | gone absent => cases here.symm.trans absent
      | kept present reason =>
        cases here.symm.trans present
        exact .rfl
      | analyzed present _ derived =>
        cases here.symm.trans present
        exact mem_renewed_of_broken sound derived read member broken same
    · intro granularity
      rw [Manifest.fingerprints?]
      generalize next.manifest.file? source.path = after at step ⊢
      generalize next.store.ofFile source.path = records at step
      cases step with
      | gone absent => cases here.symm.trans absent
      | kept present reason =>
        cases here.symm.trans present
        rcases reason with fresh | failed
        · exact absurd stale fresh
        · cases failed.symm.trans found
      | analyzed present _ derived =>
        cases here.symm.trans present
        obtain ⟨other, reread, _, _, fingerprints⟩ :=
          FileAnalysis.renewed_of_unit granularity derived
        cases read.symm.trans reread
        rw [Option.bind_some, fingerprints, Option.bind_some]
        exact FileAnalysis.get?_fingerprints_of_broken (SourceFile.nodup_keys_of_ofContent? read)
          member broken _ _

/-- A pass that builds on a state keeps what failures keep. If it finds nothing to do, nothing was
analysed. -/
theorem keepsFailed_final (sound : Sound origin input (some state))
    (known : final? input (some state) = some next) :
    KeepsFailed input (input.stale (input.changes (some state))) state next := by
  rcases final?_cases known with ⟨same, confirmed⟩ | advanced
  · cases same
    rw [stale_of_isEmpty confirmed]
    exact ⟨by simp, by simp⟩
  · exact keepsFailed_advance sound advanced

end Pass

/-! ## Runs -/

namespace Workspace

variable {home : Location} {start before after : Disk} {events : List Event} {root : String}
variable {context : Context} {summary : Summary}

/-- After any history, an incremental run keeps what is known of files that are not text and of
units with a syntax error. -/
theorem incremental_run_keeps_failed (proper : Disk.Proper home) (stateless : Stateless start home)
    (history : History home start events before) (leads : Leads before root home)
    (done : run context root before = (.ok summary, after))
    (incremental : summary.mode = .incremental) :
    ∃ reading state final, BuildsOn before home context reading state ∧
      Persisted after home final.manifest final.store.records ∧
      Pass.KeepsFailed reading.input reading.analyzed state final := by
  obtain ⟨reading, state, final, builds, continues⟩ :=
    history.exists_continues kept_inStep proper stateless leads done incremental
  have keeps := Pass.keepsFailed_final (continues.known.sound continues.fits) continues.passed
  rw [← builds.baseline] at keeps
  obtain ⟨manifest, persisted, rfl | quiet⟩ := continues.persisted
  · exact ⟨reading, state, final, builds, persisted, keeps⟩
  · refine ⟨reading, state, ⟨manifest, final.store⟩, builds, persisted, ?_⟩
    rw [quiet]
    exact ⟨by simp, by simp⟩

/-- A file that is not text. -/
def binaryFile : DiskFile := { content := ⟨#[0xff]⟩ }

set_option maxRecDepth 4000 in
/-- A run on the small tree, whose file is not text any more, builds on the run before. -/
theorem incremental_run_keeps_failed_sample :
    ∃ before after summary reading state final,
      History ["tree"] sampleDisk ([.run (sampleReading .unit none)] ++ [.edit]) before ∧
      SameTree ["tree"] (smallDisk binaryFile []) after ∧
      run (sampleReading .unit none).context (Path.absolute ["tree"]) before =
        (.ok summary, after) ∧
      summary.mode = .incremental ∧
      BuildsOn before ["tree"] (sampleReading .unit none).context reading state ∧
      Persisted after ["tree"] final.manifest final.store.records ∧
      Pass.KeepsFailed reading.input reading.analyzed state final := by
  have scanned : (sources (Path.absolute ["tree"]) {} (smallDisk binaryFile [])).1 =
      .ok [sampleSource binaryFile] := rfl
  obtain ⟨before, after, read, history, leads, _, context, _, _, done, incremental, same⟩ :=
    exists_incremental_sample .unit scanned
  rw [context] at done
  obtain ⟨reading, state, final, result⟩ :=
    incremental_run_keeps_failed proper_sample stateless_sample history leads done incremental
  exact ⟨before, after, _, reading, state, final, history, same, done, incremental, result⟩

end Workspace

end SourceIndex
