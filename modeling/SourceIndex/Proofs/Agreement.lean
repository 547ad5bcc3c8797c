import SourceIndex.Proofs.Reload

/-!
# Manifest and graph log agree

After every run of a history the manifest lists exactly the units of which the graph log has
records. One pass keeps this for each file, whatever the granularity and however many units are
broken. At unit granularity it also keeps where records come from.
-/

namespace SourceIndex

/-! ## One file -/

/-- Which records a unit with a key and a digest can have, in the file at a path. -/
abbrev Origins := (path key hash : String) → Record → Prop

/-- What a manifest says of a file agrees with the records of the file. -/
def Agrees (origin : Origins) (granularity : Granularity) (path : String) (records : List Record) :
    Option FileEntry → Prop
  | none => records = []
  | some entry => entry.units.Nodup ∧
      (∀ id, id ∈ entry.units ↔ ∃ record ∈ records, record.id = id) ∧
      (granularity = .unit → ∃ fingerprints, entry.fingerprints = some fingerprints ∧
        FileAnalysis.Tracked (origin path) path fingerprints records)

section

variable {origin earlier : Origins} {granularity : Granularity} {path : String}
variable {records : List Record} {entry : Option FileEntry}

theorem Agrees.mono (grows : ∀ {path key hash record}, earlier path key hash record →
    origin path key hash record) (agrees : Agrees earlier granularity path records entry) :
    Agrees origin granularity path records entry := by
  cases entry with
  | none => exact agrees
  | some entry =>
    obtain ⟨distinct, units, tracked⟩ := agrees
    refine ⟨distinct, units, fun isUnit => ?_⟩
    obtain ⟨fingerprints, listed, tracked⟩ := tracked isUnit
    exact ⟨fingerprints, listed, tracked.mono grows⟩

/-- The time of a file does not matter. -/
theorem agrees_congr {first second : Option FileEntry}
    (same : first.map FileEntry.timeless = second.map FileEntry.timeless) :
    Agrees origin granularity path records first ↔
      Agrees origin granularity path records second := by
  cases first with
  | none =>
    cases second with
    | none => exact .rfl
    | some second => cases same
  | some first =>
    cases second with
    | none => cases same
    | some second =>
      simp only [Option.map_some, Option.some.injEq, FileEntry.timeless, FileEntry.mk.injEq] at same
      obtain ⟨_, _, _, units, fingerprints⟩ := same
      rw [Agrees, Agrees, units, fingerprints]

end

namespace Pass

variable {origin : Origins} {input : Input} {baseline : Option Baseline} {path : String}

/-- What a pass builds on agrees at a path. -/
def Sound (origin : Origins) (input : Input) (baseline : Option Baseline) : Prop :=
  ∀ path, Agrees origin input.config.granularity path ((storeOf baseline).ofFile path)
    (known? baseline path)

/-- The units of a source can have the records that a pass derives from them. -/
def Originates (origin : Origins) (input : Input) (source : Source) : Prop :=
  ∀ file, SourceFile.ofContent? input.parser input.config.tracking.digest source.path
      source.language source.content = some file →
    ∀ unit ∈ file.soundUnits, origin source.path unit.key unit.hash
      (unit.record input.config.analysis.maxCallsPerUnit.toNat file)

/-- The fingerprints of a state belong to its records. -/
theorem Sound.tracked (sound : Sound origin input baseline)
    (granularity : input.config.granularity = .unit) {old : KeyMap Fingerprint}
    (known : (baseline.map (·.manifest)).bind (·.fingerprints? path) = some old) :
    FileAnalysis.Tracked (origin path) path old ((storeOf baseline).ofFile path) := by
  have agrees := sound path
  rw [fingerprints?_eq] at known
  obtain ⟨entry, remembered, listed⟩ := Option.bind_eq_some_iff.1 known
  rw [remembered] at agrees
  obtain ⟨fingerprints, same, tracked⟩ := agrees.2.2 granularity
  cases listed.symm.trans same
  exact tracked

/-- An analysed file agrees. -/
theorem agrees_analyzed {source : Source} {analysis : FileAnalysis}
    (sound : Sound origin input baseline) (fresh : Originates origin input source)
    (found : analysis? input baseline source = some analysis) :
    Agrees origin input.config.granularity source.path
      (Update.renewed input.config.granularity ((storeOf baseline).ofFile source.path)
        analysis.update) (some analysis.entry) := by
  cases granularity : input.config.granularity with
  | file =>
    have units := FileAnalysis.units_of_file granularity found
    rw [granularity] at units
    exact ⟨units.1, units.2, nofun⟩
  | unit =>
    obtain ⟨fingerprints, listed, tracked, distinct, units⟩ :=
      FileAnalysis.tracked_of_unit granularity found (fun _ => sound.tracked granularity) fresh
    rw [granularity] at tracked
    refine ⟨distinct, fun id => ?_, fun _ => ⟨fingerprints, listed, tracked⟩⟩
    rw [units]
    constructor
    · rintro ⟨key, fingerprint, known, rfl⟩
      obtain ⟨record, member, same, _⟩ := tracked.recorded known
      exact ⟨record, member, same⟩
    · rintro ⟨record, member, rfl⟩
      exact tracked.covered record member

/-- A pass keeps each file in agreement. -/
theorem agrees_fileStep (sound : Sound origin input baseline)
    (fresh : ∀ source ∈ input.stale (input.changes baseline), Originates origin input source)
    {entry : Option FileEntry} {records : List Record}
    (step : FileStep input baseline path entry records) :
    Agrees origin input.config.granularity path records entry := by
  cases step with
  | gone absent =>
    have before := sound path
    cases known : known? baseline path with
    | none =>
      rw [known] at before
      exact before
    | some entry => rfl
  | analyzed here stale found =>
    obtain ⟨rfl, _⟩ := Input.source?_eq_some here
    exact agrees_analyzed sound (fresh _ (mem_stale_iff.2 ⟨here, stale⟩)) found
  | kept here reason same => exact (agrees_congr same).2 (sound path)

end Pass

/-! ## The whole state -/

/-- Manifest and store of a state agree, and the totals of the manifest are right. -/
structure InStep (origin : Origins) (state : Baseline) : Prop where
  files : ∀ path, Agrees origin state.manifest.granularity path (state.store.ofFile path)
    (state.manifest.file? path)
  units : state.manifest.totals.units = UInt64.ofNat state.manifest.unitCount
  records : state.manifest.totals.records = UInt64.ofNat state.store.size

variable {origin : Origins}

/-- The times of files do not matter. -/
theorem InStep.similar {first second : Baseline} (inStep : InStep origin first)
    (similar : second.manifest.Similar first.manifest)
    (same : second.store.records = first.store.records) : InStep origin second := by
  have count : second.manifest.unitCount = first.manifest.unitCount := by
    have units :=
      Manifest.unitCount_eq fun entry => show entry.timeless.units = entry.units from rfl
    rw [units, units, similar.files]
  refine ⟨fun path => ?_, ?_, ?_⟩
  · rw [agrees_congr (similar.file? path), similar.granularity, Store.ofFile, same]
    exact inStep.files path
  · rw [similar.totals, count]
    exact inStep.units
  · rw [similar.totals, Store.size, same]
    exact inStep.records

/-- A pass leaves manifest and store in agreement, if they were before. -/
theorem inStep_final {earlier : Origins} {input : Pass.Input} {baseline : Option Baseline}
    {final : Baseline} (grows : ∀ {path key hash record}, earlier path key hash record →
      origin path key hash record)
    (fresh : ∀ source ∈ input.stale (input.changes baseline), Pass.Originates origin input source)
    (before : ∀ state, baseline = some state → state.manifest.compatible input.config.granularity
      input.config.tracking.digest = true ∧ InStep earlier state)
    (known : Pass.final? input baseline = some final) : InStep origin final := by
  have sound : Pass.Sound origin input baseline := by
    intro path
    cases baseline with
    | none => rfl
    | some state =>
      obtain ⟨compatible, inStep⟩ := before state rfl
      rw [← (Manifest.compatible_iff.1 compatible).2.1]
      exact (inStep.files path).mono grows
  have settings := Pass.compatible_final known fun state loaded => (before state loaded).1
  have files : ∀ path, Agrees origin final.manifest.granularity path (final.store.ofFile path)
      (final.manifest.file? path) := by
    intro path
    rw [(Manifest.compatible_iff.1 settings).2.1]
    exact Pass.agrees_fileStep sound fresh (Pass.fileStep_run known path)
  rcases Pass.final?_cases known with ⟨same, _⟩ | next
  · exact ⟨files, (before final same).2.units, (before final same).2.records⟩
  · rw [Pass.next_advance] at next
    cases next
    exact ⟨files, rfl, rfl⟩

/-- A file has as many units in the manifest as records. -/
theorem length_units {granularity : Granularity} {path : String} {store : Store} {entry : FileEntry}
    (agrees : Agrees origin granularity path (store.ofFile path) (some entry)) :
    entry.units.length = (store.ofFile path).length := by
  obtain ⟨distinct, same, _⟩ := agrees
  have perm := (List.perm_ext_iff_of_nodup distinct (store.nodup_ids_ofFile path)).2 (by simpa)
  rw [perm.length_eq, List.length_map]

/-- File by file one sees every record once, if no record lies elsewhere. -/
theorem flatMap_ofFile_perm (store : Store) {paths : List String} (distinct : paths.Nodup)
    (covered : ∀ record ∈ store.records, record.file ∈ paths) :
    (paths.flatMap store.ofFile).Perm store.records := by
  have whole : store.records.Nodup := store.distinct.of_map _
  have apart : ∀ {first second : String}, first ≠ second →
      List.Disjoint (store.ofFile first) (store.ofFile second) := by
    intro first second different record left right
    exact different ((Store.mem_ofFile_iff.1 left).2.symm.trans (Store.mem_ofFile_iff.1 right).2)
  have listed : (paths.flatMap store.ofFile).Nodup :=
    List.nodup_flatMap.2 ⟨fun path _ => whole.filter _, distinct.imp apart⟩
  apply (List.perm_ext_iff_of_nodup listed whole).2
  intro record
  simp only [List.mem_flatMap, Store.mem_ofFile_iff]
  constructor
  · rintro ⟨path, _, member, _⟩
    exact member
  · intro member
    exact ⟨record.file, covered record member, member, rfl⟩

/-- Every record belongs to a file of the manifest. -/
theorem InStep.covered {state : Baseline} (inStep : InStep origin state) {record : Record}
    (member : record ∈ state.store.records) :
    ∃ entry, state.manifest.file? record.file = some entry := by
  cases known : state.manifest.file? record.file with
  | some entry => exact ⟨entry, rfl⟩
  | none =>
    have agrees := inStep.files record.file
    have listed := Store.mem_ofFile_iff.2 ⟨member, rfl⟩
    rw [known] at agrees
    rw [agrees] at listed
    cases listed

/-- The manifest lists as many units as there are records. -/
theorem InStep.unitCount {state : Baseline} (inStep : InStep origin state) :
    state.manifest.unitCount = state.store.size := by
  have covered : ∀ record ∈ state.store.records, record.file ∈ state.manifest.files.keys := by
    intro record member
    obtain ⟨entry, known⟩ := inStep.covered member
    exact KeyMap.contains_iff_mem_keys.1 (by rw [KeyMap.contains, ← Manifest.file?, known]; rfl)
  have each : (state.manifest.files.values.map fun entry => entry.units.length) =
      state.manifest.files.keys.map fun path => (state.store.ofFile path).length := by
    rw [KeyMap.values, KeyMap.keys, List.map_map, List.map_map]
    apply List.map_congr_left
    rintro ⟨path, entry⟩ member
    have agrees := inStep.files path
    rw [Manifest.file?, KeyMap.get?_eq_some_iff.2 member] at agrees
    exact length_units agrees
  have perm := flatMap_ofFile_perm state.store (KeyMap.keys_nodup state.manifest.files) covered
  rw [Manifest.unitCount, List.length_flatMap, each, ← List.length_flatMap, perm.length_eq,
    Store.size]

/-! ## Histories -/

/-- Manifest and records agree: no two records have the same key, the units that the manifest lists
for a file are those of its records, each once, every record belongs to a file of the manifest, and
the totals count the records. -/
structure Agreement (manifest : Manifest) (records : List Record) : Prop where
  distinct : (records.map Record.key).Nodup
  units : ∀ {path entry}, manifest.file? path = some entry → entry.units.Nodup ∧
    ∀ id, id ∈ entry.units ↔ ∃ record ∈ records, record.file = path ∧ record.id = id
  fingerprints : manifest.granularity = .unit → ∀ {path entry}, manifest.file? path = some entry →
    ∃ fingerprints, entry.fingerprints = some fingerprints ∧
      ∀ id, id ∈ entry.units ↔ ∃ fingerprint ∈ fingerprints.values, fingerprint.id = id
  covered : ∀ record ∈ records, ∃ entry, manifest.file? record.file = some entry
  unitCount : manifest.unitCount = records.length
  totals : manifest.totals.units = UInt64.ofNat records.length ∧
    manifest.totals.records = UInt64.ofNat records.length

theorem InStep.agreement {state : Baseline} (inStep : InStep origin state) :
    Agreement state.manifest state.store.records where
  distinct := state.store.distinct
  units {path entry} known := by
    obtain ⟨distinct, same, _⟩ := known ▸ inStep.files path
    refine ⟨distinct, fun id => ?_⟩
    simp only [same, Store.mem_ofFile_iff, and_assoc]
  fingerprints granularity {path entry} known := by
    obtain ⟨_, same, tracked⟩ := known ▸ inStep.files path
    obtain ⟨fingerprints, listed, tracked⟩ := tracked granularity
    refine ⟨fingerprints, listed, fun id => ?_⟩
    rw [same]
    constructor
    · rintro ⟨record, member, rfl⟩
      obtain ⟨key, fingerprint, found, equal⟩ := tracked.covered record member
      exact ⟨fingerprint, KeyMap.mem_values_iff.2 ⟨key, found⟩, equal⟩
    · rintro ⟨fingerprint, member, rfl⟩
      obtain ⟨key, found⟩ := KeyMap.mem_values_iff.1 member
      obtain ⟨record, member, equal, _⟩ := tracked.recorded found
      exact ⟨record, member, equal⟩
  covered _ member := inStep.covered member
  unitCount := inStep.unitCount
  totals := ⟨by rw [inStep.units, inStep.unitCount]; rfl, inStep.records⟩

namespace Workspace

/-- A unit can have the record that was built from a sound unit with its key and digest, in a
version of the file that a run of the history has analysed. -/
inductive Origin (events : List Event) (path : String) : (key hash : String) → Record → Prop where
  | built {reading : Reading} {source : Source} {file : SourceFile} {unit : SourceUnit}
    (ran : reading ∈ readings events) (analyzed : source ∈ reading.analyzed)
    (here : source.path = path)
    (read : SourceFile.ofContent? reading.context.parser reading.context.config.tracking.digest
      source.path source.language source.content = some file)
    (member : unit ∈ file.units) (sound : unit.hasError = false) :
    Origin events path unit.key unit.hash
      (unit.record reading.context.config.analysis.maxCallsPerUnit.toNat file)

theorem Origin.mono {first second : List Event} (listed : readings first ⊆ readings second)
    {path key hash : String} {record : Record} (origin : Origin first path key hash record) :
    Origin second path key hash record := by
  cases origin with
  | built ran analyzed here read member sound =>
    exact .built (listed ran) analyzed here read member sound

/-- Passes keep manifest and store in agreement. -/
theorem kept_inStep : Kept fun events state => InStep (Origin events) state where
  similar inStep similar same := inStep.similar similar same
  edit := by
    intro events state inStep
    exact ⟨fun path =>
      (inStep.files path).mono (Origin.mono (by rw [readings_edit]; exact .refl _)),
      inStep.units, inStep.records⟩
  run := by
    intro events reading final before known
    refine inStep_final (Origin.mono ?_) ?_ before known
    · rw [readings_run]
      exact List.subset_append_left _ _
    · intro source stale file read unit sound
      obtain ⟨member, noError⟩ := List.mem_filter.1 sound
      exact .built (by simp) stale rfl read member (by simpa using noError)

/-- After every run of a history that starts without state, the manifest and the records that the
run has left agree. -/
theorem manifest_agrees_with_records {home : Location} {start finish : Disk} {events : List Event}
    {reading : Reading} (proper : Disk.Proper home) (stateless : Stateless start home)
    (history : History home start (events ++ [.run reading]) finish) :
    ∃ manifest records, Persisted finish home manifest records ∧
      manifest.granularity = reading.context.config.granularity ∧ Agreement manifest records := by
  obtain ⟨state, persisted, inStep, matched⟩ :=
    history.persisted (kept_inStep.and kept_matched) proper stateless
  have settings := Manifest.compatible_iff.1 (matched reading (lastReading?_run ..))
  exact ⟨state.manifest, state.store.records, persisted, settings.2.1, inStep.agreement⟩

/-- A second run on a small tree, whose file has changed, leaves such a state. -/
theorem manifest_agrees_with_records_rerun :
    ∃ reading finish manifest records, Rerun .unit changedFile reading finish ∧
      Persisted finish ["tree"] manifest records ∧
      manifest.granularity = .unit ∧ Agreement manifest records := by
  obtain ⟨reading, finish, rerun⟩ := exists_rerun .unit (List.mem_cons_self (a := changedFile))
  obtain ⟨manifest, records, persisted, settings, agreement⟩ :=
    manifest_agrees_with_records proper_sample stateless_sample rerun.history
  rw [rerun.context] at settings
  exact ⟨reading, finish, manifest, records, rerun, persisted, settings, agreement⟩

end Workspace

end SourceIndex
