import SourceIndex.Proofs.Agreement

/-!
# Where records come from

At unit granularity the manifest remembers a digest of each unit. After every run of a history, the
record of a unit is the one that was built from a unit with that digest, in some version of the file
that was analysed: no record survives a change of its unit.
-/

namespace SourceIndex

/-- Similar manifests remember the same fingerprints. -/
theorem Manifest.Similar.fingerprints? {left right : Manifest} (similar : left.Similar right)
    (path : String) : left.fingerprints? path = right.fingerprints? path := by
  have timeless (manifest : Manifest) : manifest.fingerprints? path =
      ((manifest.file? path).map FileEntry.timeless).bind (·.fingerprints) := by
    rw [Manifest.fingerprints?, Option.bind_map]
    rfl
  rw [timeless, timeless, similar.file? path]

/-- A unit is remembered with a digest. -/
def Manifest.Remembers (manifest : Manifest) (path key hash : String) : Prop :=
  ∃ fingerprints fingerprint, manifest.fingerprints? path = some fingerprints ∧
    fingerprints.get? key = some fingerprint ∧ fingerprint.hash = hash

namespace Pass

variable {input : Input} {baseline : Option Baseline} {final : Baseline} {source : Source}
variable {file : SourceFile} {unit : SourceUnit}

/-- After a pass, the sound units of an analysed source are remembered with their digests. -/
theorem remembers_final (granularity : input.config.granularity = .unit)
    (known : final? input baseline = some final)
    (listed : source ∈ input.stale (input.changes baseline))
    (read : SourceFile.ofContent? input.parser input.config.tracking.digest source.path
      source.language source.content = some file) (member : unit ∈ file.soundUnits) :
    final.manifest.Remembers source.path unit.key unit.hash := by
  obtain ⟨here, stale⟩ := mem_stale_iff.1 listed
  have step := fileStep_run known source.path
  rw [Manifest.Remembers, Manifest.fingerprints?]
  generalize final.manifest.file? source.path = entry at step ⊢
  generalize final.store.ofFile source.path = records at step
  cases step with
  | gone absent => cases here.symm.trans absent
  | kept found reason same =>
    cases here.symm.trans found
    rcases reason with fresh | failed
    · exact absurd stale fresh
    · cases Option.bind_eq_none_iff.1 failed file read
  | analyzed found _ derived =>
    cases here.symm.trans found
    obtain ⟨other, reread, _, _, fingerprints⟩ := FileAnalysis.renewed_of_unit granularity derived
    cases read.symm.trans reread
    refine ⟨_, unit.fingerprint input.config.tracking.retainsSource file.path, fingerprints, ?_,
      rfl⟩
    exact (FileAnalysis.get?_fingerprints_iff (SourceFile.nodup_keys_of_ofContent? read)).2
      (.inl ⟨unit, member, rfl, rfl⟩)

end Pass

namespace Workspace

/-- A unit that a run has analysed, without a syntax error. -/
inductive Reading.Analyzes (reading : Reading) : (path : String) → SourceUnit → Prop where
  | sound {source : Source} {file : SourceFile} {unit : SourceUnit}
    (listed : source ∈ reading.analyzed)
    (read : SourceFile.ofContent? reading.context.parser reading.context.config.tracking.digest
      source.path source.language source.content = some file)
    (member : unit ∈ file.units) (sound : unit.hasError = false) :
    Analyzes reading source.path unit

/-- The units that the last run has analysed are remembered with their digests. -/
def Current (events : List Event) (state : Baseline) : Prop :=
  ∀ reading, lastReading? events = some reading → reading.context.config.granularity = .unit →
    ∀ path unit, reading.Analyzes path unit → state.manifest.Remembers path unit.key unit.hash

theorem kept_current : Kept Current where
  similar := by
    intro events first second current similar _ reading last granularity path unit analyzes
    rw [Manifest.Remembers, similar.fingerprints?]
    exact current reading last granularity path unit analyzes
  edit _ := by simp [Current]
  run := by
    intro events reading final _ known other last granularity path unit analyzes
    rw [lastReading?_run] at last
    cases last
    cases analyzes with
    | sound listed read member sound =>
      exact Pass.remembers_final granularity known listed read
        (List.mem_filter.2 ⟨member, by simp [sound]⟩)

/-- The only record with a key, if there is one. -/
def IsRecord (records : List Record) (path id : String) (record : Record) : Prop :=
  ∀ other, other ∈ records ∧ other.file = path ∧ other.id = id ↔ other = record

/-- Where the records of a state come from, after a history of which a run was last. -/
structure Provenance (events : List Event) (reading : Reading) (manifest : Manifest)
    (records : List Record) : Prop where
  /-- Every file of the manifest has fingerprints. -/
  tracked : ∀ {path entry}, manifest.file? path = some entry →
    ∃ fingerprints, entry.fingerprints = some fingerprints
  /-- A fingerprint has exactly one record, which was built from a unit with its key and digest. -/
  recorded : ∀ {path fingerprints key fingerprint},
    manifest.fingerprints? path = some fingerprints →
    fingerprints.get? key = some fingerprint →
      ∃ record, IsRecord records path fingerprint.id record ∧
        Origin events path key fingerprint.hash record
  /-- There are no other records. -/
  covered : ∀ record ∈ records, ∃ fingerprints key fingerprint,
    manifest.fingerprints? record.file = some fingerprints ∧
      fingerprints.get? key = some fingerprint ∧ fingerprint.id = record.id
  /-- The record of a unit that the last run has analysed was built from a unit with the same
  digest. -/
  renewed : ∀ {path unit}, reading.Analyzes path unit →
    ∃ record, IsRecord records path (unit.identifier path) record ∧
      Origin events path unit.key unit.hash record

/-- What a state in agreement says of a fingerprint. -/
theorem exists_isRecord {events : List Event} {state : Baseline} {path key : String}
    {fingerprints : KeyMap Fingerprint} {fingerprint : Fingerprint}
    (granularity : state.manifest.granularity = .unit) (inStep : InStep (Origin events) state)
    (known : state.manifest.fingerprints? path = some fingerprints)
    (found : fingerprints.get? key = some fingerprint) :
    fingerprint.id = SourceUnit.identifierOf path key ∧
      ∃ record, IsRecord state.store.records path fingerprint.id record ∧
        Origin events path key fingerprint.hash record := by
  obtain ⟨entry, here, listed⟩ := Option.bind_eq_some_iff.1 known
  obtain ⟨_, _, tracked⟩ := here ▸ inStep.files path
  obtain ⟨other, same, tracked⟩ := tracked granularity
  cases listed.symm.trans same
  obtain ⟨record, member, id, origin⟩ := tracked.recorded found
  obtain ⟨stored, file⟩ := Store.mem_ofFile_iff.1 member
  refine ⟨tracked.named found, record, fun other => ⟨?_, ?_⟩, origin⟩
  · rintro ⟨also, sameFile, sameId⟩
    refine List.inj_on_of_nodup_map state.store.distinct also stored ?_
    rw [Record.key, Record.key, sameFile, sameId, file, id]
  · rintro rfl
    exact ⟨stored, file, id⟩

theorem provenance_of_inStep {events : List Event} {reading : Reading} {state : Baseline}
    (granularity : state.manifest.granularity = .unit) (inStep : InStep (Origin events) state)
    (current : ∀ path unit, reading.Analyzes path unit →
      state.manifest.Remembers path unit.key unit.hash) :
    Provenance events reading state.manifest state.store.records where
  tracked {path entry} known := by
    obtain ⟨_, _, tracked⟩ := known ▸ inStep.files path
    obtain ⟨fingerprints, listed, _⟩ := tracked granularity
    exact ⟨fingerprints, listed⟩
  recorded known found := (exists_isRecord granularity inStep known found).2
  covered record member := by
    obtain ⟨entry, known⟩ := inStep.covered member
    obtain ⟨_, _, tracked⟩ := known ▸ inStep.files record.file
    obtain ⟨fingerprints, listed, tracked⟩ := tracked granularity
    obtain ⟨key, fingerprint, found, same⟩ :=
      tracked.covered record (Store.mem_ofFile_iff.2 ⟨member, rfl⟩)
    exact ⟨fingerprints, key, fingerprint, Option.bind_eq_some_iff.2 ⟨entry, known, listed⟩, found,
      same⟩
  renewed {path unit} analyzes := by
    obtain ⟨fingerprints, fingerprint, known, found, hash⟩ := current path unit analyzes
    obtain ⟨id, record, isRecord, origin⟩ := exists_isRecord granularity inStep known found
    rw [id] at isRecord
    rw [hash] at origin
    exact ⟨record, isRecord, origin⟩

/-- After every run at unit granularity, whatever the history before it, each fingerprint of the
manifest has exactly one record, built from a unit with its key and digest in a version of the file
that a run has analysed. -/
theorem records_have_provenance {home : Location} {start finish : Disk} {events : List Event}
    {reading : Reading} (proper : Disk.Proper home) (stateless : Stateless start home)
    (history : History home start (events ++ [.run reading]) finish)
    (granularity : reading.context.config.granularity = .unit) :
    ∃ manifest records, Persisted finish home manifest records ∧
      Provenance (events ++ [.run reading]) reading manifest records := by
  obtain ⟨state, persisted, inStep, matched, current⟩ :=
    history.persisted (kept_inStep.and (kept_matched.and kept_current)) proper stateless
  have settings := Manifest.compatible_iff.1 (matched reading (lastReading?_run ..))
  exact ⟨state.manifest, state.store.records, persisted,
    provenance_of_inStep (settings.2.1.trans granularity) inStep
      (current reading (lastReading?_run ..) granularity)⟩

/-- A second run on a small tree, whose file has changed, leaves such a state. -/
theorem records_have_provenance_rerun :
    ∃ reading finish manifest records, Rerun .unit changedFile reading finish ∧
      Persisted finish ["tree"] manifest records ∧
      Provenance (rerunEvents .unit reading) reading manifest records := by
  obtain ⟨reading, finish, rerun⟩ := exists_rerun .unit (List.mem_cons_self (a := changedFile))
  obtain ⟨manifest, records, persisted⟩ :=
    records_have_provenance proper_sample stateless_sample rerun.history
      (congrArg (·.config.granularity) rerun.context)
  exact ⟨reading, finish, manifest, records, rerun, persisted⟩

end Workspace

end SourceIndex
