import SourceIndex.Proofs.Agreement
import SourceIndex.Proofs.Rebuild
import SourceIndex.Proofs.Reload

/-!
# What an incremental run derives

At unit granularity a run that builds on older state derives the records of the units that have
changed, and removes the records whose units are gone or have changed. Both are said here in terms
of the state and the sources alone, and the records after the run are computed from them.
-/

namespace SourceIndex

/-! ## What has to be derived -/

/-- Whether a unit can be analysed and is not remembered as it is: its key is new, or it is
remembered with another digest. -/
def SourceUnit.isChanged (prior : Option (KeyMap Fingerprint)) (unit : SourceUnit) : Bool :=
  !unit.hasError && (prior.bind (·.get? unit.key)).all (·.hash ≠ unit.hash)

theorem SourceUnit.isChanged_iff {prior : Option (KeyMap Fingerprint)} {unit : SourceUnit} :
    unit.isChanged prior = true ↔
      unit.hasError = false ∧ ¬ FileAnalysis.Remembered prior unit := by
  rw [SourceUnit.isChanged, Bool.and_eq_true, Bool.not_eq_true', Option.all_eq_true]
  refine and_congr_right fun _ => ⟨fun changed => ?_, fun changed fingerprint known => ?_⟩
  · rintro ⟨old, fingerprint, rfl, known, same⟩
    exact of_decide_eq_true (changed fingerprint known) same
  · obtain ⟨old, rfl, known⟩ := Option.bind_eq_some_iff.1 known
    exact decide_eq_true fun same => changed ⟨old, fingerprint, rfl, known, same⟩

/-- Whether a fingerprint does not hold in a file any more: if a unit has its key, it can be
analysed and has another digest. -/
def SourceFile.retires (file : SourceFile) (key : String) (fingerprint : Fingerprint) : Bool :=
  file.units.all fun unit => unit.key ≠ key || (!unit.hasError && unit.hash ≠ fingerprint.hash)

theorem SourceFile.retires_iff {file : SourceFile} {key : String} {fingerprint : Fingerprint} :
    file.retires key fingerprint = true ↔ FileAnalysis.isBroken file key = false ∧
      ∀ unit ∈ file.soundUnits, unit.key = key → fingerprint.hash ≠ unit.hash := by
  simp only [retires, FileAnalysis.isBroken, soundUnits, brokenUnits, List.all_eq_true,
    List.any_eq_false, List.mem_filter, Bool.or_eq_true, Bool.and_eq_true, Bool.not_eq_true',
    decide_eq_true_eq, ne_eq]
  constructor
  · intro all
    constructor
    · intro unit listed same
      rcases all unit listed.1 with differs | ⟨sound, _⟩
      · exact differs same
      · cases listed.2.symm.trans sound
    · intro unit listed same equal
      rcases all unit listed.1 with differs | ⟨_, changed⟩
      · exact differs same
      · exact changed equal.symm
  · rintro ⟨whole, changed⟩ unit member
    by_cases same : unit.key = key
    · cases broken : unit.hasError with
      | true => exact absurd same (whole unit ⟨member, broken⟩)
      | false => exact .inr ⟨rfl, fun equal => changed unit ⟨member, broken⟩ same equal.symm⟩
    · exact .inl same

namespace FileAnalysis

variable {maxCalls : Nat} {tracking : Tracking} {prior : Option (KeyMap Fingerprint)}
  {store : Store}
variable {file : SourceFile} {origin : (key hash : String) → Record → Prop}
variable (distinct : (file.units.map (·.key)).Nodup)

/-- The record of a unit that is remembered is there. -/
theorem exists_get?_of_remembered {unit : SourceUnit}
    (before : ∀ old, prior = some old → Tracked origin file.path old (store.ofFile file.path))
    (remembered : Remembered prior unit) :
    ∃ record, store.get? file.path (unit.identifier file.path) = some record := by
  obtain ⟨old, fingerprint, rfl, known, _⟩ := remembered
  have tracked := before old rfl
  obtain ⟨record, member, same, _⟩ := tracked.recorded known
  obtain ⟨stored, here⟩ := Store.mem_ofFile_iff.1 member
  refine ⟨record, Store.get?_eq_some_iff.2 ⟨stored, ?_⟩⟩
  rw [Record.key, here, same, tracked.named known]
  rfl

include distinct

/-- Of a file whose units are tracked the records of the changed units are derived. -/
theorem records_unitUpdate
    (before : ∀ old, prior = some old → Tracked origin file.path old (store.ofFile file.path)) :
    (unitUpdate maxCalls tracking prior store file).records =
      (file.units.filter (·.isChanged prior)).map (·.record maxCalls file) := by
  have needed : ∀ unit ∈ file.units,
      needsRecord store file (soundChanges tracking prior file) unit = unit.isChanged prior := by
    intro unit member
    rw [Bool.eq_iff_iff, needsRecord_iff distinct member, SourceUnit.isChanged_iff,
      SourceFile.soundUnits, List.mem_filter, Bool.not_eq_true']
    constructor
    · rintro ⟨⟨_, sound⟩, missing⟩
      refine ⟨sound, fun remembered => ?_⟩
      obtain ⟨record, found⟩ := exists_get?_of_remembered before remembered
      cases (missing remembered).symm.trans found
    · rintro ⟨sound, changed⟩
      exact ⟨⟨member, sound⟩, fun remembered => absurd remembered changed⟩
  rw [unitUpdate, deriveUnits_eq]
  exact congrArg _ (List.filter_congr needed)

/-- Of a file whose units are tracked the records go whose fingerprints do not hold any more. A
record that is derived afresh takes the place of one of them. -/
theorem outdates_unitUpdate {old : KeyMap Fingerprint} {record : Record}
    (before : Tracked origin file.path old (store.ofFile file.path))
    (member : record ∈ store.ofFile file.path) :
    Update.outdates .unit (unitUpdate maxCalls tracking (some old) store file) record =
      old.entries.any fun entry => entry.2.id = record.id && file.retires entry.1 entry.2 := by
  have stale : record.id ∈ (soundChanges tracking (some old) file).staleIds ↔
      (old.entries.any fun entry => entry.2.id = record.id && file.retires entry.1 entry.2) =
        true := by
    rw [mem_staleIds_iff distinct]
    simp only [List.any_eq_true, Prod.exists, ← KeyMap.get?_eq_some_iff, Bool.and_eq_true,
      decide_eq_true_eq, SourceFile.retires_iff]
    refine exists_congr fun key => exists_congr fun fingerprint => and_congr_right fun _ => ?_
    rw [and_left_comm]
  have fresh : record.id ∉ (soundChanges tracking (some old) file).staleIds →
      ∀ other ∈ (unitUpdate maxCalls tracking (some old) store file).records,
        other.id ≠ record.id := by
    intro current other derived same
    rw [records_unitUpdate distinct (fun _ known => Option.some.inj known ▸ before)] at derived
    obtain ⟨unit, listed, rfl⟩ := List.mem_map.1 derived
    obtain ⟨listed, changed⟩ := List.mem_filter.1 listed
    obtain ⟨sound, changed⟩ := SourceUnit.isChanged_iff.1 changed
    obtain ⟨key, fingerprint, known, equal⟩ := before.covered record member
    have here : key = unit.key := by
      rw [← same, before.named known] at equal
      exact SourceUnit.identifierOf_inj.1 equal
    subst here
    have isSound : unit ∈ file.soundUnits := List.mem_filter.2 ⟨listed, by simp [sound]⟩
    refine current ((mem_staleIds_iff distinct).2 ⟨unit.key, fingerprint, known,
      isBroken_of_sound distinct isSound, equal, fun other there key unchanged => ?_⟩)
    cases SourceFile.unit_eq_of_key distinct (List.mem_filter.1 there).1 listed key
    exact changed ⟨old, fingerprint, rfl, known, unchanged⟩
  have outdated :
      Update.outdates .unit (unitUpdate maxCalls tracking (some old) store file) record =
      false ↔ _ := outdates_unitUpdate_iff (Store.mem_ofFile_iff.1 member).2
  rw [Bool.eq_iff_iff, ← stale, ← not_iff_not, Bool.not_eq_true, outdated]
  exact ⟨fun stays => stays.2.1, fun current => ⟨⟨old, rfl⟩, current, fresh current⟩⟩

omit distinct in
/-- What an analysis leads to if units are tracked. -/
theorem update_of_unit {parser : Parser} {config : Config} {manifest : Option Manifest}
    {source : Source} {analysis : FileAnalysis} (granularity : config.granularity = .unit)
    (found : ofSource? parser config manifest store source = some analysis) :
    ∃ file, SourceFile.ofContent? parser config.tracking.digest source.path source.language
        source.content = some file ∧
      analysis.update = unitUpdate config.analysis.maxCallsPerUnit.toNat config.tracking
        (manifest.bind (·.fingerprints? source.path)) store file ∧ analysis.carried = 0 := by
  obtain ⟨file, read, rest⟩ := Option.bind_eq_some_iff.1 found
  cases rest
  refine ⟨file, read, ?_, ?_⟩
  · simp only [derive_of_unit granularity, SourceFile.path_of_ofContent? read, unitUpdate]
    rfl
  · simp only [derive_of_unit granularity]
    rfl

end FileAnalysis

namespace Pass

/-- Whether a source is new or has changed. -/
def Input.isStale (input : Input) (state : Baseline) (source : Source) : Bool :=
  (state.manifest.file? source.path).all
    (·.hash ≠ input.config.tracking.digest.ofBytes source.content)

/-- The records of the units of a source that have changed, in the order of the units. -/
def Input.rederived (input : Input) (state : Baseline) (source : Source) : List Record :=
  match input.analyzer.file? source with
  | none => []
  | some file =>
    (file.units.filter (·.isChanged (state.manifest.fingerprints? source.path))).map
      (·.record input.analyzer.maxCalls file)

/-- Whether a record has to go: its file is gone, or the fingerprint of its unit does not hold in
the new text of the file. -/
def Input.retires (input : Input) (state : Baseline) (record : Record) : Bool :=
  (input.source? record.file).all fun source => input.isStale state source &&
    (input.analyzer.file? source).any fun file =>
      ((state.manifest.fingerprints? record.file).getD .empty).entries.any fun entry =>
        entry.2.id = record.id && file.retires entry.1 entry.2

variable {input : Input} {state : Baseline} {source : Source} {origin : Origins}

theorem isStale_iff : input.isStale state source = true ↔ Stale input (some state) source := by
  rw [Input.isStale, Option.all_eq_true]
  simp only [decide_eq_true_eq]
  rfl

/-- What a pass re-derives of a state: it analyses the new and the changed sources, the records
whose fingerprints do not hold any more go, the others stay in their order, and the records of the
changed units follow in the order of paths and units. -/
structure Rederives (input : Input) (state : Baseline) (summary : Summary) (analyzed : List Source)
    (records : List Record) : Prop where
  listed : ∀ source, source ∈ analyzed ↔
    input.source? source.path = some source ∧ input.isStale state source = true
  ordered : (analyzed.map (·.path)).Pairwise (· < ·)
  records : records = state.store.records.filter (!input.retires state ·) ++
    analyzed.flatMap (input.rederived state)
  reanalyzed : summary.reanalyzed = (analyzed.flatMap (input.rederived state)).length
  removed : summary.removed = (state.store.records.filter (input.retires state)).length

theorem foldl_carried {analyses : List FileAnalysis}
    (none : ∀ analysis ∈ analyses, analysis.carried = 0) :
    analyses.foldl (fun count analysis => count + analysis.carried) 0 = 0 := by
  induction analyses with
  | nil => rfl
  | cons analysis rest ih =>
    rw [List.foldl_cons, none analysis (List.mem_cons_self ..)]
    exact ih fun other member => none other (List.mem_cons_of_mem _ member)

section

variable (granularity : input.config.granularity = .unit) (sound : Sound origin input (some state))
include granularity sound

/-- A record of a state has a fingerprint. -/
theorem exists_fingerprints_of_mem {record : Record} (member : record ∈ state.store.records) :
    ∃ old, state.manifest.fingerprints? record.file = some old := by
  have agrees := sound record.file
  have listed : record ∈ (storeOf (some state)).ofFile record.file :=
    Store.mem_ofFile_iff.2 ⟨member, rfl⟩
  cases known : known? (some state) record.file with
  | none =>
    rw [known] at agrees
    rw [agrees] at listed
    cases listed
  | some entry =>
    rw [known] at agrees
    obtain ⟨fingerprints, same, _⟩ := agrees.2.2 granularity
    exact ⟨fingerprints, Option.bind_eq_some_iff.2 ⟨entry, known, same⟩⟩

/-- What is derived from a source, in terms of the state and the source. -/
theorem records_of_analysis? :
    (analysis? input (some state) source).toList.flatMap (·.update.records) =
      input.rederived state source := by
  rw [Input.rederived]
  cases found : analysis? input (some state) source with
  | none =>
    cases read : input.analyzer.file? source with
    | none => rfl
    | some file => cases Option.bind_eq_none_iff.1 found file read
  | some analysis =>
    obtain ⟨file, read, update, _⟩ := FileAnalysis.update_of_unit granularity found
    have tracked : ∀ old, state.manifest.fingerprints? source.path = some old →
        FileAnalysis.Tracked (origin source.path) file.path old
          (state.store.ofFile file.path) := by
      rw [SourceFile.path_of_ofContent? read]
      exact fun old known => sound.tracked granularity known
    have text : input.analyzer.file? source = some file := read
    rw [Option.toList_some, List.flatMap_singleton, update, text]
    exact FileAnalysis.records_unitUpdate (SourceFile.nodup_keys_of_ofContent? read) tracked

/-- The records of the store that a pass keeps are those that do not have to go. -/
theorem keeps_eq_not_retires {record : Record} (member : record ∈ state.store.records) :
    Update.keeps .unit (input.changes (some state)).deleted (updates input (some state)) record =
      !input.retires state record := by
  obtain ⟨old, known⟩ := exists_fingerprints_of_mem granularity sound member
  obtain ⟨entry, remembered, _⟩ := Option.bind_eq_some_iff.1 known
  rw [Input.retires]
  cases here : input.source? record.file with
  | none =>
    have gone : record.file ∈ (input.changes (some state)).deleted :=
      mem_deleted_iff.2 ⟨Option.isSome_iff_exists.2 ⟨entry, remembered⟩, here⟩
    simp [Update.keeps, gone]
  | some source =>
    obtain ⟨path, _⟩ := Input.source?_eq_some here
    have present : record.file ∉ (input.changes (some state)).deleted := by
      rw [mem_deleted_iff, here]
      simp
    by_cases derived : ∃ analysis, Stale input (some state) source ∧
        analysis? input (some state) source = some analysis
    · obtain ⟨analysis, stale, found⟩ := derived
      obtain ⟨file, read, update, _⟩ := FileAnalysis.update_of_unit granularity found
      have named := SourceFile.path_of_ofContent? read
      have text : input.analyzer.file? source = some file := read
      have listed : analysis.update ∈ updates input (some state) :=
        mem_updates_iff.2 ⟨source, analysis, path.symm ▸ here, stale, found, rfl⟩
      have own : record.file = analysis.update.path := by
        rw [FileAnalysis.path_of_ofSource? found, path]
      have tracked : FileAnalysis.Tracked (origin record.file) file.path old
          (state.store.ofFile file.path) := by
        rw [named, path]
        exact sound.tracked granularity known
      have among : record ∈ state.store.ofFile file.path :=
        Store.mem_ofFile_iff.2 ⟨member, (named.trans path).symm⟩
      rw [Update.keeps_of_mem (nodup_update_paths input (some state)) listed (own ▸ present) own,
        Option.all_some, isStale_iff.2 stale, text, known, update]
      simp only [Option.map_some, Option.bind_some, path, known, storeOf_some]
      rw [FileAnalysis.outdates_unitUpdate (SourceFile.nodup_keys_of_ofContent? read) tracked among]
      rfl
    · have skipped : ∀ file ∈ updates input (some state), file.path ≠ record.file := by
        rintro file listed same
        obtain ⟨other, analysis, there, stale, found, rfl⟩ := mem_updates_iff.1 listed
        rw [FileAnalysis.path_of_ofSource? found] at same
        cases here.symm.trans (same ▸ there)
        exact derived ⟨analysis, stale, found⟩
      have stays : (input.isStale state source && (input.analyzer.file? source).any fun file =>
          ((state.manifest.fingerprints? record.file).getD .empty).entries.any fun entry =>
            entry.2.id = record.id && file.retires entry.1 entry.2) = false := by
        rw [Bool.and_eq_false_iff, or_iff_not_imp_left, Bool.not_eq_false, isStale_iff]
        intro stale
        cases read : input.analyzer.file? source with
        | none => rfl
        | some file =>
          cases found : analysis? input (some state) source with
          | none => cases Option.bind_eq_none_iff.1 found file read
          | some analysis => exact absurd ⟨analysis, stale, found⟩ derived
      rw [Update.keeps_of_not_mem skipped, Option.all_some, stays]
      simp [present]

/-- The records that a pass derives, in the order of their paths. -/
theorem flatMap_updates :
    (updates input (some state)).flatMap (·.records) =
      (input.stale (input.changes (some state))).flatMap (input.rederived state) := by
  rw [updates, analyzedSources, List.filterMap_map, List.flatMap_map,
    List.filterMap_eq_flatMap_toList, List.flatMap_assoc]
  exact List.flatMap_congr fun source _ => records_of_analysis? granularity sound

/-- What is reported and left, in terms of the state and the sources. -/
theorem rederives_of_records {summary : Summary} {records : List Record}
    (kept : records = state.store.records.filter (Update.keeps .unit
      (input.changes (some state)).deleted (updates input (some state))) ++
        (updates input (some state)).flatMap (·.records))
    (reanalyzed : summary.reanalyzed = ((updates input (some state)).flatMap (·.records)).length)
    (removed : summary.removed = state.store.records.length -
      (state.store.records.filter (Update.keeps .unit (input.changes (some state)).deleted
        (updates input (some state)))).length) :
    Rederives input state summary (input.stale (input.changes (some state))) records := by
  have stays : state.store.records.filter (Update.keeps .unit (input.changes (some state)).deleted
      (updates input (some state))) = state.store.records.filter (!input.retires state ·) :=
    List.filter_congr fun _ member => keeps_eq_not_retires granularity sound member
  rw [stays] at kept removed
  rw [flatMap_updates granularity sound] at kept reanalyzed
  refine ⟨fun source => ?_, sorted_stale_paths input (some state), kept, reanalyzed, ?_⟩
  · rw [mem_stale_iff, isStale_iff]
  · have split := List.length_eq_length_filter_add (l := state.store.records) (input.retires state)
    omega

/-- What a pass reports and leaves that has something to bring up to date. -/
theorem rederives_advance {next : Baseline}
    (known : (advance input (some state) (input.changes (some state))).next = some next) :
    Rederives input state (advance input (some state) (input.changes (some state))).summary
      (input.stale (input.changes (some state))) next.store.records := by
  have carried : ∀ analysis ∈ (analyzedSources input (some state)).filterMap (·.2),
      analysis.carried = 0 := by
    intro analysis member
    obtain ⟨_, listed, found⟩ := List.mem_filterMap.1 member
    obtain ⟨source, _, rfl⟩ := List.mem_map.1 listed
    obtain ⟨_, _, _, none⟩ := FileAnalysis.update_of_unit granularity found
    exact none
  have reanalyzed := reanalyzed_advance input (some state)
  rw [foldl_carried carried, Nat.sub_zero] at reanalyzed
  have removed := removed_advance input (some state)
  rw [granularity, storeOf_some] at removed
  rw [next_advance] at known
  cases known
  refine rederives_of_records granularity sound ?_ reanalyzed removed
  rw [nextStore, Update.records_apply wellFormed_updates (nodup_update_paths input (some state)),
    granularity, storeOf_some]

/-- A pass that finds its baseline up to date derives nothing. -/
theorem rederives_confirm (same : (input.changes (some state)).isEmpty = true) :
    Rederives input state (confirm input state (input.changes (some state))).summary
      (input.stale (input.changes (some state))) state.store.records := by
  have nothing : updates input (some state) = [] := by
    rw [updates, analyzedSources, stale_of_isEmpty same]
    rfl
  have all : state.store.records.filter (Update.keeps .unit (input.changes (some state)).deleted
      (updates input (some state))) = state.store.records := by
    rw [nothing, Input.changes, (FileChanges.isEmpty_iff.1 same).2]
    exact List.filter_eq_self.2 fun _ _ => rfl
  refine rederives_of_records granularity sound ?_ ?_ ?_
  · rw [all, nothing]
    simp
  · rw [nothing]
    rfl
  · rw [all, Nat.sub_self]
    rfl

/-- What a pass that builds on a state reports and leaves. -/
theorem rederives_final {final : Baseline} (known : final? input (some state) = some final) :
    Rederives input state (run input (some state)).summary
      (input.stale (input.changes (some state))) final.store.records := by
  rw [final?, run_some] at known
  rw [run_some]
  split at known
  case isTrue same =>
    cases known
    rw [if_pos same]
    exact rederives_confirm granularity sound same
  case isFalse changed =>
    rw [if_neg changed]
    exact rederives_advance granularity sound known

end

end Pass

/-- A state in agreement with settings that fit is one that a pass can build on. -/
theorem InStep.sound {origin : Origins} {input : Pass.Input} {state : Baseline}
    (inStep : InStep origin state) (fits : state.manifest.compatible input.config.granularity
      input.config.tracking.digest = true) : Pass.Sound origin input (some state) := by
  intro path
  rw [← (Manifest.compatible_iff.1 fits).2.1]
  exact inStep.files path

/-! ## Runs that build on a state -/

namespace Workspace

/-- A run has read the state of a tree to build on it. -/
structure BuildsOn (disk : Disk) (home : Location) (context : Context) (reading : Reading)
    (state : Baseline) : Prop where
  context : reading.context = context
  gathers : Gathers disk home reading
  baseline : reading.baseline = some state

/-- What an incremental run of a history has built on and what it has left. If there was nothing to
write, the state is the one that was there, up to the times of files. -/
structure Continues (holds : Baseline → Prop) (reading : Reading) (state final : Baseline)
    (summary : Summary) (after : Disk) (home : Location) : Prop where
  fits : state.manifest.compatible reading.context.config.granularity
    reading.context.config.tracking.digest = true
  known : holds state
  reported : summary = reading.outcome.summary
  passed : Pass.final? reading.input (some state) = some final
  persisted : ∃ manifest, Persisted after home manifest final.store.records ∧
    (manifest = final.manifest ∨ reading.analyzed = [])

variable {home : Location} {start before after : Disk} {events : List Event} {root : String}
variable {context : Context} {summary : Summary} {holds : List Event → Baseline → Prop}

/-- After any history, what an incremental run builds on has what passes keep. -/
theorem History.exists_continues (kept : Kept holds) (proper : Disk.Proper home)
    (stateless : Stateless start home) (history : History home start events before)
    (leads : Leads before root home) (done : run context root before = (.ok summary, after))
    (incremental : summary.mode = .incremental) :
    ∃ reading state final, BuildsOn before home context reading state ∧
      Continues (holds events) reading state final summary after home := by
  obtain ⟨inside, here, held⟩ := history.settled kept proper stateless
  have ready := leads.ready proper here
  rw [run_eq] at done
  obtain ⟨⟨path, reading⟩, middle, gathered, concluded⟩ := bind_ok done
  obtain ⟨rfl, rfl, other, leads', rfl, gathers⟩ := gathers_of_gather gathered
  cases leads.unique leads'
  have reported := summary_of_conclude concluded
  obtain ⟨state, loaded⟩ := exists_baseline_of_incremental (reported ▸ incremental)
  obtain ⟨written, stores, _, _, _, same⟩ := exists_stores_of_baseline ready gathers loaded held
  obtain ⟨fits, known⟩ := holds_of_baseline ready gathers loaded kept held
  have left := ready.conclude held.tidy.plain concluded
  have outcome : Pass.final? reading.input (some state) = reading.outcome.next.or (some state) := by
    rw [Pass.final?, Reading.outcome, loaded]
  cases next : reading.outcome.next with
  | none =>
    rw [next] at left outcome
    subst left
    refine ⟨reading, state, state, ⟨rfl, gathers, loaded⟩, fits, known, reported, outcome,
      written.manifest, ⟨inside, here, ?_⟩, .inr (Reading.analyzed_of_next_eq_none next)⟩
    rw [same]
    exact stores
  | some final =>
    rw [next] at left outcome
    obtain ⟨_, folder, readyAfter, storesAfter⟩ := left
    exact ⟨reading, state, final, ⟨rfl, gathers, loaded⟩, fits, known, reported, outcome,
      final.manifest, ⟨folder, readyAfter.holds, storesAfter⟩, .inl rfl⟩

/-- After any history, an incremental run at unit granularity re-derives exactly what has changed:
the records of the changed units are derived, the records whose units are gone or have changed are
removed, and the others stay as they are. -/
theorem incremental_run_rederives_changes (proper : Disk.Proper home)
    (stateless : Stateless start home) (history : History home start events before)
    (leads : Leads before root home) (done : run context root before = (.ok summary, after))
    (granularity : context.config.granularity = .unit)
    (incremental : summary.mode = .incremental) :
    ∃ reading state manifest records, BuildsOn before home context reading state ∧
      Persisted after home manifest records ∧
      Pass.Rederives reading.input state summary reading.analyzed records := by
  obtain ⟨reading, state, final, builds, continues⟩ :=
    history.exists_continues kept_inStep proper stateless leads done incremental
  obtain ⟨manifest, persisted, _⟩ := continues.persisted
  have isUnit : reading.input.config.granularity = .unit := by
    rw [Reading.input, builds.context]
    exact granularity
  have rederives := Pass.rederives_final isUnit (continues.known.sound continues.fits)
    continues.passed
  refine ⟨reading, state, manifest, final.store.records, builds, persisted, ?_⟩
  rw [continues.reported, Reading.outcome, Reading.analyzed, builds.baseline]
  exact rederives

set_option maxRecDepth 4000 in
/-- A run on the small tree, whose function was changed, builds on the run before the change. -/
theorem incremental_run_rederives_changes_sample :
    ∃ before after summary reading state manifest records,
      History ["tree"] sampleDisk ([.run (sampleReading .unit none)] ++ [.edit]) before ∧
      SameTree ["tree"] (smallDisk changedFile []) after ∧
      run (sampleReading .unit none).context (Path.absolute ["tree"]) before =
        (.ok summary, after) ∧
      summary.mode = .incremental ∧
      BuildsOn before ["tree"] (sampleReading .unit none).context reading state ∧
      Persisted after ["tree"] manifest records ∧
      Pass.Rederives reading.input state summary reading.analyzed records := by
  have scanned : (sources (Path.absolute ["tree"]) {} (smallDisk changedFile [])).1 =
      .ok [sampleSource changedFile] := rfl
  obtain ⟨before, after, read, history, leads, _, context, _, _, done, incremental, same⟩ :=
    exists_incremental_sample .unit scanned
  rw [context] at done
  obtain ⟨reading, state, manifest, records, result⟩ :=
    incremental_run_rederives_changes proper_sample stateless_sample history leads done rfl
      incremental
  exact ⟨before, after, _, reading, state, manifest, records, history, same, done, incremental,
    result⟩

end Workspace

end SourceIndex
