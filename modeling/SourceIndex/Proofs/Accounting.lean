import SourceIndex.Proofs.Incremental
import SourceIndex.Proofs.Site

/-!
# What the counts of a run mean

A run that writes counts the records that it has derived, those that it has taken over and those
that it has removed. The counts are differences of sizes, and a record that is carried over for a
broken unit is both removed and inserted. They are compared here with lists of records that are
defined by the state and the sources alone: the records that are built from source, and those that
are carried over.
-/

namespace SourceIndex

/-- The elements of a list apart from some of them. -/
theorem length_filter_notMem_of_perm {α : Type} [DecidableEq α] {all some rest : List α}
    (distinct : all.Nodup) (split : all.Perm (some ++ rest)) :
    (all.filter (· ∉ some)).length = rest.length := by
  have apart := List.disjoint_of_nodup_append (split.nodup_iff.1 distinct)
  have none : some.filter (· ∉ some) = [] := by simp
  have others : rest.filter (· ∉ some) = rest :=
    List.filter_eq_self.2 fun _ member => decide_eq_true fun other => apart other member
  rw [(split.filter _).length_eq, List.filter_append, none, others, List.nil_append]

namespace Pass

variable (input : Input) (baseline : Option Baseline)

/-! ## Built and carried records -/

/-- Whether a pass builds the record of a unit from source: the unit can be analysed and, if units
are tracked, it has changed or its record is not there. -/
def Input.builds (file : SourceFile) (unit : SourceUnit) : Bool :=
  !unit.hasError && (input.config.granularity = .file ||
    unit.isChanged ((known? baseline file.path).bind (·.fingerprints)) ||
    ((storeOf baseline).get? file.path (unit.identifier file.path)).isNone)

/-- The records that a pass builds from a source. -/
def Input.built (source : Source) : List Record :=
  (input.analyzer.file? source).toList.flatMap fun file =>
    (file.units.filter (input.builds baseline file)).map (·.record input.analyzer.maxCalls file)

/-- The old records that a pass puts in place of those that it cannot build from a source. If units
are tracked, they are left where they are. -/
def Input.carried (source : Source) : List Record :=
  (input.analyzer.file? source).toList.flatMap fun file =>
    if input.config.granularity = .file then
      file.brokenUnits.filterMap (FileAnalysis.oldRecord? (storeOf baseline) file)
    else []

/-- All records that a pass builds. -/
def Input.builtRecords : List Record :=
  (input.stale (input.changes baseline)).flatMap (input.built baseline)

/-- All records that a pass carries over. -/
def Input.carriedRecords : List Record :=
  (input.stale (input.changes baseline)).flatMap (input.carried baseline)

variable {input baseline} {source : Source} {analysis : FileAnalysis}

/-- Of a file whose units are tracked the records are derived that are to be built. -/
theorem needsRecord_eq_builds {file : SourceFile} (granularity : input.config.granularity = .unit)
    (distinct : (file.units.map (·.key)).Nodup) {unit : SourceUnit} (member : unit ∈ file.units) :
    FileAnalysis.needsRecord (storeOf baseline) file (FileAnalysis.soundChanges
        input.config.tracking ((known? baseline file.path).bind (·.fingerprints)) file) unit =
      input.builds baseline file unit := by
  rw [Bool.eq_iff_iff, FileAnalysis.needsRecord_iff distinct member, SourceFile.soundUnits,
    List.mem_filter, Input.builds, granularity]
  simp only [member, true_and, reduceCtorEq, decide_false, Bool.false_or, Bool.and_eq_true,
    Bool.or_eq_true, SourceUnit.isChanged_iff, Option.isNone_iff_eq_none]
  refine and_congr_right fun sound => ?_
  rw [Bool.not_eq_true'] at sound
  simp only [sound, true_and]
  exact imp_iff_not_or

/-- What is put into the store for a source was built or carried over. -/
theorem perm_of_analysis? (found : analysis? input baseline source = some analysis) :
    analysis.update.records.Perm (input.built baseline source ++ input.carried baseline source) ∧
      analysis.carried = (input.carried baseline source).length := by
  obtain ⟨file, read, rest⟩ := Option.bind_eq_some_iff.1 found
  cases rest
  have text : input.analyzer.file? source = some file := read
  rw [Input.built, Input.carried, text, Option.toList_some, List.flatMap_singleton,
    List.flatMap_singleton]
  cases granularity : input.config.granularity with
  | file =>
    have sound : file.units.filter (input.builds baseline file) = file.soundUnits :=
      List.filter_congr fun unit _ => by simp [Input.builds, granularity]
    rw [if_pos rfl, sound, FileAnalysis.derive_of_file granularity]
    exact ⟨FileAnalysis.perm_records_deriveFile _ _ _, rfl⟩
  | unit =>
    have distinct := SourceFile.nodup_keys_of_ofContent? read
    have needed : file.units.filter (FileAnalysis.needsRecord (storeOf baseline) file
        (FileAnalysis.soundChanges input.config.tracking
          ((known? baseline file.path).bind (·.fingerprints)) file)) =
        file.units.filter (input.builds baseline file) :=
      List.filter_congr fun _ member => needsRecord_eq_builds granularity distinct member
    rw [if_neg (by simp), List.append_nil, FileAnalysis.derive_of_unit granularity,
      FileAnalysis.deriveUnits_eq, fingerprints?_eq, needed]
    exact ⟨.refl _, rfl⟩

/-- A source without an analysis has no records. -/
theorem built_of_none (failed : analysis? input baseline source = none) :
    input.built baseline source = [] ∧ input.carried baseline source = [] := by
  rw [Input.built, Input.carried, analysis?_eq_none_iff.1 failed]
  exact ⟨rfl, rfl⟩

/-- What a pass puts into the store was built or carried over. -/
theorem perm_updates (input : Input) (baseline : Option Baseline) :
    ((updates input baseline).flatMap (·.records)).Perm
      (input.builtRecords baseline ++ input.carriedRecords baseline) := by
  have each : ∀ source, ((analysis? input baseline source).toList.flatMap (·.update.records)).Perm
      (input.built baseline source ++ input.carried baseline source) := by
    intro source
    cases found : analysis? input baseline source with
    | none => rw [(built_of_none found).1, (built_of_none found).2]; rfl
    | some analysis => simpa using (perm_of_analysis? found).1
  rw [updates, analyzedSources, List.filterMap_map, List.flatMap_map,
    List.filterMap_eq_flatMap_toList, List.flatMap_assoc, Input.builtRecords, Input.carriedRecords]
  refine .trans (List.Perm.flatMap_left _ fun source _ => each source) ?_
  exact (List.flatMap_append_perm ..).symm

/-- The records that a pass has carried over are counted. -/
theorem foldl_carried_eq (input : Input) (baseline : Option Baseline) :
    ((analyzedSources input baseline).filterMap (·.2)).foldl
      (fun count analysis => count + analysis.carried) 0 =
        (input.carriedRecords baseline).length := by
  rw [analyzedSources, List.filterMap_map, Input.carriedRecords]
  -- The fold starts with what it has counted so far.
  rw [← Nat.zero_add (List.length _)]
  generalize 0 = count
  induction input.stale (input.changes baseline) generalizing count with
  | nil => rfl
  | cons source rest ih =>
    rw [List.flatMap_cons, List.length_append, ← Nat.add_assoc]
    cases found : analysis? input baseline source with
    | none =>
      rw [List.filterMap_cons_none (by simpa using found), ih, (built_of_none found).2]
      rfl
    | some analysis =>
      rw [List.filterMap_cons_some (by simpa using found), List.foldl_cons, ih,
        (perm_of_analysis? found).2]

/-- What is carried over was there before. -/
theorem mem_of_mem_carriedRecords {record : Record}
    (member : record ∈ input.carriedRecords baseline) : record ∈ (storeOf baseline).records := by
  obtain ⟨source, _, carried⟩ := List.mem_flatMap.1 member
  obtain ⟨file, _, carried⟩ := List.mem_flatMap.1 carried
  split at carried
  · obtain ⟨unit, _, found⟩ := List.mem_filterMap.1 carried
    exact (FileAnalysis.key_of_oldRecord? found).1
  · cases carried

/-! ## The counts -/

/-- The counts of a pass, compared with the records before and after it. -/
structure Accounts (input : Input) (baseline : Option Baseline) (summary : Summary)
    (records : List Record) : Prop where
  /-- No record is built or carried over twice, and none is both. -/
  distinct : (input.builtRecords baseline ++ input.carriedRecords baseline).Nodup
  placed : ∀ record ∈ input.builtRecords baseline ++ input.carriedRecords baseline, record ∈ records
  /-- What was inserted and not carried over is what was derived: nothing is cut off. -/
  inserted : (Update.apply input.config.granularity (storeOf baseline)
    (input.changes baseline).deleted (updates input baseline)).inserted =
      summary.reanalyzed + (input.carriedRecords baseline).length
  reanalyzed : summary.reanalyzed = (input.builtRecords baseline).length
  retained : summary.retained = (records.filter (· ∉ input.builtRecords baseline)).length
  known : ∀ record ∈ records, record ∉ input.builtRecords baseline →
    record ∈ (storeOf baseline).records
  size : summary.records = records.length
  /-- Every record was derived or taken over: nothing is cut off here either. -/
  split : summary.reanalyzed + summary.retained = summary.records
  /-- A pass without a baseline starts from nothing. -/
  full : summary.mode = .full → (storeOf baseline).records = []
  removed : summary.removed ≤ (storeOf baseline).records.length
  balance : summary.records = (storeOf baseline).records.length - summary.removed +
    summary.reanalyzed + (input.carriedRecords baseline).length

/-- The records after a pass: built ones, kept ones and those that were carried over. -/
theorem perm_records_nextStore (input : Input) (baseline : Option Baseline) :
    (nextStore input baseline).records.Perm (input.builtRecords baseline ++
      ((storeOf baseline).records.filter (Update.keeps input.config.granularity
        (input.changes baseline).deleted (updates input baseline)) ++
          input.carriedRecords baseline)) := by
  rw [nextStore, Update.records_apply wellFormed_updates (nodup_update_paths input baseline)]
  refine ((perm_updates input baseline).append_left _).trans ?_
  rw [← List.append_assoc, ← List.append_assoc]
  exact List.perm_append_comm.append_right _

theorem records_advance (input : Input) (baseline : Option Baseline) :
    (advance input baseline (input.changes baseline)).summary.records =
      (nextStore input baseline).size := by
  simp only [advance]
  rfl

/-- The number of records that a pass reports as taken over. -/
theorem retained_advance (input : Input) (baseline : Option Baseline) :
    (advance input baseline (input.changes baseline)).summary.retained =
      (nextStore input baseline).size -
        (advance input baseline (input.changes baseline)).summary.reanalyzed := by
  simp only [advance]
  rfl

/-- The counts of a pass that has something to bring up to date. -/
theorem accounts_advance (input : Input) (baseline : Option Baseline) :
    Accounts input baseline (advance input baseline (input.changes baseline)).summary
      (nextStore input baseline).records := by
  have perm := perm_records_nextStore input baseline
  have fresh := perm_updates input baseline
  have size := records_advance input baseline
  have taken := retained_advance input baseline
  have reanalyzed := reanalyzed_advance input baseline
  have removed := removed_advance input baseline
  have count := perm.length_eq
  have kept := List.length_filter_le (Update.keeps input.config.granularity
    (input.changes baseline).deleted (updates input baseline)) (storeOf baseline).records
  rw [foldl_carried_eq, fresh.length_eq, List.length_append, Nat.add_sub_cancel] at reanalyzed
  rw [List.length_append, List.length_append] at count
  rw [Store.size] at size taken
  have nodup : (nextStore input baseline).records.Nodup :=
    List.Nodup.of_map _ (nextStore input baseline).distinct
  exact {
    distinct := by
      have apart := perm.nodup_iff.1 nodup
      exact ((List.sublist_append_right _ _).append_left _).nodup apart
    placed := by
      intro record member
      rw [perm.mem_iff, List.mem_append]
      exact (List.mem_append.1 member).imp_right (List.mem_append_right _)
    inserted := by
      rw [Update.inserted_apply, fresh.length_eq, List.length_append, reanalyzed]
    reanalyzed := reanalyzed
    retained := by
      rw [length_filter_notMem_of_perm nodup perm, taken, reanalyzed, List.length_append, count,
        Nat.add_sub_cancel_left]
    known := by
      intro record member other
      rcases List.mem_append.1 (perm.mem_iff.1 member) with built | taken
      · exact absurd built other
      · rcases List.mem_append.1 taken with kept | carried
        · exact (List.mem_filter.1 kept).1
        · exact mem_of_mem_carriedRecords carried
    size := size
    split := by omega
    full := by
      intro full
      cases baseline with
      | none => rfl
      | some state => cases full
    removed := by omega
    balance := by omega }

/-- A pass that reports that it has written has a next state. -/
theorem exists_next_of_written (written : (run input baseline).summary.written = true) :
    ∃ next, (run input baseline).next = some next := by
  cases known : (run input baseline).next with
  | some next => exact ⟨next, rfl⟩
  | none =>
    obtain ⟨state, rfl, same⟩ := exists_confirmed known
    rw [run_some, if_pos same] at written
    cases written

/-- A pass that finds a file gone writes. -/
theorem written_of_mem_deleted {state : Baseline} {path : String}
    (gone : path ∈ (input.changes (some state)).deleted) :
    (run input (some state)).summary.written = true := by
  rw [run_some]
  split
  case isTrue same =>
    rw [Input.changes, (FileChanges.isEmpty_iff.1 same).2] at gone
    cases gone
  case isFalse => rfl

/-- The counts of a pass that has a next state. -/
theorem accounts_of_next {next : Baseline} (known : (run input baseline).next = some next) :
    Accounts input baseline (run input baseline).summary next.store.records := by
  have advanced := advance_of_next known
  rw [advanced, next_advance] at known
  cases known
  rw [advanced]
  exact accounts_advance input baseline

end Pass

namespace Workspace

variable {context : Context} {root : String} {disk after : Disk} {summary : Summary}

/-- The counts of every run that writes are exact, whatever the state that it has loaded. The number
of derived records is that of the records built from source, and all other records of the new store
were in the old one as they are. The new number of records is the old one, less the removed records,
plus the derived ones and those carried over for broken units. No difference is cut off at zero. -/
theorem run_accounts_for_records (done : run context root disk = (.ok summary, after))
    (written : summary.written = true) :
    ∃ home reading next, Leads disk root home ∧ reading.context = context ∧
      Gathers disk home reading ∧ reading.outcome.next = some next ∧
      persist (Path.absolute home) next disk = (.ok (), after) ∧
      Pass.Accounts reading.input reading.baseline summary next.store.records := by
  rw [run_eq] at done
  obtain ⟨⟨path, reading⟩, middle, gathered, concluded⟩ := bind_ok done
  obtain ⟨rfl, context, home, leads, rfl, gathers⟩ := gathers_of_gather gathered
  cases summary_of_conclude concluded
  obtain ⟨next, known⟩ := Pass.exists_next_of_written written
  exact ⟨home, reading, next, leads, context, gathers, known, persist_of_conclude known concluded,
    Pass.accounts_of_next known⟩

/-- The tree of the small file with a syntax error in its function. -/
def brokenTree : Node :=
  ⟨"module", none, true, true, 0, 11,
    [⟨"function_definition", none, true, true, 0, 10,
      [⟨"identifier", some "name", true, false, 4, 5, []⟩,
       ⟨"parameters", some "parameters", true, false, 5, 7, []⟩,
       ⟨"block", some "body", true, true, 9, 10, []⟩]⟩]⟩

/-- A state that no run has left: it remembers a file that is gone, and it has a record of that file
and records of two files that it does not remember. -/
def strayState : Baseline where
  manifest :=
    { version := Manifest.currentVersion
      granularity := .file
      digest := .sha256
      generated := Instant.ofUnix 0 0
      files := KeyMap.ofList [("c.py", ⟨"", 0, none, [], none⟩)]
      totals := ⟨1, 0, 3, .full⟩ }
  store := Update.threeFiles

/-- The small tree with that state. -/
def strayDisk : Disk := smallDisk sampleFile (written [] strayState)

/-- The settings of a run that finds the function broken. -/
def brokenContext : Context := ⟨fun _ _ => brokenTree, {}, Instant.ofUnix 0 0⟩

/-- What the run reads. -/
def strayReading (store : Store) : Reading where
  context := brokenContext
  baseline := some ⟨strayState.manifest, store⟩
  sources := (sampleReading .file none).sources

set_option maxRecDepth 4000 in
/-- A run builds on that state and carries over the record of the broken function. -/
theorem run_accounts_for_records_stray :
    ∃ summary after home reading next,
      run brokenContext (Path.absolute ["tree"]) strayDisk = (.ok summary, after) ∧
      summary.written = true ∧
      Gathers strayDisk home reading ∧ reading.outcome.next = some next ∧
      (Pass.storeOf reading.baseline).records = strayState.store.records ∧
      Pass.Accounts reading.input reading.baseline summary next.store.records := by
  have ready : Ready strayDisk ["tree"] (written [] strayState) :=
    ⟨proper_sample, ⟨_, rfl⟩, .inl rfl⟩
  have stores := stores_written [] strayState
  have dated : strayState.manifest.Dated := by
    refine ⟨rfl, fun {path entry} found time bears => ?_⟩
    cases List.mem_singleton.1 (KeyMap.mem_of_get?_ofList found)
    cases bears
  have settings : strayState.manifest.compatible brokenContext.config.granularity
      brokenContext.config.tracking.digest = true := rfl
  obtain ⟨store, same, loaded⟩ := ready.loadBaseline?_exact stores dated settings
  have valid : brokenContext.config.fault? = none := rfl
  have scanned : (sources (Path.absolute ["tree"]) {} (smallDisk sampleFile [])).1 =
      .ok [sampleSource sampleFile] := rfl
  have gathers : Gathers strayDisk ["tree"] (strayReading store) :=
    ⟨valid, loaded, sources_small scanned _⟩
  obtain ⟨after, done, _⟩ := ready.exists_run stores.tidy ready.leads gathers
  have gone : "c.py" ∈
      ((strayReading store).input.changes (some ⟨strayState.manifest, store⟩)).deleted :=
    Pass.mem_deleted_iff.2 ⟨rfl, rfl⟩
  have written := Pass.written_of_mem_deleted gone
  obtain ⟨home, reading, next, leads, context, found, known, _, accounts⟩ :=
    run_accounts_for_records done written
  cases ready.leads.unique leads
  have read := found.loaded
  rw [context] at read
  have baseline : reading.baseline = some ⟨strayState.manifest, store⟩ :=
    Except.ok.inj (congrArg Prod.fst (read.symm.trans loaded))
  refine ⟨_, after, _, reading, next, done, written, found, known, ?_, accounts⟩
  rw [baseline]
  exact same

end Workspace

end SourceIndex
