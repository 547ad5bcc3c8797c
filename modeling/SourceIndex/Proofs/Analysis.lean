import SourceIndex.Pass.Analysis
import SourceIndex.Proofs.Changes
import SourceIndex.Proofs.Keys
import SourceIndex.Proofs.Update

/-!
# What an analysis derives

The analysis of a file gives records of its units, and an entry that lists their identifiers. With
fingerprints, the records that stay in the store and the derived ones together are those of the
units that the entry remembers.
-/

namespace SourceIndex

/-! ## Units of a file -/

namespace SourceFile

variable {file : SourceFile} (distinct : (file.units.map (·.key)).Nodup)
include distinct

/-- Units of a file are told apart by their keys. -/
theorem unit_eq_of_key {first second : SourceUnit} (here : first ∈ file.units)
    (there : second ∈ file.units) (same : first.key = second.key) : first = second :=
  List.inj_on_of_nodup_map distinct here there same

theorem unit_eq_of_identifier {path : String} {first second : SourceUnit}
    (here : first ∈ file.units) (there : second ∈ file.units)
    (same : first.identifier path = second.identifier path) : first = second :=
  unit_eq_of_key distinct here there (SourceUnit.identifierOf_inj.1 same)

theorem nodup_identifiers (path : String) : (file.units.map (·.identifier path)).Nodup := by
  refine (List.Nodup.of_map _ distinct).map_on ?_
  intro first here second there same
  exact unit_eq_of_identifier distinct here there same

end SourceFile

namespace FileAnalysis

variable {maxCalls : Nat} {store : Store} {file : SourceFile}

/-! ## Files that are replaced as a whole -/

/-- An old record has the identifier of its unit. -/
theorem key_of_oldRecord? {unit : SourceUnit} {record : Record}
    (found : oldRecord? store file unit = some record) :
    record ∈ store.records ∧ record.file = file.path ∧ record.id = unit.identifier file.path := by
  obtain ⟨member, key⟩ := Store.get?_eq_some_iff.1 found
  exact ⟨member, congrArg Prod.fst key, congrArg Prod.snd key⟩

/-- The record that a unit has in a file that is replaced. -/
def replacement? (maxCalls : Nat) (store : Store) (file : SourceFile) (unit : SourceUnit) :
    Option Record :=
  if unit.hasError then oldRecord? store file unit else some (unit.record maxCalls file)

theorem key_of_replacement? {unit : SourceUnit} {record : Record}
    (found : replacement? maxCalls store file unit = some record) :
    record.file = file.path ∧ record.id = unit.identifier file.path := by
  rw [replacement?] at found
  split at found
  · exact (key_of_oldRecord? found).2
  · cases found
    exact ⟨rfl, rfl⟩

theorem records_deriveFile (maxCalls : Nat) (store : Store) (file : SourceFile) :
    (deriveFile maxCalls store file).records =
      file.units.filterMap (replacement? maxCalls store file) := rfl

/-- The records of a replaced file are those of its sound units and the old ones of the others. -/
theorem perm_records_deriveFile (maxCalls : Nat) (store : Store) (file : SourceFile) :
    (deriveFile maxCalls store file).records.Perm
      (file.soundUnits.map (·.record maxCalls file) ++
        file.brokenUnits.filterMap (oldRecord? store file)) := by
  have sound : file.soundUnits.map (·.record maxCalls file) =
      file.soundUnits.filterMap (replacement? maxCalls store file) := by
    rw [← List.filterMap_eq_map]
    apply List.filterMap_congr
    intro unit member
    have whole := (List.mem_filter.1 member).2
    rw [replacement?, if_neg (by simpa using whole)]
    rfl
  have broken : file.brokenUnits.filterMap (oldRecord? store file) =
      file.brokenUnits.filterMap (replacement? maxCalls store file) := by
    apply List.filterMap_congr
    intro unit member
    rw [replacement?, if_pos (List.mem_filter.1 member).2]
  have split : (file.soundUnits ++ file.brokenUnits).Perm file.units :=
    List.perm_append_comm.trans (List.filter_append_perm SourceUnit.hasError file.units)
  rw [records_deriveFile, sound, broken, ← List.filterMap_append]
  exact (split.filterMap _).symm

/-- The identifiers that the entry of a replaced file lists are those of its records. -/
theorem perm_units_deriveFile (maxCalls : Nat) (store : Store) (file : SourceFile)
    (keepSource : Bool) :
    ((file.states keepSource).map (·.fingerprint.id) ++
      (deriveFile maxCalls store file).keptIds).Perm
        ((deriveFile maxCalls store file).records.map (·.id)) := by
  have listed : (file.states keepSource).map (·.fingerprint.id) ++
      (deriveFile maxCalls store file).keptIds =
        (file.soundUnits.map (·.record maxCalls file) ++
          file.brokenUnits.filterMap (oldRecord? store file)).map (·.id) := by
    simp [SourceFile.states, SourceUnit.state, SourceUnit.fingerprint, SourceUnit.record,
      deriveFile]
  rw [listed]
  exact ((perm_records_deriveFile maxCalls store file).map _).symm

/-! ## Files whose units are tracked -/

/-- Whether a key belongs to a unit with a syntax error. -/
def isBroken (file : SourceFile) (key : String) : Bool := file.brokenUnits.any (·.key = key)

/-- The fingerprints that broken units keep. -/
def keptFingerprints (prior : Option (KeyMap Fingerprint)) (file : SourceFile) :
    KeyMap Fingerprint :=
  (prior.getD .empty).filter fun key _ => isBroken file key

/-- The changes of the sound units. -/
def soundChanges (tracking : Tracking) (prior : Option (KeyMap Fingerprint)) (file : SourceFile) :
    UnitChanges :=
  UnitChanges.compare file.path
    (prior.map fun fingerprints => fingerprints.filter fun key _ => !isBroken file key)
    (file.states tracking.retainsSource) tracking

/-- The fingerprints of the sound units, then those that broken units keep. -/
def fingerprintEntries (tracking : Tracking) (prior : Option (KeyMap Fingerprint))
    (file : SourceFile) : List (String × Fingerprint) :=
  (file.states tracking.retainsSource).map (fun state => (state.name, state.fingerprint))
    ++ (keptFingerprints prior file).entries

/-- What is derived from a file whose units are tracked, in these terms. -/
theorem deriveUnits_eq (maxCalls : Nat) (tracking : Tracking) (prior : Option (KeyMap Fingerprint))
    (store : Store) (file : SourceFile) :
    deriveUnits maxCalls tracking prior store file =
      { records := (file.units.filter
          (needsRecord store file (soundChanges tracking prior file))).map (·.record maxCalls file)
        changes := some (soundChanges tracking prior file)
        keptIds := (keptFingerprints prior file).values.map (·.id)
        fingerprints := some (KeyMap.ofList (fingerprintEntries tracking prior file))
        carried := 0 } := rfl

variable {tracking : Tracking} {prior : Option (KeyMap Fingerprint)}
variable {key : String} {fingerprint : Fingerprint}

theorem get?_keptFingerprints :
    (keptFingerprints prior file).get? key = some fingerprint ↔
      isBroken file key = true ∧ ∃ old, prior = some old ∧ old.get? key = some fingerprint := by
  rw [keptFingerprints, KeyMap.get?_filter, Option.filter_eq_some_iff]
  cases prior with
  | none => simp
  | some old => simp [and_comm]

theorem mem_fingerprintEntries_iff :
    (key, fingerprint) ∈ fingerprintEntries tracking prior file ↔
      (∃ unit ∈ file.soundUnits, unit.key = key ∧
        unit.fingerprint tracking.retainsSource file.path = fingerprint) ∨
      isBroken file key = true ∧ ∃ old, prior = some old ∧ old.get? key = some fingerprint := by
  rw [fingerprintEntries, List.mem_append, ← KeyMap.get?_eq_some_iff, get?_keptFingerprints]
  simp [SourceFile.states, SourceUnit.state]

/-- A unit is remembered as it is. -/
def Remembered (prior : Option (KeyMap Fingerprint)) (unit : SourceUnit) : Prop :=
  ∃ old fingerprint, prior = some old ∧ old.get? unit.key = some fingerprint ∧
    fingerprint.hash = unit.hash

/-- The update that is derived from a file whose units are tracked. -/
def unitUpdate (maxCalls : Nat) (tracking : Tracking) (prior : Option (KeyMap Fingerprint))
    (store : Store) (file : SourceFile) : AnalyzedFile :=
  ⟨file.path, (deriveUnits maxCalls tracking prior store file).records,
    some (soundChanges tracking prior file)⟩

/-- The records of a file whose units are tracked, after its update. -/
def unitRecords (maxCalls : Nat) (tracking : Tracking) (prior : Option (KeyMap Fingerprint))
    (store : Store) (file : SourceFile) : List Record :=
  Update.renewed .unit (store.ofFile file.path) (unitUpdate maxCalls tracking prior store file)

/-- A record of the file stays if it is neither stale nor derived afresh. Without old fingerprints
none stays. -/
theorem outdates_unitUpdate_iff {record : Record} (here : record.file = file.path) :
    Update.outdates .unit (unitUpdate maxCalls tracking prior store file) record = false ↔
      (∃ old, prior = some old) ∧ record.id ∉ (soundChanges tracking prior file).staleIds ∧
        ∀ fresh ∈ (unitUpdate maxCalls tracking prior store file).records,
          fresh.id ≠ record.id := by
  have known : (soundChanges tracking prior file).hasBaseline = prior.isSome := by
    rw [soundChanges, UnitChanges.hasBaseline_compare, Option.isSome_map]
  cases prior with
  | none => simp [Update.outdates, Update.unitChanges?, unitUpdate, known, here]
  | some old => simp [Update.outdates, Update.unitChanges?, unitUpdate, known, here]

/-- The fingerprints of a file and its records belong together: each fingerprint has a record, which
originates from a unit with its key and digest, and there are no other records. -/
structure Tracked (origin : (key hash : String) → Record → Prop) (path : String)
    (fingerprints : KeyMap Fingerprint) (records : List Record) : Prop where
  named : ∀ {key fingerprint}, fingerprints.get? key = some fingerprint →
    fingerprint.id = SourceUnit.identifierOf path key
  recorded : ∀ {key fingerprint}, fingerprints.get? key = some fingerprint →
    ∃ record ∈ records, record.id = fingerprint.id ∧ origin key fingerprint.hash record
  covered : ∀ record ∈ records, ∃ key fingerprint, fingerprints.get? key = some fingerprint ∧
    fingerprint.id = record.id

theorem Tracked.mono {origin wider : (key hash : String) → Record → Prop} {path : String}
    {fingerprints : KeyMap Fingerprint} {records : List Record}
    (grows : ∀ {key hash record}, origin key hash record → wider key hash record)
    (tracked : Tracked origin path fingerprints records) :
    Tracked wider path fingerprints records where
  named := tracked.named
  recorded found := by
    obtain ⟨record, member, same, known⟩ := tracked.recorded found
    exact ⟨record, member, same, grows known⟩
  covered := tracked.covered

section

variable (distinct : (file.units.map (·.key)).Nodup)
include distinct

/-- The key of a sound unit does not belong to a broken one. -/
theorem isBroken_of_sound {unit : SourceUnit} (sound : unit ∈ file.soundUnits) :
    isBroken file unit.key = false := by
  rw [isBroken, List.any_eq_false]
  intro other broken same
  have here := List.mem_filter.1 sound
  have there := List.mem_filter.1 broken
  have equal := SourceFile.unit_eq_of_key distinct there.1 here.1 (of_decide_eq_true same)
  rw [equal] at there
  simp [there.2] at here

/-- No key has two fingerprints. -/
theorem nodup_keys_fingerprintEntries (tracking : Tracking) (prior : Option (KeyMap Fingerprint)) :
    ((fingerprintEntries tracking prior file).map (·.1)).Nodup := by
  have sound : ((file.states tracking.retainsSource).map fun state =>
      (state.name, state.fingerprint)).map (·.1) = file.soundUnits.map (·.key) := by
    simp [SourceFile.states, SourceUnit.state]
  rw [fingerprintEntries, List.map_append, sound, List.nodup_append]
  refine ⟨(List.filter_sublist.map _).nodup distinct, KeyMap.keys_nodup _, ?_⟩
  rintro key here other there rfl
  obtain ⟨unit, member, rfl⟩ := List.mem_map.1 here
  obtain ⟨⟨_, fingerprint⟩, listed, rfl⟩ := List.mem_map.1 there
  have broken := (get?_keptFingerprints.1 (KeyMap.get?_eq_some_iff.2 listed)).1
  rw [isBroken_of_sound distinct member] at broken
  cases broken

/-- The fingerprints that are remembered of a file: those of its sound units, and the old ones of
its broken units. -/
theorem get?_fingerprints_iff :
    (KeyMap.ofList (fingerprintEntries tracking prior file)).get? key = some fingerprint ↔
      (∃ unit ∈ file.soundUnits, unit.key = key ∧
        unit.fingerprint tracking.retainsSource file.path = fingerprint) ∨
      isBroken file key = true ∧ ∃ old, prior = some old ∧ old.get? key = some fingerprint := by
  rw [KeyMap.get?_ofList_eq_some_iff (nodup_keys_fingerprintEntries distinct tracking prior),
    mem_fingerprintEntries_iff]

/-- The fingerprint of a sound unit takes part in the comparison. -/
theorem get?_compared {old : KeyMap Fingerprint} {unit : SourceUnit}
    (sound : unit ∈ file.soundUnits) :
    (old.filter fun key _ => !isBroken file key).get? unit.key = old.get? unit.key := by
  rw [KeyMap.get?_filter, isBroken_of_sound distinct sound]
  cases old.get? unit.key <;> rfl

theorem mem_freshIds_iff {id : String} :
    id ∈ (soundChanges tracking prior file).freshIds ↔
      ∃ unit ∈ file.soundUnits, ¬ Remembered prior unit ∧ unit.identifier file.path = id := by
  cases prior with
  | none =>
    rw [soundChanges, Option.map_none, UnitChanges.mem_freshIds_iff_of_none]
    simp [SourceFile.states, SourceUnit.state, SourceUnit.fingerprint, Remembered]
  | some old =>
    rw [soundChanges, Option.map_some, UnitChanges.mem_freshIds_iff, SourceFile.states]
    simp only [List.mem_map, exists_exists_and_eq_and, UnitChanges.Outdated, SourceUnit.state]
    refine exists_congr fun unit => and_congr_right fun sound => and_congr_left' ?_
    rw [get?_compared distinct sound]
    simp [Remembered, SourceUnit.fingerprint]

theorem mem_unchanged_ids_iff {id : String} :
    (soundChanges tracking prior file).unchanged.any (·.fingerprint.id = id) = true ↔
      ∃ unit ∈ file.soundUnits, Remembered prior unit ∧ unit.identifier file.path = id := by
  cases prior with
  | none => simp [soundChanges, UnitChanges.compare, Remembered]
  | some old =>
    simp only [List.any_eq_true, decide_eq_true_eq, soundChanges, Option.map_some,
      UnitChanges.mem_unchanged_iff, SourceFile.states, and_assoc, List.mem_map,
      exists_exists_and_eq_and]
    refine exists_congr fun unit => and_congr_right fun sound => ?_
    rw [SourceUnit.state, get?_compared distinct sound]
    simp [Remembered, SourceUnit.fingerprint]

/-- A record is derived for every sound unit, unless the unit is remembered as it is and its record
is still there. -/
theorem needsRecord_iff {unit : SourceUnit} (member : unit ∈ file.units) :
    needsRecord store file (soundChanges tracking prior file) unit = true ↔
      unit ∈ file.soundUnits ∧
        (Remembered prior unit → store.get? file.path (unit.identifier file.path) = none) := by
  have only {property : SourceUnit → Prop} :
      (∃ other ∈ file.soundUnits, property other ∧
        other.identifier file.path = unit.identifier file.path) ↔
          unit ∈ file.soundUnits ∧ property unit := by
    constructor
    · rintro ⟨other, sound, holds, same⟩
      cases SourceFile.unit_eq_of_identifier distinct (List.mem_filter.1 sound).1 member same
      exact ⟨sound, holds⟩
    · exact fun ⟨sound, holds⟩ => ⟨unit, sound, holds, rfl⟩
  rw [needsRecord, Bool.or_eq_true, List.contains_iff_mem, mem_freshIds_iff distinct, only,
    Bool.and_eq_true, mem_unchanged_ids_iff distinct, only, Option.isNone_iff_eq_none]
  by_cases known : Remembered prior unit <;> simp [known]

/-- The identifiers whose records become stale: those of units that are gone or have changed, apart
from the broken ones. -/
theorem mem_staleIds_iff {old : KeyMap Fingerprint} {id : String} :
    id ∈ (soundChanges tracking (some old) file).staleIds ↔
      ∃ key fingerprint, old.get? key = some fingerprint ∧ isBroken file key = false ∧
        fingerprint.id = id ∧
        ∀ unit ∈ file.soundUnits, unit.key = key → fingerprint.hash ≠ unit.hash := by
  have compared {key : String} {fingerprint : Fingerprint} :
      (old.filter fun key _ => !isBroken file key).get? key = some fingerprint ↔
        old.get? key = some fingerprint ∧ isBroken file key = false := by
    rw [KeyMap.get?_filter, Option.filter_eq_some_iff, Bool.not_eq_true']
  have named {property : UnitState → Prop} :
      (∃ state ∈ file.states tracking.retainsSource, property state) ↔
        ∃ unit ∈ file.soundUnits, property (unit.state tracking.retainsSource file.path) := by
    simp [SourceFile.states]
  rw [soundChanges, Option.map_some, UnitChanges.mem_staleIds_iff, named]
  constructor
  · rintro (⟨unit, sound, fingerprint, known, differs, same⟩
      | ⟨key, fingerprint, known, absent, same⟩)
    · refine ⟨unit.key, fingerprint, (compared.1 known).1, (compared.1 known).2, same, ?_⟩
      intro other there equal
      cases SourceFile.unit_eq_of_key distinct (List.mem_filter.1 there).1
        (List.mem_filter.1 sound).1 equal
      exact differs
    · refine ⟨key, fingerprint, (compared.1 known).1, (compared.1 known).2, same, ?_⟩
      intro unit sound equal
      exact absurd equal (absent (unit.state tracking.retainsSource file.path)
        (List.mem_map_of_mem sound))
  · rintro ⟨key, fingerprint, known, whole, same, changed⟩
    by_cases present : ∃ unit ∈ file.soundUnits, unit.key = key
    · obtain ⟨unit, sound, rfl⟩ := present
      exact .inl ⟨unit, sound, fingerprint, compared.2 ⟨known, whole⟩, changed unit sound rfl, same⟩
    · refine .inr ⟨key, fingerprint, compared.2 ⟨known, whole⟩, fun state member equal => ?_, same⟩
      obtain ⟨unit, sound, rfl⟩ := List.mem_map.1 member
      exact present ⟨unit, sound, equal⟩

theorem mem_records_unitUpdate {record : Record} :
    record ∈ (unitUpdate maxCalls tracking prior store file).records ↔
      ∃ unit ∈ file.soundUnits,
        (Remembered prior unit → store.get? file.path (unit.identifier file.path) = none) ∧
          unit.record maxCalls file = record := by
  rw [unitUpdate, deriveUnits_eq, List.mem_map]
  refine exists_congr fun unit => ?_
  rw [List.mem_filter, ← and_assoc]
  refine and_congr_left' ⟨fun ⟨member, needed⟩ => (needsRecord_iff distinct member).1 needed, ?_⟩
  rintro ⟨sound, needed⟩
  have member := (List.mem_filter.1 sound).1
  exact ⟨member, (needsRecord_iff distinct member).2 ⟨sound, needed⟩⟩

variable {origin : (key hash : String) → Record → Prop}

/-- What is remembered of a broken unit, or of a sound one as it is, does not become stale. -/
theorem not_mem_staleIds {old : KeyMap Fingerprint} {records : List Record}
    (before : Tracked origin file.path old records) (known : old.get? key = some fingerprint)
    (stays : isBroken file key = true ∨
      ∃ unit ∈ file.soundUnits, unit.key = key ∧ fingerprint.hash = unit.hash) :
    fingerprint.id ∉ (soundChanges tracking (some old) file).staleIds := by
  rw [mem_staleIds_iff distinct]
  rintro ⟨other, stale, found, whole, same, changed⟩
  rw [before.named found, before.named known, SourceUnit.identifierOf_inj] at same
  subst same
  cases known.symm.trans found
  rcases stays with broken | ⟨unit, sound, here, unchanged⟩
  · rw [broken] at whole
    cases whole
  · exact changed unit sound here unchanged

/-- The record of a fingerprint stays unless it becomes stale or is derived afresh. -/
theorem exists_record_kept (maxCalls : Nat) (tracking : Tracking) {old : KeyMap Fingerprint}
    (before : Tracked origin file.path old (store.ofFile file.path))
    (known : old.get? key = some fingerprint)
    (stays : isBroken file key = true ∨
      ∃ unit ∈ file.soundUnits, unit.key = key ∧ fingerprint.hash = unit.hash)
    (taken : ∀ unit ∈ file.soundUnits, unit.key = key →
      Remembered (some old) unit ∧ store.get? file.path (unit.identifier file.path) ≠ none) :
    ∃ record ∈ unitRecords maxCalls tracking (some old) store file,
      record.id = fingerprint.id ∧ origin key fingerprint.hash record := by
  obtain ⟨record, member, same, origin⟩ := before.recorded known
  refine ⟨record, List.mem_append_left _ (List.mem_filter.2 ⟨member, ?_⟩), same, origin⟩
  rw [Bool.not_eq_true', outdates_unitUpdate_iff (Store.mem_ofFile_iff.1 member).2]
  refine ⟨⟨old, rfl⟩, same ▸ not_mem_staleIds distinct before known stays, ?_⟩
  intro fresh derived equal
  obtain ⟨unit, sound, needed, rfl⟩ := (mem_records_unitUpdate distinct).1 derived
  have here : unit.key = key := by
    rw [same, before.named known] at equal
    exact SourceUnit.identifierOf_inj.1 equal
  exact (taken unit sound here).2 (needed (taken unit sound here).1)

section

variable (before : ∀ old, prior = some old → Tracked origin file.path old (store.ofFile file.path))
include before

/-- Every fingerprint that a file is remembered by has a record. -/
theorem exists_record_of_fingerprint
    (fresh : ∀ unit ∈ file.soundUnits, origin unit.key unit.hash (unit.record maxCalls file))
    (found : (KeyMap.ofList (fingerprintEntries tracking prior file)).get? key = some fingerprint) :
    ∃ record ∈ unitRecords maxCalls tracking prior store file,
      record.id = fingerprint.id ∧ origin key fingerprint.hash record := by
  rcases (get?_fingerprints_iff distinct).1 found with
    ⟨unit, sound, rfl, rfl⟩ | ⟨broken, old, rfl, known⟩
  · by_cases needed : Remembered prior unit →
        store.get? file.path (unit.identifier file.path) = none
    · refine ⟨unit.record maxCalls file, List.mem_append_right _ ?_, rfl, fresh unit sound⟩
      exact (mem_records_unitUpdate distinct).2 ⟨unit, sound, needed, rfl⟩
    · obtain ⟨remembered, present⟩ := Classical.not_imp.1 needed
      obtain ⟨old, fingerprint, rfl, known, unchanged⟩ := id remembered
      have tracked := before old rfl
      have taken : ∀ other ∈ file.soundUnits, other.key = unit.key →
          Remembered (some old) other ∧
            store.get? file.path (other.identifier file.path) ≠ none := by
        intro other there equal
        cases SourceFile.unit_eq_of_key distinct (List.mem_filter.1 there).1
          (List.mem_filter.1 sound).1 equal
        exact ⟨remembered, present⟩
      obtain ⟨record, member, same, origin⟩ := exists_record_kept distinct maxCalls tracking tracked
        known (.inr ⟨unit, sound, rfl, unchanged⟩) taken
      refine ⟨record, member, same.trans (tracked.named known), ?_⟩
      rw [unchanged] at origin
      exact origin
  · refine exists_record_kept distinct maxCalls tracking (before old rfl) known (.inl broken) ?_
    intro unit sound equal
    rw [← equal, isBroken_of_sound distinct sound] at broken
    cases broken

/-- Every record of a file belongs to a fingerprint that the file is remembered by. -/
theorem exists_fingerprint_of_record {record : Record}
    (member : record ∈ unitRecords maxCalls tracking prior store file) :
    ∃ key fingerprint,
      (KeyMap.ofList (fingerprintEntries tracking prior file)).get? key = some fingerprint ∧
        fingerprint.id = record.id := by
  rcases List.mem_append.1 member with kept | derived
  · obtain ⟨listed, stays⟩ := List.mem_filter.1 kept
    rw [Bool.not_eq_true', outdates_unitUpdate_iff (Store.mem_ofFile_iff.1 listed).2] at stays
    obtain ⟨⟨old, rfl⟩, fresh, _⟩ := stays
    have tracked := before old rfl
    obtain ⟨key, fingerprint, known, same⟩ := tracked.covered record listed
    cases whole : isBroken file key with
    | true =>
      exact ⟨key, fingerprint, (get?_fingerprints_iff distinct).2 (.inr ⟨whole, old, rfl, known⟩),
        same⟩
    | false =>
      -- The record is not stale, so there is a sound unit with its key.
      obtain ⟨unit, sound, rfl⟩ : ∃ unit ∈ file.soundUnits, unit.key = key := by
        by_contra absent
        refine fresh ((mem_staleIds_iff distinct).2 ⟨key, fingerprint, known, whole, same, ?_⟩)
        exact fun unit sound equal => absurd ⟨unit, sound, equal⟩ absent
      exact ⟨unit.key, _, (get?_fingerprints_iff distinct).2 (.inl ⟨unit, sound, rfl, rfl⟩),
        (tracked.named known).symm.trans same⟩
  · obtain ⟨unit, sound, _, rfl⟩ := (mem_records_unitUpdate distinct).1 derived
    exact ⟨unit.key, _, (get?_fingerprints_iff distinct).2 (.inl ⟨unit, sound, rfl, rfl⟩), rfl⟩

/-- Deriving the changed units of a file keeps fingerprints and records together. -/
theorem tracked_unitUpdate
    (fresh : ∀ unit ∈ file.soundUnits, origin unit.key unit.hash (unit.record maxCalls file)) :
    Tracked origin file.path (KeyMap.ofList (fingerprintEntries tracking prior file))
      (unitRecords maxCalls tracking prior store file) where
  named found := by
    rcases (get?_fingerprints_iff distinct).1 found with ⟨unit, _, rfl, rfl⟩ | ⟨_, old, rfl, known⟩
    · rfl
    · exact (before old rfl).named known
  recorded found := exists_record_of_fingerprint distinct before fresh found
  covered _ member := exists_fingerprint_of_record distinct before member

end

end

/-! ## Analyses -/

variable {parser : Parser} {config : Config} {manifest : Option Manifest} {source : Source}
variable {analysis : FileAnalysis}

/-- An analysis describes the units of the file. -/
theorem exists_file_of_ofSource?
    (found : ofSource? parser config manifest store source = some analysis) :
    ∃ file, SourceFile.ofContent? parser config.tracking.digest source.path source.language
        source.content = some file ∧
      analysis.entry =
        { hash := config.tracking.digest.ofBytes source.content
          size := UInt64.ofNat source.content.size
          lastModified := source.modified
          units := (file.states config.tracking.retainsSource).map (·.fingerprint.id) ++
            (derive config manifest store file).keptIds
          fingerprints := (derive config manifest store file).fingerprints } ∧
      analysis.update = ⟨source.path, (derive config manifest store file).records,
        (derive config manifest store file).changes⟩ := by
  obtain ⟨file, read, rest⟩ := Option.bind_eq_some_iff.1 found
  cases rest
  exact ⟨file, read, rfl, by rw [SourceFile.path_of_ofContent? read]⟩

theorem derive_of_file (granularity : config.granularity = .file) :
    derive config manifest store file =
      deriveFile config.analysis.maxCallsPerUnit.toNat store file := by
  rw [derive, granularity]

theorem derive_of_unit (granularity : config.granularity = .unit) :
    derive config manifest store file =
      deriveUnits config.analysis.maxCallsPerUnit.toNat config.tracking
        (manifest.bind (·.fingerprints? file.path)) store file := by
  rw [derive, granularity]

/-- The records of a file belong to it. -/
theorem file_of_mem_derive {record : Record}
    (member : record ∈ (derive config manifest store file).records) : record.file = file.path := by
  cases granularity : config.granularity with
  | file =>
    rw [derive_of_file granularity, records_deriveFile] at member
    obtain ⟨unit, _, found⟩ := List.mem_filterMap.1 member
    exact (key_of_replacement? found).1
  | unit =>
    rw [derive_of_unit granularity] at member
    obtain ⟨unit, _, rfl⟩ := List.mem_map.1 member
    rfl

/-- No identifier is derived twice. -/
theorem nodup_ids_derive (config : Config) (manifest : Option Manifest) (store : Store)
    (distinct : (file.units.map (·.key)).Nodup) :
    ((derive config manifest store file).records.map (·.id)).Nodup := by
  have identifiers := SourceFile.nodup_identifiers distinct file.path
  cases granularity : config.granularity with
  | file =>
    rw [derive_of_file granularity, records_deriveFile]
    exact (sublist_map_filterMap (fun _ _ found => (key_of_replacement? found).2) _).nodup
      identifiers
  | unit =>
    rw [derive_of_unit granularity, deriveUnits_eq, List.map_map]
    exact (List.filter_sublist.map _).nodup identifiers

theorem path_of_ofSource? (found : ofSource? parser config manifest store source = some analysis) :
    analysis.update.path = source.path := by
  obtain ⟨_, _, _, update⟩ := exists_file_of_ofSource? found
  rw [update]

theorem wellFormed_of_ofSource?
    (found : ofSource? parser config manifest store source = some analysis) :
    analysis.update.WellFormed := by
  obtain ⟨file, read, _, update⟩ := exists_file_of_ofSource? found
  have path := SourceFile.path_of_ofContent? read
  rw [update]
  exact ⟨fun record member => (file_of_mem_derive member).trans path,
    nodup_ids_derive _ _ _ (SourceFile.nodup_keys_of_ofContent? read)⟩

/-- What an analysis makes of a file that is replaced as a whole. -/
theorem renewed_of_file (granularity : config.granularity = .file)
    (found : ofSource? parser config manifest store source = some analysis) :
    ∃ file, SourceFile.ofContent? parser config.tracking.digest source.path source.language
        source.content = some file ∧
      Update.renewed config.granularity (store.ofFile source.path) analysis.update =
        (deriveFile config.analysis.maxCallsPerUnit.toNat store file).records ∧
      analysis.entry.units =
        (file.states config.tracking.retainsSource).map (·.fingerprint.id) ++
          (deriveFile config.analysis.maxCallsPerUnit.toNat store file).keptIds ∧
      analysis.entry.fingerprints = none := by
  obtain ⟨file, read, entry, update⟩ := exists_file_of_ofSource? found
  rw [derive_of_file granularity] at entry update
  refine ⟨file, read, ?_, by rw [entry], by rw [entry]; rfl⟩
  rw [granularity, update, Update.renewed_file]
  exact fun record member => (Store.mem_ofFile_iff.1 member).2

/-- The entry of a file that is replaced as a whole lists the identifiers of its records. -/
theorem units_of_file (granularity : config.granularity = .file)
    (found : ofSource? parser config manifest store source = some analysis) :
    analysis.entry.units.Nodup ∧
      ∀ id, id ∈ analysis.entry.units ↔
        ∃ record ∈ Update.renewed config.granularity (store.ofFile source.path) analysis.update,
          record.id = id := by
  obtain ⟨file, read, records, units, _⟩ := renewed_of_file granularity found
  have listed := perm_units_deriveFile config.analysis.maxCallsPerUnit.toNat store file
    config.tracking.retainsSource
  have distinct : ((deriveFile config.analysis.maxCallsPerUnit.toNat store file).records.map
      (·.id)).Nodup := by
    have all := nodup_ids_derive config manifest store (SourceFile.nodup_keys_of_ofContent? read)
    rwa [derive_of_file granularity] at all
  rw [records, units]
  exact ⟨listed.nodup_iff.2 distinct, fun id => by rw [listed.mem_iff, List.mem_map]⟩

/-- What an analysis makes of a file whose units are tracked. -/
theorem renewed_of_unit (granularity : config.granularity = .unit)
    (found : ofSource? parser config manifest store source = some analysis) :
    ∃ file, SourceFile.ofContent? parser config.tracking.digest source.path source.language
        source.content = some file ∧
      Update.renewed config.granularity (store.ofFile source.path) analysis.update =
        unitRecords config.analysis.maxCallsPerUnit.toNat config.tracking
          (manifest.bind (·.fingerprints? source.path)) store file ∧
      analysis.entry.units = (fingerprintEntries config.tracking
        (manifest.bind (·.fingerprints? source.path)) file).map (·.2.id) ∧
      analysis.entry.fingerprints = some (KeyMap.ofList (fingerprintEntries config.tracking
        (manifest.bind (·.fingerprints? source.path)) file)) := by
  obtain ⟨file, read, entry, update⟩ := exists_file_of_ofSource? found
  have path := SourceFile.path_of_ofContent? read
  rw [derive_of_unit granularity, path, deriveUnits_eq] at entry update
  refine ⟨file, read, ?_, ?_, by rw [entry]⟩
  · rw [granularity, update, unitRecords, unitUpdate, deriveUnits_eq, path]
  · rw [entry, fingerprintEntries, List.map_append, List.map_map, KeyMap.values, List.map_map]
    rfl

/-- The analysis of a file whose units are tracked keeps fingerprints and records together, and its
entry lists the identifiers of the fingerprints. -/
theorem tracked_of_unit {origin : (key hash : String) → Record → Prop}
    (granularity : config.granularity = .unit)
    (found : ofSource? parser config manifest store source = some analysis)
    (before : ∀ old, manifest.bind (·.fingerprints? source.path) = some old →
      Tracked origin source.path old (store.ofFile source.path))
    (fresh : ∀ file, SourceFile.ofContent? parser config.tracking.digest source.path source.language
        source.content = some file →
      ∀ unit ∈ file.soundUnits,
        origin unit.key unit.hash (unit.record config.analysis.maxCallsPerUnit.toNat file)) :
    ∃ fingerprints, analysis.entry.fingerprints = some fingerprints ∧
      Tracked origin source.path fingerprints
        (Update.renewed config.granularity (store.ofFile source.path) analysis.update) ∧
      analysis.entry.units.Nodup ∧
      ∀ id, id ∈ analysis.entry.units ↔
        ∃ key fingerprint, fingerprints.get? key = some fingerprint ∧ fingerprint.id = id := by
  obtain ⟨file, read, records, units, fingerprints⟩ := renewed_of_unit granularity found
  generalize manifest.bind (·.fingerprints? source.path) = prior
    at before records units fingerprints
  have distinct := SourceFile.nodup_keys_of_ofContent? read
  have path := SourceFile.path_of_ofContent? read
  have keys := nodup_keys_fingerprintEntries distinct config.tracking prior
  have tracked : Tracked origin file.path
      (KeyMap.ofList (fingerprintEntries config.tracking prior file))
      (unitRecords config.analysis.maxCallsPerUnit.toNat config.tracking prior store file) :=
    tracked_unitUpdate distinct (by rwa [path]) (fresh file read)
  have named : (fingerprintEntries config.tracking prior file).map (·.2.id) =
      ((fingerprintEntries config.tracking prior file).map (·.1)).map
        (SourceUnit.identifierOf file.path) := by
    rw [List.map_map]
    apply List.map_congr_left
    intro entry member
    exact tracked.named ((KeyMap.get?_ofList_eq_some_iff keys).2 member)
  rw [path] at tracked
  refine ⟨_, fingerprints, records ▸ tracked, ?_, fun id => ?_⟩
  · rw [units, named]
    exact keys.map fun _ _ same => SourceUnit.identifierOf_inj.1 same
  · rw [units, List.mem_map]
    simp only [KeyMap.get?_ofList_eq_some_iff keys, Prod.exists]

end FileAnalysis

end SourceIndex
