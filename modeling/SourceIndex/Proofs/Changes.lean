import Mathlib.Data.List.Nodup
import Mathlib.Data.List.Perm.Basic
import SourceIndex.FileChanges
import SourceIndex.Proofs.KeyMap
import SourceIndex.Proofs.Matching

/-!
# What a comparison finds

The files of a scan are compared with a manifest, and the units of a file with the fingerprints that
are remembered of them. Both comparisons are described by what they say of one path or one key.
-/

namespace SourceIndex

/-! ## Files -/

namespace FileChanges

variable {scanned : List ScannedFile} {manifest : Option Manifest} {path : String}
variable {file : ScannedFile}

/-- A scanned file that the manifest does not remember with its digest. -/
def Outdated (manifest : Option Manifest) (file : ScannedFile) : Prop :=
  ∀ entry, manifest.bind (·.file? file.path) = some entry → entry.hash ≠ file.hash

theorem current_compare (scanned : List ScannedFile) (manifest : Option Manifest) :
    (compare scanned manifest).current =
      KeyMap.ofList (scanned.map fun file => (file.path, file)) := rfl

/-- Files of a scan are found under their paths. -/
theorem path_of_get?_current
    (found : (compare scanned manifest).current.get? path = some file) : file.path = path := by
  obtain ⟨_, _, same⟩ := List.mem_map.1 (KeyMap.mem_of_get?_ofList found)
  cases same
  rfl

theorem mem_values_current :
    file ∈ (compare scanned manifest).current.values ↔
      (compare scanned manifest).current.get? file.path = some file := by
  rw [KeyMap.mem_values_iff]
  constructor
  · rintro ⟨key, found⟩
    rw [path_of_get?_current found]
    exact found
  · exact fun found => ⟨_, found⟩

theorem paths_current (scanned : List ScannedFile) (manifest : Option Manifest) :
    (compare scanned manifest).current.values.map (·.path) =
      (compare scanned manifest).current.keys := by
  rw [KeyMap.values, KeyMap.keys, List.map_map]
  apply List.map_congr_left
  rintro ⟨key, file⟩ member
  exact path_of_get?_current (KeyMap.get?_eq_some_iff.2 member)

/-- The paths of the scanned files are distinct. -/
theorem nodup_paths_current (scanned : List ScannedFile) (manifest : Option Manifest) :
    ((compare scanned manifest).current.values.map (·.path)).Nodup := by
  rw [paths_current]
  exact KeyMap.keys_nodup _

/-- A file has changed if the manifest remembers it with another digest. -/
theorem change?_eq_some_iff {change : FileChange} :
    change? manifest file = some change ↔
      ∃ entry, manifest.bind (·.file? file.path) = some entry ∧ entry.hash ≠ file.hash ∧
        change = ⟨file.path, entry.hash, file.hash, entry.size, file.size⟩ := by
  cases manifest with
  | none => simp [change?]
  | some manifest =>
    cases known : manifest.file? file.path with
    | none => simp [change?, known]
    | some entry => simp [change?, known, eq_comm]

theorem mem_added_iff :
    path ∈ (compare scanned manifest).added ↔
      known manifest path = false ∧
        ∃ file, (compare scanned manifest).current.get? path = some file := by
  have listed : (compare scanned manifest).added =
      ((compare scanned manifest).current.values.filter fun file =>
        !known manifest file.path).map (·.path) := rfl
  rw [listed]
  simp only [List.mem_map, List.mem_filter, mem_values_current, Bool.not_eq_true']
  constructor
  · rintro ⟨file, ⟨found, new⟩, rfl⟩
    exact ⟨new, file, found⟩
  · rintro ⟨new, file, found⟩
    cases path_of_get?_current found
    exact ⟨file, ⟨found, new⟩, rfl⟩

theorem mem_modified_paths_iff :
    path ∈ (compare scanned manifest).modified.map (·.path) ↔
      known manifest path = true ∧
        ∃ file, (compare scanned manifest).current.get? path = some file ∧
        Outdated manifest file := by
  have listed : (compare scanned manifest).modified =
      (compare scanned manifest).current.values.filterMap (change? manifest) := rfl
  rw [listed]
  simp only [List.mem_map, List.mem_filterMap, mem_values_current, change?_eq_some_iff, known]
  constructor
  · rintro ⟨_, ⟨file, found, entry, remembered, differs, rfl⟩, rfl⟩
    refine ⟨by simp [remembered], file, found, fun other same => ?_⟩
    cases remembered.symm.trans same
    exact differs
  · rintro ⟨old, file, found, outdated⟩
    cases path_of_get?_current found
    obtain ⟨entry, remembered⟩ := Option.isSome_iff_exists.1 old
    exact ⟨_, ⟨file, found, entry, remembered, outdated entry remembered, rfl⟩, rfl⟩

/-- A path has to be analysed if the scan has a file there that is outdated. -/
theorem mem_stalePaths_iff :
    path ∈ (compare scanned manifest).stalePaths ↔
      ∃ file, (compare scanned manifest).current.get? path = some file ∧
        Outdated manifest file := by
  rw [stalePaths, Order.sortTexts, (Order.perm_sortBy _ _).mem_iff, List.mem_append, mem_added_iff,
    mem_modified_paths_iff]
  constructor
  · rintro (⟨new, file, found⟩ | ⟨_, outdated⟩)
    · refine ⟨file, found, fun entry remembered => ?_⟩
      simp [known, ← path_of_get?_current found, remembered] at new
    · exact outdated
  · rintro ⟨file, found, outdated⟩
    cases old : known manifest path with
    | false => exact .inl ⟨rfl, file, found⟩
    | true => exact .inr ⟨rfl, file, found, outdated⟩

/-- No path is analysed twice. -/
theorem nodup_stalePaths (scanned : List ScannedFile) (manifest : Option Manifest) :
    (compare scanned manifest).stalePaths.Nodup := by
  have distinct := nodup_paths_current scanned manifest
  have changed : ∀ file change, change? manifest file = some change → change.path = file.path := by
    intro file change found
    obtain ⟨_, _, _, rfl⟩ := change?_eq_some_iff.1 found
    rfl
  rw [stalePaths, Order.sortTexts, (Order.perm_sortBy _ _).nodup_iff, List.nodup_append]
  refine ⟨(List.filter_sublist.map _).nodup distinct,
    (sublist_map_filterMap changed _).nodup distinct, ?_⟩
  rintro path added other modified rfl
  have new := (mem_added_iff.1 added).1
  have old := (mem_modified_paths_iff.1 modified).1
  simp [new] at old

/-- The paths that have to be analysed increase. -/
theorem sorted_stalePaths (scanned : List ScannedFile) (manifest : Option Manifest) :
    (compare scanned manifest).stalePaths.Pairwise (· < ·) := by
  have sorted : (compare scanned manifest).stalePaths.Pairwise (· ≤ ·) :=
    Order.pairwise_sortTexts _
  refine (sorted.and (nodup_stalePaths scanned manifest)).imp ?_
  rintro first second ⟨before, differs⟩
  exact String.not_le.1 fun after => differs (String.le_antisymm before after)

theorem mem_deleted_iff :
    path ∈ (compare scanned manifest).deleted ↔
      known manifest path = true ∧ (compare scanned manifest).current.get? path = none := by
  cases manifest with
  | none =>
    have listed : (compare scanned none).deleted = [] := rfl
    simp [known, listed]
  | some manifest =>
    have listed : (compare scanned (some manifest)).deleted = manifest.files.keys.filter fun path =>
        !(compare scanned (some manifest)).current.contains path := rfl
    rw [listed]
    simp [known, Manifest.file?, KeyMap.contains, ← KeyMap.contains_iff_mem_keys]

theorem eq_nil_of_isEmpty {changes : FileChanges} (nothing : changes.isEmpty = true) :
    changes.added = [] ∧ changes.modified = [] ∧ changes.deleted = [] := by
  simpa [isEmpty, and_assoc] using nothing

/-- Nothing has changed if no path has to be analysed and none is gone. -/
theorem isEmpty_iff :
    (compare scanned manifest).isEmpty = true ↔
      (compare scanned manifest).stalePaths = [] ∧ (compare scanned manifest).deleted = [] := by
  have sorted := (Order.perm_sortBy (fun a b => decide (a ≤ b))
    ((compare scanned manifest).added ++
      (compare scanned manifest).modified.map (·.path))).length_eq
  rw [isEmpty, stalePaths, Order.sortTexts, ← List.length_eq_zero_iff, sorted]
  simp [and_assoc]

end FileChanges

/-! ## Units -/

namespace UnitChanges

variable {path : String} {prior : KeyMap Fingerprint} {current : List UnitState}
variable {tracking : Tracking} {id : String}

/-- A unit that is not remembered with its digest. -/
def Outdated (prior : KeyMap Fingerprint) (unit : UnitState) : Prop :=
  ∀ old, prior.get? unit.name = some old → old.hash ≠ unit.fingerprint.hash

theorem mem_gone_iff {unit : UnitState} :
    unit ∈ gone prior current ↔
      prior.get? unit.name = some unit.fingerprint ∧ ∀ other ∈ current, other.name ≠ unit.name := by
  rw [gone, (Order.perm_sortBy _ _).mem_iff]
  obtain ⟨name, fingerprint⟩ := unit
  simp [KeyMap.get?_eq_some_iff, List.any_eq_false]

theorem delta?_eq_some_iff {unit : UnitState} {delta : UnitDelta} :
    delta? prior unit = some delta ↔
      ∃ old, prior.get? unit.name = some old ∧ old.hash ≠ unit.fingerprint.hash ∧
        delta = ⟨unit.name, old, unit.fingerprint⟩ := by
  cases known : prior.get? unit.name with
  | none => simp [delta?, known]
  | some old => simp [delta?, known, eq_comm]

/-- Looking for renames changes neither which identifiers become stale nor which are fresh. -/
theorem mem_ids_compare_iff :
    (id ∈ (compare path (some prior) current tracking).staleIds ↔
      id ∈ (classify path prior current).staleIds) ∧
    (id ∈ (compare path (some prior) current tracking).freshIds ↔
      id ∈ (classify path prior current).freshIds) := by
  rw [compare]
  split
  · have old := ((perm_matchRenames_deleted tracking.threshold
      (classify path prior current)).map (·.fingerprint.id)).mem_iff (a := id)
    have new := ((perm_matchRenames_added tracking.threshold
      (classify path prior current)).map (·.fingerprint.id)).mem_iff (a := id)
    simp only [List.map_append, List.map_map, List.mem_append] at old new
    simp only [staleIds, freshIds, List.append_assoc, List.mem_append]
    exact ⟨or_congr_right old, or_congr_right new⟩
  · exact ⟨.rfl, .rfl⟩

/-- The identifiers that become stale are those of units that have changed or are gone. -/
theorem mem_staleIds_iff :
    id ∈ (compare path (some prior) current tracking).staleIds ↔
      (∃ unit ∈ current, ∃ old, prior.get? unit.name = some old ∧
        old.hash ≠ unit.fingerprint.hash ∧ old.id = id) ∨
      ∃ key old, prior.get? key = some old ∧ (∀ unit ∈ current, unit.name ≠ key) ∧ old.id = id := by
  rw [mem_ids_compare_iff.1]
  simp only [staleIds, classify, List.map_nil, List.append_nil, List.mem_append, List.mem_map,
    List.mem_filterMap, delta?_eq_some_iff, mem_gone_iff]
  constructor
  · rintro (⟨_, ⟨unit, member, old, known, differs, rfl⟩, same⟩ | ⟨unit, ⟨known, absent⟩, same⟩)
    · exact .inl ⟨unit, member, old, known, differs, same⟩
    · exact .inr ⟨unit.name, unit.fingerprint, known, absent, same⟩
  · rintro (⟨unit, member, old, known, differs, same⟩ | ⟨key, old, known, absent, same⟩)
    · exact .inl ⟨_, ⟨unit, member, old, known, differs, rfl⟩, same⟩
    · exact .inr ⟨⟨key, old⟩, ⟨known, absent⟩, same⟩

/-- The identifiers for which records have to be derived are those of units that are not remembered
as they are. -/
theorem mem_freshIds_iff :
    id ∈ (compare path (some prior) current tracking).freshIds ↔
      ∃ unit ∈ current, Outdated prior unit ∧ unit.fingerprint.id = id := by
  rw [mem_ids_compare_iff.2]
  simp only [freshIds, classify, List.map_nil, List.append_nil, List.mem_append, List.mem_map,
    List.mem_filterMap, delta?_eq_some_iff, List.mem_filter, KeyMap.contains, Outdated]
  constructor
  · rintro (⟨_, ⟨unit, member, old, known, differs, rfl⟩, same⟩ | ⟨unit, ⟨member, new⟩, same⟩)
    · refine ⟨unit, member, fun other found => ?_, same⟩
      cases known.symm.trans found
      exact differs
    · refine ⟨unit, member, fun other found => ?_, same⟩
      simp [found] at new
  · rintro ⟨unit, member, outdated, same⟩
    cases known : prior.get? unit.name with
    | none => exact .inr ⟨unit, ⟨member, by simp [known]⟩, same⟩
    | some old => exact .inl ⟨_, ⟨unit, member, old, known, outdated old known, rfl⟩, same⟩

theorem mem_freshIds_iff_of_none :
    id ∈ (compare path none current tracking).freshIds ↔
      ∃ unit ∈ current, unit.fingerprint.id = id := by
  simp [compare, freshIds]

/-- The units that are unchanged are those that are remembered as they are. -/
theorem mem_unchanged_classify_iff {unit : UnitState} :
    unit ∈ (classify path prior current).unchanged ↔
      unit ∈ current ∧ ∃ old, prior.get? unit.name = some old ∧
        old.hash = unit.fingerprint.hash := by
  rw [classify, List.mem_filter, KeyMap.contains]
  cases known : prior.get? unit.name with
  | none => simp
  | some old => simp [delta?, known]

theorem mem_unchanged_iff {unit : UnitState} :
    unit ∈ (compare path (some prior) current tracking).unchanged ↔
      unit ∈ current ∧ ∃ old, prior.get? unit.name = some old ∧
        old.hash = unit.fingerprint.hash := by
  rw [← mem_unchanged_classify_iff, compare]
  split <;> rfl

theorem hasBaseline_compare (path : String) (prior : Option (KeyMap Fingerprint))
    (current : List UnitState) (tracking : Tracking) :
    (compare path prior current tracking).hasBaseline = prior.isSome := by
  cases prior with
  | none => rfl
  | some prior =>
    rw [compare]
    split <;> rfl

end UnitChanges

end SourceIndex
