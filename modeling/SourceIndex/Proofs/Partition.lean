import SourceIndex.Proofs.Changes
import SourceIndex.Proofs.Keys

/-!
# Comparisons are partitions

A comparison sorts what is there now, and what is remembered, into lists. Every scanned file and
every unit goes to exactly one list, and which one is told by the digests alone.
-/

namespace SourceIndex

/-! ## Files -/

namespace FileChanges

variable {scanned : List ScannedFile} {manifest : Option Manifest} {path : String}
variable {file : ScannedFile}

/-- The file that a scan has at a path: the last one that it lists there. -/
def Scans (scanned : List ScannedFile) (path : String) (file : ScannedFile) : Prop :=
  ∃ front back, scanned = front ++ file :: back ∧ file.path = path ∧
    ∀ other ∈ back, other.path ≠ path

/-- What a manifest, if there is one, remembers of a path. -/
def Remembers (manifest : Option Manifest) (path : String) (entry : FileEntry) : Prop :=
  ∃ present ∈ manifest, present.file? path = some entry

/-- A sorting of the scanned files by what the manifest remembers of them, and of the remembered
paths by whether they are scanned. -/
structure ThreeWay (scanned : List ScannedFile) (manifest : Option Manifest)
    (changes : FileChanges) : Prop where
  covers : ∀ path, path ∈ changes.added ∨ path ∈ changes.modified.map (·.path) ∨
    path ∈ changes.unchanged ↔ ∃ file ∈ scanned, file.path = path
  added_modified : changes.added.Disjoint (changes.modified.map (·.path))
  added_unchanged : changes.added.Disjoint changes.unchanged
  modified_unchanged : (changes.modified.map (·.path)).Disjoint changes.unchanged
  added : ∀ path, path ∈ changes.added ↔
    (∃ file ∈ scanned, file.path = path) ∧ ∀ entry, ¬Remembers manifest path entry
  modified : ∀ change, change ∈ changes.modified ↔ ∃ path file entry, Scans scanned path file ∧
    Remembers manifest path entry ∧ entry.hash ≠ file.hash ∧
    change = ⟨path, entry.hash, file.hash, entry.size, file.size⟩
  unchanged : ∀ path, path ∈ changes.unchanged ↔ ∃ file entry, Scans scanned path file ∧
    Remembers manifest path entry ∧ entry.hash = file.hash
  deleted : ∀ path, path ∈ changes.deleted ↔
    (∃ entry, Remembers manifest path entry) ∧ ∀ file ∈ scanned, file.path ≠ path
  stale : ∀ path, path ∈ changes.stalePaths ↔
    path ∈ changes.added ∨ path ∈ changes.modified.map (·.path)
  added_increasing : (changes.added.map Order.bytes).Pairwise (· < ·)
  modified_increasing : ((changes.modified.map (·.path)).map Order.bytes).Pairwise (· < ·)
  unchanged_increasing : (changes.unchanged.map Order.bytes).Pairwise (· < ·)
  deleted_increasing : (changes.deleted.map Order.bytes).Pairwise (· < ·)
  stale_increasing : (changes.stalePaths.map Order.bytes).Pairwise (· < ·)

/-- A scan and a manifest have the same paths with the same digests. -/
def SameDigests (scanned : List ScannedFile) (manifest : Option Manifest) : Prop :=
  ∀ path hash, (∃ file, Scans scanned path file ∧ file.hash = hash) ↔
    ∃ entry, Remembers manifest path entry ∧ entry.hash = hash

theorem find?_reverse_eq_some_iff :
    (scanned.reverse.find? fun file => decide (file.path = path)) = some file ↔
      Scans scanned path file := by
  simp only [List.find?_eq_some_iff_append, decide_eq_true_eq, Scans]
  constructor
  · rintro ⟨here, back, front, split, absent⟩
    refine ⟨front.reverse, back.reverse, ?_, here, ?_⟩
    · rw [← List.reverse_reverse scanned, split]
      simp
    · intro other member
      simpa using absent other (List.mem_reverse.1 member)
  · rintro ⟨front, back, rfl, here, absent⟩
    refine ⟨here, back.reverse, front.reverse, by simp, ?_⟩
    intro other member
    simpa using absent other (List.mem_reverse.1 member)

theorem get?_current_eq_some_iff :
    (compare scanned manifest).current.get? path = some file ↔ Scans scanned path file := by
  rw [current_compare, KeyMap.get?_ofList, ← List.map_reverse, List.find?_map, Option.map_map,
    ← find?_reverse_eq_some_iff]
  simp only [Function.comp_def, Option.map_id']

/-- A path has a file if it is listed. -/
theorem exists_scans_iff :
    (∃ file, Scans scanned path file) ↔ ∃ file ∈ scanned, file.path = path := by
  simp only [← find?_reverse_eq_some_iff, ← Option.isSome_iff_exists, List.find?_isSome,
    List.mem_reverse, decide_eq_true_eq]

theorem Scans.unique {other : ScannedFile} (scans : Scans scanned path file)
    (scans' : Scans scanned path other) : file = other := by
  rw [← find?_reverse_eq_some_iff] at scans scans'
  exact Option.some.inj (scans.symm.trans scans')

theorem remembers_iff {entry : FileEntry} :
    Remembers manifest path entry ↔ manifest.bind (·.file? path) = some entry := by
  simp [Remembers, Option.bind_eq_some_iff]

theorem Remembers.unique {entry other : FileEntry} (remembers : Remembers manifest path entry)
    (remembers' : Remembers manifest path other) : entry = other :=
  Option.some.inj ((remembers_iff.1 remembers).symm.trans (remembers_iff.1 remembers'))

theorem known_iff : known manifest path = true ↔ ∃ entry, Remembers manifest path entry := by
  simp only [known, Option.isSome_iff_exists, remembers_iff]

theorem not_known_iff : known manifest path = false ↔ ∀ entry, ¬Remembers manifest path entry := by
  rw [← Bool.not_eq_true, known_iff, not_exists]

theorem outdated_iff (scans : Scans scanned path file) :
    Outdated manifest file ↔ ∀ entry, Remembers manifest path entry → entry.hash ≠ file.hash := by
  obtain ⟨-, -, -, rfl, -⟩ := scans
  simp only [Outdated, remembers_iff]

theorem mem_modified_iff {change : FileChange} :
    change ∈ (compare scanned manifest).modified ↔ ∃ path file entry, Scans scanned path file ∧
      Remembers manifest path entry ∧ entry.hash ≠ file.hash ∧
      change = ⟨path, entry.hash, file.hash, entry.size, file.size⟩ := by
  have listed : (compare scanned manifest).modified =
      (compare scanned manifest).current.values.filterMap (change? manifest) := rfl
  simp only [listed, List.mem_filterMap, mem_values_current, get?_current_eq_some_iff,
    change?_eq_some_iff, remembers_iff]
  constructor
  · rintro ⟨file, scans, entry, remembers, differs, rfl⟩
    exact ⟨file.path, file, entry, scans, remembers, differs, rfl⟩
  · rintro ⟨path, file, entry, scans, remembers, differs, rfl⟩
    obtain ⟨-, -, -, rfl, -⟩ := id scans
    exact ⟨file, scans, entry, remembers, differs, rfl⟩

theorem mem_unchanged_iff :
    path ∈ (compare scanned manifest).unchanged ↔ ∃ file entry, Scans scanned path file ∧
      Remembers manifest path entry ∧ entry.hash = file.hash := by
  have listed : (compare scanned manifest).unchanged =
      ((compare scanned manifest).current.values.filter fun file =>
        known manifest file.path && (change? manifest file).isNone).map (·.path) := rfl
  simp only [listed, List.mem_map, List.mem_filter, mem_values_current, get?_current_eq_some_iff,
    Bool.and_eq_true, known_iff, Option.isNone_iff_eq_none, Option.eq_none_iff_forall_ne_some]
  constructor
  · rintro ⟨file, ⟨scans, ⟨entry, remembers⟩, same⟩, rfl⟩
    refine ⟨file, entry, scans, remembers, ?_⟩
    by_contra differs
    exact same _ (change?_eq_some_iff.2 ⟨entry, remembers_iff.1 remembers, differs, rfl⟩)
  · rintro ⟨file, entry, scans, remembers, same⟩
    obtain ⟨-, -, -, rfl, -⟩ := id scans
    refine ⟨file, ⟨scans, ⟨entry, remembers⟩, ?_⟩, rfl⟩
    intro change found
    obtain ⟨other, remembers', differs, -⟩ := change?_eq_some_iff.1 found
    exact differs (remembers.unique (remembers_iff.2 remembers') ▸ same)

theorem mem_paths_modified_iff :
    path ∈ (compare scanned manifest).modified.map (·.path) ↔ ∃ file entry,
      Scans scanned path file ∧ Remembers manifest path entry ∧ entry.hash ≠ file.hash := by
  simp only [List.mem_map, mem_modified_iff]
  constructor
  · rintro ⟨_, ⟨path, file, entry, scans, remembers, differs, rfl⟩, rfl⟩
    exact ⟨file, entry, scans, remembers, differs⟩
  · rintro ⟨file, entry, scans, remembers, differs⟩
    exact ⟨_, ⟨path, file, entry, scans, remembers, differs, rfl⟩, rfl⟩

theorem mem_added_iff_not_remembers :
    path ∈ (compare scanned manifest).added ↔
      (∃ file ∈ scanned, file.path = path) ∧ ∀ entry, ¬Remembers manifest path entry := by
  simp only [mem_added_iff, not_known_iff, get?_current_eq_some_iff, exists_scans_iff]
  exact and_comm

theorem mem_deleted_iff_remembers :
    path ∈ (compare scanned manifest).deleted ↔
      (∃ entry, Remembers manifest path entry) ∧ ∀ file ∈ scanned, file.path ≠ path := by
  have absent : (compare scanned manifest).current.get? path = none ↔
      ∀ file ∈ scanned, file.path ≠ path := by
    rw [Option.eq_none_iff_forall_ne_some, ← not_iff_not]
    simp only [ne_eq, get?_current_eq_some_iff, not_forall, not_not, exists_scans_iff, exists_prop]
  rw [mem_deleted_iff, known_iff, absent]

/-- The paths of the scan increase, and so do those of every part of it. -/
theorem increasing_of_sublist (scanned : List ScannedFile) (manifest : Option Manifest)
    {paths : List String}
    (part : paths.Sublist ((compare scanned manifest).current.values.map (·.path))) :
    (paths.map Order.bytes).Pairwise (· < ·) := by
  apply Order.pairwise_bytes
  rw [paths_current] at part
  exact (KeyMap.keys_increasing _).sublist part

theorem increasing_deleted (scanned : List ScannedFile) (manifest : Option Manifest) :
    ((compare scanned manifest).deleted.map Order.bytes).Pairwise (· < ·) := by
  cases manifest with
  | none => exact .nil
  | some manifest => exact Order.pairwise_bytes ((KeyMap.keys_increasing _).filter _)

theorem threeWay_compare (scanned : List ScannedFile) (manifest : Option Manifest) :
    ThreeWay scanned manifest (compare scanned manifest) := by
  constructor
  case covers =>
    intro path
    rw [mem_added_iff_not_remembers, mem_paths_modified_iff, mem_unchanged_iff, ← exists_scans_iff]
    constructor
    · rintro (⟨scans, -⟩ | ⟨file, -, scans, -⟩ | ⟨file, -, scans, -⟩)
      · exact scans
      · exact ⟨file, scans⟩
      · exact ⟨file, scans⟩
    · rintro ⟨file, scans⟩
      by_cases remembered : ∃ entry, Remembers manifest path entry
      · obtain ⟨entry, remembers⟩ := remembered
        by_cases same : entry.hash = file.hash
        · exact .inr (.inr ⟨file, entry, scans, remembers, same⟩)
        · exact .inr (.inl ⟨file, entry, scans, remembers, same⟩)
      · exact .inl ⟨⟨file, scans⟩, not_exists.1 remembered⟩
  case added_modified =>
    intro path added modified
    obtain ⟨_, entry, _, remembers, _⟩ := mem_paths_modified_iff.1 modified
    exact (mem_added_iff_not_remembers.1 added).2 entry remembers
  case added_unchanged =>
    intro path added unchanged
    obtain ⟨_, entry, _, remembers, _⟩ := mem_unchanged_iff.1 unchanged
    exact (mem_added_iff_not_remembers.1 added).2 entry remembers
  case modified_unchanged =>
    intro path modified unchanged
    obtain ⟨file, entry, scans, remembers, differs⟩ := mem_paths_modified_iff.1 modified
    obtain ⟨file', entry', scans', remembers', same⟩ := mem_unchanged_iff.1 unchanged
    cases scans.unique scans'
    cases remembers.unique remembers'
    exact differs same
  case added => exact fun path => mem_added_iff_not_remembers
  case modified => exact fun change => mem_modified_iff
  case unchanged => exact fun path => mem_unchanged_iff
  case deleted => exact fun path => mem_deleted_iff_remembers
  case stale =>
    intro path
    rw [stalePaths, Order.mem_sortTexts, List.mem_append]
  case added_increasing => exact increasing_of_sublist scanned manifest (List.filter_sublist.map _)
  case modified_increasing =>
    have part : ((compare scanned manifest).modified.map (·.path)).Sublist
        ((compare scanned manifest).current.values.map (·.path)) := by
      refine sublist_map_filterMap (fun file change found => ?_) _
      obtain ⟨_, _, _, rfl⟩ := change?_eq_some_iff.1 found
      rfl
    exact increasing_of_sublist scanned manifest part
  case unchanged_increasing =>
    exact increasing_of_sublist scanned manifest (List.filter_sublist.map _)
  case deleted_increasing => exact increasing_deleted scanned manifest
  case stale_increasing => exact Order.pairwise_bytes (sorted_stalePaths scanned manifest)

/-- Nothing has changed if the digests are the same. -/
theorem isEmpty_iff_sameDigests :
    (compare scanned manifest).isEmpty = true ↔ SameDigests scanned manifest := by
  rw [isEmpty_iff, List.eq_nil_iff_forall_not_mem, List.eq_nil_iff_forall_not_mem]
  constructor
  · rintro ⟨fresh, kept⟩ path hash
    have remembered : ∀ file, Scans scanned path file →
        ∃ entry, Remembers manifest path entry ∧ entry.hash = file.hash := by
      intro file scans
      by_contra unmatched
      refine fresh path (mem_stalePaths_iff.2 ⟨file, get?_current_eq_some_iff.2 scans, ?_⟩)
      exact (outdated_iff scans).2 fun entry remembers same => unmatched ⟨entry, remembers, same⟩
    constructor
    · rintro ⟨file, scans, rfl⟩
      exact remembered file scans
    · rintro ⟨entry, remembers, rfl⟩
      have scanned_here : ∃ file ∈ scanned, file.path = path := by
        by_contra absent
        push Not at absent
        exact kept path (mem_deleted_iff_remembers.2 ⟨⟨entry, remembers⟩, absent⟩)
      obtain ⟨file, scans⟩ := exists_scans_iff.2 scanned_here
      obtain ⟨entry', remembers', same⟩ := remembered file scans
      cases remembers.unique remembers'
      exact ⟨file, scans, same.symm⟩
  · intro same
    constructor
    · intro path stale
      obtain ⟨file, found, outdated⟩ := mem_stalePaths_iff.1 stale
      have scans := get?_current_eq_some_iff.1 found
      obtain ⟨entry, remembers, equal⟩ := (same path file.hash).1 ⟨file, scans, rfl⟩
      exact (outdated_iff scans).1 outdated entry remembers equal
    · intro path gone
      obtain ⟨⟨entry, remembers⟩, absent⟩ := mem_deleted_iff_remembers.1 gone
      obtain ⟨file, scans, -⟩ := (same path entry.hash).2 ⟨entry, remembers, rfl⟩
      obtain ⟨other, member, here⟩ := exists_scans_iff.1 ⟨file, scans⟩
      exact absent other member here

/-- The entries of the files of a scan, with their digests and with whatever else `remember`
gives. -/
def recorded (remember : ScannedFile → FileEntry) (scanned : List ScannedFile) : KeyMap FileEntry :=
  KeyMap.ofList (scanned.map fun file => (file.path, { remember file with hash := file.hash }))

theorem sameDigests_recorded (remember : ScannedFile → FileEntry) (scanned : List ScannedFile)
    (base : Manifest) :
    SameDigests scanned (some { base with files := recorded remember scanned }) := by
  have entries : ∀ path, (recorded remember scanned).get? path =
      ((compare scanned none).current.get? path).map fun file =>
        { remember file with hash := file.hash } := by
    intro path
    rw [current_compare, ← KeyMap.get?_map, ← KeyMap.ofList_map, List.map_map]
    rfl
  intro path hash
  simp only [remembers_iff, Option.bind_some, Manifest.file?, entries, Option.map_eq_some_iff,
    get?_current_eq_some_iff]
  constructor
  · rintro ⟨file, scans, rfl⟩
    exact ⟨_, ⟨file, scans, rfl⟩, rfl⟩
  · rintro ⟨_, ⟨file, scans, rfl⟩, rfl⟩
    exact ⟨file, scans, rfl⟩

/-- A comparison of files is a partition of what is scanned into what is added, modified and
unchanged, whatever the scan and the manifest. It is empty only for the same paths with the same
digests, as for a manifest of the scan itself. -/
theorem comparison_is_three_way (scanned : List ScannedFile) (manifest : Option Manifest) :
    ThreeWay scanned manifest (compare scanned manifest) ∧
    ((compare scanned manifest).isEmpty = true ↔ SameDigests scanned manifest) ∧
    ∀ (base : Manifest) (remember : ScannedFile → FileEntry), (compare scanned
      (some { base with files := recorded remember scanned })).isEmpty = true := by
  refine ⟨threeWay_compare scanned manifest, isEmpty_iff_sameDigests, fun base remember => ?_⟩
  exact isEmpty_iff_sameDigests.2 (sameDigests_recorded remember scanned base)

end FileChanges

/-! ## Units -/

namespace UnitChanges

variable {path : String} {prior : KeyMap Fingerprint} {current : List UnitState}
variable {changes : UnitChanges}

/-- A modified unit as it is now. -/
def revision (delta : UnitDelta) : UnitState := ⟨delta.name, delta.new⟩

/-- A sorting of the units of a file, and of what is remembered of them, in which each unit and each
memory has one place. -/
structure Classifies (prior : KeyMap Fingerprint) (current : List UnitState)
    (changes : UnitChanges) : Prop where
  current_once : (changes.modified.map revision ++ changes.unchanged ++
    (changes.added ++ changes.renamed.map newSide)).Perm current
  prior_once : (changes.modified.map (·.name) ++ changes.unchanged.map (·.name) ++
    (changes.deleted ++ changes.renamed.map oldSide).map (·.name)).Perm prior.keys
  modified : ∀ delta, delta ∈ changes.modified ↔ ∃ unit ∈ current, ∃ old,
    prior.get? unit.name = some old ∧ old.hash ≠ unit.fingerprint.hash ∧
      delta = ⟨unit.name, old, unit.fingerprint⟩
  unchanged : ∀ unit, unit ∈ changes.unchanged ↔ unit ∈ current ∧ ∃ old,
    prior.get? unit.name = some old ∧ old.hash = unit.fingerprint.hash
  gone : ∀ unit ∈ changes.deleted ++ changes.renamed.map oldSide,
    prior.get? unit.name = some unit.fingerprint
  added_ordered : changes.added.Sublist current
  modified_ordered : (changes.modified.map revision).Sublist current
  unchanged_ordered : changes.unchanged.Sublist current
  deleted_ordered : changes.deleted.Pairwise Earlier

/-! ### Before renames are looked for -/

theorem isSome_delta?_le (unit : UnitState) :
    ((delta? prior unit).isSome && prior.contains unit.name) = (delta? prior unit).isSome := by
  rw [KeyMap.contains]
  cases known : prior.get? unit.name with
  | none => simp [delta?, known]
  | some old => simp

theorem revision_classify (path : String) (prior : KeyMap Fingerprint) (current : List UnitState) :
    (classify path prior current).modified.map revision =
      current.filter fun unit => (delta? prior unit).isSome := by
  have revised : ∀ unit, (delta? prior unit).map revision =
      Option.guard (fun unit => (delta? prior unit).isSome) unit := by
    intro unit
    cases found : delta? prior unit with
    | none => simp [Option.guard, found]
    | some delta =>
      obtain ⟨old, -, -, rfl⟩ := delta?_eq_some_iff.1 found
      simp [Option.guard, found, revision]
  rw [classify, List.map_filterMap, funext revised, List.filterMap_eq_filter]

/-- The units that are remembered are modified or unchanged. -/
theorem perm_remembered (path : String) (prior : KeyMap Fingerprint) (current : List UnitState) :
    ((classify path prior current).modified.map revision ++
      (classify path prior current).unchanged).Perm
        (current.filter fun unit => prior.contains unit.name) := by
  have split := List.filter_append_perm (fun unit => (delta? prior unit).isSome)
    (current.filter fun unit => prior.contains unit.name)
  simp only [List.filter_filter, isSome_delta?_le, Option.not_isSome] at split
  rw [revision_classify, classify]
  simpa only [Bool.and_comm] using split

/-- The names under which fingerprints are remembered are those of units that are still there and of
units that are gone. -/
theorem perm_names (distinct : (current.map (·.name)).Nodup) :
    ((current.filter fun unit => prior.contains unit.name).map (·.name) ++
      (UnitChanges.gone prior current).map (·.name)).Perm prior.keys := by
  have here : ((current.filter fun unit => prior.contains unit.name).map (·.name)).Perm
      (prior.keys.filter fun key => current.any (·.name = key)) := by
    refine (List.perm_ext_iff_of_nodup ((List.filter_sublist.map _).nodup distinct)
      (prior.keys_nodup.filter _)).2 fun key => ?_
    simp only [List.mem_map, List.mem_filter, KeyMap.contains_iff_mem_keys, List.any_eq_true,
      decide_eq_true_eq]
    constructor
    · rintro ⟨unit, ⟨member, known⟩, rfl⟩
      exact ⟨known, unit, member, rfl⟩
    · rintro ⟨known, unit, member, rfl⟩
      exact ⟨unit, ⟨member, known⟩, rfl⟩
  have away : ((UnitChanges.gone prior current).map (·.name)).Perm
      (prior.keys.filter fun key => !current.any (·.name = key)) := by
    refine ((Order.perm_sortBy _ _).map _).trans ?_
    rw [List.map_map, KeyMap.keys, List.filter_map]
    exact .refl _
  exact (here.append away).trans (List.filter_append_perm _ _)

theorem classifies_classify (path : String) (distinct : (current.map (·.name)).Nodup) :
    Classifies prior current (classify path prior current) := by
  have remembered := perm_remembered path prior current
  have revised := revision_classify path prior current
  constructor
  case current_once =>
    refine (remembered.append (.refl _)).trans ?_
    simp only [classify, List.map_nil, List.append_nil]
    exact List.filter_append_perm _ _
  case prior_once =>
    have names := remembered.map (·.name)
    rw [List.map_append, List.map_map] at names
    refine (names.append (.refl _)).trans ?_
    simp only [classify, List.map_nil, List.append_nil]
    exact perm_names distinct
  case modified =>
    intro delta
    simp only [classify, List.mem_filterMap, delta?_eq_some_iff]
  case unchanged => exact fun unit => mem_unchanged_classify_iff
  case gone =>
    intro unit member
    simp only [classify, List.map_nil, List.append_nil] at member
    exact (mem_gone_iff.1 member).1
  case added_ordered => exact List.filter_sublist
  case modified_ordered => exact revised ▸ List.filter_sublist
  case unchanged_ordered => exact List.filter_sublist
  case deleted_ordered => exact pairwise_gone prior current

/-! ### After renames are looked for -/

/-- Looking for renames keeps a sorting. -/
theorem Classifies.matchRenames (classifies : Classifies prior current changes)
    (threshold : Float) :
    Classifies prior current (UnitChanges.matchRenames threshold changes) := by
  have greedy := greedyMatching_choices threshold changes.deleted
    (changes.added.map fun unit => { unit })
  have realizes := realizes_matchRenames threshold changes
  have old := perm_matchRenames_deleted threshold changes
  have new := perm_matchRenames_added threshold changes
  constructor
  case current_once =>
    rw [realizes.modified, realizes.unchanged]
    exact (new.append_left _).trans classifies.current_once
  case prior_once =>
    rw [realizes.modified, realizes.unchanged]
    exact ((old.map _).append_left _).trans classifies.prior_once
  case modified => exact realizes.modified ▸ classifies.modified
  case unchanged => exact realizes.unchanged ▸ classifies.unchanged
  case gone => exact fun unit member => classifies.gone unit (old.mem_iff.1 member)
  case added_ordered => exact realizes.added_sublist.trans classifies.added_ordered
  case modified_ordered => exact realizes.modified ▸ classifies.modified_ordered
  case unchanged_ordered => exact realizes.unchanged ▸ classifies.unchanged_ordered
  case deleted_ordered =>
    exact classifies.deleted_ordered.sublist (realizes.deleted_sublist greedy.length_eq)

theorem classifies_compare (path : String) (prior : Option (KeyMap Fingerprint))
    (tracking : Tracking) (distinct : (current.map (·.name)).Nodup) :
    Classifies (prior.getD .empty) current (compare path prior current tracking) := by
  cases prior with
  | none =>
    have unnamed : (KeyMap.empty : KeyMap Fingerprint).keys = [] := rfl
    constructor <;> simp [compare, unnamed]
  | some prior =>
    rw [compare]
    split
    · exact (classifies_classify path distinct).matchRenames tracking.threshold
    · exact classifies_classify path distinct

/-! ### Identifiers -/

/-- Identifiers of units that are told by their names. -/
structure Identified (identify : String → String) (prior : KeyMap Fingerprint)
    (current : List UnitState) : Prop where
  injective : Function.Injective identify
  prior : ∀ key old, prior.get? key = some old → old.id = identify key
  current : ∀ unit ∈ current, unit.fingerprint.id = identify unit.name

theorem filter_map_append {identify : String → String} (injective : Function.Injective identify)
    {dropped kept : List String} (apart : dropped.Disjoint kept) :
    ((dropped ++ kept).map identify).filter (· ∉ dropped.map identify) = kept.map identify := by
  rw [List.map_append, List.filter_append, List.filter_eq_nil_iff.2, List.nil_append,
    List.filter_eq_self]
  · intro id member
    obtain ⟨key, here, rfl⟩ := List.mem_map.1 member
    rw [decide_eq_true_eq, List.mem_map_of_injective injective]
    exact fun there => apart there here
  · intro id member
    simpa using member

theorem Identified.map_values {identify : String → String}
    (identified : Identified identify prior current) :
    prior.values.map (·.id) = prior.keys.map identify := by
  rw [KeyMap.values, KeyMap.keys, List.map_map, List.map_map]
  apply List.map_congr_left
  rintro ⟨key, old⟩ member
  exact identified.prior key old (KeyMap.get?_eq_some_iff.2 member)

/-- The names of units whose records have to go. -/
def outgoing (changes : UnitChanges) : List String :=
  changes.modified.map (·.name) ++ (changes.deleted ++ changes.renamed.map oldSide).map (·.name)

theorem Classifies.staleIds_eq (classifies : Classifies prior current changes)
    {identify : String → String} (identified : Identified identify prior current) :
    changes.staleIds = changes.outgoing.map identify := by
  have revised : ∀ delta ∈ changes.modified, delta.old.id = identify delta.name := by
    intro delta member
    obtain ⟨unit, -, old, known, -, rfl⟩ := (classifies.modified delta).1 member
    exact identified.prior unit.name old known
  have gone : ∀ unit ∈ changes.deleted ++ changes.renamed.map oldSide,
      unit.fingerprint.id = identify unit.name := fun unit member =>
    identified.prior unit.name unit.fingerprint (classifies.gone unit member)
  calc changes.staleIds
      = changes.modified.map (·.old.id) ++
          (changes.deleted ++ changes.renamed.map oldSide).map (·.fingerprint.id) := by
        simp [staleIds, oldSide, Function.comp_def]
    _ = changes.outgoing.map identify := by
        rw [List.map_congr_left revised, List.map_congr_left gone]
        simp [outgoing, Function.comp_def]

/-- The names that are remembered are those whose records have to go and those that are
unchanged. -/
theorem Classifies.perm_outgoing (classifies : Classifies prior current changes) :
    prior.keys.Perm (changes.outgoing ++ changes.unchanged.map (·.name)) := by
  refine classifies.prior_once.symm.trans ?_
  rw [outgoing, List.append_assoc, List.append_assoc]
  exact List.perm_append_comm.append_left _

/-- The identifiers of what is remembered, without those that become stale and with those that are
fresh, are the identifiers of the units. -/
theorem Classifies.refreshed (classifies : Classifies prior current changes)
    {identify : String → String} (identified : Identified identify prior current) :
    ((prior.values.map (·.id)).filter (· ∉ changes.staleIds) ++ changes.freshIds).Perm
      (current.map (·.fingerprint.id)) := by
  have names := classifies.perm_outgoing
  have apart := (List.nodup_append'.1 (names.nodup_iff.1 prior.keys_nodup)).2.2
  have kept : ((prior.values.map (·.id)).filter (· ∉ changes.staleIds)).Perm
      (changes.unchanged.map (·.fingerprint.id)) := by
    rw [identified.map_values, classifies.staleIds_eq identified]
    refine ((names.map identify).filter _).trans ?_
    rw [filter_map_append identified.injective apart, List.map_map]
    refine .of_eq (List.map_congr_left fun unit member => ?_)
    exact (identified.current unit (classifies.unchanged_ordered.subset member)).symm
  have fresh : changes.freshIds = (changes.modified.map revision ++
      (changes.added ++ changes.renamed.map newSide)).map (·.fingerprint.id) := by
    simp [freshIds, revision, newSide, Function.comp_def]
  refine (kept.append_right _).trans ?_
  rw [fresh, ← List.map_append]
  refine (List.Perm.trans ?_ classifies.current_once).map _
  rw [List.append_assoc]
  exact List.perm_append_comm_assoc ..

/-- Every unit of a file, and every fingerprint that is remembered of it, has one place in a
comparison, whatever is remembered and however renames are looked for. Where identifiers are told by
names, the comparison turns the old identifiers into the new ones. -/
theorem units_are_classified_once (path : String) (prior : Option (KeyMap Fingerprint))
    (current : List UnitState) (tracking : Tracking) (distinct : (current.map (·.name)).Nodup) :
    Classifies (prior.getD .empty) current (compare path prior current tracking) ∧
    (tracking.detectRenames = false → (compare path prior current tracking).renamed = []) ∧
    (prior = none → compare path prior current tracking = { file := path, added := current }) ∧
    ∀ identify, Identified identify (prior.getD .empty) current →
      (((prior.getD .empty).values.map (·.id)).filter
          (· ∉ (compare path prior current tracking).staleIds) ++
        (compare path prior current tracking).freshIds).Perm (current.map (·.fingerprint.id)) := by
  have classifies := classifies_compare path prior tracking distinct
  refine ⟨classifies, fun off => ?_, fun fresh => ?_, fun identify => classifies.refreshed⟩
  · cases prior <;> simp [compare, classify, off]
  · rw [fresh, compare]

/-- A unit of a small file. -/
def sampleState (name hash : String) (line : UInt32) (source : Option String) : UnitState where
  name := name
  fingerprint :=
    { id := SourceUnit.identifierOf "a.py" name, hash, line, endLine := line, size := 0,
      isAsync := false, source }

/-- Four units of the file. -/
def sampleBefore : List UnitState :=
  [sampleState "drop" "1" 1 none, sampleState "edit" "2" 2 none, sampleState "keep" "3" 3 none,
    sampleState "move" "4" 4 (some "x = 1")]

/-- The file after one of them was edited, one renamed and one replaced. -/
def sampleAfter : List UnitState :=
  [sampleState "moved" "4" 1 (some "x = 1"), sampleState "keep" "3" 2 none,
    sampleState "edit" "5" 3 none, sampleState "fresh" "6" 4 none]

/-- What is remembered of the four units. -/
def samplePrior : KeyMap Fingerprint :=
  KeyMap.ofList (sampleBefore.map fun unit => (unit.name, unit.fingerprint))

theorem identified_sample :
    Identified (SourceUnit.identifierOf "a.py") samplePrior sampleAfter := by
  constructor
  case injective => exact fun first second => SourceUnit.identifierOf_inj.1
  case prior =>
    intro key old known
    obtain ⟨unit, member, same⟩ := List.mem_map.1 (KeyMap.mem_of_get?_ofList known)
    cases same
    revert unit
    simp [sampleBefore, sampleState]
  case current => simp [sampleAfter, sampleState]

/-- How the file has changed. -/
def sampleChanges : UnitChanges :=
  compare "a.py" (some samplePrior) sampleAfter { detectRenames := true }

theorem units_are_classified_once_sample :
    (sampleAfter.map (·.name)).Nodup ∧
    Identified (SourceUnit.identifierOf "a.py") samplePrior sampleAfter ∧
    sampleChanges.renamed.map (·.oldName) = ["move"] ∧
    sampleChanges.deleted.map (·.name) = ["drop"] ∧
    Classifies samplePrior sampleAfter sampleChanges ∧
    ((samplePrior.values.map (·.id)).filter (· ∉ sampleChanges.staleIds) ++
      sampleChanges.freshIds).Perm (sampleAfter.map (·.fingerprint.id)) := by
  have distinct : (sampleAfter.map (·.name)).Nodup := by decide
  obtain ⟨classifies, -, -, refreshed⟩ := units_are_classified_once "a.py" (some samplePrior)
    sampleAfter { detectRenames := true } distinct
  rw [Option.getD_some] at classifies refreshed
  refine ⟨distinct, identified_sample, ?_, ?_, classifies, refreshed _ identified_sample⟩
  · decide +kernel
  · decide +kernel

end UnitChanges

end SourceIndex
