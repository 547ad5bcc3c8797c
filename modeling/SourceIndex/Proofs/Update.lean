import SourceIndex.Proofs.KeyMap
import SourceIndex.Proofs.Store
import SourceIndex.Update

/-!
# What an update does to the records of a file

Which records an update takes out is collected file by file, and decided record by record. An update
is described file by file: of an analysed file the old records that are not outdated stay and the
fresh ones follow them, and the records of other files stay unless the file is gone.
-/

namespace SourceIndex

/-- The records derived from a file belong to it and have distinct identifiers. -/
structure AnalyzedFile.WellFormed (file : AnalyzedFile) : Prop where
  placed : ∀ record ∈ file.records, record.file = file.path
  distinct : (file.records.map (·.id)).Nodup

namespace Store

theorem mem_ofFile_iff {store : Store} {path : String} {record : Record} :
    record ∈ store.ofFile path ↔ record ∈ store.records ∧ record.file = path := by
  simp [ofFile]

/-- The identifiers of the records of a file are distinct. -/
theorem nodup_ids_ofFile (store : Store) (path : String) :
    ((store.ofFile path).map (·.id)).Nodup := by
  refine (List.filter_sublist.nodup (List.Nodup.of_map _ store.distinct)).map_on ?_
  intro first member second member' same
  have left := mem_ofFile_iff.1 member
  have right := mem_ofFile_iff.1 member'
  apply List.inj_on_of_nodup_map store.distinct left.1 right.1
  rw [Record.key, Record.key, left.2, right.2, same]

end Store

namespace Update

variable {analyzed : List AnalyzedFile}

/-! ## What goes -/

/-- Whether an analysed file makes a record of the store stale. -/
def outdates (granularity : Granularity) (file : AnalyzedFile) (record : Record) : Bool :=
  file.path = record.file &&
    match unitChanges? granularity file with
    | none => true
    | some changes =>
      changes.staleIds.contains record.id || file.records.any (·.id = record.id)

/-- Whether a record of the store is kept. -/
def keeps (granularity : Granularity) (deleted : List String) (analyzed : List AnalyzedFile)
    (record : Record) : Bool :=
  !(deleted.contains record.file || analyzed.any fun file => outdates granularity file record)

/-- An analysed file adds the records that it makes stale to those that go. -/
theorem takes_add (granularity : Granularity) (removal : Removal) (file : AnalyzedFile)
    (record : Record) :
    (removal.add granularity file).takes record =
      (removal.takes record || outdates granularity file record) := by
  rw [Removal.add, outdates]
  cases unitChanges? granularity file with
  | none =>
    by_cases here : file.path = record.file
    · simp [Removal.takes, here]
    · simp [Removal.takes, here, Ne.symm here]
  | some changes =>
    rw [Bool.eq_iff_iff]
    by_cases here : file.path = record.file
    · cases known : removal.ids.get? record.file with
      | none => simp [Removal.takes, KeyMap.get?_insert, here, known]
      | some ids => simp [Removal.takes, KeyMap.get?_insert, here, known, or_assoc]
    · simp [Removal.takes, KeyMap.get?_insert, here]

theorem takes_foldl_add (granularity : Granularity) (removal : Removal)
    (analyzed : List AnalyzedFile) (record : Record) :
    (analyzed.foldl (Removal.add granularity) removal).takes record =
      (removal.takes record || analyzed.any fun file => outdates granularity file record) := by
  induction analyzed generalizing removal with
  | nil => simp
  | cons file rest ih => rw [List.foldl_cons, ih, takes_add, List.any_cons, Bool.or_assoc]

/-- What goes is what is not kept. -/
theorem not_takes_removal (granularity : Granularity) (deleted : List String)
    (analyzed : List AnalyzedFile) :
    (fun record => !(removal granularity deleted analyzed).takes record) =
      keeps granularity deleted analyzed := by
  funext record
  rw [removal, takes_foldl_add, keeps]
  simp [Removal.takes]

theorem apply_eq (granularity : Granularity) (store : Store) (deleted : List String)
    (analyzed : List AnalyzedFile) :
    apply granularity store deleted analyzed =
      ⟨(analyzed.flatMap (·.records)).foldl Store.insert
          (store.retain (keeps granularity deleted analyzed)),
        store.size - (store.retain (keeps granularity deleted analyzed)).size,
        (analyzed.flatMap (·.records)).length⟩ := by
  rw [apply, not_takes_removal]

theorem removed_apply (granularity : Granularity) (store : Store) (deleted : List String)
    (analyzed : List AnalyzedFile) :
    (apply granularity store deleted analyzed).removed =
      store.records.length -
        (store.records.filter (keeps granularity deleted analyzed)).length := by
  rw [apply_eq, Store.size, Store.size, Store.records_retain]

theorem inserted_apply (granularity : Granularity) (store : Store) (deleted : List String)
    (analyzed : List AnalyzedFile) :
    (apply granularity store deleted analyzed).inserted =
      (analyzed.flatMap (·.records)).length := rfl

/-! ## What stays and what comes -/

/-- Records derived from different files have different keys. -/
theorem nodup_fresh_keys (wellFormed : ∀ file ∈ analyzed, file.WellFormed)
    (distinct : (analyzed.map (·.path)).Nodup) :
    ((analyzed.flatMap (·.records)).map Record.key).Nodup := by
  rw [List.map_flatMap, List.nodup_flatMap]
  constructor
  · intro file member
    have own := wellFormed file member
    refine (List.Nodup.of_map _ own.distinct).map_on ?_
    intro first here second there same
    exact List.inj_on_of_nodup_map own.distinct here there (congrArg Prod.snd same)
  · rw [List.Nodup, List.pairwise_map] at distinct
    refine distinct.imp_of_mem ?_
    intro first second here there differs key left right
    obtain ⟨record, listed, rfl⟩ := List.mem_map.1 left
    obtain ⟨other, listed', same⟩ := List.mem_map.1 right
    apply differs
    rw [← (wellFormed first here).placed record listed,
      ← (wellFormed second there).placed other listed']
    exact (congrArg Prod.fst same).symm

/-- Of the fresh records those of one file are the ones derived from it. -/
theorem filter_fresh (wellFormed : ∀ file ∈ analyzed, file.WellFormed) (path : String) :
    (analyzed.flatMap (·.records)).filter (fun record => record.file = path) =
      (analyzed.filter fun file => file.path = path).flatMap (·.records) := by
  induction analyzed with
  | nil => rfl
  | cons file rest ih =>
    have placed := (wellFormed file (List.mem_cons_self ..)).placed
    rw [List.flatMap_cons, List.filter_append,
      ih fun other member => wellFormed other (List.mem_cons_of_mem _ member)]
    by_cases here : file.path = path
    · have own : file.records.filter (fun record => record.file = path) = file.records :=
        List.filter_eq_self.2 fun record member => by simp [placed record member, here]
      simp [own, here]
    · have own : file.records.filter (fun record => record.file = path) = [] :=
        List.filter_eq_nil_iff.2 fun record member => by simp [placed record member, here]
      simp [own, here]

/-- A record that is kept has not the key of a fresh one. -/
theorem key_not_fresh (wellFormed : ∀ file ∈ analyzed, file.WellFormed) {granularity : Granularity}
    {deleted : List String} {record : Record}
    (kept : keeps granularity deleted analyzed record = true) :
    record.key ∉ (analyzed.flatMap (·.records)).map Record.key := by
  intro member
  obtain ⟨fresh, listed, same⟩ := List.mem_map.1 member
  obtain ⟨file, here, own⟩ := List.mem_flatMap.1 listed
  have path : file.path = record.file :=
    ((wellFormed file here).placed fresh own).symm.trans (congrArg Prod.fst same)
  have known : file.records.any (·.id = record.id) = true :=
    List.any_eq_true.2 ⟨fresh, own, decide_eq_true (congrArg Prod.snd same)⟩
  have stale : outdates granularity file record = true := by
    rw [outdates]
    cases unitChanges? granularity file <;> simp [path, known]
  have some : analyzed.any (fun file => outdates granularity file record) = true :=
    List.any_eq_true.2 ⟨file, here, stale⟩
  simp [keeps, some] at kept

/-- The records after an update. -/
theorem records_apply (wellFormed : ∀ file ∈ analyzed, file.WellFormed)
    (distinct : (analyzed.map (·.path)).Nodup) (granularity : Granularity) (store : Store)
    (deleted : List String) :
    (apply granularity store deleted analyzed).store.records =
      store.records.filter (keeps granularity deleted analyzed) ++
        analyzed.flatMap (·.records) := by
  rw [apply_eq, Store.records_foldl_insert (nodup_fresh_keys wellFormed distinct),
    Store.records_retain]
  congr 1
  refine List.filter_eq_self.2 fun record member => ?_
  simpa using key_not_fresh wellFormed (List.mem_filter.1 member).2

/-- The records of a file after an update: old ones that are kept, then fresh ones. -/
theorem ofFile_apply (wellFormed : ∀ file ∈ analyzed, file.WellFormed)
    (distinct : (analyzed.map (·.path)).Nodup) (granularity : Granularity) (store : Store)
    (deleted : List String) (path : String) :
    (apply granularity store deleted analyzed).store.ofFile path =
      (store.ofFile path).filter (keeps granularity deleted analyzed) ++
        (analyzed.filter fun file => file.path = path).flatMap (·.records) := by
  rw [Store.ofFile, records_apply wellFormed distinct, List.filter_append, filter_fresh wellFormed,
    Store.ofFile, List.filter_comm]

theorem outdates_of_ne {granularity : Granularity} {file : AnalyzedFile} {record : Record}
    (differs : file.path ≠ record.file) : outdates granularity file record = false := by
  simp [outdates, differs]

/-- Whether a record of an analysed file is kept depends on that file. -/
theorem keeps_of_mem {granularity : Granularity} {deleted : List String} {record : Record}
    (distinct : (analyzed.map (·.path)).Nodup) {file : AnalyzedFile} (member : file ∈ analyzed)
    (present : file.path ∉ deleted) (here : record.file = file.path) :
    keeps granularity deleted analyzed record = !outdates granularity file record := by
  have only : analyzed.any (fun other => outdates granularity other record) =
      outdates granularity file record := by
    rw [Bool.eq_iff_iff, List.any_eq_true]
    refine ⟨fun ⟨other, among, stale⟩ => ?_, fun stale => ⟨file, member, stale⟩⟩
    have path : other.path = file.path := by
      by_contra differs
      rw [outdates_of_ne (here ▸ differs)] at stale
      cases stale
    rwa [← List.inj_on_of_nodup_map distinct among member path]
  rw [keeps, only, here]
  simp [present]

/-- A record of another file is kept unless its file is gone. -/
theorem keeps_of_not_mem {granularity : Granularity} {deleted : List String} {record : Record}
    (absent : ∀ file ∈ analyzed, file.path ≠ record.file) :
    keeps granularity deleted analyzed record = !deleted.contains record.file := by
  have apart : analyzed.any (fun file => outdates granularity file record) = false :=
    List.any_eq_false.2 fun file listed => by simp [outdates_of_ne (absent file listed)]
  rw [keeps, apart, Bool.or_false]

/-- The records of a file that was not analysed stay, unless it is gone. -/
theorem ofFile_apply_of_not_mem (wellFormed : ∀ file ∈ analyzed, file.WellFormed)
    (distinct : (analyzed.map (·.path)).Nodup) (granularity : Granularity) (store : Store)
    (deleted : List String) {path : String} (absent : ∀ file ∈ analyzed, file.path ≠ path) :
    (apply granularity store deleted analyzed).store.ofFile path =
      if path ∈ deleted then [] else store.ofFile path := by
  have none : (analyzed.filter fun file => file.path = path) = [] :=
    List.filter_eq_nil_iff.2 fun file member => by simpa using absent file member
  have decision : ∀ record ∈ store.ofFile path,
      keeps granularity deleted analyzed record = !deleted.contains path := by
    intro record member
    have here := (Store.mem_ofFile_iff.1 member).2
    rw [keeps_of_not_mem fun file listed => here ▸ absent file listed, here]
  rw [ofFile_apply wellFormed distinct, none, List.flatMap_nil, List.append_nil,
    List.filter_congr decision]
  by_cases gone : path ∈ deleted <;> simp [gone]

/-- Only one analysed file has a path. -/
theorem filter_path (distinct : (analyzed.map (·.path)).Nodup) {file : AnalyzedFile}
    (member : file ∈ analyzed) :
    (analyzed.filter fun other => other.path = file.path) = [file] := by
  induction analyzed with
  | nil => cases member
  | cons first rest ih =>
    obtain ⟨absent, distinct⟩ := List.nodup_cons.1 distinct
    rcases List.mem_cons.1 member with rfl | later
    · have others : ∀ other ∈ rest, other.path ≠ file.path := fun other listed same =>
        absent (List.mem_map.2 ⟨other, listed, same⟩)
      have none : (rest.filter fun other => other.path = file.path) = [] :=
        List.filter_eq_nil_iff.2 fun other listed => by simpa using others other listed
      simp [none]
    · have differs : first.path ≠ file.path := fun same =>
        absent (List.mem_map.2 ⟨file, later, same.symm⟩)
      simp [differs, ih distinct later]

/-- The records of an analysed file: the old ones that are not outdated, then the fresh ones. -/
def renewed (granularity : Granularity) (records : List Record) (file : AnalyzedFile) :
    List Record :=
  records.filter (fun record => !outdates granularity file record) ++ file.records

/-- A file whose units are not tracked is replaced as a whole. -/
theorem renewed_file {records : List Record} {file : AnalyzedFile}
    (placed : ∀ record ∈ records, record.file = file.path) :
    renewed .file records file = file.records := by
  have none : records.filter (fun record => !outdates .file file record) = [] :=
    List.filter_eq_nil_iff.2 fun record member => by
      simp [outdates, unitChanges?, placed record member]
  rw [renewed, none, List.nil_append]

/-- Of an analysed file the old records that are not outdated stay, and the fresh ones follow. -/
theorem ofFile_apply_of_mem (wellFormed : ∀ file ∈ analyzed, file.WellFormed)
    (distinct : (analyzed.map (·.path)).Nodup) (granularity : Granularity) (store : Store)
    {deleted : List String} {file : AnalyzedFile} (member : file ∈ analyzed)
    (present : file.path ∉ deleted) :
    (apply granularity store deleted analyzed).store.ofFile file.path =
      renewed granularity (store.ofFile file.path) file := by
  have decision : ∀ record ∈ store.ofFile file.path,
      keeps granularity deleted analyzed record = !outdates granularity file record := by
    intro record listed
    exact keeps_of_mem distinct member present (Store.mem_ofFile_iff.1 listed).2
  rw [ofFile_apply wellFormed distinct, filter_path distinct member, List.flatMap_singleton,
    List.filter_congr decision, renewed]

/-! ## One splice -/

/-- A file of which an update replaces all records: its units are not tracked, or there is nothing
to compare them with. -/
def ReplacesWhole (granularity : Granularity) (file : AnalyzedFile) : Prop :=
  granularity = .file ∨ file.changes = none ∨
    ∃ changes, file.changes = some changes ∧ changes.hasBaseline = false

theorem unitChanges?_eq_none_iff {granularity : Granularity} {file : AnalyzedFile} :
    unitChanges? granularity file = none ↔ ReplacesWhole granularity file := by
  cases granularity with
  | file => simp [unitChanges?, ReplacesWhole]
  | unit =>
    cases known : file.changes with
    | none => simp [unitChanges?, ReplacesWhole, known]
    | some changes => simp [unitChanges?, ReplacesWhole, known]

theorem changes_of_unitChanges? {granularity : Granularity} {file : AnalyzedFile}
    {changes : UnitChanges} (found : unitChanges? granularity file = some changes) :
    file.changes = some changes := by
  cases granularity with
  | file => cases found
  | unit =>
    cases known : file.changes with
    | none => simp [unitChanges?, known] at found
    | some other =>
      simp only [unitChanges?, known, Option.ite_none_right_eq_some] at found
      exact found.2

/-- The records of a store that an update takes out. -/
inductive Removes (granularity : Granularity) (deleted : List String)
    (analyzed : List AnalyzedFile) (record : Record) : Prop where
  /-- The file of the record is gone. -/
  | deleted (gone : record.file ∈ deleted)
  /-- The file of the record is replaced as a whole. -/
  | whole {file : AnalyzedFile} (member : file ∈ analyzed) (here : file.path = record.file)
    (whole : ReplacesWhole granularity file)
  /-- The file of the record is updated unit by unit, and the unit is stale or was derived
  afresh. -/
  | unit {file : AnalyzedFile} {changes : UnitChanges} (member : file ∈ analyzed)
    (here : file.path = record.file) (partly : ¬ReplacesWhole granularity file)
    (known : file.changes = some changes)
    (stale : record.id ∈ changes.staleIds ∨ record.id ∈ file.records.map (·.id))

theorem outdates_iff {granularity : Granularity} {file : AnalyzedFile} {record : Record} :
    outdates granularity file record = true ↔ file.path = record.file ∧
      (ReplacesWhole granularity file ∨ ¬ReplacesWhole granularity file ∧
        ∃ changes, file.changes = some changes ∧
          (record.id ∈ changes.staleIds ∨ record.id ∈ file.records.map (·.id))) := by
  rw [outdates, ← unitChanges?_eq_none_iff]
  cases found : unitChanges? granularity file with
  | none => simp
  | some changes => simp [changes_of_unitChanges? found]

theorem keeps_iff {granularity : Granularity} {deleted : List String} {record : Record} :
    keeps granularity deleted analyzed record = true ↔
      ¬Removes granularity deleted analyzed record := by
  rw [keeps, Bool.not_eq_true', ← Bool.not_eq_true, Bool.or_eq_true, List.contains_iff_mem,
    List.any_eq_true]
  apply not_congr
  constructor
  · rintro (gone | ⟨file, member, stale⟩)
    · exact .deleted gone
    · obtain ⟨here, whole | ⟨partly, changes, known, stale⟩⟩ := outdates_iff.1 stale
      · exact .whole member here whole
      · exact .unit member here partly known stale
  · intro removed
    cases removed with
    | deleted gone => exact .inl gone
    | whole member here whole => exact .inr ⟨_, member, outdates_iff.2 ⟨here, .inl whole⟩⟩
    | unit member here partly known stale =>
      exact .inr ⟨_, member, outdates_iff.2 ⟨here, .inr ⟨partly, _, known, stale⟩⟩⟩

instance (granularity : Granularity) (deleted : List String) (analyzed : List AnalyzedFile) :
    DecidablePred (Removes granularity deleted analyzed) := fun record =>
  decidable_of_iff (keeps granularity deleted analyzed record = false) (by
    rw [← Bool.not_eq_true, keeps_iff, not_not])

/-- The records of a store that an update leaves, in order. -/
def remaining (granularity : Granularity) (store : Store) (deleted : List String)
    (analyzed : List AnalyzedFile) : List Record :=
  store.records.filter fun record => ¬Removes granularity deleted analyzed record

theorem filter_keeps (granularity : Granularity) (store : Store) (deleted : List String)
    (analyzed : List AnalyzedFile) :
    store.records.filter (keeps granularity deleted analyzed) =
      remaining granularity store deleted analyzed := by
  apply List.filter_congr
  intro record _
  rw [Bool.eq_iff_iff, keeps_iff, decide_eq_true_eq]

/-- An update leaves a file alone that is neither deleted nor analysed. -/
theorem filter_remaining {granularity : Granularity} {store : Store} {deleted : List String}
    {path : String} (present : path ∉ deleted) (absent : ∀ file ∈ analyzed, file.path ≠ path) :
    (remaining granularity store deleted analyzed).filter (fun record => record.file = path) =
      store.ofFile path := by
  rw [remaining, List.filter_filter, Store.ofFile]
  apply List.filter_congr
  intro record _
  by_cases here : record.file = path
  · have stays : ¬Removes granularity deleted analyzed record := by
      intro removed
      cases removed with
      | deleted gone => exact present (here ▸ gone)
      | whole member other => exact absent _ member (other.trans here)
      | unit member other => exact absent _ member (other.trans here)
    simp [here, stays]
  · simp [here]

/-- An update is one splice: it has the records of the store that is built from what remains of the
old records, followed by all fresh records. It reports how many records went and how many came, and
the records of a file stay as they are if the file is not deleted, not analysed and has no fresh
record. -/
theorem apply_is_one_splice (granularity : Granularity) (store : Store) (deleted : List String)
    (analyzed : List AnalyzedFile) :
    (apply granularity store deleted analyzed).store.Same
        (Store.ofRecords (remaining granularity store deleted analyzed ++
          analyzed.flatMap (·.records))) ∧
      (apply granularity store deleted analyzed).removed +
        (remaining granularity store deleted analyzed).length = store.size ∧
      (apply granularity store deleted analyzed).inserted =
        (analyzed.flatMap (·.records)).length ∧
      ∀ path, path ∉ deleted → (∀ file ∈ analyzed, file.path ≠ path) →
        (∀ record ∈ analyzed.flatMap (·.records), record.file ≠ path) →
        (apply granularity store deleted analyzed).store.ofFile path = store.ofFile path := by
  have records : (apply granularity store deleted analyzed).store.records =
      Store.latest (remaining granularity store deleted analyzed ++
        analyzed.flatMap (·.records)) := by
    rw [apply_eq, Store.records_foldl_insert_eq_latest, Store.records_retain, filter_keeps]
  refine ⟨?_, ?_, ?_, ?_⟩
  · apply Store.same_of_records
    rw [records, Store.records_ofRecords_eq_latest]
  · rw [removed_apply, filter_keeps, Store.size]
    exact Nat.sub_add_cancel (List.length_filter_le ..)
  · rw [apply_eq]
  · intro path present absent foreign
    have none : (analyzed.flatMap (·.records)).filter (fun record => record.file = path) = [] :=
      List.filter_eq_nil_iff.2 fun record member => by simpa using foreign record member
    have distinct : ((store.ofFile path).map Record.key).Nodup :=
      (List.filter_sublist.map _).nodup store.distinct
    rw [Store.ofFile, records, Store.filter_latest, List.filter_append, none, List.append_nil,
      filter_remaining present absent, Store.latest_of_distinct distinct]

/-- A record of which only the place is given. -/
def recordAt (file id : String) : Record where
  id := id
  name := id
  file := file
  line := 1
  signature := "()"
  isAsync := false
  calls := []
  effects := []
  language := .python

/-- Three files with a record each. -/
def threeFiles : Store :=
  Store.ofRecords [recordAt "a.py" "a.py#f", recordAt "b.py" "b.py#f", recordAt "c.py" "c.py#f"]

/-- One file was analysed as a whole and by its units. -/
def analyzedTwice : List AnalyzedFile :=
  [⟨"b.py", [recordAt "b.py" "b.py#g"], none⟩,
    ⟨"b.py", [recordAt "b.py" "b.py#g"], some { file := "b.py", hasBaseline := true }⟩]

/-- The third file is left alone when the first is deleted and the second is analysed. -/
theorem apply_is_one_splice_twice :
    "c.py" ∉ ["a.py"] ∧ (∀ file ∈ analyzedTwice, file.path ≠ "c.py") ∧
      (∀ record ∈ analyzedTwice.flatMap (·.records), record.file ≠ "c.py") ∧
      (apply .unit threeFiles ["a.py"] analyzedTwice).store.ofFile "c.py" =
        threeFiles.ofFile "c.py" ∧
      (threeFiles.ofFile "c.py").length = 1 := by
  have present : "c.py" ∉ ["a.py"] := by decide
  have absent : ∀ file ∈ analyzedTwice, file.path ≠ "c.py" := by
    simp [analyzedTwice]
  have foreign : ∀ record ∈ analyzedTwice.flatMap (·.records), record.file ≠ "c.py" := by
    simp [analyzedTwice, recordAt]
  exact ⟨present, absent, foreign,
    (apply_is_one_splice .unit threeFiles ["a.py"] analyzedTwice).2.2.2 "c.py" present absent
    foreign,
    by decide +kernel⟩

end Update

end SourceIndex
