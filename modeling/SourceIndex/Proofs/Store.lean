import Mathlib.Data.List.Induction
import Mathlib.Data.List.Nodup
import SourceIndex.GraphLog

/-!
# Laws of record stores

What a store finds is determined by its records. Inserting records one after the other gives the
same as building the store from all of them: of the records with one key the last one stays, at its
place. Whatever is done to a store, its records are what the same steps make of a plain list, and
its index finds what a scan of them finds.
-/

namespace SourceIndex

instance : Std.LawfulEqCmp compareKeys where
  eq_of_compare := compareKeys_eq_iff.1

namespace RecordIndex

theorem extend_append (index : RecordIndex) (start : Nat) (first second : List Record) :
    index.extend start (first ++ second) =
      (index.extend start first).extend (start + first.length) second := by
  induction first generalizing index start with
  | nil => rfl
  | cons record rest ih =>
    rw [List.cons_append, extend, extend, ih, List.length_cons, Nat.add_right_comm, Nat.add_assoc]

theorem ofRecords_concat (records : List Record) (record : Record) :
    ofRecords (records ++ [record]) = (ofRecords records).insert record.key records.length := by
  rw [ofRecords, extend_append, Nat.zero_add]
  rfl

end RecordIndex

namespace Store

@[simp] theorem records_insert (store : Store) (record : Record) :
    (store.insert record).records =
      store.records.filter (fun other => other.key ≠ record.key) ++ [record] :=
  congrArg (· ++ [record]) (store.records_erase record.key)

@[simp] theorem records_retain (keep : Record → Bool) (store : Store) :
    (store.retain keep).records = store.records.filter keep := by
  rw [retain]
  split
  case isTrue same => exact (List.filter_sublist.eq_of_length same).symm
  case isFalse => rfl

/-- What is found under a key is the record with that key. -/
theorem get?_eq_some_iff {store : Store} {file id : String} {record : Record} :
    store.get? file id = some record ↔ record ∈ store.records ∧ record.key = (file, id) := by
  rw [get?_eq_find?]
  constructor
  · intro found
    have same := List.find?_some found
    exact ⟨List.mem_of_find?_eq_some found, by simpa using same⟩
  · rintro ⟨member, same⟩
    cases found : store.records.find? fun record => record.key = (file, id) with
    | none => exact absurd same (by simpa using List.find?_eq_none.1 found record member)
    | some other =>
      have key : other.key = record.key := by simpa [same] using List.find?_some found
      rw [List.inj_on_of_nodup_map store.distinct (List.mem_of_find?_eq_some found) member key]

/-- Two stores hold the same: the same records in the same order, and the same record under every
key. The shape of the tree that keeps the keys does not count. -/
structure Same (first second : Store) : Prop where
  records : first.records = second.records
  index : first.index.Equiv second.index

/-- The records determine the rest of a store. -/
theorem same_of_records {first second : Store} (records : first.records = second.records) :
    first.Same second where
  records := records
  index := by
    apply Std.TreeMap.Equiv.of_forall_constGet?_eq
    intro key
    apply Option.ext
    intro position
    rw [first.agrees, second.agrees, records]

/-! ## The latest records -/

/-- The records of a list without those whose key a later record has. -/
def latest : List Record → List Record
  | [] => []
  | record :: rest =>
    if record.key ∈ rest.map Record.key then latest rest else record :: latest rest

/-- Records with distinct keys all stay. -/
theorem latest_of_distinct {records : List Record} (distinct : (records.map Record.key).Nodup) :
    latest records = records := by
  induction records with
  | nil => rfl
  | cons record rest ih =>
    obtain ⟨absent, distinct⟩ := List.nodup_cons.1 distinct
    rw [latest, if_neg absent, ih distinct]

/-- Later records replace the earlier ones with their keys. -/
theorem latest_append (first second : List Record) :
    latest (first ++ second) =
      (latest first).filter (fun record => record.key ∉ second.map Record.key) ++
        latest second := by
  induction first with
  | nil => rfl
  | cons record rest ih =>
    rw [List.cons_append, latest, latest, ih, List.map_append]
    by_cases replaced : record.key ∈ second.map Record.key <;>
      by_cases repeated : record.key ∈ rest.map Record.key <;>
        simp [replaced, repeated, -List.mem_map]

theorem latest_concat (records : List Record) (record : Record) :
    latest (records ++ [record]) =
      (latest records).filter (fun other => other.key ≠ record.key) ++ [record] := by
  rw [latest_append]
  simp [latest]

/-- Inserting records one after the other leaves the latest ones. -/
theorem records_foldl_insert_eq_latest (store : Store) (fresh : List Record) :
    (fresh.foldl insert store).records = latest (store.records ++ fresh) := by
  induction fresh using List.reverseRecOn with
  | nil => rw [List.foldl_nil, List.append_nil, latest_of_distinct store.distinct]
  | append_singleton fresh record ih =>
    rw [List.foldl_concat, records_insert, ih, ← List.append_assoc, latest_concat]

/-- The store of one more record than before: the positions of the others stay, but the one with the
key of the new record no longer stands where the index has the key. -/
theorem records_ofRecords_concat (records : List Record) (record : Record) :
    (ofRecords (records ++ [record])).records =
      (ofRecords records).records.filter (fun other => other.key ≠ record.key) ++ [record] := by
  -- an old record stands where the new index has its key if it did so before and has another key
  have old : ∀ entry ∈ records.zipIdx,
      decide ((RecordIndex.ofRecords (records ++ [record]))[entry.1.key]? = some entry.2) =
        (decide (entry.1.key ≠ record.key) &&
          decide ((RecordIndex.ofRecords records)[entry.1.key]? = some entry.2)) := by
    intro entry member
    have before : entry.2 < records.length := (List.mem_zipIdx' member).1
    rw [RecordIndex.ofRecords_concat, RecordIndex.getElem?_insert_key]
    split
    case isTrue same => simp [same, Nat.ne_of_gt before]
    case isFalse differs => simp [Ne.symm differs]
  have new : (RecordIndex.ofRecords (records ++ [record]))[record.key]? = some records.length := by
    rw [RecordIndex.ofRecords_concat, RecordIndex.getElem?_insert_key, if_pos rfl]
  change RecordIndex.select _ _ = (RecordIndex.select _ _).filter _ ++ _
  rw [RecordIndex.select, RecordIndex.select, List.zipIdx_append, List.filter_append,
    List.map_append, List.filter_congr old, List.filter_map, List.filter_filter]
  simp [new]

/-- The store of a list holds its latest records. -/
theorem records_ofRecords_eq_latest (records : List Record) :
    (ofRecords records).records = latest records := by
  induction records using List.reverseRecOn with
  | nil => rfl
  | append_singleton records record ih =>
    rw [records_ofRecords_concat, ih, latest_concat]

/-- Inserting records with distinct keys. -/
theorem records_foldl_insert {fresh : List Record} (distinct : (fresh.map Record.key).Nodup)
    (store : Store) :
    (fresh.foldl insert store).records =
      store.records.filter (fun record => record.key ∉ fresh.map Record.key) ++ fresh := by
  rw [records_foldl_insert_eq_latest, latest_append, latest_of_distinct store.distinct,
    latest_of_distinct distinct]

/-- Records with distinct keys are the records of their store. -/
theorem records_ofRecords {records : List Record} (distinct : (records.map Record.key).Nodup) :
    (ofRecords records).records = records := by
  rw [records_ofRecords_eq_latest, latest_of_distinct distinct]

/-- Of two stores' records, those of the second stay and those of the first with other keys. -/
theorem records_ofRecords_append (first second : Store) :
    (ofRecords (first.records ++ second.records)).records =
      first.records.filter (fun record => record.key ∉ second.records.map Record.key) ++
        second.records := by
  rw [records_ofRecords_eq_latest, latest_append, latest_of_distinct first.distinct,
    latest_of_distinct second.distinct]

/-- The latest records of a file are the latest among the records of the file. -/
theorem filter_latest (file : String) (records : List Record) :
    (latest records).filter (fun record => record.file = file) =
      latest (records.filter fun record => record.file = file) := by
  induction records with
  | nil => rfl
  | cons record rest ih =>
    by_cases here : record.file = file
    · have again : record.key ∈ (rest.filter fun other => other.file = file).map Record.key ↔
          record.key ∈ rest.map Record.key := by
        simp only [List.mem_map, List.mem_filter, decide_eq_true_eq]
        constructor
        · rintro ⟨other, ⟨member, -⟩, same⟩
          exact ⟨other, member, same⟩
        · rintro ⟨other, member, same⟩
          exact ⟨other, ⟨member, (congrArg Prod.fst same).trans here⟩, same⟩
      rw [List.filter_cons_of_pos (by simpa using here), latest, latest]
      by_cases repeated : record.key ∈ rest.map Record.key
      · rw [if_pos repeated, if_pos (again.2 repeated), ih]
      · rw [if_neg repeated, if_neg (mt again.1 repeated),
          List.filter_cons_of_pos (by simpa using here), ih]
    · rw [List.filter_cons_of_neg (by simpa using here), ← ih, latest]
      split
      case isTrue => rfl
      case isFalse => exact List.filter_cons_of_neg (by simpa using here)

/-! ## Stores after edits -/

/-- A step in which a store changes. -/
inductive Edit where
  /-- The store of a list of records takes its place. -/
  | build (records : List Record)
  /-- The store that a log holds takes its place, unless a line of the log is no record. -/
  | read (log : String)
  | insert (record : Record)
  | retain (keep : Record → Bool)

namespace Edit

/-- The store after an edit. -/
def apply (store : Store) : Edit → Store
  | build records => ofRecords records
  | read log => (GraphLog.read log).toOption.getD store
  | insert record => store.insert record
  | retain keep => store.retain keep

/-- What an edit makes of a plain list of records. -/
def onRecords (records : List Record) : Edit → List Record
  | build new => latest new
  | read log =>
    ((GraphLog.records 1 (Text.lines log.toList)).toOption.map latest).getD records
  | insert record => latest (records ++ [record])
  | retain keep => records.filter keep

theorem records_apply (store : Store) (edit : Edit) :
    (edit.apply store).records = edit.onRecords store.records := by
  cases edit with
  | build records => exact records_ofRecords_eq_latest records
  | read log =>
    rw [apply, onRecords, GraphLog.read]
    cases GraphLog.records 1 (Text.lines log.toList) with
    | error line => rfl
    | ok records => exact records_ofRecords_eq_latest records
  | insert record => exact records_foldl_insert_eq_latest store [record]
  | retain keep => exact records_retain keep store

end Edit

/-- The store after edits, one after the other. -/
def after (store : Store) (edits : List Edit) : Store := edits.foldl Edit.apply store

theorem records_after (store : Store) (edits : List Edit) :
    (store.after edits).records = edits.foldl Edit.onRecords store.records := by
  induction edits generalizing store with
  | nil => rfl
  | cons edit rest ih =>
    rw [List.foldl_cons, ← edit.records_apply]
    exact ih (edit.apply store)

/-- The records and the index of a store never drift apart. After any edits the records are those
that the edits make of a plain list, no two of them have the same key, and looking a key up gives
what a scan finds. Inserting more records one by one gives the store of all records together: the
last record of each key stays, at its last place, and the records that stay keep their order. -/
theorem index_agrees_after_edits (start : Store) (edits : List Edit) (fresh : List Record) :
    (start.after edits).records = edits.foldl Edit.onRecords start.records ∧
      ((start.after edits).records.map Record.key).Nodup ∧
      (∀ file id, (start.after edits).get? file id =
        (start.after edits).records.find? fun record => record.key = (file, id)) ∧
      (fresh.foldl insert (start.after edits)).Same
        (ofRecords ((start.after edits).records ++ fresh)) ∧
      (ofRecords ((start.after edits).records ++ fresh)).records =
        latest ((start.after edits).records ++ fresh) := by
  refine ⟨records_after start edits, (start.after edits).distinct, ?_, ?_,
    records_ofRecords_eq_latest _⟩
  · intro file id
    exact get?_eq_find? _ file id
  · apply same_of_records
    rw [records_foldl_insert_eq_latest, records_ofRecords_eq_latest]

end Store

end SourceIndex
