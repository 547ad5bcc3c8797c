import Std.Data.TreeMap
import SourceIndex.Record

/-!
# Record stores

The records of an index in the order of their arrival, with the position of each of them by its key.
The positions have to follow every change of the records. No two records of a store have the same
key, and looking a key up gives what a scan of the records finds.
-/

namespace SourceIndex

/-- The order of record keys: by file, then by identifier. -/
def compareKeys : String × String → String × String → Ordering :=
  compareLex (compareOn Prod.fst) (compareOn Prod.snd)

instance : Std.TransCmp compareKeys :=
  inferInstanceAs (Std.TransCmp (compareLex (compareOn Prod.fst) (compareOn Prod.snd)))

/-- Keys compare as equal only if they are equal. -/
theorem compareKeys_eq_iff {a b : String × String} : compareKeys a b = .eq ↔ a = b := by
  obtain ⟨file, id⟩ := a
  obtain ⟨file', id'⟩ := b
  simp [compareKeys, compareLex, compareOn, Ordering.then_eq_eq]

/-- Positions of records, by key. -/
abbrev RecordIndex := Std.TreeMap (String × String) Nat compareKeys

namespace RecordIndex

/-- The index with the positions of more records, the first of which is at `start`. A later position
of a key replaces an earlier one. -/
def extend (index : RecordIndex) (start : Nat) : List Record → RecordIndex
  | [] => index
  | record :: rest => extend (index.insert record.key start) (start + 1) rest

/-- The last position of each key. -/
def ofRecords (records : List Record) : RecordIndex := extend ∅ 0 records

/-- The index holds the position of every record under the key of the record, and nothing else. -/
def Locates (index : RecordIndex) (records : List Record) : Prop :=
  ∀ key position, index[key]? = some position ↔ (records[position]?).map Record.key = some key

theorem getElem?_insert_key (index : RecordIndex) (key other : String × String) (position : Nat) :
    (index.insert key position)[other]? = if key = other then some position else index[other]? := by
  rw [Std.TreeMap.getElem?_insert]
  simp only [compareKeys_eq_iff]

namespace Locates

variable {index : RecordIndex} {records : List Record}

theorem empty : Locates ∅ [] := by
  intro key position
  simp

/-- A key has no position only if no record has the key. -/
theorem getElem?_eq_none_iff (located : index.Locates records) {key : String × String} :
    index[key]? = none ↔ key ∉ records.map Record.key := by
  rw [Option.eq_none_iff_forall_ne_some, List.mem_iff_getElem?, not_exists]
  apply forall_congr'
  intro position
  rw [Ne, located key position, List.getElem?_map]

/-- A key has one position, so that no two records have it. -/
theorem distinct (located : index.Locates records) : (records.map Record.key).Nodup := by
  rw [List.Nodup, List.pairwise_iff_getElem]
  intro first second here there before same
  have left : index[(records.map Record.key)[first]]? = some first := by
    rw [located, ← List.getElem?_map, List.getElem?_eq_getElem here]
  have right : index[(records.map Record.key)[first]]? = some second := by
    rw [located, ← List.getElem?_map, List.getElem?_eq_getElem there, same]
  have equal := Option.some.inj (left.symm.trans right)
  omega

/-- A record with a new key is added at the end. -/
theorem push (located : index.Locates records) {record : Record}
    (absent : index[record.key]? = none) :
    Locates (index.insert record.key records.length) (records ++ [record]) := by
  intro key position
  rw [getElem?_insert_key]
  rcases Nat.lt_trichotomy position records.length with before | rfl | behind
  · rw [List.getElem?_append_left before, ← located]
    split
    case isTrue same =>
      rw [← same, absent]
      simp [Nat.ne_of_gt before]
    case isFalse => rfl
  · have free : index[key]? ≠ some records.length := by
      rw [Ne, located]
      simp
    simp [free]
  · have free : index[key]? ≠ some position := by
      rw [Ne, located]
      simp [Nat.le_of_lt behind]
    rw [List.getElem?_eq_none (by simpa using Nat.succ_le_of_lt behind)]
    split <;> simp [free, Nat.ne_of_lt behind]

/-- Records with new and distinct keys are added one after the other. -/
theorem extend {more : List Record} (located : index.Locates records)
    (distinct : ((records ++ more).map Record.key).Nodup) :
    Locates (index.extend records.length more) (records ++ more) := by
  induction more generalizing index records with
  | nil => simpa [RecordIndex.extend] using located
  | cons record rest ih =>
    have absent : index[record.key]? = none := by
      rw [located.getElem?_eq_none_iff]
      simp only [List.map_append, List.nodup_append] at distinct
      intro member
      exact distinct.2.2 _ member _ (by simp) rfl
    have next := ih (located.push absent) (by simpa using distinct)
    simpa [RecordIndex.extend] using next

/-- What stands at the position of a key is what a scan for the key finds. -/
theorem find?_eq (located : index.Locates records) (key : String × String) :
    (index[key]?).bind (records[·]?) = records.find? fun record => record.key = key := by
  cases found : index[key]? with
  | none =>
    have absent := located.getElem?_eq_none_iff.1 found
    symm
    rw [Option.bind_none, List.find?_eq_none]
    intro record member same
    exact absent (List.mem_map.2 ⟨record, member, of_decide_eq_true same⟩)
  | some position =>
    obtain ⟨record, here, same⟩ := Option.map_eq_some_iff.1 ((located key position).1 found)
    rw [Option.bind_some, here]
    symm
    rw [List.find?_eq_some_iff_getElem]
    obtain ⟨bound, equal⟩ := List.getElem?_eq_some_iff.1 here
    refine ⟨decide_eq_true same, position, bound, equal, ?_⟩
    intro other before
    have apart : index[key]? ≠ some other := by
      rw [found]
      simp [Nat.ne_of_gt before]
    rw [Ne, located, List.getElem?_eq_getElem (Nat.lt_trans before bound)] at apart
    simpa using apart

end Locates

/-- The positions of records with distinct keys. -/
theorem locates_ofRecords {records : List Record} (distinct : (records.map Record.key).Nodup) :
    (ofRecords records).Locates records := by
  have located := Locates.empty.extend (List.nil_append records ▸ distinct)
  exact located

/-- The records that stand where the index has their keys. -/
def select (index : RecordIndex) (records : List Record) : List Record :=
  (records.zipIdx.filter fun entry => index[entry.1.key]? = some entry.2).map (·.1)

/-- A key has one position, so that no two of the records that stand there have it. -/
theorem nodup_keys_select (index : RecordIndex) (records : List Record) :
    ((index.select records).map Record.key).Nodup := by
  have apart : records.zipIdx.Pairwise fun first second => first.2 ≠ second.2 :=
    List.pairwise_map.1 (List.zipIdx_map_snd 0 records ▸ List.nodup_range')
  rw [select, List.map_map, List.Nodup, List.pairwise_map]
  refine (apart.filter _).imp_of_mem ?_
  intro first second here there differs same
  have left := of_decide_eq_true (List.mem_filter.1 here).2
  have right := of_decide_eq_true (List.mem_filter.1 there).2
  apply differs
  apply Option.some.inj
  rw [← left, ← right]
  exact congrArg (index[·]?) same

end RecordIndex

/-- Without the record at the position of a key, the records with other keys are left. -/
theorem eraseIdx_eq_filter {records : List Record} (distinct : (records.map Record.key).Nodup)
    {key : String × String} {position : Nat}
    (here : (records[position]?).map Record.key = some key) :
    records.eraseIdx position = records.filter fun record => record.key ≠ key := by
  induction records generalizing position with
  | nil => simp at here
  | cons record rest ih =>
    obtain ⟨absent, distinct⟩ := List.nodup_cons.1 distinct
    cases position with
    | zero =>
      obtain rfl : record.key = key := by simpa using here
      have others : rest.filter (fun other => other.key ≠ record.key) = rest := by
        rw [List.filter_eq_self]
        intro other member
        have differs : other.key ≠ record.key := fun same =>
          absent (List.mem_map.2 ⟨other, member, same⟩)
        simpa using differs
      rw [List.eraseIdx_cons_zero, List.filter_cons, others]
      simp
    | succ position =>
      have later : (rest[position]?).map Record.key = some key := by simpa using here
      have differs : record.key ≠ key := by
        intro same
        obtain ⟨other, found, equal⟩ := Option.map_eq_some_iff.1 later
        exact absent (List.mem_map.2 ⟨other, List.mem_of_getElem? found, equal.trans same.symm⟩)
      rw [List.eraseIdx_cons_succ, ih distinct later, List.filter_cons]
      simp [differs]

/-- Records in order of arrival, and the position of each of them by its key. -/
structure Store where
  records : List Record
  index : RecordIndex
  agrees : index.Locates records

namespace Store

/-- No key occurs twice. -/
theorem distinct (store : Store) : (store.records.map Record.key).Nodup := store.agrees.distinct

/-- The store without records. -/
def empty : Store := ⟨[], ∅, .empty⟩

instance : Inhabited Store := ⟨empty⟩

/-- Records with distinct keys, with their positions. -/
def ofDistinct (records : List Record) (distinct : (records.map Record.key).Nodup) : Store :=
  ⟨records, .ofRecords records, RecordIndex.locates_ofRecords distinct⟩

/-- The store without the record of a key. The records behind it move up, so that all positions are
determined anew. -/
def erase (store : Store) (key : String × String) : Store :=
  match store.index[key]? with
  | none => store
  | some position =>
    ofDistinct (store.records.eraseIdx position)
      (((List.eraseIdx_sublist ..).map _).nodup store.distinct)

theorem records_erase (store : Store) (key : String × String) :
    (store.erase key).records = store.records.filter fun record => record.key ≠ key := by
  rw [erase]
  split
  case h_1 missing =>
    symm
    rw [List.filter_eq_self]
    intro record member
    have absent := store.agrees.getElem?_eq_none_iff.1 missing
    have differs : record.key ≠ key := fun same => absent (List.mem_map.2 ⟨record, member, same⟩)
    simpa using differs
  case h_2 position found =>
    exact eraseIdx_eq_filter store.distinct ((store.agrees key position).1 found)

theorem getElem?_index_erase (store : Store) (key : String × String) :
    (store.erase key).index[key]? = none := by
  rw [(store.erase key).agrees.getElem?_eq_none_iff, records_erase]
  simp

/-- The store with `record` at the end, in place of a record with its key. -/
def insert (store : Store) (record : Record) : Store :=
  let others := store.erase record.key
  { records := others.records ++ [record]
    index := others.index.insert record.key others.records.length
    agrees := others.agrees.push (store.getElem?_index_erase record.key) }

/-- The records of a list. Of those with the same key the last one stays, at its place. -/
def ofRecords (records : List Record) : Store :=
  let last := RecordIndex.ofRecords records
  ofDistinct (last.select records) (last.nodup_keys_select records)

/-- The records that satisfy `keep`. The positions stay as they are if nothing goes. -/
def retain (keep : Record → Bool) (store : Store) : Store :=
  let kept := store.records.filter keep
  if kept.length = store.records.length then store
  else ofDistinct kept ((List.filter_sublist.map _).nodup store.distinct)

/-- The record with a key. -/
def get? (store : Store) (file id : String) : Option Record :=
  (store.index[(file, id)]?).bind (store.records[·]?)

/-- The records of a file, in order. -/
def ofFile (store : Store) (file : String) : List Record :=
  store.records.filter (·.file = file)

/-- The number of records. -/
def size (store : Store) : Nat := store.records.length

/-- A record is found where a scan finds it. -/
theorem get?_eq_find? (store : Store) (file id : String) :
    store.get? file id = store.records.find? fun record => record.key = (file, id) :=
  store.agrees.find?_eq (file, id)

end Store

end SourceIndex
