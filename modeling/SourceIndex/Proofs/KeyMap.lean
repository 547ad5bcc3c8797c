import Mathlib.Data.List.Nodup
import SourceIndex.KeyMap

/-!
# Laws of maps with text keys

A map is determined by what it finds under each key. Insertion, filtering and the map of a list of
entries are described by what they find.
-/

namespace SourceIndex

variable {α β : Type}

/-- If what is taken from a list can still be named after where it came from, the names are a part
of the names of the list. -/
theorem sublist_map_filterMap {γ : Type} {take : α → Option β} {name : β → γ} {origin : α → γ}
    (same : ∀ item value, take item = some value → name value = origin item) (items : List α) :
    ((items.filterMap take).map name).Sublist (items.map origin) := by
  induction items with
  | nil => exact .slnil
  | cons item rest ih =>
    cases taken : take item with
    | none =>
      rw [List.filterMap_cons_none taken]
      exact ih.cons _
    | some value =>
      rw [List.filterMap_cons_some taken, List.map_cons, same item value taken]
      exact ih.cons_cons _

namespace KeyMap

/-! ## Finding -/

@[simp] theorem get?_empty (key : String) : (empty : KeyMap α).get? key = none := rfl

/-- The keys increase. -/
theorem keys_increasing (m : KeyMap α) : m.keys.Pairwise (· < ·) := by
  rw [keys, List.pairwise_map]
  exact m.sorted

/-- Different entries have different keys. -/
theorem keys_nodup (m : KeyMap α) : m.keys.Nodup := by
  refine m.keys_increasing.imp ?_
  intro first second below equal
  exact String.lt_irrefl second (equal ▸ below)

/-- Among entries with distinct keys, an entry is found under its key. -/
theorem find?_of_mem {entries : List (String × α)} (distinct : (entries.map (·.1)).Nodup)
    {key : String} {value : α} (member : (key, value) ∈ entries) :
    (entries.find? fun entry => entry.1 = key) = some (key, value) := by
  induction entries with
  | nil => simp at member
  | cons first rest ih =>
    obtain ⟨absent, distinct⟩ := List.nodup_cons.1 distinct
    cases List.mem_cons.1 member with
    | inl here => simp [← here]
    | inr later =>
      have differs : first.1 ≠ key := by
        intro equal
        exact absent (List.mem_map.2 ⟨(key, value), later, equal.symm⟩)
      simp [differs, ih distinct later]

/-- What is found under a key is the value of its entry. -/
theorem get?_eq_some_iff {m : KeyMap α} {key : String} {value : α} :
    m.get? key = some value ↔ (key, value) ∈ m.entries := by
  constructor
  · intro found
    obtain ⟨entry, listed, equal⟩ := Option.map_eq_some_iff.1 found
    have same := List.find?_some listed
    rw [decide_eq_true_eq] at same
    have here := List.mem_of_find?_eq_some listed
    rwa [← same, ← equal]
  · intro member
    rw [get?, find?_of_mem m.keys_nodup member]
    rfl

theorem contains_iff_mem_keys {m : KeyMap α} {key : String} :
    m.contains key = true ↔ key ∈ m.keys := by
  rw [contains, Option.isSome_iff_exists, keys, List.mem_map]
  constructor
  · rintro ⟨value, found⟩
    exact ⟨(key, value), get?_eq_some_iff.1 found, rfl⟩
  · rintro ⟨⟨_, value⟩, member, rfl⟩
    exact ⟨value, get?_eq_some_iff.2 member⟩

theorem mem_values_iff {m : KeyMap α} {value : α} :
    value ∈ m.values ↔ ∃ key, m.get? key = some value := by
  rw [values, List.mem_map]
  constructor
  · rintro ⟨⟨key, _⟩, member, rfl⟩
    exact ⟨key, get?_eq_some_iff.2 member⟩
  · rintro ⟨key, found⟩
    exact ⟨(key, value), get?_eq_some_iff.1 found, rfl⟩

/-- Maps that find the same are equal. -/
theorem ext_get? {m n : KeyMap α} (equal : ∀ key, m.get? key = n.get? key) : m = n := by
  apply ext
  have distinct (m : KeyMap α) : m.entries.Nodup := m.keys_nodup.of_map _
  have same : m.entries.Perm n.entries := by
    rw [List.perm_ext_iff_of_nodup (distinct m) (distinct n)]
    rintro ⟨key, value⟩
    rw [← get?_eq_some_iff, ← get?_eq_some_iff, equal]
  refine same.eq_of_pairwise ?_ m.sorted n.sorted
  intro a b _ _ below above
  exact absurd (String.lt_trans below above) (String.lt_irrefl _)

/-! ## Changing -/

theorem find?_insertEntry (key other : String) (value : α) (entries : List (String × α)) :
    ((insertEntry key value entries).find? fun entry => entry.1 = other).map (·.2) =
      if key = other then some value
      else (entries.find? fun entry => entry.1 = other).map (·.2) := by
  induction entries with
  | nil => by_cases same : key = other <;> simp [insertEntry, same]
  | cons first rest ih =>
    obtain ⟨k, v⟩ := first
    rw [insertEntry]
    split
    · by_cases same : key = other <;> simp [List.find?_cons, same]
    · split
      case isTrue after =>
        by_cases here : k = other
        · have differs : key ≠ other := by
            rintro rfl
            exact String.lt_irrefl key (here ▸ after)
          simp [here, differs]
        · simp [here, ih]
      case isFalse notBefore notAfter =>
        have equal : k = key :=
          String.le_antisymm (String.not_lt.1 notBefore) (String.not_lt.1 notAfter)
        by_cases same : key = other <;> simp [equal, same]

theorem get?_insert (m : KeyMap α) (key other : String) (value : α) :
    (m.insert key value).get? other = if key = other then some value else m.get? other :=
  find?_insertEntry key other value m.entries

theorem get?_filter (p : String → α → Bool) (m : KeyMap α) (key : String) :
    (m.filter p).get? key = (m.get? key).filter (p key) := by
  apply Option.ext
  intro value
  rw [get?_eq_some_iff, Option.filter_eq_some_iff, get?_eq_some_iff, filter, List.mem_filter]

theorem get?_map (f : α → β) (m : KeyMap α) (key : String) :
    (m.map f).get? key = (m.get? key).map f := by
  rw [get?, map, get?, List.find?_map, Option.map_map, Option.map_map]
  rfl

/-! ## Lists of entries -/

/-- Insertions one after the other: the last one of a key counts. -/
theorem get?_foldl_insert (entries : List (String × α)) (m : KeyMap α) (key : String) :
    (entries.foldl (fun m entry => m.insert entry.1 entry.2) m).get? key =
      ((entries.reverse.find? fun entry => entry.1 = key).map (·.2)).or (m.get? key) := by
  induction entries generalizing m with
  | nil => rfl
  | cons first rest ih =>
    rw [List.foldl_cons, ih, get?_insert, List.reverse_cons, List.find?_append]
    cases rest.reverse.find? fun entry => entry.1 = key with
    | some entry => simp
    | none => by_cases same : first.1 = key <;> simp [same]

/-- The map of a list finds the last entry of a key. -/
theorem get?_ofList (entries : List (String × α)) (key : String) :
    (ofList entries).get? key = (entries.reverse.find? fun entry => entry.1 = key).map (·.2) := by
  rw [ofList, get?_foldl_insert, get?_empty, Option.or_none]

/-- What the map of a list finds is listed. -/
theorem mem_of_get?_ofList {entries : List (String × α)} {key : String} {value : α}
    (found : (ofList entries).get? key = some value) : (key, value) ∈ entries := by
  rw [get?_ofList] at found
  obtain ⟨entry, listed, equal⟩ := Option.map_eq_some_iff.1 found
  have same := List.find?_some listed
  rw [decide_eq_true_eq] at same
  have here := List.mem_reverse.1 (List.mem_of_find?_eq_some listed)
  rwa [← same, ← equal]

/-- The map of a list with distinct keys finds each entry. -/
theorem get?_ofList_eq_some_iff {entries : List (String × α)}
    (distinct : (entries.map (·.1)).Nodup) {key : String} {value : α} :
    (ofList entries).get? key = some value ↔ (key, value) ∈ entries := by
  refine ⟨mem_of_get?_ofList, fun member => ?_⟩
  have reversed : (entries.reverse.map (·.1)).Nodup := by
    rw [List.map_reverse]
    exact List.nodup_reverse.2 distinct
  rw [get?_ofList, find?_of_mem reversed (List.mem_reverse.2 member)]
  rfl

/-- Values can be changed in the list or in the map. -/
theorem ofList_map (f : α → β) (entries : List (String × α)) :
    ofList (entries.map fun entry => (entry.1, f entry.2)) = (ofList entries).map f := by
  apply ext_get?
  intro key
  rw [get?_map, get?_ofList, get?_ofList, ← List.map_reverse, List.find?_map, Option.map_map,
    Option.map_map]
  rfl

/-- Entries of a map that are changed or left out one by one. -/
theorem get?_ofList_filterMap (f : α → Option β) (m : KeyMap α) (key : String) :
    (ofList (m.entries.filterMap fun entry =>
      (f entry.2).map fun value => (entry.1, value))).get? key = (m.get? key).bind f := by
  have distinct : ((m.entries.filterMap fun entry =>
      (f entry.2).map fun value => (entry.1, value)).map (·.1)).Nodup := by
    refine (sublist_map_filterMap (fun entry value taken => ?_) m.entries).nodup m.keys_nodup
    obtain ⟨_, _, rfl⟩ := Option.map_eq_some_iff.1 taken
    rfl
  apply Option.ext
  intro value
  rw [get?_ofList_eq_some_iff distinct, Option.bind_eq_some_iff]
  simp [get?_eq_some_iff]

/-- Listing a map and reading the list back changes nothing. -/
@[simp] theorem ofList_entries (m : KeyMap α) : ofList m.entries = m := by
  apply ext_get?
  intro key
  apply Option.ext
  intro value
  rw [get?_ofList_eq_some_iff m.keys_nodup, get?_eq_some_iff]

/-- Entries with increasing keys are the entries of their map. -/
theorem entries_ofList {entries : List (String × α)}
    (sorted : entries.Pairwise fun a b => a.1 < b.1) : (ofList entries).entries = entries := by
  have same := ofList_entries ⟨entries, sorted⟩
  exact congrArg KeyMap.entries same

end KeyMap

end SourceIndex
