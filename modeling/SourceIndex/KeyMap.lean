/-!
# Maps with text keys

A finite map from texts to values. Its entries are kept in increasing order of their keys, so two
maps with the same entries are equal and every listing is in byte order.
-/

namespace SourceIndex

/-- Entries in strictly increasing order of their keys. -/
structure KeyMap (α : Type) where
  entries : List (String × α)
  sorted : entries.Pairwise fun a b => a.1 < b.1

namespace KeyMap

variable {α β : Type}

/-- The map without entries. -/
def empty : KeyMap α := ⟨[], .nil⟩

instance : Inhabited (KeyMap α) := ⟨empty⟩

/-- Maps are equal if their entries are. -/
@[ext] theorem ext {m n : KeyMap α} (equal : m.entries = n.entries) : m = n := by
  cases m
  cases n
  cases equal
  rfl

instance [DecidableEq α] : DecidableEq (KeyMap α) := fun m n =>
  decidable_of_iff (m.entries = n.entries) ⟨ext, fun equal => equal ▸ rfl⟩

/-- The entries with the value of `key` set to `value`. -/
def insertEntry (key : String) (value : α) : List (String × α) → List (String × α)
  | [] => [(key, value)]
  | (k, v) :: rest =>
    if key < k then (key, value) :: (k, v) :: rest
    else if k < key then (k, v) :: insertEntry key value rest
    else (key, value) :: rest

/-- The keys after an insertion are the old ones and the new one. -/
theorem key_of_mem_insertEntry {key : String} {value : α} {entries : List (String × α)}
    {entry : String × α} (member : entry ∈ insertEntry key value entries) :
    entry.1 = key ∨ ∃ old ∈ entries, old.1 = entry.1 := by
  induction entries with
  | nil =>
    simp only [insertEntry, List.mem_singleton] at member
    exact .inl (member ▸ rfl)
  | cons first rest ih =>
    obtain ⟨k, v⟩ := first
    rw [insertEntry] at member
    split at member
    · cases List.mem_cons.1 member with
      | inl here => exact .inl (here ▸ rfl)
      | inr later => exact .inr ⟨entry, later, rfl⟩
    · split at member
      · cases List.mem_cons.1 member with
        | inl here => exact .inr ⟨(k, v), by simp, here ▸ rfl⟩
        | inr later =>
          cases ih later with
          | inl equal => exact .inl equal
          | inr old =>
            obtain ⟨entry', listed, equal⟩ := old
            exact .inr ⟨entry', List.mem_cons_of_mem _ listed, equal⟩
      · cases List.mem_cons.1 member with
        | inl here => exact .inl (here ▸ rfl)
        | inr later => exact .inr ⟨entry, List.mem_cons_of_mem _ later, rfl⟩

/-- Insertion keeps the order. -/
theorem insertEntry_sorted (key : String) (value : α) {entries : List (String × α)}
    (sorted : entries.Pairwise fun a b => a.1 < b.1) :
    (insertEntry key value entries).Pairwise fun a b => a.1 < b.1 := by
  induction entries with
  | nil => simp [insertEntry]
  | cons first rest ih =>
    obtain ⟨k, v⟩ := first
    obtain ⟨above, sorted⟩ := List.pairwise_cons.1 sorted
    rw [insertEntry]
    split
    case isTrue before =>
      refine List.pairwise_cons.2 ⟨fun entry member => ?_, List.pairwise_cons.2 ⟨above, sorted⟩⟩
      cases List.mem_cons.1 member with
      | inl here => exact here ▸ before
      | inr later => exact String.lt_trans before (above entry later)
    case isFalse notBefore =>
      split
      case isTrue after =>
        refine List.pairwise_cons.2 ⟨fun entry member => ?_, ih sorted⟩
        cases key_of_mem_insertEntry member with
        | inl equal => exact equal ▸ after
        | inr old =>
          obtain ⟨entry', listed, equal⟩ := old
          exact equal ▸ above entry' listed
      case isFalse notAfter =>
        have equal : key = k :=
          String.le_antisymm (String.not_lt.1 notAfter) (String.not_lt.1 notBefore)
        exact List.pairwise_cons.2 ⟨fun entry member => equal ▸ above entry member, sorted⟩

/-- The map with the value of `key` set to `value`. -/
def insert (m : KeyMap α) (key : String) (value : α) : KeyMap α :=
  ⟨insertEntry key value m.entries, insertEntry_sorted key value m.sorted⟩

/-- The value of a key. -/
def get? (m : KeyMap α) (key : String) : Option α :=
  (m.entries.find? fun entry => entry.1 = key).map (·.2)

/-- Whether a key has a value. -/
def contains (m : KeyMap α) (key : String) : Bool := (m.get? key).isSome

/-- The keys in increasing order. -/
def keys (m : KeyMap α) : List String := m.entries.map (·.1)

/-- The values in the order of their keys. -/
def values (m : KeyMap α) : List α := m.entries.map (·.2)

/-- The number of entries. -/
def size (m : KeyMap α) : Nat := m.entries.length

/-- The entries that satisfy `p`. -/
def filter (p : String → α → Bool) (m : KeyMap α) : KeyMap α :=
  ⟨m.entries.filter fun entry => p entry.1 entry.2, m.sorted.filter _⟩

/-- The map with every value changed by `f`. -/
def map (f : α → β) (m : KeyMap α) : KeyMap β :=
  ⟨m.entries.map fun entry => (entry.1, f entry.2), by
    rw [List.pairwise_map]
    exact m.sorted⟩

/-- The map of a list of entries, in which a later entry of a key replaces an earlier one. -/
def ofList (entries : List (String × α)) : KeyMap α :=
  entries.foldl (fun m entry => m.insert entry.1 entry.2) empty

end KeyMap

end SourceIndex
