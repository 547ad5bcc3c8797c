import Mathlib.Data.List.Sort
import Mathlib.Tactic.SplitIfs
import SourceIndex.Order

/-!
# Sorted lists

Sorting is the insertion sort of the library, so it keeps the items of a list and puts them in
order; it also keeps the order of items that are not told apart. If the order tells different items
apart, the sorted list depends only on which items there are. Texts are compared character by
character, which comes to the same as comparing them byte by byte.
-/

namespace SourceIndex.Order

variable {α : Type} {le : α → α → Bool}

theorem insertBy_eq_orderedInsert (le : α → α → Bool) (item : α) (items : List α) :
    insertBy le item items =
      items.orderedInsert (fun first second => le first second = true) item := by
  induction items with
  | nil => rfl
  | cons other rest ih => rw [insertBy, List.orderedInsert_cons, ih]

theorem sortBy_eq_insertionSort (le : α → α → Bool) (items : List α) :
    sortBy le items = items.insertionSort fun first second => le first second = true := by
  induction items with
  | nil => rfl
  | cons item rest ih => rw [sortBy, insertBy_eq_orderedInsert, List.insertionSort_cons, ih]

/-- A sorted list has the same items. -/
theorem perm_sortBy (le : α → α → Bool) (items : List α) : (sortBy le items).Perm items := by
  rw [sortBy_eq_insertionSort]
  exact List.perm_insertionSort ..

/-- In order, and where the order does not tell the two apart, as before. -/
def Stable (le : α → α → Bool) (before : α → α → Prop) (first second : α) : Prop :=
  le first second = true ∧ (le second first = true → before first second)

/-- Insertion keeps a list sorted, and the item ahead of those that it was before. -/
theorem pairwise_insertBy {before : α → α → Prop}
    (total : ∀ first second, le first second = false → le second first = true)
    (trans : ∀ {first second third}, le first second = true → le second third = true →
      le first third = true)
    {item : α} {items : List α} (ahead : ∀ other ∈ items, before item other)
    (sorted : items.Pairwise (Stable le before)) :
    (insertBy le item items).Pairwise (Stable le before) := by
  induction items with
  | nil => exact List.pairwise_singleton ..
  | cons other rest ih =>
    obtain ⟨above, sorted'⟩ := List.pairwise_cons.1 sorted
    rw [insertBy]
    split
    case isTrue first =>
      refine List.pairwise_cons.2 ⟨fun next member => ⟨?_, fun _ => ahead next member⟩, sorted⟩
      rcases List.mem_cons.1 member with rfl | later
      · exact first
      · exact trans first (above next later).1
    case isFalse after =>
      refine List.pairwise_cons.2 ⟨fun next member => ?_, ih ?_ sorted'⟩
      · rw [insertBy_eq_orderedInsert, List.mem_orderedInsert] at member
        rcases member with rfl | later
        · exact ⟨total next other (by simpa using after), fun first => absurd first after⟩
        · exact above next later
      · exact fun next member => ahead next (List.mem_cons_of_mem _ member)

/-- A sorted list is in order, and items that the order does not tell apart stay as they were. -/
theorem pairwise_sortBy_stable {before : α → α → Prop}
    (total : ∀ first second, le first second = false → le second first = true)
    (trans : ∀ {first second third}, le first second = true → le second third = true →
      le first third = true) {items : List α} (given : items.Pairwise before) :
    (sortBy le items).Pairwise (Stable le before) := by
  induction given with
  | nil => exact .nil
  | @cons item rest ahead _ ih =>
    refine pairwise_insertBy total trans (fun other member => ?_) ih
    exact ahead other ((perm_sortBy le rest).mem_iff.1 member)

/-- A sorted list is in order. -/
theorem pairwise_sortBy (total : ∀ first second, le first second = false → le second first = true)
    (trans : ∀ {first second third}, le first second = true → le second third = true →
      le first third = true) (items : List α) :
    (sortBy le items).Pairwise fun first second => le first second = true := by
  have : Std.Total fun first second => le first second = true :=
    ⟨fun first second => Classical.or_iff_not_imp_left.2 fun after =>
      total first second (Bool.eq_false_of_not_eq_true after)⟩
  have : IsTrans α fun first second => le first second = true := ⟨fun _ _ _ => trans⟩
  rw [sortBy_eq_insertionSort]
  exact List.pairwise_insertionSort ..

/-- What is sorted by a text is in the byte order of the texts. -/
theorem pairwise_sortBy_text (text : α → String) (items : List α) :
    (sortBy (fun first second => decide (text first ≤ text second)) items).Pairwise
      fun first second => text first ≤ text second := by
  have sorted : (sortBy (fun first second => decide (text first ≤ text second)) items).Pairwise
      fun first second => decide (text first ≤ text second) = true := by
    refine pairwise_sortBy (fun first second after => ?_) (fun before after => ?_) items
    · exact decide_eq_true
        ((String.le_total (text first) (text second)).resolve_left (of_decide_eq_false after))
    · rw [decide_eq_true_eq] at before after ⊢
      exact String.le_trans before after
  exact sorted.imp of_decide_eq_true

/-- Sorted texts are in byte order. -/
theorem pairwise_sortTexts (texts : List String) : (sortTexts texts).Pairwise (· ≤ ·) :=
  pairwise_sortBy_text id texts

/-- Lists with the same items, which their texts tell apart, become the same sorted list. -/
theorem sortBy_text_eq_of_perm (text : α → String) {items others : List α}
    (same : items.Perm others)
    (apart : ∀ first ∈ items, ∀ second ∈ items, text first = text second → first = second) :
    sortBy (fun first second => decide (text first ≤ text second)) items =
      sortBy (fun first second => decide (text first ≤ text second)) others := by
  have left := perm_sortBy (fun first second => decide (text first ≤ text second)) items
  have right := perm_sortBy (fun first second => decide (text first ≤ text second)) others
  refine (left.trans (same.trans right.symm)).eq_of_pairwise ?_ (pairwise_sortBy_text text items)
    (pairwise_sortBy_text text others)
  intro first second here there before after
  exact apart first (left.mem_iff.1 here) second (same.mem_iff.2 (right.mem_iff.1 there))
    (String.le_antisymm before after)

/-- Texts are sorted in one way. -/
theorem sortTexts_eq_of_perm {texts others : List String} (same : texts.Perm others) :
    sortTexts texts = sortTexts others :=
  sortBy_text_eq_of_perm id same fun _ _ _ _ equal => equal

theorem mem_sortTexts {text : String} {texts : List String} :
    text ∈ sortTexts texts ↔ text ∈ texts :=
  (perm_sortBy _ texts).mem_iff

/-- A new text goes to its place. -/
theorem insertText_sortTexts {text : String} {texts : List String} (new : text ∉ texts) :
    insertText text (sortTexts texts) = sortTexts (texts ++ [text]) := by
  have absent : ¬(sortTexts texts).contains text = true := by
    rw [List.contains_iff_mem, mem_sortTexts]
    exact new
  have same : (text :: texts).Perm (texts ++ [text]) := (List.perm_append_singleton text texts).symm
  rw [insertText, if_neg absent]
  exact sortTexts_eq_of_perm same

/-! ## Byte order -/

/-- The bytes of a text. -/
def bytes (text : String) : List UInt8 := text.toUTF8.data.toList

theorem bytes_eq_flatMap (text : String) :
    bytes text = text.toList.flatMap String.utf8EncodeChar := by
  rw [bytes, String.toUTF8_eq_toByteArray, ← String.utf8Encode_toList, List.utf8Encode,
    List.toList_data_toByteArray]

/-- A smaller character has smaller bytes, whatever follows them. -/
theorem encode_append_lt {c d : Char} (less : c < d) (front back : List UInt8) :
    String.utf8EncodeChar c ++ front < String.utf8EncodeChar d ++ back := by
  have codes : c.val.toNat < d.val.toNat := less
  have bound : d.val.toNat < 0x110000 := by
    rcases d.valid with low | high
    · exact Nat.lt_trans low (by decide)
    · exact high.2
  simp only [String.utf8EncodeChar]
  generalize c.val.toNat = code at codes
  generalize d.val.toNat = other at codes bound
  -- the first byte tells how many there are, and with equally many they show digits to the base 64
  have second (n : Nat) : n / 4096 = n / 64 / 64 := by omega
  have third (n : Nat) : n / 262144 = n / 64 / 64 / 64 := by omega
  simp only [second, third]
  split_ifs <;>
    simp only [List.cons_append, List.nil_append, List.cons_lt_cons_iff, UInt8.lt_iff_toNat_lt,
      ← UInt8.toNat_inj, UInt8.toNat_ofNat'] <;>
    omega

theorem flatMap_encode_lt {first second : List Char} (less : first < second) :
    first.flatMap String.utf8EncodeChar < second.flatMap String.utf8EncodeChar := by
  induction less with
  | @nil c rest =>
    rw [List.flatMap_nil, List.flatMap_cons]
    cases encoded : String.utf8EncodeChar c with
    | nil => exact absurd encoded String.utf8EncodeChar_ne_nil
    | cons byte others => exact List.nil_lt_cons ..
  | cons _ ih =>
    rw [List.flatMap_cons, List.flatMap_cons]
    exact List.append_left_lt ih
  | rel less =>
    rw [List.flatMap_cons, List.flatMap_cons]
    exact encode_append_lt less ..

/-- The order of texts is that of their bytes. -/
theorem bytes_lt_bytes_iff {first second : String} :
    bytes first < bytes second ↔ first < second := by
  have forward {first second : String} (less : first < second) : bytes first < bytes second := by
    rw [bytes_eq_flatMap, bytes_eq_flatMap]
    exact flatMap_encode_lt less
  constructor
  · intro less
    by_contra after
    have before : ¬second < first := fun greater => List.lt_asymm less (forward greater)
    have same : first = second := String.le_antisymm before after
    exact List.lt_irrefl _ (same ▸ less)
  · exact forward

theorem pairwise_bytes {texts : List String} (sorted : texts.Pairwise (· < ·)) :
    (texts.map bytes).Pairwise (· < ·) :=
  sorted.map bytes fun _ _ => bytes_lt_bytes_iff.2

/-- What is sorted by different texts has them in increasing order. -/
theorem increasing_sortBy_text (text : α → String) {items : List α}
    (distinct : (items.map text).Nodup) :
    ((sortBy (fun first second => decide (text first ≤ text second)) items).map text).Pairwise
      (· < ·) := by
  have apart := ((perm_sortBy (fun first second => decide (text first ≤ text second)) items).map
    text).nodup_iff.2 distinct
  have sorted := List.pairwise_map.2 (pairwise_sortBy_text text items)
  apply (sorted.and apart).imp
  intro first second ordered
  exact Std.lt_of_le_of_ne ordered.1 ordered.2

/-- Different texts are sorted in increasing order. -/
theorem increasing_sortTexts {texts : List String} (distinct : texts.Nodup) :
    (sortTexts texts).Pairwise (· < ·) := by
  have increasing := increasing_sortBy_text id (by rwa [List.map_id])
  rwa [List.map_id] at increasing

end SourceIndex.Order
