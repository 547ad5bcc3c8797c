import Mathlib.Data.List.Basic
import SourceIndex.Path
import SourceIndex.Proofs.Text

/-!
# Paths of names

An absolute path that is made of proper names has exactly those names as its steps. A path with an
extension has a dot.
-/

namespace SourceIndex

namespace Path

/-- A name that a folder can hold: not empty, without a separator, and neither `.` nor `..`. -/
structure Proper (name : String) : Prop where
  whole : ∀ c ∈ name.toList, (c == '/') = false
  isName : Component.ofPiece? name.toList = some (.name name)

instance (name : String) : Decidable (Proper name) :=
  have : Decidable (∀ c ∈ name.toList, (c == '/') = false) := List.decidableBAll _ name.toList
  decidable_of_iff ((∀ c ∈ name.toList, (c == '/') = false) ∧
    Component.ofPiece? name.toList = some (.name name))
    ⟨fun ⟨whole, isName⟩ => ⟨whole, isName⟩, fun ⟨whole, isName⟩ => ⟨whole, isName⟩⟩

/-- The absolute path along names. -/
def absolute (names : List String) : String := "/" ++ key names

theorem toList_absolute (names : List String) :
    (absolute names).toList = '/' :: Text.join ['/'] (names.map String.toList) := by
  simp [absolute, key]

/-- The pieces of proper names that are joined. -/
theorem pieces_key {first : String} {others : List String}
    (proper : ∀ name ∈ first :: others, Proper name) :
    Text.pieces (· == '/') (key (first :: others)).toList =
      (first :: others).map String.toList := by
  rw [key, String.toList_ofList, List.map_cons, Text.pieces_join rfl]
  intro piece member
  rw [← List.map_cons] at member
  obtain ⟨name, listed, rfl⟩ := List.mem_map.1 member
  exact (proper name listed).whole

/-- The pieces of an absolute path along proper names. -/
theorem pieces_absolute {first : String} {others : List String}
    (proper : ∀ name ∈ first :: others, Proper name) :
    Text.pieces (· == '/') (absolute (first :: others)).toList =
      [] :: (first :: others).map String.toList := by
  have text : (absolute (first :: others)).toList = [] ++ '/' :: (key (first :: others)).toList :=
    String.toList_append
  rw [text, Text.pieces_append_cons (by simp) rfl, pieces_key proper]

/-- A proper name stands for the component of that name. -/
theorem filterMap_ofPiece? {names : List String} (proper : ∀ name ∈ names, Proper name) :
    (names.map String.toList).filterMap Component.ofPiece? = names.map Component.name := by
  rw [List.filterMap_map, ← List.filterMap_eq_map]
  apply List.filterMap_congr
  intro name member
  exact (proper name member).isName

/-- The steps of an absolute path along proper names; the empty piece in front of the first
separator stays at the root. -/
theorem steps_absolute {first : String} {others : List String}
    (proper : ∀ name ∈ first :: others, Proper name) :
    steps (absolute (first :: others)) =
      .root :: .here :: (first :: others).map Component.name := by
  have names : ((first :: others).map String.toList).map Component.step =
      (first :: others).map Component.name := by
    rw [List.map_map]
    apply List.map_congr_left
    intro name member
    simp [Component.step, (proper name member).isName]
  rw [steps, pieces_absolute proper, List.map_cons, names]
  simp [toList_absolute, Component.step, Component.ofPiece?]

theorem components_absolute {names : List String} (proper : ∀ name ∈ names, Proper name) :
    components (absolute names) = .root :: names.map Component.name := by
  cases names with
  | nil => rfl
  | cons first others =>
    rw [components, pieces_absolute proper, List.filterMap_cons, filterMap_ofPiece? proper]
    simp [toList_absolute, Component.ofPiece?]

/-- Proper names can be read back from their key. -/
theorem key_injective {first second : List String} (proper : ∀ name ∈ first, Proper name)
    (also : ∀ name ∈ second, Proper name) (same : key first = key second) : first = second := by
  have equal : components (absolute first) = components (absolute second) := by
    rw [absolute, same]
    rfl
  rw [components_absolute proper, components_absolute also] at equal
  have injective : Function.Injective Component.name := fun _ _ => Component.name.inj
  exact injective.list_map (List.cons.inj equal).2

/-- A name at the end of joined names. -/
theorem key_append {first : String} (others : List String) (last : String) :
    key (first :: others ++ [last]) = key (first :: others) ++ "/" ++ last := by
  apply String.toList_injective
  simp only [key, String.toList_append, String.toList_ofList]
  induction others generalizing first with
  | nil => simp [Text.join]
  | cons next others ih => simpa [Text.join] using ih

/-- A proper name does not start with a separator and does not end in one. -/
theorem Proper.ends {name : String} (proper : Proper name) :
    isAbsolute name = false ∧ ∃ c, name.toList.getLast? = some c ∧ c ≠ '/' := by
  have inner (c : Char) (member : c ∈ name.toList) : c ≠ '/' := by
    simpa using proper.whole c member
  constructor
  · rw [isAbsolute, decide_eq_false_iff_not]
    intro front
    exact inner '/' (List.mem_of_head? front) rfl
  · cases found : name.toList.getLast? with
    | none =>
      have isName := proper.isName
      simp [Component.ofPiece?, List.getLast?_eq_none_iff.1 found] at isName
    | some c => exact ⟨c, rfl, inner c (List.mem_of_getLast? found)⟩

/-- The text of an absolute path ends with its last name. -/
theorem getLast?_absolute {first : String} {others : List String}
    (proper : ∀ name ∈ first :: others, Proper name) :
    ∃ c, (absolute (first :: others)).toList.getLast? = some c ∧ c ≠ '/' := by
  rw [toList_absolute]
  induction others generalizing first with
  | nil =>
    obtain ⟨_, c, found, inner⟩ := (proper first (List.mem_cons_self ..)).ends
    exact ⟨c, by simp [Text.join, List.getLast?_cons, found], inner⟩
  | cons next others ih =>
    obtain ⟨c, found, inner⟩ := ih fun name member => proper name (List.mem_cons_of_mem _ member)
    refine ⟨c, ?_, inner⟩
    rw [List.map_cons] at found
    rw [List.map_cons, List.map_cons, Text.join, List.append_assoc, List.singleton_append,
      ← List.cons_append, List.getLast?_append, found]
    · rfl
    · simp

/-- A proper name seen from an absolute path. -/
theorem join_absolute {names : List String} (proper : ∀ name ∈ names, Proper name) {name : String}
    (last : Proper name) : join (absolute names) name = absolute (names ++ [name]) := by
  have relative := last.ends.1
  cases names with
  | nil => simp [join, relative, absolute, key, Text.join]
  | cons first others =>
    obtain ⟨c, found, inner⟩ := getLast?_absolute proper
    rw [join, if_neg (by simp [relative]), found, absolute, absolute, key_append]
    simp [String.append_assoc]

/-- The file name of joined names is the last of them. -/
theorem fileName?_key (above : List String) {name : String} (proper : Proper name) :
    fileName? (key (above ++ [name])) = some name := by
  have split : ∃ before, Text.pieces (· == '/') (key (above ++ [name])).toList =
      before ++ [name.toList] := by
    cases above with
    | nil =>
      refine ⟨[], ?_⟩
      rw [List.nil_append, key, String.toList_ofList, List.map_singleton, Text.join,
        Text.pieces_of_not_mem proper.whole, List.nil_append]
    | cons first others =>
      have parts : ∃ piece before, Text.pieces (· == '/')
          ((key (first :: others)).toList ++ '/' :: name.toList) =
            piece :: before ++ [name.toList] :=
        Text.pieces_append_last rfl proper.whole _
      obtain ⟨piece, before, split⟩ := parts
      exact ⟨piece :: before, by rw [key_append]; simpa using split⟩
  obtain ⟨before, split⟩ := split
  simp [fileName?, components, split, proper.isName]

/-! ## Extensions -/

/-- A file name is a part of its path. -/
theorem mem_of_mem_fileName? {path name : String} (found : fileName? path = some name) {c : Char}
    (member : c ∈ name.toList) : c ∈ path.toList := by
  have last : (components path).getLast? = some (.name name) := by
    rw [fileName?] at found
    split at found
    case h_1 text last =>
      cases found
      exact last
    case h_2 => cases found
  have listed := List.mem_of_getLast? last
  rw [components, List.mem_append] at listed
  cases listed with
  | inl front =>
    split at front
    · simp at front
    · split at front <;> simp at front
  | inr inside =>
    obtain ⟨piece, split, same⟩ := List.mem_filterMap.1 inside
    have text : String.ofList piece = name := by
      simp only [Component.ofPiece?, Option.ite_none_left_eq_some] at same
      split at same
      · simp at same
      · simpa using same.2
    rw [← text, String.toList_ofList] at member
    exact Text.mem_of_mem_pieces split member

/-- A path with an extension has a dot. -/
theorem dot_mem_of_extension? {path extension : String}
    (found : extension? path = some extension) : '.' ∈ path.toList := by
  obtain ⟨name, last, extended⟩ := Option.bind_eq_some_iff.1 found
  apply mem_of_mem_fileName? last
  by_contra absent
  have whole : name.toList.reverse.dropWhile (· ≠ '.') = [] := by
    rw [List.dropWhile_eq_nil_iff]
    intro c member
    have differs : c ≠ '.' := fun equal => absent (equal ▸ List.mem_reverse.1 member)
    simpa using differs
  rw [extensionOfName?, List.span_eq_takeWhile_dropWhile, whole] at extended
  cases extended

end Path

end SourceIndex
