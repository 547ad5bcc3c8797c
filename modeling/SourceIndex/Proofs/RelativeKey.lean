import Mathlib.Data.Set.Operations
import SourceIndex.Proofs.Imports
import SourceIndex.Proofs.Scan
import SourceIndex.Proofs.TrackedFiles

/-!
# Keys below a root

What is joined to a root is the key of the path below that root, however the root is written. So the
files of a tree have different keys. A path that does not lie below the root has all its own names
as its key.
-/

namespace SourceIndex

/-- A text is made of its pieces and the separators between them. -/
theorem Text.join_pieces (mark : Char) (text : List Char) :
    join [mark] (pieces (· == mark) text) = text := by
  induction text with
  | nil => rfl
  | cons c rest ih =>
    obtain ⟨first, others, apart⟩ := List.exists_cons_of_ne_nil (pieces_ne_nil (· == mark) rest)
    rw [apart] at ih
    rw [pieces, apart]
    split
    case isTrue separator =>
      rw [join, ih, beq_iff_eq.1 separator]
      · rfl
      · simp
    case isFalse =>
      cases others with
      | nil => exact congrArg (c :: ·) ih
      | cons next others => exact congrArg (c :: ·) ih

namespace Path

/-! ## Names among the pieces of a path -/

/-- A piece between separators that is a name: it is not empty, and neither `.` nor `..`. -/
def IsNormal (piece : List Char) : Prop := piece ∉ [[], ['.'], ['.', '.']]

instance : DecidablePred IsNormal := fun piece =>
  inferInstanceAs (Decidable (piece ∉ [[], ['.'], ['.', '.']]))

/-- A text of one or more names with a separator between each two. -/
def IsKey (text : String) : Prop := ∀ piece ∈ Text.pieces (· == '/') text.toList, IsNormal piece

instance : DecidablePred IsKey := fun text =>
  inferInstanceAs (Decidable (∀ piece ∈ Text.pieces (· == '/') text.toList, IsNormal piece))

/-- The names of a path as they stand in its text. -/
def ownKey (path : String) : String :=
  String.ofList (Text.join ['/'] ((Text.pieces (· == '/') path.toList).filter IsNormal))

theorem ofPiece?_of_isNormal {piece : List Char} (normal : IsNormal piece) :
    Component.ofPiece? piece = some (.name (String.ofList piece)) := by
  simp only [IsNormal, List.mem_cons, List.not_mem_nil, or_false, not_or] at normal
  rw [Component.ofPiece?, if_neg (by simp [normal]), if_neg normal.2.2]

@[simp] theorem names_append (front rest : List Component) :
    names (front ++ rest) = names front ++ names rest := List.filterMap_append

@[simp] theorem names_map_name (location : List String) :
    names (location.map Component.name) = location := by
  rw [names, List.filterMap_map]
  exact List.filterMap_some

theorem names_filterMap_ofPiece? (pieces : List (List Char)) :
    names (pieces.filterMap Component.ofPiece?) = (pieces.filter IsNormal).map String.ofList := by
  induction pieces with
  | nil => rfl
  | cons piece pieces ih =>
    by_cases normal : IsNormal piece
    · rw [List.filterMap_cons_some (ofPiece?_of_isNormal normal),
        List.filter_cons_of_pos (by simpa using normal), List.map_cons, ← ih]
      rfl
    · rw [List.filter_cons_of_neg (by simpa using normal), ← ih]
      simp only [IsNormal, List.mem_cons, List.not_mem_nil, or_false, not_not] at normal
      rcases normal with rfl | rfl | rfl <;> rfl

theorem key_map_ofList (pieces : List (List Char)) :
    key (pieces.map String.ofList) = String.ofList (Text.join ['/'] pieces) := by
  have back : String.toList ∘ String.ofList = id := funext fun _ => String.toList_ofList
  rw [key, List.map_map, back, List.map_id]

theorem key_names_components (path : String) : key (names (components path)) = ownKey path := by
  have front : names (components path) =
      ((Text.pieces (· == '/') path.toList).filter IsNormal).map String.ofList := by
    rw [components, names_append, names_filterMap_ofPiece?]
    split_ifs <;> rfl
  rw [front, key_map_ofList, ownKey]

/-- A key is made of proper names. -/
theorem IsKey.exists_names {text : String} (isKey : IsKey text) :
    ∃ first others, (∀ name ∈ first :: others, Proper name) ∧ key (first :: others) = text := by
  obtain ⟨first, others, apart⟩ :=
    List.exists_cons_of_ne_nil (Text.pieces_ne_nil (· == '/') text.toList)
  refine ⟨String.ofList first, others.map String.ofList, ?_, ?_⟩
  · intro name member
    rw [← List.map_cons, ← apart] at member
    obtain ⟨piece, listed, rfl⟩ := List.mem_map.1 member
    refine ⟨?_, ?_⟩
    · rw [String.toList_ofList]
      exact (Text.mem_pieces_iff.1 listed).1
    · rw [String.toList_ofList]
      exact ofPiece?_of_isNormal (isKey piece listed)
  · rw [← List.map_cons, ← apart, key_map_ofList, Text.join_pieces, String.ofList_toList]

/-! ## Joining to a root -/

section Join

variable {first : String} {others : List String}

/-- A key does not start with a separator. -/
theorem isAbsolute_key (proper : ∀ name ∈ first :: others, Proper name) :
    isAbsolute (key (first :: others)) = false := by
  rw [isAbsolute, decide_eq_false_iff_not]
  intro front
  obtain ⟨rest, text⟩ := List.head?_eq_some_iff.1 front
  have apart : [] :: Text.pieces (· == '/') rest = (first :: others).map String.toList := by
    rw [← pieces_key proper, text]
    rfl
  have isName := (proper first (List.mem_cons_self ..)).isName
  rw [← (List.cons.inj apart).1] at isName
  cases isName

theorem components_key (proper : ∀ name ∈ first :: others, Proper name) :
    components (key (first :: others)) = (first :: others).map Component.name := by
  have relative : (key (first :: others)).toList.head? ≠ some '/' := by
    simpa [isAbsolute] using isAbsolute_key proper
  have notHere : first.toList ≠ ['.'] := by
    intro dot
    have isName := (proper first (List.mem_cons_self ..)).isName
    rw [dot] at isName
    cases isName
  rw [components, pieces_key proper, filterMap_ofPiece? proper, if_neg relative, if_neg,
    List.nil_append]
  simpa using notHere

/-- What follows a separator adds its own components. -/
theorem components_append_separator {front : String} (present : front ≠ "") (rest : String) :
    components (front ++ "/" ++ rest) = components front ++
      (Text.pieces (· == '/') rest.toList).filterMap Component.ofPiece? := by
  have text : (front ++ "/" ++ rest).toList = front.toList ++ '/' :: rest.toList := by simp
  have head : (front.toList ++ '/' :: rest.toList).head? = front.toList.head? :=
    List.head?_append_of_ne_nil _ (by simpa using present)
  have first : (Text.pieces (· == '/') front.toList ++ Text.pieces (· == '/') rest.toList).head? =
      (Text.pieces (· == '/') front.toList).head? :=
    List.head?_append_of_ne_nil _ (Text.pieces_ne_nil _ _)
  rw [components, components, text, head, Text.pieces_append_mark rfl, first, List.filterMap_append,
    List.append_assoc]

/-- A separator at the end does not count. -/
theorem components_separator {front : String} (present : front ≠ "") :
    components (front ++ "/") = components front := by
  have same := components_append_separator present ""
  rw [String.append_empty] at same
  exact same.trans (List.append_nil _)

theorem components_root (rest : String) :
    components ("/" ++ rest) =
      .root :: (Text.pieces (· == '/') rest.toList).filterMap Component.ofPiece? := by
  simp [components, Text.pieces, Component.ofPiece?]

/-- The components of a key that is joined to a root come after those of the root. -/
theorem components_join (root : String) (proper : ∀ name ∈ first :: others, Proper name) :
    components (join root (key (first :: others))) =
      components root ++ (first :: others).map Component.name := by
  have added := filterMap_ofPiece? proper
  rw [← pieces_key proper] at added
  rw [join, if_neg (by simp [isAbsolute_key proper])]
  split
  case h_1 empty =>
    obtain rfl : root = "" := by simpa using empty
    exact components_key proper
  case h_2 last =>
    obtain ⟨chars, text⟩ := List.getLast?_eq_some_iff.1 last
    obtain ⟨front, rfl⟩ : ∃ front, root = front ++ "/" := by
      refine ⟨String.ofList chars, String.toList_injective ?_⟩
      simpa using text
    by_cases present : front = ""
    · subst present
      rw [String.empty_append, components_root, added]
      rfl
    · rw [components_append_separator present, components_separator present, added]
  case h_3 c _ last =>
    have present : root ≠ "" := by
      rintro rfl
      cases last
    rw [components_append_separator present, added]

end Join

/-- The components along names that are joined one after the other. -/
theorem components_foldl_join (root : String) {location : List String}
    (proper : ∀ name ∈ location, Proper name) :
    components (location.foldl join root) = components root ++ location.map Component.name := by
  induction location generalizing root with
  | nil => simp
  | cons name location ih =>
    have alone : ∀ other ∈ [name], Proper other := by simpa using proper name (.head _)
    have same : key [name] = name := String.ofList_toList
    have step := components_join root alone
    rw [same] at step
    rw [List.foldl_cons, ih _ fun other member => proper other (.tail _ member), step,
      List.append_assoc]
    rfl

/-! ## Keys -/

theorem below?_eq_some_iff {root path rest : List Component} :
    below? root path = some rest ↔ path = root ++ rest := by
  fun_induction below? root path with
  | case1 path => simp
  | case2 => simp
  | case3 root c path ih => simpa using ih
  | case4 r root c path differs => simp [Ne.symm differs]

theorem relativeKey_of_components {root path : String} {location : List String}
    (below : components path = components root ++ location.map Component.name) :
    relativeKey root path = key location := by
  rw [relativeKey, below?_eq_some_iff.2 below, Option.getD_some, names_map_name]

theorem relativeKey_of_not_below {root path : String}
    (apart : ¬components root <+: components path) : relativeKey root path = ownKey path := by
  have nothing : below? (components root) (components path) = none := by
    rw [Option.eq_none_iff_forall_ne_some]
    intro rest found
    exact apart ⟨rest, (below?_eq_some_iff.1 found).symm⟩
  rw [relativeKey, nothing, Option.getD_none, key_names_components]

theorem relativeKey_foldl_join (root : String) {location : List String}
    (proper : ∀ name ∈ location, Proper name) :
    relativeKey root (location.foldl join root) = key location :=
  relativeKey_of_components (components_foldl_join root proper)

end Path

/-- No two nodes of a tree have the same key, seen from any root. -/
theorem Folder.IsTree.injOn_relativeKey {folder : Folder} (tree : folder.IsTree) (root : String) :
    Set.InjOn (fun location => Path.relativeKey root (location.foldl Path.join root))
      {location | (folder.node? location).isSome} := by
  intro location known other alsoKnown same
  obtain ⟨_, found⟩ := Option.isSome_iff_exists.1 known
  obtain ⟨_, alsoFound⟩ := Option.isSome_iff_exists.1 alsoKnown
  simp only [Path.relativeKey_foldl_join root (tree.proper found),
    Path.relativeKey_foldl_join root (tree.proper alsoFound)] at same
  exact Path.key_injective (tree.proper found) (tree.proper alsoFound) same

theorem Walk.nodup_paths_files {folder : Folder} (tree : folder.IsTree) (filter : Filter) :
    ((files filter folder).map (·.path)).Nodup := by
  rw [files_eq_sortBy, ((Order.perm_sortBy ..).map _).nodup_iff]
  exact nodup_paths tree (by simp)

namespace Path

/-- What is joined to a root can be read back from the path, whatever the root is. So each source of
a tree has the key of its own file, and no two files share one. A path that does not lie below the
root has its own names as its key. -/
theorem relativeKey_inverts_join :
    (∀ root text, IsKey text → relativeKey root (join root text) = text) ∧
    (∀ (root : String) (scan : Scan) (disk : Disk) (place : Location) (folder : Folder)
      (found : List Source), disk.folder? root = some (place, folder) → folder.IsTree →
      Workspace.sources root scan disk = (.ok found, disk) →
        (∀ source ∈ found, ∃ location file, folder.node? location = some (.file file) ∧
          source.content = file.content ∧
          source.path = relativeKey root (location.foldl join root)) ∧
        (found.map (·.path)).Nodup ∧
        Set.InjOn (fun location => relativeKey root (location.foldl join root))
          {location | (folder.node? location).isSome}) ∧
    ∀ root path, ¬components root <+: components path → relativeKey root path = ownKey path := by
  refine ⟨?_, ?_, fun _ _ => relativeKey_of_not_below⟩
  · intro root text isKey
    obtain ⟨first, others, proper, rfl⟩ := isKey.exists_names
    exact relativeKey_of_components (components_join root proper)
  · intro root scan disk place folder found leads tree done
    obtain ⟨_, _, filter, alsoLeads, rfl⟩ := Workspace.exists_walk_of_sources done
    cases leads.symm.trans alsoLeads
    refine ⟨?_, ?_, tree.injOn_relativeKey root⟩
    · intro source member
      obtain ⟨walked, listed, rfl⟩ := List.mem_map.1 member
      obtain ⟨above, name, tracks⟩ := (Walk.mem_files_iff_tracks tree).1 listed
      refine ⟨above ++ [name], walked.file, tracks.isFile, rfl, ?_⟩
      rw [Workspace.sourceOf, tracks.isPath,
        relativeKey_foldl_join root (tree.proper tracks.isFile)]
    · rw [List.map_map]
      exact Walk.nodup_paths_files tree filter

/-- A disk with a tree of nested folders. -/
def nestedDisk : Disk := { top := [("tree", .folder Walk.mixedTree)] }

theorem relativeKey_inverts_join_nested :
    (IsKey "src/nested/mod.rs" ∧
      relativeKey ".//repo/./" (join ".//repo/./" "src/nested/mod.rs") = "src/nested/mod.rs") ∧
    (∃ found, Workspace.sources "//tree/./" {} nestedDisk = (.ok found, nestedDisk) ∧
      found.map (·.path) = ["gen/d.py", "large.py", "lib/b.py", "lib/gen/a.py", "lib/odd.py",
        "locked/e.py", "z.py"] ∧
      ∀ source ∈ found, ∃ location file, Walk.mixedTree.node? location = some (.file file) ∧
        source.path = relativeKey "//tree/./" (location.foldl join "//tree/./")) ∧
    ¬components "/repo" <+: components "/repository/x" ∧
    relativeKey "/repo" "/repository/x" = "repository/x" := by
  obtain ⟨inverts, scanned, apart⟩ := relativeKey_inverts_join
  have isKey : IsKey "src/nested/mod.rs" := by decide
  have beside : ¬components "/repo" <+: components "/repository/x" := by decide
  have done : ∃ found, Workspace.sources "//tree/./" {} nestedDisk = (.ok found, nestedDisk) ∧
      found.map (·.path) = ["gen/d.py", "large.py", "lib/b.py", "lib/gen/a.py", "lib/odd.py",
        "locked/e.py", "z.py"] := by
    simp only [Workspace.sources_apply]
    exact ⟨_, rfl, by decide⟩
  obtain ⟨found, done, paths⟩ := done
  refine ⟨⟨isKey, inverts _ _ isKey⟩, ⟨found, done, paths, ?_⟩, beside, apart _ _ beside⟩
  intro source member
  obtain ⟨own, -⟩ := scanned _ _ _ _ _ _ rfl Walk.isTree_mixedTree done
  obtain ⟨location, file, isFile, -, path⟩ := own source member
  exact ⟨location, file, isFile, path⟩

end Path

end SourceIndex
