import SourceIndex.Proofs.Scan

/-!
# The files that a walk gives

A walk of a tree gives exactly the files that its filter tracks: those of a known language that are
not ignored or too large, that no left out folder holds, and on the way to which every folder can be
listed. They come in byte order of their keys, in whichever order the folders list their entries.
-/

namespace SourceIndex

namespace Folder

variable {name : String} {node : DiskNode} {rest : Folder}

/-- A folder as a file system has it: in it and in every folder below, names are proper and none is
listed twice. -/
inductive IsTree : Folder → Prop where
  | nil : IsTree []
  | cons {name : String} {node : DiskNode} {rest : Folder} (proper : Path.Proper name)
      (new : name ∉ rest.map Prod.fst) (inner : ∀ entries, node = .folder entries → IsTree entries)
      (others : IsTree rest) : IsTree ((name, node) :: rest)

/-- The second folder is the first one with the entries listed in another order, here and in the
folders below, and without some of its links. -/
inductive Relisted : Folder → Folder → Prop where
  | refl (folder : Folder) : Relisted folder folder
  | swap (first second : String × DiskNode) (rest : Folder) :
      Relisted (first :: second :: rest) (second :: first :: rest)
  | unlink (name target : String) (rest : Folder) : Relisted ((name, .link target) :: rest) rest
  | inside (name : String) {first second : Folder} (rest : Folder) (inner : Relisted first second) :
      Relisted ((name, .folder first) :: rest) ((name, .folder second) :: rest)
  | cons (entry : String × DiskNode) {first second : Folder} (rest : Relisted first second) :
      Relisted (entry :: first) (entry :: second)
  | trans {first second third : Folder} (before : Relisted first second)
      (after : Relisted second third) : Relisted first third

theorem node?_nil {location : Location} (proper : location ≠ []) : node? [] location = none := by
  obtain ⟨first, more, rfl⟩ := List.exists_cons_of_ne_nil proper
  cases more <;> rfl

/-- Below a name, the entry with that name is looked into. -/
theorem node?_cons_self (name : String) (node : DiskNode) (rest : Folder) (more : Location) :
    node? ((name, node) :: rest) (name :: more) =
      if more = [] then some node
      else
        match node with
        | .folder inside => node? inside more
        | _ => none := by
  cases more with
  | nil => rw [node?, get?_cons]; simp
  | cons next more =>
    rw [node?, get?_cons]
    cases node <;> simp

theorem node?_cons_of_ne {first : String} (differs : name ≠ first) (node : DiskNode) (rest : Folder)
    (more : Location) :
    node? ((name, node) :: rest) (first :: more) = node? rest (first :: more) := by
  cases more with
  | nil => rw [node?, node?, get?_cons, if_neg differs]
  | cons next more => rw [node?, node?, get?_cons, if_neg differs]

/-- The way to a node starts with a name that is listed. -/
theorem mem_of_node? {folder : Folder} {first : String} {more : Location} {found : DiskNode}
    (known : folder.node? (first :: more) = some found) : first ∈ folder.map Prod.fst := by
  induction folder with
  | nil => rw [node?_nil (by simp)] at known; cases known
  | cons entry rest ih =>
    by_cases same : entry.1 = first
    · rw [← same]
      exact List.mem_cons_self ..
    · rw [node?_cons_of_ne same] at known
      exact List.mem_cons_of_mem _ (ih known)

/-- A new name does not hide what stands under the others. -/
theorem node?_cons_of_new (new : name ∉ rest.map Prod.fst) (node : DiskNode) {location : Location}
    (proper : location ≠ []) {found : DiskNode} (known : node? rest location = some found) :
    node? ((name, node) :: rest) location = some found := by
  obtain ⟨first, more, rfl⟩ := List.exists_cons_of_ne_nil proper
  have differs : name ≠ first := by
    rintro rfl
    exact new (mem_of_node? known)
  rw [node?_cons_of_ne differs, known]

/-- The names that lead to a node of a tree are proper. -/
theorem IsTree.proper {folder : Folder} (tree : folder.IsTree) {location : Location}
    {found : DiskNode} (known : folder.node? location = some found) :
    ∀ name ∈ location, Path.Proper name := by
  induction tree generalizing location with
  | nil =>
    cases location with
    | nil => simp
    | cons first more => rw [node?_nil (by simp)] at known; cases known
  | @cons name node rest proper new inner others ihInner ihOthers =>
    cases location with
    | nil => simp
    | cons first more =>
      by_cases same : name = first
      · subst same
        rw [node?_cons_self] at known
        split at known
        case isTrue last => simpa [last] using proper
        case isFalse =>
          cases node with
          | folder inside => simpa [proper] using ihInner inside rfl known
          | file file => cases known
          | link target => cases known
      · rw [node?_cons_of_ne same] at known
        exact ihOthers known

end Folder

namespace Walk

variable {filter : Filter} {walked : WalkedFile} {entries : Folder}

/-- The folders along names are entered one after the other. -/
def Entered (filter : Filter) : (above below : List String) → Prop
  | _, [] => True
  | above, name :: below => filter.enters above name = true ∧ Entered filter (above ++ [name]) below

theorem entered_iff {above below : List String} :
    Entered filter above below ↔
      ∀ upper name lower, below = upper ++ name :: lower →
        filter.enters (above ++ upper) name = true := by
  induction below generalizing above with
  | nil => simp [Entered]
  | cons first below ih =>
    rw [Entered, ih]
    constructor
    · rintro ⟨here, deeper⟩ upper name lower split
      cases upper with
      | nil =>
        cases split
        rwa [List.append_nil]
      | cons next upper =>
        obtain ⟨rfl, rest⟩ := List.cons.inj split
        rw [List.append_cons]
        exact deeper upper name lower rest
    · intro all
      refine ⟨?_, fun upper name lower split => ?_⟩
      · simpa using all [] first below rfl
      · simpa using all (first :: upper) name lower (by rw [split]; rfl)

/-- A file is found below a folder if the folders on the way are entered and it is tracked. -/
theorem mem_folderLayers_iff (tree : entries.IsTree) {above : List String} :
    walked ∈ (folderLayers filter above entries).flatten ↔
      ∃ below name file, entries.node? (below ++ [name]) = some (.file file) ∧
        Entered filter above below ∧ filter.tracked? (above ++ below) name file = some walked := by
  induction tree generalizing above with
  | nil =>
    constructor
    · intro member
      cases member
    · rintro ⟨below, name, file, found, -⟩
      rw [Folder.node?_nil (by simp)] at found
      cases found
  | @cons name node rest proper new inner others ihInner ihOthers =>
    rw [folderLayers, mem_flatten_beside, mem_nodeLayers_iff, ihOthers]
    constructor
    · rintro ((⟨file, rfl, tracked⟩ | ⟨inside, rfl, entered, member⟩) |
        ⟨below, last, file, found, passed, tracked⟩)
      · refine ⟨[], name, file, ?_, trivial, by rwa [List.append_nil]⟩
        rw [List.nil_append, Folder.node?_cons_self, if_pos rfl]
      · obtain ⟨below, last, file, found, passed, tracked⟩ := (ihInner inside rfl).1 member
        refine ⟨name :: below, last, file, ?_, ⟨entered, passed⟩, by rwa [List.append_cons]⟩
        rw [List.cons_append, Folder.node?_cons_self, if_neg (by simp)]
        exact found
      · exact ⟨below, last, file, Folder.node?_cons_of_new new node (by simp) found, passed,
          tracked⟩
    · rintro ⟨below, last, file, found, passed, tracked⟩
      cases below with
      | nil =>
        by_cases same : name = last
        · subst same
          rw [List.nil_append, Folder.node?_cons_self, if_pos rfl] at found
          exact .inl (.inl ⟨file, Option.some.inj found, by rwa [List.append_nil] at tracked⟩)
        · rw [List.nil_append, Folder.node?_cons_of_ne same] at found
          exact .inr ⟨[], last, file, found, passed, tracked⟩
      | cons first below =>
        by_cases same : name = first
        · subst same
          rw [List.cons_append, Folder.node?_cons_self, if_neg (by simp)] at found
          cases node with
          | folder inside =>
            rw [List.append_cons] at tracked
            exact .inl (.inr ⟨inside, rfl, passed.1,
              (ihInner inside rfl).2 ⟨below, last, file, found, passed.2, tracked⟩⟩)
          | file file => cases found
          | link target => cases found
        · rw [List.cons_append, Folder.node?_cons_of_ne same] at found
          exact .inr ⟨first :: below, last, file, found, passed, tracked⟩

/-- The path of a file that is found below a folder, along proper names. -/
theorem path_of_mem_folderLayers (tree : entries.IsTree) {above : List String}
    (member : walked ∈ (folderLayers filter above entries).flatten) :
    ∃ name below, name ∈ entries.map Prod.fst ∧ (∀ other ∈ name :: below, Path.Proper other) ∧
      walked.path = Path.key (above ++ name :: below) := by
  obtain ⟨below, last, file, found, -, tracked⟩ := (mem_folderLayers_iff tree).1 member
  obtain ⟨first, more, split⟩ := List.exists_cons_of_ne_nil (List.concat_ne_nil last below)
  rw [split] at found
  refine ⟨first, more, Folder.mem_of_node? found, tree.proper found, ?_⟩
  rw [← split, ← List.append_assoc]
  exact ((tracked?_eq_some_iff filter).1 tracked).2.1

/-- No path is found twice. -/
theorem nodup_paths (tree : entries.IsTree) {above : List String}
    (properAbove : ∀ name ∈ above, Path.Proper name) :
    ((folderLayers filter above entries).flatten.map (·.path)).Nodup := by
  induction tree generalizing above with
  | nil => exact List.nodup_nil
  | @cons name node rest proper new inner others ihInner ihOthers =>
    have alone : Folder.IsTree [(name, node)] := .cons proper (by simp) inner .nil
    have properName : ∀ other ∈ above ++ [name], Path.Proper other := by
      simpa [or_imp, forall_and] using ⟨properAbove, proper⟩
    rw [folderLayers, ((perm_flatten_beside _ _).map _).nodup_iff, List.map_append,
      List.nodup_append']
    refine ⟨?_, ihOthers properAbove, ?_⟩
    · cases node with
      | file file =>
        rw [nodeLayers]
        cases filter.tracked? above name file <;> simp
      | link target => simp [nodeLayers]
      | folder inside =>
        rw [nodeLayers]
        split
        · exact ihInner inside rfl properName
        · exact List.nodup_nil
    · intro path here there
      obtain ⟨first, member, rfl⟩ := List.mem_map.1 here
      obtain ⟨second, also, same⟩ := List.mem_map.1 there
      have single : first ∈ (folderLayers filter above [(name, node)]).flatten := by
        rw [folderLayers]
        exact mem_flatten_beside.2 (.inl member)
      obtain ⟨_, lower, listed, properLower, isPath⟩ := path_of_mem_folderLayers alone single
      obtain ⟨other, others, known, properOthers, isOther⟩ := path_of_mem_folderLayers others also
      obtain rfl := List.mem_singleton.1 listed
      rw [isPath, isOther] at same
      have equal := Path.key_injective
        (List.forall_mem_append.2 ⟨properAbove, properOthers⟩)
        (List.forall_mem_append.2 ⟨properAbove, properLower⟩) same
      obtain ⟨rfl, -⟩ := List.cons.inj (List.append_cancel_left equal)
      exact new known

theorem perm_folderLayers_cons (filter : Filter) (above : List String) (entry : String × DiskNode)
    (rest : Folder) :
    (folderLayers filter above (entry :: rest)).flatten.Perm
      ((nodeLayers filter above entry.1 entry.2).flatten ++
        (folderLayers filter above rest).flatten) := by
  rw [folderLayers]
  exact perm_flatten_beside ..

/-- The order of the entries and the links do not matter for what is found. -/
theorem perm_folderLayers {first second : Folder} (relisted : first.Relisted second)
    (above : List String) :
    (folderLayers filter above second).flatten.Perm (folderLayers filter above first).flatten := by
  induction relisted generalizing above with
  | refl folder => exact .refl _
  | swap first second rest =>
    have parts (first second : String × DiskNode) :=
      (perm_folderLayers_cons filter above first (second :: rest)).trans
        ((perm_folderLayers_cons filter above second rest).append_left _)
    exact (parts second first).trans
      ((List.perm_append_comm_assoc ..).trans (parts first second).symm)
  | unlink name target rest => exact .refl _
  | inside name rest inner ih =>
    refine (perm_folderLayers_cons ..).trans (.trans (.append_right _ ?_)
      (perm_folderLayers_cons ..).symm)
    simp only [nodeLayers]
    split
    · exact ih (above ++ [name])
    · exact .refl _
  | cons entry rest ih =>
    exact (perm_folderLayers_cons ..).trans
      (((ih above).append_left _).trans (perm_folderLayers_cons ..).symm)
  | trans before after ihBefore ihAfter => exact (ihAfter above).trans (ihBefore above)

/-- A file below a root that a filter tracks. The folders that lead to it are `above`, and `name` is
its own name. The root and all these folders can be listed, and each of them tells what its entry on
the way is. -/
structure Tracks (filter : Filter) (root : Folder) (above : Location) (name : String)
    (walked : WalkedFile) : Prop where
  isFile : root.node? (above ++ [name]) = some (.file walked.file)
  isPath : walked.path = Path.key (above ++ [name])
  isLanguage : (Path.extensionOfName? name).bind Language.ofExtension? = some walked.language
  notLarge : walked.file.content.size ≤ filter.maxFileSize
  notIgnored : filter.ignored (above ++ [name]) false = false
  notInside : ∀ upper folder lower, above = upper ++ folder :: lower →
    folder ∉ skippedFolders ∧ filter.ignored (upper ++ [folder]) true = false
  isSeen : ∀ upper entry lower, above ++ [name] = upper ++ entry :: lower →
    filter.unlisted upper = false ∧ filter.untold (upper ++ [entry]) = false

/-- What holds at every name of a location holds at the names above the last one and at the last. -/
theorem forall_splits_append_singleton {holds : List String → String → Prop} {above : List String}
    {name : String} :
    (∀ upper entry lower, above ++ [name] = upper ++ entry :: lower → holds upper entry) ↔
      (∀ upper entry lower, above = upper ++ entry :: lower → holds upper entry) ∧
        holds above name := by
  constructor
  · intro all
    refine ⟨fun upper entry lower split => ?_, all above name [] rfl⟩
    exact all upper entry (lower ++ [name]) (by rw [split]; simp)
  · rintro ⟨before, last⟩ upper entry lower split
    rcases List.eq_nil_or_concat lower with rfl | ⟨others, final, rfl⟩
    · obtain ⟨rfl, same⟩ := List.append_inj' split rfl
      cases same
      exact last
    · rw [List.concat_eq_append, ← List.cons_append, ← List.append_assoc] at split
      obtain ⟨same, -⟩ := List.append_inj' split rfl
      exact before upper entry others same

theorem sees_iff {above : List String} {name : String} :
    filter.sees above name = true ↔
      filter.unlisted above = false ∧ filter.untold (above ++ [name]) = false := by
  simp [Filter.sees]

/-- The folders along names are entered if all of them are seen and none is left out. -/
theorem entered_nil_iff {above : List String} :
    Entered filter [] above ↔
      (∀ upper entry lower, above = upper ++ entry :: lower → filter.sees upper entry = true) ∧
      ∀ upper folder lower, above = upper ++ folder :: lower →
        folder ∉ skippedFolders ∧ filter.ignored (upper ++ [folder]) true = false := by
  simp [entered_iff, Filter.enters, forall_and, and_assoc]

theorem mem_files_iff_tracks {root : Folder} (tree : root.IsTree) :
    walked ∈ files filter root ↔ ∃ above name, Tracks filter root above name walked := by
  have ofName {above : List String} {name : String} {node : DiskNode}
      (found : root.node? (above ++ [name]) = some node) :
      Language.ofPath? (Path.key (above ++ [name])) =
        (Path.extensionOfName? name).bind Language.ofExtension? := by
    rw [Language.ofPath?, Path.extension?,
      Path.fileName?_key above (tree.proper found name (by simp))]
    rfl
  rw [mem_files_iff, mem_folderLayers_iff tree]
  simp only [tracked?_eq_some_iff, entered_nil_iff, List.nil_append]
  constructor
  · rintro ⟨above, name, file, found, ⟨passed, notInside⟩, rfl, isPath, known, seen, notIgnored,
      notLarge⟩
    rw [isPath, ofName found] at known
    have isSeen := forall_splits_append_singleton.2 ⟨passed, seen⟩
    simp only [sees_iff] at isSeen
    exact ⟨above, name, found, isPath, known, notLarge, notIgnored, notInside, isSeen⟩
  · rintro ⟨above, name, tracks⟩
    have isSeen := tracks.isSeen
    simp only [← sees_iff] at isSeen
    obtain ⟨passed, seen⟩ := forall_splits_append_singleton.1 isSeen
    refine ⟨above, name, walked.file, tracks.isFile, ⟨passed, tracks.notInside⟩, rfl, tracks.isPath,
      ?_, seen, tracks.notIgnored, tracks.notLarge⟩
    rw [tracks.isPath, ofName tracks.isFile]
    exact tracks.isLanguage

/-- A walk of a tree comes to an end, and gives exactly the files that its filter tracks, in
increasing byte order of their keys. A folder that cannot be listed hides what is below it. Links do
not matter, nor does the order in which folders list their entries. -/
theorem files_are_the_tracked_files (filter : Filter) {root : Folder} (tree : root.IsTree) :
    (∃ found, found? filter root = some found ∧ (files filter root).Perm found) ∧
    (∀ walked, walked ∈ files filter root ↔ ∃ above name, Tracks filter root above name walked) ∧
    (((files filter root).map (·.path)).map Order.bytes).Pairwise (· < ·) ∧
    ∀ other, root.Relisted other → files filter other = files filter root := by
  have distinct : ((folderLayers filter [] root).flatten.map (·.path)).Nodup :=
    nodup_paths tree (by simp)
  refine ⟨⟨_, found?_eq filter root, ?_⟩, fun _ => mem_files_iff_tracks tree, ?_, ?_⟩
  · rw [files_eq_sortBy]
    exact Order.perm_sortBy ..
  · rw [files_eq_sortBy]
    exact Order.pairwise_bytes (Order.increasing_sortBy_text WalkedFile.path distinct)
  · intro other relisted
    rw [files_eq_sortBy, files_eq_sortBy]
    refine (Order.sortBy_text_eq_of_perm (·.path) (perm_folderLayers relisted []).symm ?_).symm
    intro first member second also same
    exact List.inj_on_of_nodup_map distinct member also same

/-! ## A tree with what is left out -/

/-- A filter that leaves out a folder `gen` at the root and files of more than two bytes. The folder
`locked` cannot be listed, and `lib` does not tell what `odd.py` is. -/
def smallFilter : Filter where
  ignored names isFolder := names == ["gen"] && isFolder
  maxFileSize := 2
  unlisted names := names == ["locked"]
  untold names := names == ["lib", "odd.py"]

/-- A file of a number of bytes. -/
def fileOfSize (size : Nat) : DiskNode := .file { content := ⟨Array.replicate size 0⟩ }

/-- A tree with nested folders, a link, and files and folders that are left out. -/
def mixedTree : Folder :=
  [("loop", .link "lib"),
   ("z.py", fileOfSize 2),
   ("lib", .folder
     [("gen", .folder [("a.py", fileOfSize 1)]),
      ("b.py", fileOfSize 1),
      ("odd.py", fileOfSize 1),
      ("target", .folder [("c.py", fileOfSize 1)])]),
   ("gen", .folder [("d.py", fileOfSize 1)]),
   ("locked", .folder [("e.py", fileOfSize 1)]),
   ("large.py", fileOfSize 3),
   ("notes.txt", fileOfSize 1)]

/-- `mixedTree` in another order and without its link. -/
def relistedTree : Folder :=
  [("lib", .folder
     [("b.py", fileOfSize 1),
      ("gen", .folder [("a.py", fileOfSize 1)]),
      ("odd.py", fileOfSize 1),
      ("target", .folder [("c.py", fileOfSize 1)])]),
   ("z.py", fileOfSize 2),
   ("gen", .folder [("d.py", fileOfSize 1)]),
   ("locked", .folder [("e.py", fileOfSize 1)]),
   ("large.py", fileOfSize 3),
   ("notes.txt", fileOfSize 1)]

theorem relisted_mixedTree : mixedTree.Relisted relistedTree :=
  .trans (.unlink ..) (.trans (.swap ..) (.inside _ _ (.swap ..)))

theorem isTree_file {name : String} {rest : Folder} (size : Nat) (proper : Path.Proper name)
    (new : name ∉ rest.map Prod.fst) (others : rest.IsTree) :
    Folder.IsTree ((name, fileOfSize size) :: rest) :=
  .cons proper new (by simp [fileOfSize]) others

theorem isTree_folder {name : String} {inside rest : Folder} (proper : Path.Proper name)
    (new : name ∉ rest.map Prod.fst) (inner : inside.IsTree) (others : rest.IsTree) :
    Folder.IsTree ((name, .folder inside) :: rest) :=
  .cons proper new (fun _ same => DiskNode.folder.inj same ▸ inner) others

theorem isTree_mixedTree : mixedTree.IsTree := by
  have single {name : String} (proper : Path.Proper name) :
      Folder.IsTree [(name, fileOfSize 1)] :=
    isTree_file 1 proper (by simp) .nil
  have lib : Folder.IsTree [("gen", .folder [("a.py", fileOfSize 1)]), ("b.py", fileOfSize 1),
      ("odd.py", fileOfSize 1), ("target", .folder [("c.py", fileOfSize 1)])] := by
    refine isTree_folder (by decide) (by decide) (single (by decide)) ?_
    refine isTree_file 1 (by decide) (by decide) (isTree_file 1 (by decide) (by decide) ?_)
    exact isTree_folder (by decide) (by decide) (single (by decide)) .nil
  refine .cons (by decide) (by decide) nofun (isTree_file 2 (by decide) (by decide) ?_)
  refine isTree_folder (by decide) (by decide) lib ?_
  refine isTree_folder (by decide) (by decide) (single (by decide)) ?_
  refine isTree_folder (by decide) (by decide) (single (by decide)) ?_
  exact isTree_file 3 (by decide) (by decide) (single (by decide))

theorem files_mixedTree :
    mixedTree.IsTree ∧ mixedTree.Relisted relistedTree ∧
    (files smallFilter mixedTree).map (·.path) = ["lib/b.py", "lib/gen/a.py", "z.py"] ∧
    files smallFilter relistedTree = files smallFilter mixedTree := by
  obtain ⟨-, -, -, relisted⟩ := files_are_the_tracked_files smallFilter isTree_mixedTree
  exact ⟨isTree_mixedTree, relisted_mixedTree, by decide +kernel, relisted _ relisted_mixedTree⟩

/-! ## A tree that is too deep -/

/-- A file below some folders. -/
def deepTree : (depth : Nat) → Folder
  | 0 => [("b.py", fileOfSize 0)]
  | depth + 1 => [("d", .folder (deepTree depth))]

/-- A disk with such a tree. -/
def deepDisk (depth : Nat) : Disk := { top := [("tree", .folder (deepTree depth))] }

/-- A path grows by at least the length of a relative path that is joined to it. -/
theorem le_utf8ByteSize_join {relative : String} (isRelative : Path.isAbsolute relative = false)
    (base : String) :
    base.utf8ByteSize + relative.utf8ByteSize ≤ (Path.join base relative).utf8ByteSize := by
  rw [Path.join, isRelative]
  simp only [Bool.false_eq_true, if_false]
  split
  case h_1 empty =>
    have none : base = "" := by simpa using empty
    simp [none]
  case h_2 => rw [String.utf8ByteSize_append]
  case h_3 =>
    simp only [String.utf8ByteSize_append]
    omega

/-- A path through some folders is at least as long as there are folders. -/
theorem le_utf8ByteSize_foldl_join (base : String) (depth : Nat) :
    depth ≤ ((List.replicate depth "d").foldl Path.join base).utf8ByteSize := by
  have grows (base : String) :
      base.utf8ByteSize + depth ≤
        ((List.replicate depth "d").foldl Path.join base).utf8ByteSize := by
    induction depth generalizing base with
    | zero => exact Nat.le_refl _
    | succ depth ih =>
      have isRelative : Path.isAbsolute "d" = false := by decide
      have grown : base.utf8ByteSize + 1 ≤ (Path.join base "d").utf8ByteSize :=
        le_utf8ByteSize_join isRelative base
      have deeper := ih (Path.join base "d")
      rw [List.replicate_succ, List.foldl_cons]
      omega
  exact Nat.le_trans (Nat.le_add_left ..) (grows base)

theorem isTree_deepTree (depth : Nat) : (deepTree depth).IsTree := by
  induction depth with
  | zero => exact isTree_file 0 (by decide) (by simp) .nil
  | succ depth ih => exact isTree_folder (by decide) (by simp) ih .nil

/-- The only file of such a tree is the one below all the folders. -/
theorem node?_deepTree_iff {depth : Nat} {location : Location} {file : DiskFile} :
    (deepTree depth).node? location = some (.file file) ↔
      location = List.replicate depth "d" ++ ["b.py"] ∧ DiskNode.file file = fileOfSize 0 := by
  induction depth generalizing location with
  | zero =>
    cases location with
    | nil => simp [deepTree, Folder.node?]
    | cons first more =>
      rw [deepTree]
      by_cases same : "b.py" = first
      · subst same
        rw [Folder.node?_cons_self]
        by_cases last : more = [] <;> simp [last, fileOfSize, eq_comm]
      · rw [Folder.node?_cons_of_ne same, Folder.node?_nil (by simp)]
        simp [Ne.symm same]
  | succ depth ih =>
    cases location with
    | nil => simp [deepTree, Folder.node?]
    | cons first more =>
      rw [deepTree, List.replicate_succ, List.cons_append, List.cons.injEq]
      by_cases same : "d" = first
      · subst same
        rw [Folder.node?_cons_self]
        by_cases last : more = []
        · simp [last]
        · simp [last, ih]
      · rw [Folder.node?_cons_of_ne same, Folder.node?_nil (by simp)]
        simp [Ne.symm same]

theorem treeRules_deepDisk (depth : Nat) :
    Workspace.treeRules (deepDisk depth) "/tree" {} = [] := by
  have missing {name : String} (isName : Path.Proper name) (other : "d" ≠ name ∧ "b.py" ≠ name) :
      Workspace.fileRules (deepDisk depth) (Path.join (Path.absolute ["tree"]) name) = [] := by
    have absent : (deepTree depth).get? name = none := by
      cases depth with
      | zero => rw [deepTree, Folder.get?_cons, if_neg other.2, Folder.get?_nil]
      | succ depth => rw [deepTree, Folder.get?_cons, if_neg other.1, Folder.get?_nil]
    rw [Path.join_absolute (by decide) isName, Workspace.fileRules, Disk.file?, Disk.resolve,
      Disk.resolveWith_name (by decide) rfl isName (by simp [absent]), absent]
  exact congrArg₂ (· ++ ·) (missing (by decide) (by decide)) (missing (by decide) (by decide))

/-- Without rules nothing is ignored. -/
theorem ignores_nil (names : List String) (isFolder : Bool) :
    IgnoreRules.ignores [] names isFolder = false := by
  have none (names : List String) (isFolder : Bool) :
      IgnoreRules.verdict? [] names isFolder = none := rfl
  simp [IgnoreRules.ignores, none]

/-- If all folders could be listed, the file of such a tree would be tracked. -/
theorem exists_tracks_deepTree (root : String) (depth : Nat) :
    ∃ walked, Tracks { Workspace.walkFilter root {} [] with unlisted := fun _ => false }
      (deepTree depth) (List.replicate depth "d") "b.py" walked := by
  have isPython : (Path.extensionOfName? "b.py").bind Language.ofExtension? = some .python := by
    decide
  refine ⟨⟨Path.key _, .python, { content := ⟨Array.replicate 0 0⟩ }⟩,
    node?_deepTree_iff.2 ⟨rfl, rfl⟩, rfl, isPython, Nat.zero_le _, ignores_nil _ _, ?_,
    fun _ _ _ _ => ⟨rfl, rfl⟩⟩
  intro upper folder lower split
  have member : folder ∈ List.replicate depth "d" := by simp [split]
  rw [List.eq_of_mem_replicate member]
  exact ⟨by decide, ignores_nil _ _⟩

/-- A walk finds nothing in such a tree if it is deeper than a path can be long. -/
theorem walk_deepDisk {depth : Nat} (deep : Workspace.pathLimit ≤ depth) :
    Workspace.walk "/tree" {} (deepDisk depth) = (.ok [], deepDisk depth) := by
  have nothing (rules : IgnoreRules) :
      files (Workspace.walkFilter "/tree" {} rules) (deepTree depth) = [] := by
    refine List.eq_nil_iff_forall_not_mem.2 fun walked member => ?_
    obtain ⟨above, name, tracks⟩ := (mem_files_iff_tracks (isTree_deepTree depth)).1 member
    obtain ⟨rfl, -⟩ := List.append_inj' (node?_deepTree_iff.1 tracks.isFile).1 rfl
    have short := of_decide_eq_false (tracks.isSeen _ name [] rfl).1
    exact short (Nat.le_trans deep (le_utf8ByteSize_foldl_join "/tree" depth))
  have leads : (deepDisk depth).folder? "/tree" = some (["tree"], deepTree depth) := rfl
  rw [Workspace.walk_apply, leads, treeRules_deepDisk]
  exact congrArg (fun found => (Except.ok found, deepDisk depth)) (nothing [])

/-- A file that would be tracked is not found if a folder on the way to it has too long a path. -/
theorem deep_file_is_not_found :
    (deepTree Workspace.pathLimit).IsTree ∧
    (∃ walked, Tracks { Workspace.walkFilter "/tree" {} [] with unlisted := fun _ => false }
      (deepTree Workspace.pathLimit) (List.replicate Workspace.pathLimit "d") "b.py" walked) ∧
    Workspace.walk "/tree" {} (deepDisk Workspace.pathLimit) =
      (.ok [], deepDisk Workspace.pathLimit) :=
  ⟨isTree_deepTree _, exists_tracks_deepTree _ _, walk_deepDisk (Nat.le_refl _)⟩

end Walk

end SourceIndex
