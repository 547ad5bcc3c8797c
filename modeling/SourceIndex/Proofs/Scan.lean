import SourceIndex.Proofs.Changes
import SourceIndex.Proofs.StateFolder
import SourceIndex.Proofs.Walk

/-!
# What a scan depends on

A scan gives the files of the tree that its filter tracks, each with the language of its path. It
does not look into the state folder, so two disks with the same tree have the same sources.
-/

namespace SourceIndex

namespace Walk

variable {filter : Filter} {walked : WalkedFile}

/-- Whatever stands in the place of the state folder is left out. -/
theorem nodeLayers_state (filter : Filter) (node : DiskNode) :
    nodeLayers filter [] ".arbor" node = [] := by
  cases node with
  | file file => rfl
  | link target => rfl
  | folder entries =>
    have left : filter.enters [] ".arbor" = false := by simp [Filter.enters, skippedFolders]
    rw [nodeLayers, left]
    rfl

/-- A name under which a walk sees nothing can be left out. -/
theorem folderLayers_erase_of_unseen {above : List String} {name : String} {folder : Folder}
    (unseen : ∀ entry ∈ folder, entry.1 = name → nodeLayers filter above name entry.2 = []) :
    folderLayers filter above (folder.erase name) = folderLayers filter above folder := by
  induction folder with
  | nil => rfl
  | cons entry folder ih =>
    have rest := ih fun other member => unseen other (List.mem_cons_of_mem _ member)
    rw [Folder.erase] at rest ⊢
    rw [List.filter_cons, folderLayers]
    split
    case isTrue => rw [folderLayers, rest]
    case isFalse same =>
      have named : entry.1 = name := by simpa using same
      rw [rest, named, unseen entry (List.mem_cons_self ..) named, beside]

/-- A walk does not see the state folder. -/
theorem folderLayers_erase (filter : Filter) (folder : Folder) :
    folderLayers filter [] (folder.erase ".arbor") = folderLayers filter [] folder :=
  folderLayers_erase_of_unseen fun entry _ _ => nodeLayers_state filter entry.2

theorem files_congr {first second : Folder} (filter : Filter)
    (same : second.erase ".arbor" = first.erase ".arbor") :
    files filter second = files filter first := by
  rw [files_eq_sortBy, files_eq_sortBy, ← folderLayers_erase filter second, same,
    folderLayers_erase]

/-- A walked file has the language of its path. -/
def Named (walked : WalkedFile) : Prop := Language.ofPath? walked.path = some walked.language

mutual

theorem named_of_mem_nodeLayers {above : List String} {name : String} (node : DiskNode)
    (member : walked ∈ (nodeLayers filter above name node).flatten) : Named walked := by
  cases node with
  | file file =>
    have tracked : filter.tracked? above name file = some walked := by
      rw [mem_nodeLayers_iff] at member
      simpa using member
    exact ((tracked?_eq_some_iff filter).1 tracked).2.2.1
  | link target => cases member
  | folder entries =>
    rw [nodeLayers] at member
    split at member
    · exact named_of_mem_folderLayers entries member
    · cases member

theorem named_of_mem_folderLayers {above : List String} (entries : List (String × DiskNode))
    (member : walked ∈ (folderLayers filter above entries).flatten) : Named walked := by
  cases entries with
  | nil => cases member
  | cons entry entries =>
    rw [folderLayers, mem_flatten_beside] at member
    rcases member with here | there
    · exact named_of_mem_nodeLayers entry.2 here
    · exact named_of_mem_folderLayers entries there

end

theorem named_of_mem_files {folder : Folder} (member : walked ∈ files filter folder) :
    Named walked :=
  named_of_mem_folderLayers folder ((mem_files_iff filter).1 member)

end Walk

namespace Workspace

variable {disk first second : Disk} {home : Location} {root : String} {scan : Scan}

/-! ## Sources -/

/-- The rules of the ignore files of a tree. -/
def treeRules (disk : Disk) (root : String) (scan : Scan) : IgnoreRules :=
  fileRules disk (Path.join root ".gitignore") ++ fileRules disk (Path.join root scan.ignoreFile)

/-- The tracked files of a folder under the rules of its ignore files. -/
def walkedOf (root : String) (scan : Scan) (rules : IgnoreRules) (folder : Folder) :
    Except WorkspaceError (List WalkedFile) :=
  match IgnoreRules.ofPatterns? scan.extraIgnores with
  | none => .error .ignorePattern
  | some patterns => .ok (Walk.files (walkFilter root scan (rules ++ patterns)) folder)

/-- The sources of walked files, if all of them can be read. -/
def readAll (root : String) (walked : List WalkedFile) : Except WorkspaceError (List Source) :=
  if walked.all (isReadable root) then .ok (walked.map sourceOf)
  else .error (.unreadable ((walked.filter (!isReadable root ·)).map (walkedPath root)))

/-- The sources of a folder under the rules of its ignore files. -/
def sourcesOf (root : String) (scan : Scan) (rules : IgnoreRules) (folder : Folder) :
    Except WorkspaceError (List Source) :=
  (walkedOf root scan rules folder).bind (readAll root)

/-- What a walk gives is a function of the folder and of its ignore files. -/
theorem walk_apply (root : String) (scan : Scan) (disk : Disk) :
    walk root scan disk =
      (match disk.folder? root with
        | none => .error (.rootMissing root)
        | some (_, folder) => walkedOf root scan (treeRules disk root scan) folder, disk) := by
  rw [walk, get_bind_apply]
  cases disk.folder? root with
  | none => rfl
  | some found =>
    simp only [walkedOf]
    rw [bind_apply, ignoreRules, get_bind_apply]
    cases IgnoreRules.ofPatterns? scan.extraIgnores <;> rfl

/-- What a scan gives is a function of the folder and of its ignore files. -/
theorem sources_apply (root : String) (scan : Scan) (disk : Disk) :
    sources root scan disk =
      (match disk.folder? root with
        | none => .error (.rootMissing root)
        | some (_, folder) => sourcesOf root scan (treeRules disk root scan) folder, disk) := by
  rw [sources, bind_apply, walk_apply]
  cases disk.folder? root with
  | none => rfl
  | some found =>
    simp only [sourcesOf]
    cases walkedOf root scan (treeRules disk root scan) found.2 with
    | error error => rfl
    | ok walked =>
      simp only [Except.bind, readAll]
      split <;> rfl

theorem reads_sources (root : String) (scan : Scan) : Reads (sources root scan) := by
  intro disk
  rw [sources_apply]

/-- The sources of a scan are those of the files of a walk. -/
theorem exists_walk_of_sources {found : List Source}
    (done : sources root scan disk = (.ok found, disk)) :
    ∃ place folder filter, disk.folder? root = some (place, folder) ∧
      found = (Walk.files filter folder).map sourceOf := by
  rw [sources_apply] at done
  split at done
  case h_1 => cases done
  case h_2 place folder leads =>
    rw [sourcesOf, walkedOf] at done
    cases patterns : IgnoreRules.ofPatterns? scan.extraIgnores with
    | none =>
      rw [patterns] at done
      cases done
    | some patterns' =>
      rw [patterns] at done
      simp only [Except.bind, readAll] at done
      split at done
      case isTrue =>
        cases done
        exact ⟨place, folder, _, leads, rfl⟩
      case isFalse => cases done

/-- A source has the language of its path. -/
theorem language_of_mem_sources {found : List Source} {source : Source}
    (done : sources root scan disk = (.ok found, disk)) (member : source ∈ found) :
    Language.ofPath? source.path = some source.language := by
  obtain ⟨place, folder, filter, -, rfl⟩ := exists_walk_of_sources done
  obtain ⟨walked, listed, rfl⟩ := List.mem_map.1 member
  exact Walk.named_of_mem_files listed

/-! ## Disks with the same tree -/

/-- Disks with the same tree have the same root folder, apart from the state folder. -/
theorem SameTree.exists_outside (same : SameTree home first second) {outside : Folder}
    (upper : first.node? home = some (.folder outside)) :
    ∃ other : Folder, second.node? home = some (.folder other) ∧
      other.erase ".arbor" = outside.erase ".arbor" := by
  have erased := Folder.node?_modify (fun folder => folder.erase ".arbor") upper
  rw [SameTree, stateLocation, Disk.remove_append, Disk.remove_append] at same
  rw [← (Disk.mk.inj same).1] at erased
  obtain ⟨other, found, equal⟩ := Folder.exists_of_node?_modify erased
  exact ⟨other, found, equal.symm⟩

/-- The file at a path does not lie in the state folder: it is the same whatever the folder
holds. -/
def Apart (disk : Disk) (home : Location) (path : String) : Prop :=
  ∀ other, SameTree home disk other → other.file? path = disk.file? path

theorem Apart.congr {path : String} (same : SameTree home first second)
    (apart : Apart first home path) : Apart second home path := by
  intro other moved
  rw [apart other (moved.trans same), apart second same]

/-- A file of the root folder, or a missing one, is such a file. -/
theorem apart_of_name {outside : Folder} {name : String} (proper : Disk.Proper home)
    (upper : disk.node? home = some (.folder outside)) (isName : Path.Proper name)
    (differs : name ≠ ".arbor") (plain : ∀ target, outside.get? name ≠ some (.link target)) :
    Apart disk home (Path.join (Path.absolute home) name) := by
  intro other same
  obtain ⟨next, found, erased⟩ := same.exists_outside upper
  have entry : next.get? name = outside.get? name := by
    rw [← Folder.get?_erase_of_ne next differs.symm, erased, Folder.get?_erase_of_ne _ differs.symm]
  rw [Path.join_absolute proper isName, Disk.file?, Disk.file?, Disk.resolve, Disk.resolve,
    Disk.resolveWith_name proper upper isName fun _ => plain,
    Disk.resolveWith_name proper found isName fun _ => by rwa [entry], entry]

/-- The paths of the ignore files of a tree. -/
def ignorePaths (root : String) (scan : Scan) : List String :=
  [Path.join root ".gitignore", Path.join root scan.ignoreFile]

/-- Disks have the same sources if a walk sees the same files and the ignore files are the same. -/
theorem sources_of_files (proper : Disk.Proper home) {outside other : Folder}
    (upper : first.node? home = some (.folder outside))
    (found : second.node? home = some (.folder other))
    (files : ∀ filter, Walk.files filter other = Walk.files filter outside)
    (ignores : ∀ path ∈ ignorePaths (Path.absolute home) scan,
      second.file? path = first.file? path) :
    (sources (Path.absolute home) scan second).1 = (sources (Path.absolute home) scan first).1 := by
  have rules : treeRules second (Path.absolute home) scan =
      treeRules first (Path.absolute home) scan := by
    simp only [ignorePaths, List.forall_mem_cons] at ignores
    rw [treeRules, treeRules, fileRules, fileRules, fileRules, fileRules, ignores.1, ignores.2.1]
  rw [sources_apply, sources_apply, Disk.folder?, Disk.folder?, Disk.resolve, Disk.resolve,
    Disk.resolveWith_folder true proper upper, Disk.resolveWith_folder true proper found, rules]
  simp only [sourcesOf, walkedOf, files]

/-- Disks with the same tree have the same sources, if the ignore files are part of the tree. -/
theorem sources_congr (proper : Disk.Proper home) {outside : Folder}
    (upper : first.node? home = some (.folder outside)) (same : SameTree home first second)
    (apart : ∀ path ∈ ignorePaths (Path.absolute home) scan, Apart first home path) :
    (sources (Path.absolute home) scan second).1 = (sources (Path.absolute home) scan first).1 := by
  obtain ⟨other, found, erased⟩ := same.exists_outside upper
  exact sources_of_files proper upper found (fun filter => Walk.files_congr filter erased)
    fun path member => apart path member second same

end Workspace

end SourceIndex
