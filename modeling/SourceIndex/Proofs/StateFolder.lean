import SourceIndex.Proofs.Action
import SourceIndex.Proofs.PathResolution

/-!
# The state folder

What the actions of a workspace do to the state folder of a tree, wherever it stands, as long as
none of the names they use is a link there. Saving an artifact replaces one file of the folder and
leaves no draft behind.
-/

namespace SourceIndex.Workspace

/-! ## Paths of state files -/

/-- Where the state folder of the tree at `home` stands. -/
def stateLocation (home : Location) : Location := home ++ [".arbor"]

/-- The names that a run uses in the state folder. -/
def stateNames : List String :=
  [graphFile.name, graphFile.draftName, manifestFile.name, manifestFile.draftName]

variable {home : Location}

theorem proper_stateLocation (proper : Disk.Proper home) : Disk.Proper (stateLocation home) :=
  proper.append (by decide)

theorem stateFolder_absolute (proper : Disk.Proper home) :
    stateFolder (Path.absolute home) = Path.absolute (stateLocation home) :=
  Path.join_absolute proper (by decide)

theorem stateFile_absolute (proper : Disk.Proper home) {name : String} (isName : Path.Proper name) :
    stateFile (Path.absolute home) name = Path.absolute (stateLocation home ++ [name]) := by
  rw [stateFile, stateFolder_absolute proper, Path.join_absolute (proper_stateLocation proper)
    isName]

/-- State files are told apart by their names. -/
theorem stateFile_inj (proper : Disk.Proper home) {first second : String}
    (isFirst : Path.Proper first) (isSecond : Path.Proper second) :
    stateFile (Path.absolute home) first = stateFile (Path.absolute home) second ↔
      first = second := by
  refine ⟨fun same => ?_, fun same => same ▸ rfl⟩
  have components := congrArg Path.components same
  rw [stateFile_absolute proper isFirst, stateFile_absolute proper isSecond,
    Path.components_absolute ((proper_stateLocation proper).append isFirst),
    Path.components_absolute ((proper_stateLocation proper).append isSecond)] at components
  simpa using components

/-! ## Creating the folder -/

theorem resolveReversed_components (disk : Disk) (last : Bool) {names : Location}
    (proper : Disk.Proper names) :
    disk.resolveReversed last (Path.components (Path.absolute names)).reverse =
      disk.resolveWith last (Path.absolute names) := by
  rw [Disk.resolveReversed, List.reverse_reverse, Path.components_absolute proper,
    Disk.resolveWith_absolute disk last proper]
  exact Disk.follow_congr rfl

variable {disk : Disk} {place : Location} {outside inside : Folder}

/-- A folder is created in a folder that exists. -/
theorem makeFolders_of_absent {name : String} (proper : Disk.Proper home)
    (isName : Path.Proper name) (upper : disk.node? home = some (.folder outside))
    (absent : outside.get? name = none) :
    disk.makeFolders (Path.absolute (home ++ [name])) =
      .ok (disk.put (home ++ [name]) (.folder [])) := by
  have way := resolveReversed_components disk false (proper.append isName)
  rw [Disk.resolveWith_name proper upper isName (by simp), absent] at way
  rw [Disk.makeFolders]
  cases parts : (Path.components (Path.absolute (home ++ [name]))).reverse with
  | nil => simp [Path.components_absolute (proper.append isName)] at parts
  | cons component before =>
    rw [parts] at way
    rw [Disk.ensureFolders, Disk.ensureFolder, way]
    rfl

/-- The state folder is created, if there is nothing in its place. -/
theorem ensureFolder_apply_of_absent (proper : Disk.Proper home)
    (upper : disk.node? home = some (.folder outside))
    (absent : disk.node? (stateLocation home) = none) :
    ensureFolder (Path.absolute home) disk =
      (.ok (), disk.put (stateLocation home) (.folder [])) := by
  have missing : outside.get? ".arbor" = none := by
    rw [← Folder.node?_append_singleton upper]
    exact absent
  rw [ensureFolder, perform_apply, stateFolder_absolute proper, stateLocation,
    makeFolders_of_absent proper (by decide) upper missing]

/-! ## Where the folder stands -/

/-- Whether a name stands for a folder, which is in the way of a file. -/
def isFolder (inside : Folder) (name : String) : Bool :=
  match inside.get? name with
  | some (.folder _) => true
  | _ => false

/-- What reading a name of the state folder gives. -/
def contentIn (inside : Folder) (name : String) : Except Disk.Fault ByteArray :=
  match inside.get? name with
  | some (.file file) => if file.readable then .ok file.content else .error .refused
  | none => .error .missing
  | _ => .error .refused

/-- The state folder of a tree stands at `place`, and the tree leads to it, perhaps through
links. -/
structure Sited (disk : Disk) (home place : Location) (inside : Folder) : Prop where
  proper : Disk.Proper home
  leads : disk.resolve (stateFolder (Path.absolute home)) = .found place (.folder inside)

namespace Sited

theorem follow (site : Sited disk home place inside) :
    disk.follow true Disk.maxLinks [] ((stateLocation home).map .name) =
      .found place (.folder inside) := by
  rw [← Disk.resolveWith_absolute disk true (proper_stateLocation site.proper),
    ← stateFolder_absolute site.proper]
  exact site.leads

theorem node? (site : Sited disk home place inside) : disk.node? place = some (.folder inside) :=
  Disk.node?_of_follow site.follow

/-- What the path of a state file leads to, with a link followed or not. -/
theorem resolveWith (site : Sited disk home place inside) {last : Bool} {name : String}
    (isName : Path.Proper name)
    (plain : last = true → ∀ target, inside.get? name ≠ some (.link target)) :
    disk.resolveWith last (stateFile (Path.absolute home) name) =
      match inside.get? name with
      | none => .absent (place ++ [name])
      | some node => .found (place ++ [name]) node := by
  rw [stateFile_absolute site.proper isName,
    Disk.resolveWith_absolute disk last ((proper_stateLocation site.proper).append isName),
    List.map_append]
  exact Disk.follow_append_name site.follow name plain

/-- The state folder is where it was after its files were replaced. -/
theorem replace (site : Sited disk home place inside) {next : Folder}
    (grows : disk.Grows (disk.replace place next)) :
    Sited (disk.replace place next) home place next := by
  obtain ⟨other, led⟩ := Disk.resolve_folder_of_grows grows rfl site.leads
  have moved : Sited (disk.replace place next) home place other := ⟨site.proper, led⟩
  have same := moved.node?.symm.trans (Disk.node?_replace site.node? next)
  cases same
  exact moved

/-- A state folder that exists is left alone. -/
theorem ensureFolder (site : Sited disk home place inside) :
    Workspace.ensureFolder (Path.absolute home) disk = (.ok (), disk) := by
  have way (last : Bool) :=
    resolveReversed_components disk last (proper_stateLocation site.proper)
  have led : disk.resolveWith true (Path.absolute (stateLocation home)) =
      .found place (.folder inside) := by
    rw [← stateFolder_absolute site.proper]
    exact site.leads
  have present : ∀ location,
      disk.resolveWith false (Path.absolute (stateLocation home)) ≠ .absent location := by
    intro location absent
    rw [Disk.resolveWith_absolute disk false (proper_stateLocation site.proper)] at absent
    cases (Disk.follow_true absent (by simp)).symm.trans site.follow
  rw [Workspace.ensureFolder, perform_apply, stateFolder_absolute site.proper, Disk.makeFolders]
  cases parts : (Path.components (Path.absolute (stateLocation home))).reverse with
  | nil => rfl
  | cons component before =>
    rw [parts] at way
    rw [Disk.ensureFolders, Disk.ensureFolder, way, way, led]
    cases located : disk.resolveWith false (Path.absolute (stateLocation home)) with
    | absent location => exact absurd located (present location)
    | found location node => rfl
    | missing => rfl
    | blocked => rfl

/-- Reading a state file. -/
theorem read (site : Sited disk home place inside) {name : String} (isName : Path.Proper name)
    (plain : ∀ target, inside.get? name ≠ some (.link target)) :
    disk.read (stateFile (Path.absolute home) name) = contentIn inside name := by
  rw [Disk.read, Disk.resolve, site.resolveWith isName fun _ => plain, contentIn]
  rcases inside.get? name with _ | (_ | _ | _) <;> rfl

/-- The content of a state file that was written. -/
theorem read_text (site : Sited disk home place inside) {name text : String}
    (isName : Path.Proper name)
    (known : inside.get? name = some (.file { content := text.toUTF8 })) :
    disk.read (stateFile (Path.absolute home) name) = .ok text.toUTF8 := by
  rw [site.read isName (by simp [known]), contentIn, known]
  rfl

/-- Writing a state file replaces it. -/
theorem write (site : Sited disk home place inside) {name : String} (isName : Path.Proper name)
    (plain : ∀ target, inside.get? name ≠ some (.link target)) (file : DiskFile) :
    disk.write (stateFile (Path.absolute home) name) file =
      if isFolder inside name then .error .refused
      else .ok (disk.replace place (inside.set name (.file file))) := by
  rw [Disk.write, Disk.resolve, site.resolveWith isName fun _ => plain,
    ← Disk.put_eq_replace site.node?, isFolder]
  cases known : inside.get? name with
  | none => rfl
  | some node =>
    cases node with
    | folder _ => rfl
    | file _ => rfl
    | link target => exact absurd known (plain target)

/-- Renaming a draft moves it within the state folder. -/
theorem rename (site : Sited disk home place inside) {draft name : String}
    (isDraft : Path.Proper draft) (isName : Path.Proper name) {node : DiskNode}
    (drafted : inside.get? draft = some node) (movable : ∀ entries, node ≠ .folder entries) :
    disk.rename (stateFile (Path.absolute home) draft) (stateFile (Path.absolute home) name) =
      if isFolder inside name then .error .refused
      else .ok (disk.replace place ((inside.erase draft).set name node)) := by
  have moved : (disk.remove (place ++ [draft])).put (place ++ [name]) node =
      disk.replace place ((inside.erase draft).set name node) := by
    rw [Disk.remove_eq_replace site.node?,
      Disk.put_eq_replace (Disk.node?_replace site.node? (inside.erase draft)),
      Disk.replace_replace]
  rw [Disk.rename, Disk.locate, Disk.locate, site.resolveWith isDraft (by simp),
    site.resolveWith isName (by simp), drafted, isFolder]
  cases node with
  | folder entries => exact absurd rfl (movable entries)
  | file _ => rcases inside.get? name with _ | (_ | _ | _) <;> simp [moved]
  | link _ => rcases inside.get? name with _ | (_ | _ | _) <;> simp [moved]

end Sited

/-- A state folder in the tree itself. -/
theorem sited_of_folder (proper : Disk.Proper home)
    (found : disk.node? (stateLocation home) = some (.folder inside)) :
    Sited disk home (stateLocation home) inside := by
  refine ⟨proper, ?_⟩
  rw [stateFolder_absolute proper]
  exact Disk.resolveWith_folder true (proper_stateLocation proper) found

/-! ## Artifacts -/

/-- The state folder while an artifact is written. -/
def drafted (inside : Folder) (artifact : Artifact) (text : String) : Folder :=
  inside.set artifact.draftName (.file { content := text.toUTF8 })

/-- The state folder after an artifact was saved: no draft is left. -/
def saved (inside : Folder) (artifact : Artifact) (text : String) : Folder :=
  (inside.erase artifact.draftName).set artifact.name (.file { content := text.toUTF8 })

/-- What saving an artifact gives and what the state folder holds then. A folder in place of the
draft or of the artifact stops it. -/
def saveIn (root : String) (inside : Folder) (artifact : Artifact) (text : String) :
    Except WorkspaceError Unit × Folder :=
  if isFolder inside artifact.draftName then
    (.error (.inaccessible (artifact.draftPath root)), inside)
  else if isFolder inside artifact.name then
    (.error (.inaccessible (artifact.path root)), drafted inside artifact text)
  else (.ok (), saved inside artifact text)

/-- An artifact is saved exactly if no folder is in the way. -/
theorem saveIn_eq_ok_iff {root : String} {artifact : Artifact} {text : String} {after : Folder} :
    saveIn root inside artifact text = (.ok (), after) ↔
      isFolder inside artifact.draftName = false ∧ isFolder inside artifact.name = false ∧
        after = saved inside artifact text := by
  rw [saveIn]
  cases isFolder inside artifact.draftName <;> cases isFolder inside artifact.name <;>
    simp [eq_comm]

/-- A change of names that do not stand for folders keeps folders and other links. -/
theorem keeps_of_get? {next : Folder} {names : List String}
    (free : ∀ name ∈ names, isFolder inside name = false)
    (same : ∀ name, name ∉ names → next.get? name = inside.get? name) :
    Folder.Keeps names inside next where
  folder {name entries} known := by
    have other : name ∉ names := by
      intro member
      have folder := free name member
      rw [isFolder, known] at folder
      cases folder
    rw [same name other]
    exact known
  link other known := (same _ other).trans known

theorem keeps_drafted {artifact : Artifact} (text : String)
    (free : isFolder inside artifact.draftName = false) :
    Folder.Keeps [artifact.draftName] inside (drafted inside artifact text) := by
  apply keeps_of_get?
  · simpa using free
  · intro name other
    exact Folder.get?_set_of_ne _ (by simpa [eq_comm] using other) _

section

variable (site : Sited disk home place inside) (artifact : Artifact)
variable (isDraft : Path.Proper artifact.draftName) (isName : Path.Proper artifact.name)
variable (differs : artifact.draftName ≠ artifact.name)
variable (plain : ∀ target, inside.get? artifact.draftName ≠ some (.link target)) (text : String)
include site isDraft isName differs plain

/-- What saving an artifact does to the state folder. A folder in the way of the draft is noticed
before anything has changed, one in the way of the artifact only once there is a draft. -/
theorem Sited.save_apply :
    save (Path.absolute home) artifact text disk =
      if isFolder inside artifact.draftName then
        (.error (.inaccessible (artifact.draftPath (Path.absolute home))), disk)
      else if isFolder inside artifact.name then
        (.error (.inaccessible (artifact.path (Path.absolute home))),
          disk.replace place (drafted inside artifact text))
      else (.ok (), disk.replace place (saved inside artifact text)) := by
  have written := site.write isDraft plain { content := text.toUTF8 }
  rw [save, bind_apply, site.ensureFolder]
  simp only [bind_apply, perform_apply, Artifact.draftPath, Artifact.path, written]
  cases freeDraft : isFolder inside artifact.draftName with
  | true => rfl
  | false =>
    have grows := Disk.grows_replace site.node? (keeps_drafted text freeDraft)
      (by simpa using fun target known => absurd known (plain target))
    have renamed := (site.replace grows).rename isDraft isName (Folder.get?_set ..) (by simp)
    rw [isFolder, drafted, Folder.get?_set_of_ne _ differs, ← isFolder, Folder.erase_set,
      Disk.replace_replace] at renamed
    simp only [Bool.false_eq_true, if_false, renamed]
    cases isFolder inside artifact.name <;> rfl

end

/-! ## What the state folder holds -/

/-- Two disks that differ at most in the state folder of a tree. -/
def SameTree (home : Location) (first second : Disk) : Prop :=
  second.remove (stateLocation home) = first.remove (stateLocation home)

/-- The state folder of a tree holds `inside`. A missing folder holds nothing. -/
def Holds (disk : Disk) (home : Location) (inside : Folder) : Prop :=
  disk.node? (stateLocation home) = some (.folder inside) ∨
    disk.node? (stateLocation home) = none ∧ inside = []

/-- A tree that exists, with what its state folder holds. -/
structure Ready (disk : Disk) (home : Location) (inside : Folder) : Prop where
  proper : Disk.Proper home
  upper : ∃ outside : Folder, disk.node? home = some (.folder outside)
  holds : Holds disk home inside

namespace Ready

/-- The state folder can be replaced. -/
theorem put (ready : Ready disk home inside) (next : Folder) :
    Ready (disk.put (stateLocation home) (.folder next)) home next := by
  obtain ⟨outside, upper⟩ := ready.upper
  exact ⟨ready.proper, ⟨_, Disk.node?_put_above upper _ _⟩, .inl (Disk.node?_put upper _ _)⟩

theorem sameTree_put (disk : Disk) (home : Location) (node : DiskNode) :
    SameTree home disk (disk.put (stateLocation home) node) :=
  Disk.remove_put disk home ".arbor" node

/-- After the state folder was created, it exists and holds what it held. -/
theorem ensureFolder (ready : Ready disk home inside) :
    ∃ next, Workspace.ensureFolder (Path.absolute home) disk = (.ok (), next) ∧
      Ready next home inside ∧ next.node? (stateLocation home) = some (.folder inside) ∧
      SameTree home disk next := by
  obtain ⟨outside, upper⟩ := ready.upper
  rcases ready.holds with found | ⟨absent, rfl⟩
  · exact ⟨disk, (sited_of_folder ready.proper found).ensureFolder, ready, found, rfl⟩
  · exact ⟨_, ensureFolder_apply_of_absent ready.proper upper absent, ready.put [],
      Disk.node?_put upper _ _, sameTree_put ..⟩

/-- What the path of a state file leads to if the folder is missing. -/
theorem resolveWith_of_absent (ready : Ready disk home inside)
    (absent : disk.node? (stateLocation home) = none) (last : Bool) {name : String}
    (isName : Path.Proper name) :
    disk.resolveWith last (stateFile (Path.absolute home) name) = .missing := by
  obtain ⟨outside, upper⟩ := ready.upper
  have missing : outside.get? ".arbor" = none := by
    rw [← Folder.node?_append_singleton upper]
    exact absent
  rw [stateFile_absolute ready.proper isName]
  exact Disk.resolveWith_missing last ready.proper upper (by decide) isName missing

/-- Reading a state file. -/
theorem read (ready : Ready disk home inside) {name : String} (isName : Path.Proper name)
    (plain : ∀ target, inside.get? name ≠ some (.link target)) :
    disk.read (stateFile (Path.absolute home) name) = contentIn inside name := by
  rcases ready.holds with found | ⟨absent, rfl⟩
  · exact (sited_of_folder ready.proper found).read isName plain
  · rw [Disk.read, Disk.resolve, ready.resolveWith_of_absent absent true isName]
    rfl

/-- Discarding an artifact erases its name, unless a folder is in the way. -/
theorem discard (ready : Ready disk home inside) {artifact : Artifact}
    (isName : Path.Proper artifact.name) (free : isFolder inside artifact.name = false) :
    ∃ next, Workspace.discard (Path.absolute home) artifact disk = (.ok (), next) ∧
      Ready next home (inside.erase artifact.name) ∧ SameTree home disk next := by
  rw [Workspace.discard, get_bind_apply, Disk.removeFile, Artifact.path]
  rcases ready.holds with found | ⟨absent, rfl⟩
  · have site := sited_of_folder ready.proper found
    have removed := Disk.remove_eq_replace found artifact.name
    have erased := ready.put (inside.erase artifact.name)
    rw [stateLocation, Disk.replace_eq_put found] at removed
    rw [Disk.locate, site.resolveWith isName (by simp)]
    cases known : inside.get? artifact.name with
    | none =>
      refine ⟨disk, rfl, ?_, rfl⟩
      rw [Folder.erase_of_get?_eq_none known]
      exact ready
    | some node =>
      cases node with
      | folder entries => simp [isFolder, known] at free
      | file file =>
        simp only [stateLocation, removed]
        exact ⟨_, rfl, erased, sameTree_put ..⟩
      | link target =>
        simp only [stateLocation, removed]
        exact ⟨_, rfl, erased, sameTree_put ..⟩
  · rw [Disk.locate, ready.resolveWith_of_absent absent false isName]
    exact ⟨disk, rfl, ready, rfl⟩

/-- Saving an artifact, in a state folder that is created if it is missing. -/
theorem save (ready : Ready disk home inside) {artifact : Artifact}
    (isDraft : Path.Proper artifact.draftName) (isName : Path.Proper artifact.name)
    (differs : artifact.draftName ≠ artifact.name)
    (plain : ∀ target, inside.get? artifact.draftName ≠ some (.link target)) (text : String) :
    ∃ next, Workspace.save (Path.absolute home) artifact text disk =
        ((saveIn (Path.absolute home) inside artifact text).1, next) ∧
      Ready next home (saveIn (Path.absolute home) inside artifact text).2 ∧
      SameTree home disk next := by
  obtain ⟨next, made, ready, found, same⟩ := ready.ensureFolder
  have site := sited_of_folder ready.proper found
  have begun : Workspace.save (Path.absolute home) artifact text disk =
      Workspace.save (Path.absolute home) artifact text next := by
    rw [Workspace.save, bind_apply, made, bind_apply, site.ensureFolder]
  have moved (after : Folder) : Ready (next.replace (stateLocation home) after) home after ∧
      SameTree home disk (next.replace (stateLocation home) after) := by
    rw [stateLocation, Disk.replace_eq_put found]
    exact ⟨ready.put after, (sameTree_put next home _).trans same⟩
  rw [begun, site.save_apply artifact isDraft isName differs plain text, saveIn]
  cases isFolder inside artifact.draftName with
  | true => exact ⟨next, rfl, ready, same⟩
  | false => cases isFolder inside artifact.name <;> exact ⟨_, rfl, moved _⟩

end Ready

end SourceIndex.Workspace
