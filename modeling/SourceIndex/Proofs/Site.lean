import SourceIndex.Proofs.Run

/-!
# State folders behind links

The state folder of a tree may be a link to a folder elsewhere. Wherever it stands, saving artifacts
replaces files in it, as long as none of the names that a run uses there is itself a link.
-/

namespace SourceIndex

namespace Workspace

variable {disk after : Disk} {home place : Location} {inside outside : Folder}

/-! ## Saving -/

theorem keeps_saved {artifact : Artifact} (text : String)
    (freeDraft : isFolder inside artifact.draftName = false)
    (freeName : isFolder inside artifact.name = false) :
    Folder.Keeps [artifact.draftName, artifact.name] inside (saved inside artifact text) := by
  apply keeps_of_get?
  · simpa using ⟨freeDraft, freeName⟩
  · intro name other
    simp only [List.mem_cons, List.not_mem_nil, or_false, not_or] at other
    rw [get?_saved, if_neg other.2, if_neg other.1]

section

variable (site : Sited disk home place inside) (artifact : Artifact)
variable (isDraft : Path.Proper artifact.draftName) (isName : Path.Proper artifact.name)
variable (differs : artifact.draftName ≠ artifact.name)
variable (plain : ∀ target, inside.get? artifact.draftName ≠ some (.link target)) (text : String)
include site isDraft isName differs plain

/-- Saving an artifact succeeds exactly if no folder is in the way, and replaces files of the state
folder. -/
theorem Sited.save_eq_ok_iff :
    save (Path.absolute home) artifact text disk = (.ok (), after) ↔
      isFolder inside artifact.draftName = false ∧ isFolder inside artifact.name = false ∧
        after = disk.replace place (saved inside artifact text) := by
  rw [site.save_apply artifact isDraft isName differs plain text]
  constructor
  · intro done
    cases draft : isFolder inside artifact.draftName <;>
      cases name : isFolder inside artifact.name <;> rw [draft, name] at done <;> cases done
    exact ⟨rfl, rfl, rfl⟩
  · rintro ⟨draft, name, rfl⟩
    rw [draft, name]
    rfl

end

/-! ## Writing the next state -/

/-- No folder is in the way of a run in the state folder. -/
def Open (inside : Folder) : Prop := ∀ name ∈ stateNames, isFolder inside name = false

/-- The names that a run uses in the state folder are fit for it: a draft is no link, and no path
through a link leads to a folder. -/
structure Fit (disk : Disk) (place : Location) (inside : Folder) : Prop where
  draft : ∀ artifact ∈ [graphFile, manifestFile], ∀ target,
    inside.get? artifact.draftName ≠ some (.link target)
  futile : ∀ name ∈ stateNames, ∀ target, inside.get? name = some (.link target) →
    disk.Futile place target

theorem Plain.fit (plain : Plain inside) (disk : Disk) (place : Location) :
    Fit disk place inside := by
  refine ⟨?_, fun name member target known => absurd known (plain name member target)⟩
  simpa using ⟨plain graphFile.draftName (by decide), plain manifestFile.draftName (by decide)⟩

/-- The state folder after the next state was written. -/
def written (inside : Folder) (next : Baseline) : Folder :=
  saved (saved inside graphFile (GraphLog.write next.store)) manifestFile next.manifest.write

theorem stores_written (inside : Folder) (next : Baseline) :
    Stores (written inside next) next.manifest next.store.records := by
  constructor <;> simp only [written, get?_saved] <;> rfl

theorem get?_written_of_not_mem (inside : Folder) (next : Baseline) {name : String}
    (other : name ∉ stateNames) : (written inside next).get? name = inside.get? name := by
  simp only [stateNames, List.mem_cons, List.not_mem_nil, or_false, not_or] at other
  rw [written, get?_saved, if_neg other.2.2.1, if_neg other.2.2.2, get?_saved, if_neg other.1,
    if_neg other.2.1]

theorem keeps_written (next : Baseline) (free : Open inside) :
    Folder.Keeps stateNames inside (written inside next) :=
  keeps_of_get? free fun _ other => get?_written_of_not_mem inside next other

/-- Saving the graph log does not change what the names of the manifest stand for. -/
theorem get?_saved_graph (inside : Folder) (text : String) {name : String}
    (listed : name ∈ [manifestFile.draftName, manifestFile.name]) :
    (saved inside graphFile text).get? name = inside.get? name := by
  simp only [List.mem_cons, List.not_mem_nil, or_false] at listed
  rw [get?_saved]
  rcases listed with rfl | rfl <;> rfl

section

variable (site : Sited disk home place inside) (fit : Fit disk place inside)
include site fit

theorem Sited.grows_written (free : Open inside) (next : Baseline) :
    disk.Grows (disk.replace place (written inside next)) :=
  Disk.grows_replace site.node? (keeps_written next free) fit.futile

theorem Sited.saveGraph_eq_ok_iff (text : String) :
    save (Path.absolute home) graphFile text disk = (.ok (), after) ↔
      isFolder inside graphFile.draftName = false ∧ isFolder inside graphFile.name = false ∧
        after = disk.replace place (saved inside graphFile text) :=
  site.save_eq_ok_iff graphFile (by decide) (by decide) (by decide)
    (fit.draft graphFile (by simp)) text

/-- The manifest is saved after the graph log. -/
theorem Sited.saveManifest_eq_ok_iff (freeDraft : isFolder inside graphFile.draftName = false)
    (freeName : isFolder inside graphFile.name = false) (graph text : String) :
    save (Path.absolute home) manifestFile text
        (disk.replace place (saved inside graphFile graph)) = (.ok (), after) ↔
      isFolder inside manifestFile.draftName = false ∧ isFolder inside manifestFile.name = false ∧
        after = disk.replace place (saved (saved inside graphFile graph) manifestFile text) := by
  have draft := get?_saved_graph inside graph (.head [manifestFile.name])
  have name := get?_saved_graph inside graph (.tail manifestFile.draftName (.head []))
  have listed : ∀ name ∈ [graphFile.draftName, graphFile.name], name ∈ stateNames := by decide
  have grows := Disk.grows_replace site.node? (keeps_saved graph freeDraft freeName)
    fun name member => fit.futile name (listed name member)
  rw [(site.replace grows).save_eq_ok_iff manifestFile (by decide) (by decide) (by decide)
    (by rw [draft]; exact fit.draft manifestFile (by simp)), isFolder, isFolder, draft, name,
    Disk.replace_replace]
  exact .rfl

/-- Writing the next state succeeds exactly if no folder is in the way, and replaces files of the
state folder. -/
theorem Sited.persist_eq_ok_iff (next : Baseline) :
    persist (Path.absolute home) next disk = (.ok (), after) ↔
      Open inside ∧ after = disk.replace place (written inside next) := by
  constructor
  · intro done
    obtain ⟨_, _, made, done⟩ := bind_ok done
    cases site.ensureFolder.symm.trans made
    obtain ⟨_, _, first, second⟩ := bind_ok done
    obtain ⟨draft, name, rfl⟩ := (site.saveGraph_eq_ok_iff fit _).1 first
    obtain ⟨nextDraft, nextName, rfl⟩ :=
      (site.saveManifest_eq_ok_iff fit draft name _ _).1 second
    refine ⟨?_, rfl⟩
    simp only [Open, stateNames, List.forall_mem_cons]
    exact ⟨name, draft, nextName, nextDraft, by simp⟩
  · rintro ⟨free, rfl⟩
    have first := (site.saveGraph_eq_ok_iff fit (GraphLog.write next.store)).2
      ⟨free _ (by decide), free _ (by decide), rfl⟩
    rw [persist, bind_apply, site.ensureFolder]
    simp only [bind_apply, first]
    exact (site.saveManifest_eq_ok_iff fit (free _ (by decide)) (free _ (by decide)) _ _).2
      ⟨free _ (by decide), free _ (by decide), rfl⟩

/-- A graph log is read from the state folder while files in it are replaced. -/
theorem Sited.read_graph_replace {next : Folder} (keeps : Folder.Keeps stateNames inside next)
    {text : String}
    (known : next.get? graphFile.name = some (.file { content := text.toUTF8 })) :
    (disk.replace place next).read (graphFile.path (Path.absolute home)) = .ok text.toUTF8 := by
  have moved := site.replace (Disk.grows_replace site.node? keeps fit.futile)
  exact moved.read_text (by decide) known

/-- Saving the manifest leaves the graph log as it was saved, even if it fails. -/
theorem Sited.read_graph_saveManifest (freeDraft : isFolder inside graphFile.draftName = false)
    (freeName : isFolder inside graphFile.name = false) (graph text : String) :
    (save (Path.absolute home) manifestFile text
        (disk.replace place (saved inside graphFile graph))).2.read
      (graphFile.path (Path.absolute home)) = .ok graph.toUTF8 := by
  have known := get?_saved inside graphFile graph graphFile.name
  have keeps : Folder.Keeps stateNames inside (saved inside graphFile graph) :=
    (keeps_saved graph freeDraft freeName).mono (by decide)
  have moved := site.replace (Disk.grows_replace site.node? keeps fit.futile)
  have plain : ∀ target, (saved inside graphFile graph).get? manifestFile.draftName ≠
      some (.link target) := by
    rw [get?_saved_graph inside graph (.head [manifestFile.name])]
    exact fit.draft manifestFile (by simp)
  rw [moved.save_apply manifestFile (by decide) (by decide) (by decide) plain,
    Disk.replace_replace, Disk.replace_replace]
  split
  case isTrue => exact site.read_graph_replace fit keeps known
  case isFalse draft =>
    rw [Bool.not_eq_true] at draft
    split
    case isTrue =>
      refine site.read_graph_replace fit
        (keeps.trans ((keeps_drafted text draft).mono (by decide))) ?_
      rw [drafted, Folder.get?_set_of_ne _ (by decide)]
      exact known
    case isFalse name =>
      rw [Bool.not_eq_true] at name
      refine site.read_graph_replace fit
        (keeps.trans ((keeps_saved text draft name).mono (by decide))) ?_
      rw [get?_saved]
      exact known

/-- Next states with the same store lead to the same graph log. -/
theorem Sited.read_graph_persist {one two : Baseline} (same : one.store = two.store) :
    (persist (Path.absolute home) one disk).2.read (graphFile.path (Path.absolute home)) =
      (persist (Path.absolute home) two disk).2.read (graphFile.path (Path.absolute home)) := by
  rw [persist, persist, bind_apply, bind_apply, site.ensureFolder]
  simp only [bind_apply, same]
  rcases first : save (Path.absolute home) graphFile (GraphLog.write two.store) disk with
    ⟨_ | _, middle⟩
  · rfl
  · obtain ⟨draft, name, rfl⟩ := (site.saveGraph_eq_ok_iff fit _).1 first
    exact (site.read_graph_saveManifest fit draft name _ _).trans
      (site.read_graph_saveManifest fit draft name _ _).symm

end

/-- The text of a state file that was written, wherever the state folder stands. -/
theorem Sited.readText?_file (site : Sited disk home place inside) {name text : String}
    (isName : Path.Proper name)
    (known : inside.get? name = some (.file { content := text.toUTF8 })) :
    readText? (stateFile (Path.absolute home) name) disk = (.ok (some text), disk) :=
  readText?_of_read (site.read_text isName known)

/-- The graph log that was written, wherever the state folder stands. -/
theorem Sited.read_graph (site : Sited disk home place inside) {manifest : Manifest}
    {records : List Record} (stores : Stores inside manifest records) :
    disk.read (graphFile.path (Path.absolute home)) =
      .ok (String.ofList (records.flatMap GraphLog.line)).toUTF8 :=
  site.read_text (by decide) stores.graph

/-! ## Creating the state folder -/

/-- A state folder that was created stands in the tree. -/
theorem sited_created (proper : Disk.Proper home) (upper : disk.node? home = some (.folder outside))
    (entries : Folder) :
    Sited (disk.put (stateLocation home) (.folder entries)) home (stateLocation home) entries :=
  sited_of_folder proper (Disk.node?_put upper _ _)

/-- After the state folder was ensured, there is one: it was there, or it was created. -/
theorem exists_site_of_ensureFolder (proper : Disk.Proper home)
    (upper : disk.node? home = some (.folder outside))
    (done : ensureFolder (Path.absolute home) disk = (.ok (), after)) :
    (∃ place inside, Sited disk home place inside ∧ after = disk) ∨
      disk.node? (stateLocation home) = none ∧
        after = disk.put (stateLocation home) (.folder []) := by
  have known : disk.node? (stateLocation home) = outside.get? ".arbor" :=
    Folder.node?_append_singleton upper _
  cases entry : outside.get? ".arbor" with
  | none =>
    rw [entry] at known
    rw [ensureFolder_apply_of_absent proper upper known] at done
    cases done
    exact .inr ⟨known, rfl⟩
  | some node =>
    have located : disk.resolveWith false (Path.absolute (stateLocation home)) =
        .found (stateLocation home) node := by
      rw [stateLocation, Disk.resolveWith_name proper upper (by decide) (by simp), entry]
    have way (last : Bool) := resolveReversed_components disk last (proper_stateLocation proper)
    rw [ensureFolder, perform_apply, stateFolder_absolute proper, Disk.makeFolders] at done
    cases parts : (Path.components (Path.absolute (stateLocation home))).reverse with
    | nil => simp [Path.components_absolute (proper_stateLocation proper)] at parts
    | cons component before =>
      rw [parts] at way done
      rw [Disk.ensureFolders, Disk.ensureFolder, way, way, located] at done
      simp only [Disk.makeFolder] at done
      rcases led : disk.resolveWith true (Path.absolute (stateLocation home)) with
        ⟨place, _ | _ | inside⟩ | _ | _ | _
      case found.folder =>
        simp only [led] at done
        cases done
        exact .inl ⟨place, inside, ⟨proper, by rw [stateFolder_absolute proper]; exact led⟩, rfl⟩
      all_goals
        simp only [led] at done
        cases done

/-- A state folder that had to be created might as well have been there. -/
theorem persist_of_ensureFolder {middle : Disk} (site : Sited middle home place inside)
    (made : ensureFolder (Path.absolute home) disk = (.ok (), middle)) (next : Baseline) :
    persist (Path.absolute home) next disk = persist (Path.absolute home) next middle := by
  rw [persist, bind_apply, bind_apply, made, site.ensureFolder]

theorem plain_nil : Plain [] := fun _ _ _ => by simp

/-- Next states with the same store lead to the same graph log, wherever the state folder stands. -/
theorem read_graph_persist (proper : Disk.Proper home)
    (upper : disk.node? home = some (.folder outside))
    (fit : ∀ place inside, Sited disk home place inside → Fit disk place inside)
    {one two : Baseline} (same : one.store = two.store) :
    (persist (Path.absolute home) one disk).2.read (graphFile.path (Path.absolute home)) =
      (persist (Path.absolute home) two disk).2.read (graphFile.path (Path.absolute home)) := by
  rcases made : ensureFolder (Path.absolute home) disk with ⟨_ | _, middle⟩
  · rw [persist, persist, bind_apply, bind_apply, made]
  · rcases exists_site_of_ensureFolder proper upper made with
      ⟨place, inside, site, rfl⟩ | ⟨_, rfl⟩
    · exact site.read_graph_persist (fit place inside site) same
    · have site := sited_created proper upper []
      rw [persist_of_ensureFolder site made, persist_of_ensureFolder site made]
      exact site.read_graph_persist (plain_nil.fit _ _) same

end Workspace

/-! ## What a walk sees -/

namespace Folder

/-- No name is listed twice. -/
def Distinct (folder : Folder) : Prop := (folder.map Prod.fst).Nodup

instance (folder : Folder) : Decidable folder.Distinct :=
  inferInstanceAs (Decidable (folder.map Prod.fst).Nodup)

variable {folder : Folder} {name : String}

theorem Distinct.erase (distinct : folder.Distinct) (name : String) :
    (folder.erase name).Distinct :=
  (List.filter_sublist.map _).nodup distinct

theorem map_fst_set (known : (folder.get? name).isSome) (node : DiskNode) :
    (folder.set name node).map Prod.fst = folder.map Prod.fst := by
  rw [set, if_pos known, List.map_map]
  apply List.map_congr_left
  intro entry _
  by_cases same : entry.1 = name <;> simp [same]

theorem Distinct.set (distinct : folder.Distinct) (name : String) (node : DiskNode) :
    (folder.set name node).Distinct := by
  cases known : folder.get? name with
  | some old =>
    rw [Distinct, map_fst_set (by rw [known]; rfl)]
    exact distinct
  | none =>
    have absent := ne_of_get?_eq_none known
    rw [Distinct, Folder.set, known]
    simp only [Option.isSome_none, Bool.false_eq_true, if_false, List.map_append, List.map_cons,
      List.map_nil]
    rw [List.nodup_append]
    refine ⟨distinct, by simp, ?_⟩
    simpa [eq_comm] using fun entry node member => absent (entry, node) member

/-- An entry of a folder is found under its name. -/
theorem Distinct.get?_of_mem (distinct : folder.Distinct) {entry : String × DiskNode}
    (member : entry ∈ folder) : folder.get? entry.1 = some entry.2 := by
  induction folder with
  | nil => cases member
  | cons first rest ih =>
    obtain ⟨absent, distinct⟩ := List.nodup_cons.1 distinct
    rw [get?_cons]
    cases List.mem_cons.1 member with
    | inl same => rw [same, if_pos rfl]
    | inr later =>
      rw [if_neg fun same => absent (List.mem_map.2 ⟨entry, later, same.symm⟩)]
      exact ih distinct later

/-- Only the given node stands under a name to which it was given. -/
theorem eq_of_mem_set {node : DiskNode} {entry : String × DiskNode}
    (member : entry ∈ folder.set name node) (same : entry.1 = name) : entry.2 = node := by
  rw [set] at member
  split at member
  case isTrue =>
    obtain ⟨old, _, rfl⟩ := List.mem_map.1 member
    split at same
    case isTrue here => rw [if_pos here]
    case isFalse other => exact absurd same other
  case isFalse absent =>
    cases List.mem_append.1 member with
    | inl old =>
      simp only [Option.isSome_iff_ne_none, ne_eq, Classical.not_not] at absent
      exact absurd same (ne_of_get?_eq_none absent entry old)
    | inr new => rw [List.mem_singleton.1 new]

end Folder

namespace Walk

/-- A walk sees the same files in two folders. -/
def SameFiles (first second : Folder) : Prop :=
  ∀ filter above, folderLayers filter above second = folderLayers filter above first

theorem SameFiles.trans {first second third : Folder} (before : SameFiles first second)
    (after : SameFiles second third) : SameFiles first third :=
  fun filter above => (after filter above).trans (before filter above)

open Workspace

/-- State files are of no language. -/
theorem ofPath?_stateFile (above : List String) {name : String} (listed : name ∈ stateNames) :
    Language.ofPath? (Path.key (above ++ [name])) = none := by
  have known : ∀ name ∈ stateNames, Path.Proper name ∧
      (Path.extensionOfName? name).bind Language.ofExtension? = none := by decide
  obtain ⟨proper, foreign⟩ := known name listed
  rw [Language.ofPath?, Path.extension?, Path.fileName?_key above proper]
  exact foreign

/-- A walk does not see what stands under the name of a state file, unless it is a folder. -/
theorem nodeLayers_stateFile (filter : Filter) (above : List String) {name : String}
    (listed : name ∈ stateNames) {node : DiskNode} (notFolder : ∀ entries, node ≠ .folder entries) :
    nodeLayers filter above name node = [] := by
  cases node with
  | file file =>
    rw [nodeLayers, Filter.tracked?]
    simp only [ofPath?_stateFile above listed]
    rfl
  | link target => rfl
  | folder entries => exact absurd rfl (notFolder entries)

section

variable {inside : Folder} {name : String} (distinct : inside.Distinct)
variable (listed : name ∈ stateNames) (free : isFolder inside name = false)
include distinct listed free

theorem sameFiles_erase : SameFiles inside (inside.erase name) := by
  intro filter above
  apply folderLayers_erase_of_unseen
  intro entry member same
  apply nodeLayers_stateFile filter above listed
  intro entries isEntry
  rw [isFolder, ← same, distinct.get?_of_mem member, isEntry] at free
  cases free

theorem sameFiles_set (file : DiskFile) : SameFiles inside (inside.set name (.file file)) := by
  intro filter above
  have unseen : ∀ entry ∈ inside.set name (.file file), entry.1 = name →
      nodeLayers filter above name entry.2 = [] := by
    intro entry member same
    rw [Folder.eq_of_mem_set member same]
    exact nodeLayers_stateFile filter above listed (by simp)
  rw [← folderLayers_erase_of_unseen unseen, Folder.erase_set]
  exact sameFiles_erase distinct listed free filter above

end

/-- A walk sees the same files after an artifact was saved. -/
theorem sameFiles_saved {inside : Folder} (distinct : inside.Distinct) {artifact : Artifact}
    (isDraft : artifact.draftName ∈ stateNames) (isName : artifact.name ∈ stateNames)
    (differs : artifact.draftName ≠ artifact.name)
    (freeDraft : isFolder inside artifact.draftName = false)
    (freeName : isFolder inside artifact.name = false) (text : String) :
    SameFiles inside (saved inside artifact text) := by
  have free : isFolder (inside.erase artifact.draftName) artifact.name = false := by
    rw [isFolder, Folder.get?_erase_of_ne _ differs]
    exact freeName
  exact (sameFiles_erase distinct isDraft freeDraft).trans
    (sameFiles_set (distinct.erase _) isName free _)

theorem sameFiles_written {inside : Folder} (distinct : inside.Distinct) (next : Baseline)
    (free : Open inside) : SameFiles inside (written inside next) := by
  have first : SameFiles inside (saved inside graphFile (GraphLog.write next.store)) :=
    sameFiles_saved distinct (by decide) (by decide) (by decide) (free _ (by decide))
      (free _ (by decide)) _
  have later : ∀ name ∈ [manifestFile.draftName, manifestFile.name],
      isFolder (saved inside graphFile (GraphLog.write next.store)) name = false := by
    intro name member
    rw [isFolder, get?_saved_graph inside _ member]
    simp only [List.mem_cons, List.not_mem_nil, or_false] at member
    rcases member with rfl | rfl <;> exact free _ (by decide)
  exact first.trans
    (sameFiles_saved ((distinct.erase _).set _ _) (by decide) (by decide) (by decide)
    (later _ (by simp)) (later _ (by simp)) _)

/-- A node can take the place of one in which a walk sees the same. -/
theorem folderLayers_set {filter : Filter} {above : List String} {folder : Folder} {name : String}
    {old new : DiskNode} (distinct : folder.Distinct) (known : folder.get? name = some old)
    (same : nodeLayers filter above name new = nodeLayers filter above name old) :
    folderLayers filter above (folder.set name new) = folderLayers filter above folder := by
  rw [Folder.set, if_pos (by rw [known]; rfl)]
  induction folder with
  | nil => rfl
  | cons entry rest ih =>
    obtain ⟨absent, distinct⟩ := List.nodup_cons.1 distinct
    rw [Folder.get?_cons] at known
    rw [List.map_cons, folderLayers]
    by_cases here : entry.1 = name
    · rw [if_pos here] at known
      cases known
      have others :
          rest.map (fun entry => if entry.1 = name then (name, new) else entry) = rest := by
        rw [List.map_congr_left fun other member => if_neg fun also =>
          absent (List.mem_map.2 ⟨other, member, also.trans here.symm⟩)]
        exact List.map_id _
      rw [if_pos here, others, same, ← here, folderLayers]
    · rw [if_neg here] at known
      rw [if_neg here, folderLayers, ih distinct known]

theorem sameFiles_set_folder {folder lower other : Folder} (distinct : folder.Distinct)
    {name : String} (known : folder.get? name = some (.folder lower))
    (same : SameFiles lower other) : SameFiles folder (folder.set name (.folder other)) := by
  intro filter above
  apply folderLayers_set distinct known
  rw [nodeLayers, nodeLayers, same]

end Walk

/-! ## Disks after a run -/

/-- No folder of a disk lists a name twice. -/
def Disk.Distinct (disk : Disk) : Prop :=
  ∀ location entries, disk.node? location = some (.folder entries) → Folder.Distinct entries

namespace Workspace

variable {disk after : Disk} {home place : Location} {inside outside : Folder} {root : String}

/-- What a run can make of a disk: the state folder is created if there is none, and state files are
replaced. -/
inductive Restated (home : Location) (disk : Disk) : Disk → Prop where
  | created {inside : Folder} (absent : disk.node? (stateLocation home) = none)
    (others : ∀ name, name ∉ stateNames → inside.get? name = none) :
    Restated home disk (disk.put (stateLocation home) (.folder inside))
  | replaced {place : Location} {before inside : Folder} (site : Sited disk home place before)
    (keeps : Folder.Keeps stateNames before inside)
    (others : ∀ name, name ∉ stateNames → inside.get? name = before.get? name) :
    Restated home disk (disk.replace place inside)

/-- The file at a path is no state file, and is not reached through one: it is the same whatever the
state files hold. -/
def Aside (disk : Disk) (home : Location) (path : String) : Prop :=
  ∀ other, Restated home disk other → other.file? path = disk.file? path

/-- Two folders agree on every name that is not that of a state file, up to what folders hold. -/
def Alike (first second : Folder) : Prop :=
  ∀ name, name ∉ stateNames → second.get? name = first.get? name ∨
    ∃ inner outer, first.get? name = some (.folder inner) ∧ second.get? name = some (.folder outer)

theorem alike_set_folder {folder lower other : Folder} {name : String}
    (known : folder.get? name = some (.folder lower)) :
    Alike folder (folder.set name (.folder other)) := by
  intro entry _
  by_cases same : name = entry
  · subst same
    exact .inr ⟨lower, other, known, Folder.get?_set ..⟩
  · exact .inl (Folder.get?_set_of_ne _ same _)

/-- A file of the root folder, or a missing one, is such a file if it is not called like a state
file. -/
theorem aside_of_name {name : String} (proper : Disk.Proper home)
    (upper : disk.node? home = some (.folder outside)) (isName : Path.Proper name)
    (differs : name ≠ ".arbor") (notState : name ∉ stateNames)
    (plain : ∀ target, outside.get? name ≠ some (.link target)) :
    Aside disk home (Path.join (Path.absolute home) name) := by
  intro other restated
  cases restated with
  | created absent others =>
    exact apart_of_name proper upper isName differs plain _ (Ready.sameTree_put disk home _)
  | @replaced place before inside site keeps others =>
    obtain ⟨next, found, alike⟩ := Folder.exists_related_modify Alike (fun _ _ _ => .inl rfl)
      (fun _ known _ => alike_set_folder known) (fun _ _ _ => trivial) site.node? keeps
      (fun name other => .inl (others name other)) upper
    have moved : (disk.replace place inside).node? home = some (.folder next) := found
    have entry := alike name notState
    have plainNext : ∀ target, next.get? name ≠ some (.link target) := by
      intro target known
      rcases entry with same | ⟨_, _, _, folder⟩
      · exact plain target (same ▸ known)
      · cases folder.symm.trans known
    rw [Path.join_absolute proper isName, Disk.file?, Disk.file?, Disk.resolve, Disk.resolve,
      Disk.resolveWith_name proper upper isName fun _ => plain,
      Disk.resolveWith_name proper moved isName fun _ => plainNext]
    rcases entry with same | ⟨_, _, first, second⟩
    · rw [same]
    · rw [first, second]

/-- A path that leads to a tree still leads there on a disk that has grown. -/
theorem Leads.of_grows (leads : Leads disk root home) (grows : disk.Grows after)
    (current : after.current = disk.current) : Leads after root home := by
  obtain ⟨entries, found⟩ := leads
  rw [Disk.folder?] at found
  split at found
  case h_1 led =>
    cases found
    obtain ⟨other, moved⟩ := Disk.resolve_folder_of_grows grows current led
    exact ⟨other, by rw [Disk.folder?, moved]⟩
  case h_2 => cases found

/-- A run has written a state: the tree leads to it, and nothing else has changed for it. -/
structure Rewritten (disk : Disk) (home : Location) (state : Baseline) (after : Disk) : Prop where
  site : ∃ place inside, Sited after home place inside ∧
    Stores inside state.manifest state.store.records
  restated : Restated home disk after
  grows : disk.Grows after
  current : after.current = disk.current
  tree : ∀ {outside}, disk.node? home = some (.folder outside) → ∃ other : Folder,
    after.node? home = some (.folder other) ∧
      ∀ filter, Walk.files filter other = Walk.files filter outside

/-- Writing a state into a state folder that is there. -/
theorem Sited.rewritten (site : Sited disk home place inside) (fit : Fit disk place inside)
    (distinct : disk.Distinct) (free : Open inside) (next : Baseline) :
    Rewritten disk home next (disk.replace place (written inside next)) where
  site := ⟨place, _, site.replace (site.grows_written fit free next), stores_written inside next⟩
  restated := .replaced site (keeps_written next free) fun _ other =>
    get?_written_of_not_mem inside next other
  grows := site.grows_written fit free next
  current := rfl
  tree {outside} upper := by
    obtain ⟨other, moved, same⟩ := Folder.exists_related_modify Walk.SameFiles (fun _ _ _ => rfl)
      (fun valid known same => Walk.sameFiles_set_folder valid known same) distinct site.node?
      (keeps_written next free)
      (Walk.sameFiles_written (distinct place inside site.node?) next free) upper
    exact ⟨other, moved, fun filter => by rw [Walk.files_eq_sortBy, Walk.files_eq_sortBy, same]⟩

/-- Writing a state into a state folder that is created for it. -/
theorem rewritten_of_created (proper : Disk.Proper home)
    (upper : disk.node? home = some (.folder outside))
    (absent : disk.node? (stateLocation home) = none) (next : Baseline) :
    Rewritten disk home next (disk.put (stateLocation home) (.folder (written [] next))) where
  site := ⟨_, _, sited_created proper upper _, stores_written [] next⟩
  restated := .created absent fun _ other => get?_written_of_not_mem [] next other
  grows := by
    have missing : outside.get? ".arbor" = none := by
      rw [← Folder.node?_append_singleton upper]
      exact absent
    have keeps : Folder.Keeps [".arbor"] outside
        (outside.set ".arbor" (.folder (written [] next))) := by
      apply keeps_of_get?
      · simp [isFolder, missing]
      · intro name other
        exact Folder.get?_set_of_ne _ (by simpa [eq_comm] using other) _
    rw [stateLocation, Disk.put_eq_replace upper]
    exact Disk.grows_replace upper keeps (by simp [missing])
  current := by simp [stateLocation, Disk.put_append]
  tree {other} found := by
    obtain ⟨next, moved, erased⟩ :=
      (Ready.sameTree_put disk home (.folder (written [] next))).exists_outside found
    exact ⟨next, moved, fun filter => Walk.files_congr filter erased⟩

/-- Writing a state succeeds only so, if the names are fit for it. -/
theorem rewritten_of_persist (proper : Disk.Proper home)
    (upper : disk.node? home = some (.folder outside)) (distinct : disk.Distinct)
    (fit : ∀ place inside, Sited disk home place inside → Fit disk place inside) {next : Baseline}
    (done : persist (Path.absolute home) next disk = (.ok (), after)) :
    Rewritten disk home next after := by
  have first := done
  rw [persist] at first
  obtain ⟨_, middle, made, _⟩ := bind_ok first
  rcases exists_site_of_ensureFolder proper upper made with
    ⟨place, inside, site, rfl⟩ | ⟨absent, rfl⟩
  · obtain ⟨free, rfl⟩ := (site.persist_eq_ok_iff (fit place inside site) next).1 done
    exact site.rewritten (fit place inside site) distinct free next
  · have site := sited_created proper upper []
    rw [persist_of_ensureFolder site made] at done
    obtain ⟨_, rfl⟩ := (site.persist_eq_ok_iff (plain_nil.fit _ _) next).1 done
    rw [stateLocation, Disk.replace_put]
    exact rewritten_of_created proper upper absent next

end Workspace

end SourceIndex
