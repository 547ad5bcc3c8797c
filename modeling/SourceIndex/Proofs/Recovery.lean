import SourceIndex.Proofs.FullRun
import SourceIndex.Proofs.Repeat

/-!
# Runs on unusable state

Whatever the manifest and the graph log hold, a run can tell whether it can build on them. If it
cannot, it does what it would do without them: it derives everything from the sources, and no record
and no entry of the old state is left.
-/

namespace SourceIndex.Workspace

variable {disk after : Disk} {home place : Location} {inside outside : Folder} {root : String}

/-! ## What the state files hold -/

/-- What reading a file gives that holds some bytes, or that is missing. -/
def held : Option ByteArray → Except Disk.Fault ByteArray
  | some bytes => .ok bytes
  | none => .error .missing

/-- The manifest and the graph log of a tree hold some bytes, or are missing. -/
structure Contains (disk : Disk) (home : Location) (manifest graph : Option ByteArray) : Prop where
  manifest : disk.read (manifestFile.path (Path.absolute home)) = held manifest
  graph : disk.read (graphFile.path (Path.absolute home)) = held graph

/-- A file is missing or holds text. -/
def IsText (content : Option ByteArray) : Prop :=
  ∀ bytes, content = some bytes → ∃ text : String, bytes = text.toUTF8

/-- A manifest that a run with some settings can build on. -/
def Usable (config : Config) (content : Option ByteArray) (manifest : Manifest) : Prop :=
  ∃ text : String, content = some text.toUTF8 ∧ Manifest.parse? text = some manifest ∧
    manifest.version = Manifest.currentVersion ∧ manifest.granularity = config.granularity ∧
    manifest.digest = config.tracking.digest

/-- The state files can be read, as far as they have to: the manifest is text, and so is the graph
log of a manifest to build on. -/
structure Legible (config : Config) (manifest graph : Option ByteArray) : Prop where
  text : IsText manifest
  log : ∀ known, Usable config manifest known → IsText graph

/-- The ways in which state files are of no use to a run. -/
inductive Unusable (config : Config) (manifest graph : Option ByteArray) : Prop where
  | missing (absent : manifest = none)
  | malformed {text : String} (present : manifest = some text.toUTF8)
    (unread : Manifest.parse? text = none)
  | incompatible {text : String} {known : Manifest} (present : manifest = some text.toUTF8)
    (parsed : Manifest.parse? text = some known)
    (differs : known.version ≠ Manifest.currentVersion ∨
      known.granularity ≠ config.granularity ∨ known.digest ≠ config.tracking.digest)
  | missingGraph (absent : graph = none)
  | malformedGraph {text : String} {line : List Char} (present : graph = some text.toUTF8)
    (listed : line ∈ Text.lines text.toList) (bad : GraphLog.Malformed line)

theorem toUTF8_inj {first second : String} (same : some first.toUTF8 = some second.toUTF8) :
    first = second :=
  String.toByteArray_inj.1 (Option.some.inj same)

theorem readText?_of_isText {path : String} {content : Option ByteArray}
    (read : disk.read path = held content) (text : IsText content) :
    ∃ found : Option String, content = found.map String.toUTF8 ∧
      readText? path disk = (.ok found, disk) := by
  cases content with
  | none =>
    refine ⟨none, rfl, ?_⟩
    rw [readText?_apply, Disk.readText, read]
    rfl
  | some bytes =>
    obtain ⟨found, rfl⟩ := text bytes rfl
    exact ⟨some found, rfl, readText?_of_read read⟩

/-- Bytes that are not text cannot be read. -/
theorem readText?_of_not_isText {path : String} {content : Option ByteArray}
    (read : disk.read path = held content) (garbled : ¬IsText content) :
    readText? path disk = (.error (.inaccessible path), disk) := by
  cases content with
  | none => exact absurd (fun _ present => by cases present) garbled
  | some bytes =>
    have undecoded : ¬bytes.IsValidUTF8 := by
      intro decoded
      apply garbled
      intro other present
      cases present
      exact ⟨String.fromUTF8 bytes decoded, rfl⟩
    have refused : disk.readText path = .error .refused := by
      simp only [Disk.readText, read, held, bind, Except.bind, String.fromUTF8?, undecoded,
        dif_neg, not_false_eq_true]
    rw [readText?_apply, refused]

/-! ## Loading -/

section

variable {config : Config} {manifest graph : Option ByteArray}
variable (contains : Contains disk home manifest graph)
include contains

/-- A manifest that is not text stops a run, and so does a graph log that is not text and belongs to
a manifest to build on. -/
theorem Contains.loadBaseline?_of_not_legible (garbled : ¬Legible config manifest graph) :
    ∃ artifact ∈ [manifestFile, graphFile], loadBaseline? config (Path.absolute home) disk =
      (.error (.inaccessible (artifact.path (Path.absolute home))), disk) := by
  by_cases isText : IsText manifest
  · refine ⟨graphFile, by simp, ?_⟩
    have unread : ∃ known, Usable config manifest known ∧ ¬IsText graph := by
      by_contra none
      refine garbled ⟨isText, fun known usable => ?_⟩
      by_contra bad
      exact none ⟨known, usable, bad⟩
    obtain ⟨known, ⟨text, rfl, parsed, version, granularity, digest⟩, bad⟩ := unread
    have found := readText?_of_read contains.manifest
    have fits : known.compatible config.granularity config.tracking.digest = true :=
      Manifest.compatible_iff.2 ⟨version, granularity, digest⟩
    simp only [loadBaseline?, loadManifest?, bind_apply, found, Manifest.read, parsed, version,
      if_true, pure_apply, fits, readText?_of_not_isText contains.graph bad]
  · refine ⟨manifestFile, by simp, ?_⟩
    simp only [loadBaseline?, loadManifest?, bind_apply,
      readText?_of_not_isText contains.manifest isText]

omit contains in
/-- A state that can be loaded is of use. -/
theorem not_unusable {text log : String} {known : Manifest} {store : Store}
    (parsed : Manifest.parse? text = some known)
    (fits : known.compatible config.granularity config.tracking.digest = true)
    (read : GraphLog.read log = .ok store) :
    ¬Unusable config (some text.toUTF8) (some log.toUTF8) := by
  intro unusable
  cases unusable with
  | missing absent => cases absent
  | malformed present unread =>
    cases toUTF8_inj present
    cases unread.symm.trans parsed
  | incompatible present other differs =>
    cases toUTF8_inj present
    cases other.symm.trans parsed
    obtain ⟨version, granularity, digest⟩ := Manifest.compatible_iff.1 fits
    rcases differs with differs | differs | differs
    · exact differs version
    · exact differs granularity
    · exact differs digest
  | missingGraph absent => cases absent
  | malformedGraph present listed bad =>
    cases toUTF8_inj present
    obtain ⟨number, failed⟩ := GraphLog.exists_error_read_iff.2 ⟨_, listed, bad⟩
    cases failed.symm.trans read

/-- Otherwise the state is loaded, if it is of any use. -/
theorem Contains.exists_loadBaseline? (legible : Legible config manifest graph) :
    ∃ baseline, loadBaseline? config (Path.absolute home) disk = (.ok baseline, disk) ∧
      (baseline = none ↔ Unusable config manifest graph) := by
  obtain ⟨found, rfl, text⟩ := readText?_of_isText contains.manifest legible.text
  cases found with
  | none =>
    refine ⟨none, ?_, by simp [Unusable.missing]⟩
    simp only [loadBaseline?, loadManifest?, bind_apply, text, pure_apply]
  | some found =>
    cases parsed : Manifest.parse? found with
    | none =>
      refine ⟨none, ?_, by simpa using .malformed rfl parsed⟩
      simp only [loadBaseline?, loadManifest?, bind_apply, text, Manifest.read, parsed, pure_apply]
    | some known =>
      cases fits : known.compatible config.granularity config.tracking.digest with
      | false =>
        have differs : known.version ≠ Manifest.currentVersion ∨
            known.granularity ≠ config.granularity ∨ known.digest ≠ config.tracking.digest := by
          rwa [← Bool.not_eq_true, Manifest.compatible_iff, not_and_or, not_and_or] at fits
        refine ⟨none, ?_, by simpa using .incompatible rfl parsed differs⟩
        by_cases version : known.version = Manifest.currentVersion
        · simp only [loadBaseline?, loadManifest?, bind_apply, text, Manifest.read, parsed, version,
            if_true, pure_apply, fits, Bool.false_eq_true, if_false]
        · simp only [loadBaseline?, loadManifest?, bind_apply, text, Manifest.read, parsed, version,
            if_false, pure_apply]
      | true =>
        obtain ⟨version, granularity, digest⟩ := Manifest.compatible_iff.1 fits
        have usable : Usable config (some found.toUTF8) known :=
          ⟨found, rfl, parsed, version, granularity, digest⟩
        obtain ⟨log, rfl, read⟩ := readText?_of_isText contains.graph (legible.log known usable)
        simp only [loadBaseline?, loadManifest?, bind_apply, text, Manifest.read, parsed, version,
          if_true, pure_apply, fits, read]
        cases log with
        | none => exact ⟨none, rfl, by simp [Unusable.missingGraph]⟩
        | some log =>
          cases loaded : GraphLog.read log with
          | error number =>
            obtain ⟨line, listed, bad⟩ := GraphLog.exists_error_read_iff.1 ⟨number, loaded⟩
            exact ⟨none, by simp only [loaded]; rfl, by simpa using .malformedGraph rfl listed bad⟩
          | ok store =>
            exact ⟨some ⟨known, store⟩, by simp only [loaded]; rfl,
              by simpa using not_unusable parsed fits loaded⟩

end

/-! ## Removing the state files -/

/-- The state folder without the manifest and the graph log. -/
def bare (inside : Folder) : Folder := (inside.erase manifestFile.name).erase graphFile.name

theorem get?_bare_of_not_mem (inside : Folder) {name : String}
    (other : name ∉ [manifestFile.name, graphFile.name]) :
    (bare inside).get? name = inside.get? name := by
  simp only [List.mem_cons, List.not_mem_nil, or_false, not_or] at other
  rw [bare, Folder.get?_erase_of_ne _ (Ne.symm other.2),
    Folder.get?_erase_of_ne _ (Ne.symm other.1)]

theorem get?_bare (inside : Folder) {name : String}
    (listed : name ∈ [manifestFile.name, graphFile.name]) : (bare inside).get? name = none := by
  simp only [List.mem_cons, List.not_mem_nil, or_false] at listed
  rcases listed with rfl | rfl
  · rw [bare, Folder.get?_erase_of_ne _ (by decide), Folder.get?_erase]
  · exact Folder.get?_erase ..

/-- The path of a state file is that of the state folder and its name. -/
theorem resolveWith_artifact (disk : Disk) (last : Bool) (proper : Disk.Proper home)
    {artifact : Artifact} (isName : Path.Proper artifact.name) :
    disk.resolveWith last (artifact.path (Path.absolute home)) =
      disk.follow last Disk.maxLinks []
        ((stateLocation home).map .name ++ [.name artifact.name]) := by
  rw [Artifact.path, stateFile_absolute proper isName,
    Disk.resolveWith_absolute disk last ((proper_stateLocation proper).append isName),
    List.map_append]
  rfl

/-- A file that holds bytes or is missing is reached, and is no folder. -/
theorem resolve_of_held {path : String} {content : Option ByteArray}
    (read : disk.read path = held content) :
    disk.resolve path ≠ .blocked ∧
      ∀ place entries, disk.resolve path ≠ .found place (.folder entries) := by
  constructor
  · intro blocked
    rw [Disk.read, blocked] at read
    cases content <;> cases read
  · intro place entries found
    rw [Disk.read, found] at read
    cases content <;> cases read

section

variable (site : Sited disk home place inside) {artifact : Artifact}
variable (isName : Path.Proper artifact.name) {content : Option ByteArray}
variable (read : disk.read (artifact.path (Path.absolute home)) = held content)
include site isName

/-- Removing a state file removes its name, if there is one. -/
theorem Sited.discard (free : isFolder inside artifact.name = false) :
    ∃ after, Workspace.discard (Path.absolute home) artifact disk = (.ok (), after) ∧
      (after = disk ∧ inside.erase artifact.name = inside ∨
        after = disk.replace place (inside.erase artifact.name)) := by
  rw [Workspace.discard, get_bind_apply, Disk.removeFile, Artifact.path, Disk.locate,
    site.resolveWith isName (by simp)]
  cases known : inside.get? artifact.name with
  | none => exact ⟨disk, rfl, .inl ⟨rfl, Folder.erase_of_get?_eq_none known⟩⟩
  | some node =>
    cases node with
    | folder entries => simp [isFolder, known] at free
    | file file => exact ⟨_, rfl, .inr (Disk.remove_eq_replace site.node? _)⟩
    | link target => exact ⟨_, rfl, .inr (Disk.remove_eq_replace site.node? _)⟩

include read

theorem Sited.isFolder_of_held : isFolder inside artifact.name = false := by
  cases known : inside.get? artifact.name with
  | none => rw [isFolder, known]
  | some node =>
    cases node with
    | file file => rw [isFolder, known]
    | link target => rw [isFolder, known]
    | folder entries =>
      have found : disk.resolve (artifact.path (Path.absolute home)) = _ :=
        site.resolveWith isName (by simp [known])
      rw [known] at found
      exact absurd found ((resolve_of_held read).2 _ _)

/-- No path through a state file that is a link leads to a folder. -/
theorem Sited.futile_of_held {target : String}
    (known : inside.get? artifact.name = some (.link target)) : disk.Futile place target := by
  obtain ⟨passable, notFolder⟩ := resolve_of_held read
  rw [Disk.resolve, resolveWith_artifact disk true site.proper isName] at passable notFolder
  rcases Disk.follow_append_link site.follow known with blocked | ⟨links, led⟩
  · exact absurd blocked passable
  · rw [led] at passable notFolder
    intro others rest
    exact Disk.follow_append_ne_folder ⟨inside, site.node?⟩ passable notFolder others rest

end

/-- Without a state folder there is nothing to remove. -/
theorem discard_of_unsited (proper : Disk.Proper home)
    (unsited : ∀ place inside, ¬Sited disk home place inside) {artifact : Artifact}
    (isName : Path.Proper artifact.name) {content : Option ByteArray}
    (read : disk.read (artifact.path (Path.absolute home)) = held content) :
    discard (Path.absolute home) artifact disk = (.ok (), disk) := by
  have way (last : Bool) := resolveWith_artifact disk last proper isName
  rw [discard, get_bind_apply, Disk.removeFile, Disk.locate]
  cases located : disk.resolveWith false (artifact.path (Path.absolute home)) with
  | absent location => rfl
  | missing => rfl
  | blocked =>
    rw [way] at located
    exact absurd ((way true).trans (Disk.follow_true located (by simp))) (resolve_of_held read).1
  | found location node =>
    rw [way] at located
    obtain ⟨place, inside, led⟩ := Disk.exists_folder_of_follow_name ⟨_, rfl⟩ located
    refine absurd ⟨proper, ?_⟩ (unsited place inside)
    rw [stateFolder_absolute proper, Disk.resolve,
      Disk.resolveWith_absolute disk true (proper_stateLocation proper)]
    exact led

/-- No draft of a state file is a link. -/
def PlainDrafts (disk : Disk) (home : Location) : Prop :=
  ∀ place inside, Sited disk home place inside →
    ∀ artifact ∈ [graphFile, manifestFile], ∀ target,
      inside.get? artifact.draftName ≠ some (.link target)

section

variable {manifest graph : Option ByteArray} (contains : Contains disk home manifest graph)
variable (plain : PlainDrafts disk home) (site : Sited disk home place inside)
include contains site

theorem Contains.isFolder_eq_false {name : String}
    (listed : name ∈ [manifestFile.name, graphFile.name]) : isFolder inside name = false := by
  simp only [List.mem_cons, List.not_mem_nil, or_false] at listed
  rcases listed with rfl | rfl
  · exact site.isFolder_of_held (by decide) contains.manifest
  · exact site.isFolder_of_held (by decide) contains.graph

theorem Contains.futile {name target : String}
    (listed : name ∈ [manifestFile.name, graphFile.name])
    (known : inside.get? name = some (.link target)) : disk.Futile place target := by
  simp only [List.mem_cons, List.not_mem_nil, or_false] at listed
  rcases listed with rfl | rfl
  · exact site.futile_of_held (by decide) contains.manifest known
  · exact site.futile_of_held (by decide) contains.graph known

include plain in
/-- The names that a run uses are fit for it if no draft is a link. -/
theorem Contains.fit : Fit disk place inside := by
  refine ⟨plain place inside site, fun name listed target known => ?_⟩
  simp only [stateNames, List.mem_cons, List.not_mem_nil, or_false] at listed
  rcases listed with rfl | rfl | rfl | rfl
  · exact contains.futile site (by simp) known
  · exact absurd known (plain place inside site graphFile (by simp) target)
  · exact contains.futile site (by simp) known
  · exact absurd known (plain place inside site manifestFile (by simp) target)

theorem Contains.keeps_bare :
    Folder.Keeps [manifestFile.name, graphFile.name] inside (bare inside) :=
  keeps_of_get? (fun _ listed => contains.isFolder_eq_false site listed)
    fun _ other => get?_bare_of_not_mem inside other

theorem Contains.grows_bare : disk.Grows (disk.replace place (bare inside)) :=
  Disk.grows_replace site.node? (contains.keeps_bare site)
    fun _ listed _ known => contains.futile site listed known

/-- The state files of a state folder can be removed. -/
theorem Contains.exists_discarded :
    ∃ cleared, (do discard (Path.absolute home) manifestFile
                   discard (Path.absolute home) graphFile : DiskAction Unit) disk =
        (.ok (), cleared) ∧ (cleared = disk ∨ cleared = disk.replace place (bare inside)) := by
  have freeManifest := contains.isFolder_eq_false site (.head _)
  have freeGraph : isFolder inside graphFile.name = false :=
    contains.isFolder_eq_false site (by simp)
  obtain ⟨middle, first, unchanged | erased⟩ := site.discard (by decide) freeManifest
  · obtain ⟨rfl, same⟩ := unchanged
    obtain ⟨cleared, second, removed⟩ := site.discard (by decide) freeGraph
    refine ⟨cleared, by rw [bind_apply, first]; exact second, ?_⟩
    rw [bare, same]
    exact removed.imp_left (·.1)
  -- The graph log is removed from the folder without the manifest, which still stands in its place.
  · have keeps : Folder.Keeps [manifestFile.name] inside (inside.erase manifestFile.name) :=
      keeps_of_get? (by simpa using freeManifest) fun name other =>
        Folder.get?_erase_of_ne _ (by simpa [eq_comm] using other)
    have moved := site.replace (Disk.grows_replace site.node? keeps (by
      simpa using fun target known => contains.futile site (.head _) known))
    have free : isFolder (inside.erase manifestFile.name) graphFile.name = false := by
      rw [isFolder, Folder.get?_erase_of_ne _ (by decide)]
      exact freeGraph
    subst erased
    obtain ⟨cleared, second, removed⟩ := moved.discard (by decide) free
    refine ⟨cleared, by rw [bind_apply, first]; exact second, .inr ?_⟩
    rcases removed with ⟨rfl, same⟩ | rfl
    · rw [bare, same]
    · rw [Disk.replace_replace, bare]

end

/-- Clearing a tree removes its state files, if there are any. -/
theorem Contains.exists_clear {manifest graph : Option ByteArray}
    (contains : Contains disk home manifest graph) (proper : Disk.Proper home)
    (leads : Leads disk root home) :
    ∃ cleared, clear root disk = (.ok (), cleared) ∧
      (cleared = disk ∨ ∃ place inside, Sited disk home place inside ∧
        cleared = disk.replace place (bare inside)) := by
  obtain ⟨entries, found⟩ := leads
  simp only [clear, bind_apply, resolveRoot_apply, found]
  by_cases sited : ∃ place inside, Sited disk home place inside
  · obtain ⟨place, inside, site⟩ := sited
    obtain ⟨cleared, done, result⟩ := contains.exists_discarded site
    rw [bind_apply] at done
    exact ⟨cleared, done, result.imp_right fun removed => ⟨place, inside, site, removed⟩⟩
  · have unsited : ∀ place inside, ¬Sited disk home place inside :=
      fun place inside site => sited ⟨place, inside, site⟩
    refine ⟨disk, ?_, .inl rfl⟩
    rw [discard_of_unsited proper unsited (by decide) contains.manifest]
    exact discard_of_unsited proper unsited (by decide) contains.graph

/-! ## Writing the next state -/

/-- What writing a state gives does not depend on the state, but on the folders in its way. -/
theorem fst_persistIn_congr {first second : Folder}
    (same : ∀ name ∈ stateNames, isFolder second name = isFolder first name) (one two : Baseline) :
    (persistIn root second two).1 = (persistIn root first one).1 := by
  have later (inside : Folder) (text : String) {name : String}
      (listed : name ∈ [manifestFile.draftName, manifestFile.name]) :
      isFolder (saved inside graphFile text) name = isFolder inside name := by
    rw [isFolder, get?_saved_graph inside text listed, isFolder]
  simp only [persistIn, saveIn, same graphFile.draftName (by decide),
    same graphFile.name (by decide)]
  cases isFolder first graphFile.draftName with
  | true => rfl
  | false =>
    cases isFolder first graphFile.name with
    | true => rfl
    | false =>
      simp only [Bool.false_eq_true, if_false, later _ _ (.head _), later _ _ (.tail _ (.head _)),
        same manifestFile.draftName (by decide), same manifestFile.name (by decide)]
      cases isFolder first manifestFile.draftName <;> cases isFolder first manifestFile.name <;> rfl

/-- What writing a state gives, wherever the state folder stands. -/
theorem Sited.fst_persist (site : Sited disk home place inside) (fit : Fit disk place inside)
    (next : Baseline) :
    (persist (Path.absolute home) next disk).1 =
      (persistIn (Path.absolute home) inside next).1 := by
  have first := site.save_apply graphFile (by decide) (by decide) (by decide)
    (fit.draft graphFile (by simp)) (GraphLog.write next.store)
  rw [persist, bind_apply, site.ensureFolder]
  simp only [bind_apply, first, persistIn, saveIn]
  cases draft : isFolder inside graphFile.draftName with
  | true => rfl
  | false =>
    cases name : isFolder inside graphFile.name with
    | true => rfl
    | false =>
      have listed : ∀ name ∈ [graphFile.draftName, graphFile.name], name ∈ stateNames := by decide
      have moved := site.replace (Disk.grows_replace site.node?
        (keeps_saved (GraphLog.write next.store) draft name)
        fun name member => fit.futile name (listed name member))
      have plain : ∀ target, (saved inside graphFile (GraphLog.write next.store)).get?
          manifestFile.draftName ≠ some (.link target) := by
        rw [get?_saved_graph inside _ (.head _)]
        exact fit.draft manifestFile (by simp)
      have second := moved.save_apply manifestFile (by decide) (by decide) (by decide) plain
        next.manifest.write
      simp only [Bool.false_eq_true, if_false, second]
      split
      · rfl
      · split <;> rfl

/-- The next state can be written: no folder is in the way of a run in the state folder, or there is
nothing in the place of the state folder. -/
def Writable (disk : Disk) (home : Location) : Prop :=
  (∃ place inside, Sited disk home place inside ∧ Open inside) ∨
    disk.node? (stateLocation home) = none

section

variable (proper : Disk.Proper home) (upper : disk.node? home = some (.folder outside))
variable (fit : ∀ place inside, Sited disk home place inside → Fit disk place inside)
include proper upper fit

theorem exists_persist_iff (next : Baseline) :
    (∃ after, persist (Path.absolute home) next disk = (.ok (), after)) ↔ Writable disk home := by
  constructor
  · rintro ⟨after, done⟩
    have first := done
    rw [persist] at first
    obtain ⟨_, middle, made, _⟩ := bind_ok first
    rcases exists_site_of_ensureFolder proper upper made with
      ⟨place, inside, site, rfl⟩ | ⟨absent, _⟩
    · obtain ⟨free, _⟩ := (site.persist_eq_ok_iff (fit place inside site) next).1 done
      exact .inl ⟨place, inside, site, free⟩
    · exact .inr absent
  · rintro (⟨place, inside, site, free⟩ | absent)
    · exact ⟨_, (site.persist_eq_ok_iff (fit place inside site) next).2 ⟨free, rfl⟩⟩
    · have site := sited_created proper upper []
      have free : Open [] := fun _ _ => rfl
      rw [persist_of_ensureFolder site (ensureFolder_apply_of_absent proper upper absent)]
      exact ⟨_, (site.persist_eq_ok_iff (plain_nil.fit _ _) next).2 ⟨free, rfl⟩⟩

/-- On the same disk any two states are written, or none is. -/
theorem fst_persist_congr (one two : Baseline) :
    (persist (Path.absolute home) two disk).1 = (persist (Path.absolute home) one disk).1 := by
  rcases made : ensureFolder (Path.absolute home) disk with ⟨_ | _, middle⟩
  · rw [persist, persist, bind_apply, bind_apply, made]
  · rcases exists_site_of_ensureFolder proper upper made with
      ⟨place, inside, site, rfl⟩ | ⟨_, rfl⟩
    · rw [site.fst_persist (fit place inside site), site.fst_persist (fit place inside site)]
      exact fst_persistIn_congr (fun _ _ => rfl) one two
    · have site := sited_created proper upper []
      rw [persist_of_ensureFolder site made, persist_of_ensureFolder site made,
        site.fst_persist (plain_nil.fit _ _), site.fst_persist (plain_nil.fit _ _)]
      exact fst_persistIn_congr (fun _ _ => rfl) one two

/-- A state that was written is there. -/
theorem exists_stores_of_persist {next : Baseline}
    (done : persist (Path.absolute home) next disk = (.ok (), after)) :
    ∃ place inside, Sited after home place inside ∧
      Stores inside next.manifest next.store.records := by
  have first := done
  rw [persist] at first
  obtain ⟨_, middle, made, _⟩ := bind_ok first
  rcases exists_site_of_ensureFolder proper upper made with ⟨place, inside, site, rfl⟩ | ⟨_, rfl⟩
  · have fit := fit place inside site
    obtain ⟨free, rfl⟩ := (site.persist_eq_ok_iff fit next).1 done
    exact ⟨place, _, site.replace (site.grows_written fit free next), stores_written inside next⟩
  · have site := sited_created proper upper []
    have fit := plain_nil.fit (disk.put (stateLocation home) (.folder [])) (stateLocation home)
    rw [persist_of_ensureFolder site made] at done
    obtain ⟨free, rfl⟩ := (site.persist_eq_ok_iff fit next).1 done
    exact ⟨_, _, site.replace (site.grows_written fit free next), stores_written [] next⟩

end

/-! ## Runs -/

/-- A run has left the records that the sources contribute, and a manifest. -/
structure Rebuilt (analyzer : Analyzer) (found : List Source) (home : Location)
    (manifest : Manifest) (after : Disk) : Prop where
  graph : after.read (graphFile.path (Path.absolute home)) =
    .ok (String.ofList ((analyzer.fullRecords found).flatMap GraphLog.line)).toUTF8
  manifest : after.read (manifestFile.path (Path.absolute home)) = .ok manifest.write.toUTF8

/-- Runs at two times on two disks give the same, also where they fail: an error about files that
cannot be read lists all of them. They succeed if the sources can be read and the next state can be
written. Then they are full, and they leave the records that the sources contribute and the same
manifest apart from its time. -/
structure SameRebuild (parser : Parser) (config : Config) (root : String) (home : Location)
    (now later : Instant) (disk other : Disk) : Prop where
  result : (run ⟨parser, config, later⟩ root other).1 = (run ⟨parser, config, now⟩ root disk).1
  completes : (∃ summary after, run ⟨parser, config, now⟩ root disk = (.ok summary, after)) ↔
    (∃ found, sources (Path.absolute home) config.scan disk = (.ok found, disk)) ∧
      Writable disk home
  rebuilt : ∀ {summary after}, run ⟨parser, config, now⟩ root disk = (.ok summary, after) →
    summary.mode = .full ∧ ∃ (found : List Source) (manifest : Manifest) (afterwards : Disk),
      sources (Path.absolute home) config.scan disk = (.ok found, disk) ∧
      run ⟨parser, config, later⟩ root other = (.ok summary, afterwards) ∧
      Rebuilt (config.analyzer parser) found home { manifest with generated := now } after ∧
      Rebuilt (config.analyzer parser) found home { manifest with generated := later } afterwards

/-- The state that a run without older state leads to. -/
def fullState (parser : Parser) (config : Config) (found : List Source) (time : Instant) :
    Baseline :=
  let input : Pass.Input := ⟨parser, config, time, found⟩
  ⟨Pass.nextManifest input (input.changes none) (Pass.analyzedSources input none) none
    (Pass.nextStore input none), Pass.nextStore input none⟩

section

variable {parser : Parser} {config : Config} {found : List Source} {time : Instant}

theorem next_full (parser : Parser) (config : Config) (found : List Source) (time : Instant) :
    (Reading.outcome ⟨⟨parser, config, time⟩, none, found⟩).next =
      some (fullState parser config found time) :=
  Pass.next_advance ⟨parser, config, time, found⟩ none

/-- Only the manifest depends on the time of a run. -/
theorem fullState_of_time (now : Instant) :
    fullState parser config found time =
      ⟨{ (fullState parser config found now).manifest with generated := time },
        (fullState parser config found now).store⟩ := by
  simp only [fullState, Pass.nextManifest, Pass.nextStore]
  rfl

theorem summary_of_time (now : Instant) :
    (Reading.outcome ⟨⟨parser, config, time⟩, none, found⟩).summary =
      (Reading.outcome ⟨⟨parser, config, now⟩, none, found⟩).summary := by
  simp only [Reading.outcome, Reading.input, Pass.run, Pass.advance]
  rfl

/-- A run that has written such a state has left it. -/
theorem rebuilt_of_persist (proper : Disk.Proper home)
    (upper : disk.node? home = some (.folder outside))
    (fit : ∀ place inside, Sited disk home place inside → Fit disk place inside)
    (done : persist (Path.absolute home) (fullState parser config found time) disk =
      (.ok (), after)) :
    Rebuilt (config.analyzer parser) found home (fullState parser config found time).manifest
      after := by
  obtain ⟨place, inside, site, stores⟩ := exists_stores_of_persist proper upper fit done
  have records : (fullState parser config found time).store.records =
      (config.analyzer parser).fullRecords found :=
    Pass.records_nextStore_none ⟨parser, config, time, found⟩
  constructor
  · rw [← records]
    exact site.read_graph stores
  · exact site.read_text (by decide) stores.manifest

end

/-- Two disks on which runs find no state to build on and the same sources, and in which the same is
in the way of the next state. -/
structure Interchangeable (config : Config) (root : String) (home : Location) (disk other : Disk) :
    Prop where
  leads : Leads other root home
  loaded : loadBaseline? config (Path.absolute home) other = (.ok none, other)
  scanned : (sources (Path.absolute home) config.scan other).1 =
    (sources (Path.absolute home) config.scan disk).1
  persists : ∀ one two, (persist (Path.absolute home) two other).1 =
    (persist (Path.absolute home) one disk).1
  fit : ∀ place inside, Sited other home place inside → Fit other place inside

/-- Runs on such disks give the same. -/
theorem Interchangeable.sameRebuild {config : Config} {other : Disk}
    (pair : Interchangeable config root home disk other) (parser : Parser) (now later : Instant)
    (valid : config.fault? = none) (proper : Disk.Proper home) (leads : Leads disk root home)
    (loaded : loadBaseline? config (Path.absolute home) disk = (.ok none, disk))
    (fit : ∀ place inside, Sited disk home place inside → Fit disk place inside) :
    SameRebuild parser config root home now later disk other := by
  have reads (some : Disk) := reads_sources (Path.absolute home) config.scan some
  have scanned := pair.scanned
  cases result : (sources (Path.absolute home) config.scan disk).1 with
  | error error =>
    -- Both runs stop before they write.
    rw [result] at scanned
    have failed : run ⟨parser, config, now⟩ root disk = (.error error, disk) :=
      run_of_unscanned leads valid loaded (Prod.ext result (reads disk))
    have failedToo : run ⟨parser, config, later⟩ root other = (.error error, other) :=
      run_of_unscanned pair.leads valid pair.loaded (Prod.ext scanned (reads other))
    refine ⟨by rw [failed, failedToo], ?_, fun done => by cases failed.symm.trans done⟩
    constructor
    · rintro ⟨summary, after, done⟩
      cases failed.symm.trans done
    · rintro ⟨⟨found, scanned⟩, _⟩
      rw [scanned] at result
      cases result
  | ok found =>
    rw [result] at scanned
    have first : Gathers disk home ⟨⟨parser, config, now⟩, none, found⟩ :=
      ⟨valid, loaded, Prod.ext result (reads disk)⟩
    have second : Gathers other home ⟨⟨parser, config, later⟩, none, found⟩ :=
      ⟨valid, pair.loaded, Prod.ext scanned (reads other)⟩
    have one := run_of_gathers leads first
    have two := run_of_gathers pair.leads second
    have same : (run ⟨parser, config, later⟩ root other).1 =
        (run ⟨parser, config, now⟩ root disk).1 := by
      rw [one, two, fst_conclude (next_full ..), fst_conclude (next_full ..), summary_of_time now,
        pair.persists (fullState parser config found now)]
    obtain ⟨entries, upper⟩ := leads
    obtain ⟨others, there⟩ := pair.leads
    have writes := exists_persist_iff proper (Disk.node?_of_folder? upper) fit
      (fullState parser config found now)
    refine ⟨same, ?_, fun {summary after} done => ?_⟩
    · constructor
      · rintro ⟨summary, after, done⟩
        have written := persist_of_conclude (next_full ..) (one.symm.trans done)
        exact ⟨⟨found, first.scanned⟩, writes.1 ⟨after, written⟩⟩
      · rintro ⟨_, writable⟩
        obtain ⟨after, written⟩ := writes.2 writable
        exact ⟨_, after, one.trans (conclude_of_persist (next_full ..) written)⟩
    · rcases outcome : run ⟨parser, config, later⟩ root other with ⟨given, afterwards⟩
      rw [done, outcome] at same
      cases same
      have written := rebuilt_of_persist proper (Disk.node?_of_folder? upper) fit
        (persist_of_conclude (next_full ..) (one.symm.trans done))
      have writtenToo := rebuilt_of_persist proper (Disk.node?_of_folder? there) pair.fit
        (persist_of_conclude (next_full ..) (two.symm.trans outcome))
      rw [fullState_of_time now] at written writtenToo
      cases summary_of_conclude (one.symm.trans done)
      exact ⟨rfl, found, _, afterwards, first.scanned, rfl, written, writtenToo⟩

/-- No state file is a link once the two that may be are removed. -/
theorem PlainDrafts.plain_bare (plain : PlainDrafts disk home)
    (site : Sited disk home place inside) : Plain (bare inside) := by
  intro name listed target known
  by_cases removed : name ∈ [manifestFile.name, graphFile.name]
  · rw [get?_bare inside removed] at known
    cases known
  · rw [get?_bare_of_not_mem inside removed] at known
    simp only [stateNames, List.mem_cons, List.not_mem_nil, or_false] at listed removed
    rcases listed with rfl | rfl | rfl | rfl
    · exact removed (.inr rfl)
    · exact plain place inside site graphFile (by simp) target known
    · exact removed (.inl rfl)
    · exact plain place inside site manifestFile (by simp) target known

section

variable {manifest graph : Option ByteArray} (contains : Contains disk home manifest graph)
variable (site : Sited disk home place inside)
include contains site

theorem Contains.isFolder_bare (name : String) :
    isFolder (bare inside) name = isFolder inside name := by
  by_cases removed : name ∈ [manifestFile.name, graphFile.name]
  · rw [contains.isFolder_eq_false site removed, isFolder, get?_bare inside removed]
  · rw [isFolder, isFolder, get?_bare_of_not_mem inside removed]

/-- A walk does not see that the state files were removed. -/
theorem Contains.sameFiles_bare (distinct : inside.Distinct) :
    Walk.SameFiles inside (bare inside) := by
  have free : isFolder (inside.erase manifestFile.name) graphFile.name = false := by
    rw [isFolder, Folder.get?_erase_of_ne _ (by decide)]
    exact contains.isFolder_eq_false site (by simp)
  exact (Walk.sameFiles_erase distinct (by decide)
    (contains.isFolder_eq_false site (by simp))).trans
      (Walk.sameFiles_erase (distinct.erase _) (by decide) free)

/-- The state files are missing once they were removed. -/
theorem Contains.contains_bare : Contains (disk.replace place (bare inside)) home none none := by
  have moved := site.replace (contains.grows_bare site)
  have absent {artifact : Artifact} (isName : Path.Proper artifact.name)
      (listed : artifact.name ∈ [manifestFile.name, graphFile.name]) :
      (disk.replace place (bare inside)).read (artifact.path (Path.absolute home)) = held none := by
    have missing := get?_bare inside listed
    rw [Artifact.path, moved.read isName (by simp [missing]), contentIn, missing, held]
  exact ⟨absent (by decide) (by simp), absent (by decide) (by simp)⟩

/-- A run does the same once the state files were removed. -/
theorem Contains.interchangeable_bare {config : Config} (plain : PlainDrafts disk home)
    (proper : Disk.Proper home) (leads : Leads disk root home) (distinct : disk.Distinct)
    (ignores : ∀ path ∈ ignorePaths (Path.absolute home) config.scan,
      (disk.replace place (bare inside)).file? path = disk.file? path) :
    Interchangeable config root home disk (disk.replace place (bare inside)) := by
  have grows := contains.grows_bare site
  have moved := site.replace grows
  have plainBare := plain.plain_bare site
  have nothing : IsText none := fun _ present => by cases present
  have legible : Legible config none none := ⟨nothing, fun _ _ => nothing⟩
  obtain ⟨baseline, loaded, useless⟩ := (contains.contains_bare site).exists_loadBaseline? legible
  obtain ⟨entries, found⟩ := id leads
  have upper := Disk.node?_of_folder? found
  -- The state folder may stand inside the tree, so the tree is not the same, but a walk sees no
  -- state file in it.
  obtain ⟨other, there, files⟩ := Folder.exists_related_modify Walk.SameFiles (fun _ _ _ => rfl)
    (fun valid known same => Walk.sameFiles_set_folder valid known same) distinct site.node?
    (contains.keeps_bare site)
    (contains.sameFiles_bare site (distinct place inside site.node?)) upper
  exact {
    leads := leads.of_grows grows rfl
    loaded := by rw [loaded, useless.2 (.missing rfl)]
    scanned := sources_of_files proper upper there
      (fun filter => by rw [Walk.files_eq_sortBy, Walk.files_eq_sortBy, files]) ignores
    persists := by
      intro one two
      rw [moved.fst_persist (plainBare.fit _ _), site.fst_persist (contains.fit plain site)]
      exact fst_persistIn_congr (fun name _ => contains.isFolder_bare site name) one two
    fit := by
      intro elsewhere entries sited
      cases moved.leads.symm.trans sited.leads
      exact plainBare.fit _ _ }

end

/-- Unusable state leads to a clean rebuild. Whatever the manifest and the graph log hold, a run
reads them without an error unless one that it needs is not text, and it builds on them unless they
are unusable. Then it does what it would do after both were removed: it is a full run that reports
the same and leaves the records that the sources contribute and the same manifest apart from its
time. If the sources cannot be read or the next state cannot be written, it fails with the same
error.

The state folder may be a link, and so may be the two files, but not the drafts. Removing the files
must not change an ignore file. -/
theorem unusable_state_is_rebuilt (parser : Parser) {config : Config} (now later : Instant)
    (valid : config.fault? = none) (proper : Disk.Proper home) (leads : Leads disk root home)
    (distinct : disk.Distinct) (plain : PlainDrafts disk home) {manifest graph : Option ByteArray}
    (contains : Contains disk home manifest graph) :
    (Legible config manifest graph →
      ∃ baseline, loadBaseline? config (Path.absolute home) disk = (.ok baseline, disk) ∧
        (baseline = none ↔ Unusable config manifest graph)) ∧
    (¬Legible config manifest graph →
      ∃ artifact ∈ [manifestFile, graphFile], run ⟨parser, config, now⟩ root disk =
        (.error (.inaccessible (artifact.path (Path.absolute home))), disk)) ∧
    ∃ cleared, clear root disk = (.ok (), cleared) ∧
      (Legible config manifest graph → Unusable config manifest graph →
        (∀ path ∈ ignorePaths (Path.absolute home) config.scan,
          cleared.file? path = disk.file? path) →
        SameRebuild parser config root home now later disk cleared) := by
  have fit : ∀ place inside, Sited disk home place inside → Fit disk place inside :=
    fun _ _ site => contains.fit plain site
  refine ⟨contains.exists_loadBaseline?, fun garbled => ?_, ?_⟩
  · obtain ⟨artifact, listed, failed⟩ := contains.loadBaseline?_of_not_legible garbled
    obtain ⟨entries, found⟩ := leads
    refine ⟨artifact, listed, ?_⟩
    simp only [run, bind_apply, checkConfig_apply, valid, resolveRoot_apply, found, failed]
  · obtain ⟨cleared, removed, result⟩ := contains.exists_clear proper leads
    refine ⟨cleared, removed, fun legible unusable ignores => ?_⟩
    obtain ⟨baseline, loaded, useless⟩ := contains.exists_loadBaseline? legible
    rw [useless.2 unusable] at loaded
    have pair : Interchangeable config root home disk cleared := by
      rcases result with rfl | ⟨place, inside, site, rfl⟩
      · obtain ⟨entries, found⟩ := id leads
        exact ⟨leads, loaded, rfl,
          fst_persist_congr proper (Disk.node?_of_folder? found) fit, fit⟩
      · exact contains.interchangeable_bare site plain proper leads distinct ignores
    exact pair.sameRebuild parser now later valid proper leads loaded fit

/-- A disk with the small tree whose state folder is a link to another folder. There the manifest is
malformed, and the graph log is a link to a file that is not text. -/
def spoiledDisk : Disk :=
  { top :=
      [("state", .folder [("manifest.json", .file { content := "*".toUTF8 }),
        ("graph.jsonl", .link "old.bin"), ("old.bin", .file { content := ⟨#[255]⟩ })]),
       ("tree", .folder [("a.py", .file sampleFile), (".arbor", .link "../state")])] }

/-- The same disk without the two files. -/
def clearedDisk : Disk :=
  { top :=
      [("state", .folder [("old.bin", .file { content := ⟨#[255]⟩ })]),
       ("tree", .folder [("a.py", .file sampleFile), (".arbor", .link "../state")])] }

theorem clear_spoiled : clear (Path.absolute ["tree"]) spoiledDisk = (.ok (), clearedDisk) := rfl

theorem contains_spoiled :
    Contains spoiledDisk ["tree"] (some "*".toUTF8) (some ⟨#[255]⟩) := ⟨rfl, rfl⟩

theorem resolve_spoiled : spoiledDisk.resolve (stateFolder (Path.absolute ["tree"])) =
    .found ["state"] (.folder [("manifest.json", .file { content := "*".toUTF8 }),
      ("graph.jsonl", .link "old.bin"), ("old.bin", .file { content := ⟨#[255]⟩ })]) := rfl

theorem plainDrafts_spoiled : PlainDrafts spoiledDisk ["tree"] := by
  intro place inside site artifact listed target known
  cases resolve_spoiled.symm.trans site.leads
  simp only [List.mem_cons, List.not_mem_nil, or_false] at listed
  rcases listed with rfl | rfl <;> cases known

theorem writable_spoiled : Writable spoiledDisk ["tree"] :=
  .inl ⟨_, _, ⟨proper_sample, resolve_spoiled⟩, by simp only [Open]; decide⟩

theorem distinct_spoiled : spoiledDisk.Distinct := by
  refine distinct_of_entries (by decide) fun name inner known => ?_
  simp only [spoiledDisk, Folder.get?_cons] at known
  split at known
  · cases known
    refine distinct_of_entries (by decide) fun name inner known => ?_
    simp only [Folder.get?_cons] at known
    repeat' split at known
    all_goals cases known
  · split at known
    · cases known
      refine distinct_of_entries (by decide) fun name inner known => ?_
      simp only [Folder.get?_cons] at known
      repeat' split at known
      all_goals cases known
    · cases known

theorem legible_spoiled (config : Config) :
    Legible config (some "*".toUTF8) (some ⟨#[255]⟩) ∧
      Unusable config (some "*".toUTF8) (some ⟨#[255]⟩) := by
  have unread : Manifest.parse? "*" = none := by decide
  refine ⟨⟨fun bytes present => ⟨"*", (Option.some.inj present).symm⟩, ?_⟩, .malformed rfl unread⟩
  rintro known ⟨text, present, parsed, _⟩
  cases toUTF8_inj present
  cases unread.symm.trans parsed

/-- A run on that disk does what it does on the cleared one. -/
theorem unusable_state_is_rebuilt_spoiled :
    ∃ summary after afterwards,
      run (sampleReading .unit none).context (Path.absolute ["tree"]) spoiledDisk =
        (.ok summary, after) ∧
      run { (sampleReading .unit none).context with now := Instant.ofUnix 1 0 }
        (Path.absolute ["tree"]) clearedDisk = (.ok summary, afterwards) ∧
      summary.mode = .full ∧
      after.read (graphFile.path (Path.absolute ["tree"])) =
        afterwards.read (graphFile.path (Path.absolute ["tree"])) := by
  have leads : Leads spoiledDisk (Path.absolute ["tree"]) ["tree"] := ⟨_, rfl⟩
  obtain ⟨legible, unusable⟩ := legible_spoiled (sampleReading .unit none).context.config
  obtain ⟨_, _, cleared, removed, rebuilds⟩ := unusable_state_is_rebuilt (fun _ _ => sampleTree)
    (Instant.ofUnix 0 0) (Instant.ofUnix 1 0) (valid_sample .unit) proper_sample leads
    distinct_spoiled plainDrafts_spoiled contains_spoiled
  cases clear_spoiled.symm.trans removed
  have ignores : ∀ path ∈ ignorePaths (Path.absolute ["tree"]) {},
      clearedDisk.file? path = spoiledDisk.file? path := by
    intro path member
    simp only [ignorePaths, List.mem_cons, List.not_mem_nil, or_false] at member
    rcases member with rfl | rfl <;> rfl
  have same := rebuilds legible unusable ignores
  have scanned : ∃ found, sources (Path.absolute ["tree"]) {} spoiledDisk =
      (.ok found, spoiledDisk) := ⟨_, rfl⟩
  obtain ⟨summary, after, done⟩ := same.completes.2 ⟨scanned, writable_spoiled⟩
  obtain ⟨full, found, manifest, afterwards, _, again, left, leftToo⟩ := same.rebuilt done
  exact ⟨summary, after, afterwards, done, again, full, left.graph.trans leftToo.graph.symm⟩

/-! ## State files that are not only that -/

/-- A disk with the small tree, whose malformed manifest holds a pattern. -/
def patternDisk : Disk :=
  { top := [("tree", .folder [("a.py", .file sampleFile),
      (".arbor", .folder [("manifest.json", .file { content := "*.py".toUTF8 })])])] }

/-- Runs that read patterns from the manifest. -/
def patternContext : Context where
  parser := fun _ _ => sampleTree
  config := { scan := { ignoreFile := ".arbor/manifest.json" } }
  now := Instant.ofUnix 0 0

/-- The numbers of records after a run and after one on the cleared tree, as far as they succeed. -/
def recordsOfTwo (context : Context) (root : String) (disk : Disk) : Option Nat × Option Nat :=
  ((run context root disk).1.toOption.map (·.records),
    (run context root (clear root disk).2).1.toOption.map (·.records))

/-- Where a state file is an ignore file as well, or where a draft is a link to a state file, a run
does not do what it does after the state files were removed. -/
theorem rebuild_depends_on_state_files :
    recordsOfTwo patternContext "/tree" patternDisk = (some 0, some 1) ∧
      recordsOfTwo (sampleReading .file none).context "/tree"
        (bareDisk [("manifest.json", .link "nowhere/manifest.json"),
          ("manifest.tmp", .link "manifest.json")]) = (none, some 0) := by
  decide +kernel

end SourceIndex.Workspace
