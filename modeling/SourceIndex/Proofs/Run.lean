import SourceIndex.Proofs.Documents
import SourceIndex.Proofs.GraphLog
import SourceIndex.Proofs.Pass
import SourceIndex.Proofs.Scan

/-!
# Runs on a disk

A run first reads and then writes. What it reads is gathered in a value, from which its outcome is
computed; what it writes replaces two files of the state folder. The next run reads back what was
written, up to the times of files.
-/

namespace SourceIndex.Workspace

/-- A path that leads to the folder at a location. -/
def Leads (disk : Disk) (root : String) (home : Location) : Prop :=
  ∃ entries, disk.folder? root = some (home, entries)

/-- The settings of a run together with what it has read. -/
structure Reading where
  context : Context
  baseline : Option Baseline
  sources : List Source

namespace Reading

/-- What the pass of a run is given. -/
def input (reading : Reading) : Pass.Input :=
  ⟨reading.context.parser, reading.context.config, reading.context.now, reading.sources⟩

/-- What the pass of a run leads to. -/
def outcome (reading : Reading) : Outcome := Pass.run reading.input reading.baseline

/-- The sources that a run analyses. -/
def analyzed (reading : Reading) : List Source :=
  reading.input.stale (reading.input.changes reading.baseline)

end Reading

/-- The first part of a run: everything that it reads, with the path of the tree. -/
def gather (context : Context) (root : String) : DiskAction (String × Reading) := do
  checkConfig context.config
  let root ← resolveRoot root
  let baseline ← loadBaseline? context.config root
  let sources ← sources root context.config.scan
  return (root, ⟨context, baseline, sources⟩)

/-- Writes the next state. -/
def persist (root : String) (next : Baseline) : DiskAction Unit := do
  ensureFolder root
  save root graphFile (GraphLog.write next.store)
  save root manifestFile next.manifest.write

/-- The second part of a run: the next state is written, if there is one. -/
def conclude (root : String) (outcome : Outcome) : DiskAction Summary :=
  match outcome.next with
  | none => return outcome.summary
  | some next => do
    persist root next
    return outcome.summary

/-- A run that has a next state does to the disk what writing it does. -/
theorem snd_conclude {outcome : Outcome} {next : Baseline} (known : outcome.next = some next)
    (root : String) (disk : Disk) :
    (conclude root outcome disk).2 = (persist root next disk).2 := by
  rw [conclude, known]
  simp only [bind_pure_comp, map_apply]

/-- What such a run gives is what writing gives. -/
theorem fst_conclude {outcome : Outcome} {next : Baseline} (known : outcome.next = some next)
    (root : String) (disk : Disk) :
    (conclude root outcome disk).1 = (persist root next disk).1.map fun _ => outcome.summary := by
  rw [conclude, known]
  simp only [bind_pure_comp, map_apply]

/-- A run that has a next state succeeds once it has written it. -/
theorem persist_of_conclude {outcome : Outcome} {next : Baseline} {root : String}
    {disk after : Disk} {summary : Summary} (known : outcome.next = some next)
    (done : conclude root outcome disk = (.ok summary, after)) :
    persist root next disk = (.ok (), after) := by
  rw [conclude, known] at done
  obtain ⟨_, _, persisted, rest⟩ := bind_ok done
  cases rest
  exact persisted

theorem conclude_of_persist {outcome : Outcome} {next : Baseline} {root : String}
    {disk after : Disk} (known : outcome.next = some next)
    (done : persist root next disk = (.ok (), after)) :
    conclude root outcome disk = (.ok outcome.summary, after) := by
  rw [conclude, known]
  simp only [bind_apply, done]
  rfl

/-- A run reads and then writes. -/
theorem run_eq (context : Context) (root : String) :
    run context root =
      gather context root >>= fun (root, reading) => conclude root reading.outcome := by
  simp only [run, gather, bind_assoc, pure_bind]
  refine bind_congr fun _ => bind_congr fun root => bind_congr fun baseline =>
    bind_congr fun sources => ?_
  rw [conclude, Reading.outcome, Reading.input]
  generalize Pass.run _ _ = outcome
  cases outcome.next with
  | none => rfl
  | some next => simp only [persist, bind_assoc]

theorem reads_gather (context : Context) (root : String) : Reads (gather context root) :=
  (reads_checkConfig _).bind fun _ => (reads_resolveRoot root).bind fun _ =>
    (reads_loadBaseline? _ _).bind fun _ => (reads_sources _ _).bind fun _ => reads_pure _

/-- What a run has read, on a disk that is as it was. -/
structure Gathers (disk : Disk) (home : Location) (reading : Reading) : Prop where
  valid : reading.context.config.fault? = none
  loaded : loadBaseline? reading.context.config (Path.absolute home) disk =
    (.ok reading.baseline, disk)
  scanned : Workspace.sources (Path.absolute home) reading.context.config.scan disk =
    (.ok reading.sources, disk)

variable {disk after : Disk} {home : Location} {inside : Folder} {root : String}

/-- What a run has gathered was read from the disk. -/
theorem gathers_of_gather {context : Context} {path : String} {reading : Reading}
    (done : gather context root disk = (.ok (path, reading), after)) :
    after = disk ∧ reading.context = context ∧
      ∃ home, Leads disk root home ∧ path = Path.absolute home ∧ Gathers disk home reading := by
  have unchanged := (reads_gather context root).apply_eq done
  rw [gather] at done
  obtain ⟨_, _, valid, done⟩ := bind_ok done
  cases (reads_checkConfig _).apply_eq valid
  obtain ⟨path, _, resolved, done⟩ := bind_ok done
  cases (reads_resolveRoot _).apply_eq resolved
  obtain ⟨baseline, _, loaded, done⟩ := bind_ok done
  cases (reads_loadBaseline? _ _).apply_eq loaded
  obtain ⟨sources, _, scanned, done⟩ := bind_ok done
  cases (reads_sources _ _).apply_eq scanned
  cases done
  rw [checkConfig_apply] at valid
  rw [resolveRoot_apply] at resolved
  split at resolved
  case h_1 home entries known =>
    cases resolved
    split at valid
    · cases valid
    · exact ⟨rfl, rfl, home, ⟨entries, known⟩, rfl, ‹_›, loaded, scanned⟩
  case h_2 => cases resolved

/-- What can be read from the disk is what a run gathers. -/
theorem gather_of_gathers {reading : Reading} (leads : Leads disk root home)
    (gathers : Gathers disk home reading) :
    gather reading.context root disk = (.ok (Path.absolute home, reading), disk) := by
  obtain ⟨entries, known⟩ := leads
  simp only [gather, bind_apply, checkConfig_apply, gathers.valid, resolveRoot_apply, known,
    gathers.loaded, gathers.scanned, pure_apply]

/-! ## Writing -/

/-- None of the names that a run uses in the state folder is a link. -/
def Plain (inside : Folder) : Prop :=
  ∀ name ∈ stateNames, ∀ target, inside.get? name ≠ some (.link target)

/-- What a name stands for after an artifact was saved. -/
theorem get?_saved (inside : Folder) (artifact : Artifact) (text name : String) :
    (saved inside artifact text).get? name =
      if name = artifact.name then some (.file { content := text.toUTF8 })
      else if name = artifact.draftName then none
      else inside.get? name := by
  rw [saved]
  split
  case isTrue same => rw [same, Folder.get?_set]
  case isFalse other =>
    rw [Folder.get?_set_of_ne _ (Ne.symm other)]
    split
    case isTrue same => rw [same, Folder.get?_erase]
    case isFalse other => rw [Folder.get?_erase_of_ne _ (Ne.symm other)]

/-- What writing the next state gives and what the state folder holds then. The graph log is
replaced before the manifest. -/
def persistIn (root : String) (inside : Folder) (next : Baseline) :
    Except WorkspaceError Unit × Folder :=
  match saveIn root inside graphFile (GraphLog.write next.store) with
  | (.ok (), inside) => saveIn root inside manifestFile next.manifest.write
  | (.error error, inside) => (.error error, inside)

theorem Ready.persist (ready : Ready disk home inside) (plain : Plain inside) (next : Baseline) :
    ∃ after, Workspace.persist (Path.absolute home) next disk =
        ((persistIn (Path.absolute home) inside next).1, after) ∧
      Ready after home (persistIn (Path.absolute home) inside next).2 ∧
      SameTree home disk after := by
  obtain ⟨start, made, ready, _, unmoved⟩ := ready.ensureFolder
  obtain ⟨middle, first, ready, same⟩ := ready.save (by decide) (by decide) (by decide)
    (plain graphFile.draftName (by decide)) (GraphLog.write next.store)
  rw [Workspace.persist, bind_apply, made]
  simp only [bind_apply, first, persistIn]
  rcases outcome : saveIn (Path.absolute home) inside graphFile (GraphLog.write next.store) with
    ⟨_ | _, folder⟩ <;> rw [outcome] at ready
  case error => exact ⟨middle, rfl, ready, same.trans unmoved⟩
  case ok =>
    obtain ⟨_, _, rfl⟩ := saveIn_eq_ok_iff.1 outcome
    have plainDraft : ∀ target,
        (saved inside graphFile (GraphLog.write next.store)).get? manifestFile.draftName ≠
          some (.link target) := by
      rw [get?_saved]
      exact plain manifestFile.draftName (by decide)
    obtain ⟨after, second, ready, same'⟩ := ready.save (by decide) (by decide) (by decide)
      plainDraft next.manifest.write
    exact ⟨after, second, ready, same'.trans (same.trans unmoved)⟩

/-! ## The state that was written -/

/-- The state folder holds a manifest and records as a run writes them, and no draft. -/
structure Stores (inside : Folder) (manifest : Manifest) (records : List Record) : Prop where
  graph : inside.get? graphFile.name =
    some (.file { content := (String.ofList (records.flatMap GraphLog.line)).toUTF8 })
  manifest : inside.get? manifestFile.name = some (.file { content := manifest.write.toUTF8 })
  graphDraft : inside.get? graphFile.draftName = none
  manifestDraft : inside.get? manifestFile.draftName = none

/-- The state of a tree after a run. -/
def Persisted (disk : Disk) (home : Location) (manifest : Manifest) (records : List Record) :
    Prop :=
  ∃ inside, Holds disk home inside ∧ Stores inside manifest records

/-- The state folder has none of the files that a run writes. -/
def Blank (inside : Folder) : Prop := ∀ name ∈ stateNames, inside.get? name = none

/-- A tree without state. -/
def Stateless (disk : Disk) (home : Location) : Prop :=
  ∃ inside, Holds disk home inside ∧ Blank inside

/-- A state folder as runs leave it: the names that they use are free or those of files, and there
is no draft. -/
structure Tidy (inside : Folder) : Prop where
  file : ∀ name ∈ stateNames, inside.get? name = none ∨ ∃ file, inside.get? name = some (.file file)
  draft : ∀ artifact ∈ [graphFile, manifestFile], inside.get? artifact.draftName = none

theorem Tidy.plain (tidy : Tidy inside) : Plain inside := by
  intro name member target known
  rcases tidy.file name member with absent | ⟨file, found⟩
  · cases absent.symm.trans known
  · cases found.symm.trans known

theorem Tidy.free (tidy : Tidy inside) : ∀ name ∈ stateNames, isFolder inside name = false := by
  intro name member
  rcases tidy.file name member with absent | ⟨file, found⟩
  · rw [isFolder, absent]
  · rw [isFolder, found]

theorem Blank.tidy (blank : Blank inside) : Tidy inside :=
  ⟨fun name member => .inl (blank name member), by
    simpa using ⟨blank graphFile.draftName (by decide), blank manifestFile.draftName (by decide)⟩⟩

theorem Stores.tidy {manifest : Manifest} {records : List Record}
    (stores : Stores inside manifest records) : Tidy inside := by
  refine ⟨fun name member => ?_, by simpa using ⟨stores.graphDraft, stores.manifestDraft⟩⟩
  simp only [stateNames, List.mem_cons, List.not_mem_nil, or_false] at member
  rcases member with rfl | rfl | rfl | rfl
  · exact .inr ⟨_, stores.graph⟩
  · exact .inl stores.graphDraft
  · exact .inr ⟨_, stores.manifest⟩
  · exact .inl stores.manifestDraft

/-- The next state is what the state folder holds once it was written. -/
theorem stores_of_persistIn {after : Folder} {next : Baseline}
    (done : persistIn root inside next = (.ok (), after)) :
    Stores after next.manifest next.store.records := by
  rw [persistIn] at done
  split at done
  case h_1 middle first =>
    obtain ⟨_, _, rfl⟩ := saveIn_eq_ok_iff.1 first
    obtain ⟨_, _, rfl⟩ := saveIn_eq_ok_iff.1 done
    constructor <;> simp only [get?_saved] <;> rfl
  case h_2 => cases done

/-- The next state is written if no folder is in the way. -/
theorem persistIn_eq_ok (root : String) (next : Baseline)
    (free : ∀ name ∈ stateNames, isFolder inside name = false) :
    ∃ after, persistIn root inside next = (.ok (), after) := by
  have first : saveIn root inside graphFile (GraphLog.write next.store) = (.ok (), _) :=
    saveIn_eq_ok_iff.2 ⟨free _ (by decide), free _ (by decide), rfl⟩
  have draft : isFolder (saved inside graphFile (GraphLog.write next.store))
      manifestFile.draftName = false := by
    rw [isFolder, get?_saved]
    exact free manifestFile.draftName (by decide)
  have file : isFolder (saved inside graphFile (GraphLog.write next.store))
      manifestFile.name = false := by
    rw [isFolder, get?_saved]
    exact free manifestFile.name (by decide)
  rw [persistIn, first]
  exact ⟨_, saveIn_eq_ok_iff.2 ⟨draft, file, rfl⟩⟩

/-! ## Reading it back -/

/-- A text that was written is read back. -/
theorem readText?_of_read {path text : String} (content : disk.read path = .ok text.toUTF8) :
    readText? path disk = (.ok (some text), disk) := by
  have decoded : String.fromUTF8? text.toUTF8 = some text := dif_pos text.isValidUTF8
  have read : disk.readText path = .ok text := by
    simp only [Disk.readText, content, bind, Except.bind, decoded]
  rw [readText?_apply, read]

/-- The content of a state file that was written. -/
theorem Ready.read_text (ready : Ready disk home inside) {name text : String}
    (isName : Path.Proper name)
    (known : inside.get? name = some (.file { content := text.toUTF8 })) :
    disk.read (stateFile (Path.absolute home) name) = .ok text.toUTF8 := by
  rw [ready.read isName (by simp [known]), contentIn, known]
  rfl

/-- The text of a state file that was written. -/
theorem Ready.readText?_file (ready : Ready disk home inside) {name text : String}
    (isName : Path.Proper name)
    (known : inside.get? name = some (.file { content := text.toUTF8 })) :
    readText? (stateFile (Path.absolute home) name) disk = (.ok (some text), disk) :=
  readText?_of_read (ready.read_text isName known)

theorem Ready.readText?_missing (ready : Ready disk home inside) {name : String}
    (isName : Path.Proper name) (absent : inside.get? name = none) :
    readText? (stateFile (Path.absolute home) name) disk = (.ok none, disk) := by
  have content := ready.read isName (by simp [absent])
  rw [contentIn, absent] at content
  rw [readText?_apply, Disk.readText, content]
  rfl

/-- Without a manifest there is no state to build on. -/
theorem Ready.loadBaseline?_missing (ready : Ready disk home inside) (config : Config)
    (absent : inside.get? manifestFile.name = none) :
    loadBaseline? config (Path.absolute home) disk = (.ok none, disk) := by
  have missing := ready.readText?_missing (by decide) absent
  simp only [loadBaseline?, loadManifest?, bind_apply, Artifact.path, missing, pure_apply]

/-- The manifest that is read back is the one that was written, up to the times of files. -/
theorem Ready.loadManifest?_stored (ready : Ready disk home inside) {manifest found : Manifest}
    (known : inside.get? manifestFile.name = some (.file { content := manifest.write.toUTF8 }))
    (loaded : loadManifest? (Path.absolute home) disk = (.ok (some found), after)) :
    found.Similar manifest := by
  have text := ready.readText?_file (by decide) known
  simp only [loadManifest?, bind_apply, Artifact.path, text, Manifest.read] at loaded
  cases parsed : Manifest.parse? manifest.write with
  | none =>
    simp only [parsed] at loaded
    cases loaded
  | some other =>
    by_cases current : other.version = Manifest.currentVersion
    · simp only [parsed, current, if_true] at loaded
      cases loaded
      exact Manifest.similar_of_parse? parsed
    · simp only [parsed, current, if_false] at loaded
      cases loaded

/-- A run builds on the state that the run before has written, up to the times of files, or on
none. -/
theorem Ready.loadBaseline?_stored (ready : Ready disk home inside) {config : Config}
    {manifest : Manifest} {store : Store} (stores : Stores inside manifest store.records)
    {baseline : Baseline} (loaded : loadBaseline? config (Path.absolute home) disk =
      (.ok (some baseline), after)) :
    baseline.manifest.compatible config.granularity config.tracking.digest = true ∧
      baseline.manifest.Similar manifest ∧ baseline.store.records = store.records := by
  obtain ⟨known, _, found, loaded⟩ := bind_ok loaded
  cases (reads_loadManifest? _).apply_eq found
  cases known with
  | none => cases loaded
  | some known =>
    simp only at loaded
    split at loaded
    case isFalse => cases loaded
    case isTrue compatible =>
      have text := ready.readText?_file (by decide) stores.graph
      obtain ⟨read, log, same⟩ := GraphLog.read_write store
      rw [GraphLog.write] at log
      simp only [bind_apply, Artifact.path, text, log] at loaded
      cases loaded
      exact ⟨compatible, ready.loadManifest?_stored stores.manifest found, same⟩

/-! ## Whole runs -/

theorem Leads.unique {first second : Location} (left : Leads disk root first)
    (right : Leads disk root second) : first = second := by
  obtain ⟨_, left⟩ := left
  obtain ⟨_, right⟩ := right
  cases left.symm.trans right
  rfl

/-- A location is where its own path leads. -/
theorem Ready.leads (ready : Ready disk home inside) : Leads disk (Path.absolute home) home := by
  obtain ⟨outside, upper⟩ := ready.upper
  refine ⟨outside, ?_⟩
  rw [Disk.folder?, Disk.resolve, Disk.resolveWith_folder true ready.proper upper]

/-- A tree to which a path leads exists. -/
theorem Leads.ready (leads : Leads disk root home) (proper : Disk.Proper home)
    (holds : Holds disk home inside) : Ready disk home inside := by
  obtain ⟨entries, found⟩ := leads
  exact ⟨proper, ⟨entries, Disk.node?_of_folder? found⟩, holds⟩

/-- Once a run has read everything, it concludes. -/
theorem run_of_gathers {reading : Reading} (leads : Leads disk root home)
    (gathers : Gathers disk home reading) :
    run reading.context root disk = conclude (Path.absolute home) reading.outcome disk := by
  rw [run_eq, bind_apply, gather_of_gathers leads gathers]

/-- The status is what a run reads, compared. -/
theorem status_of_gathers {reading : Reading} (leads : Leads disk root home)
    (gathers : Gathers disk home reading) :
    status reading.context root disk = (.ok ⟨Pass.mode reading.baseline,
      reading.input.changes reading.baseline, reading.baseline.map (·.manifest.totals)⟩, disk) := by
  obtain ⟨entries, known⟩ := leads
  simp only [status, bind_apply, checkConfig_apply, gathers.valid, resolveRoot_apply, known,
    gathers.loaded, gathers.scanned]
  rfl

/-- A run that succeeds reports the summary of its pass. -/
theorem summary_of_conclude {outcome : Outcome} {summary : Summary}
    (done : conclude root outcome disk = (.ok summary, after)) : summary = outcome.summary := by
  rw [conclude] at done
  cases known : outcome.next with
  | none =>
    rw [known] at done
    cases done
    rfl
  | some next =>
    rw [known] at done
    obtain ⟨_, _, _, rest⟩ := bind_ok done
    cases rest
    rfl

/-- A pass that is incremental has a baseline. -/
theorem exists_baseline_of_incremental {reading : Reading}
    (incremental : reading.outcome.summary.mode = .incremental) :
    ∃ state, reading.baseline = some state := by
  cases loaded : reading.baseline with
  | some state => exact ⟨state, rfl⟩
  | none =>
    rw [Reading.outcome, loaded] at incremental
    cases incremental

/-- If there is nothing to write, nothing was analysed. -/
theorem Reading.analyzed_of_next_eq_none {reading : Reading} (quiet : reading.outcome.next = none) :
    reading.analyzed = [] := by
  obtain ⟨state, loaded, same⟩ := Pass.exists_confirmed quiet
  rw [analyzed, loaded]
  exact Pass.stale_of_isEmpty same

/-- What a run leaves behind that has read its state: the same disk if nothing has changed, and
otherwise the next state. -/
theorem Ready.conclude (ready : Ready disk home inside) (plain : Plain inside) {outcome : Outcome}
    {summary : Summary}
    (done : Workspace.conclude (Path.absolute home) outcome disk = (.ok summary, after)) :
    match outcome.next with
    | none => after = disk
    | some next => SameTree home disk after ∧
        ∃ inside, Ready after home inside ∧ Stores inside next.manifest next.store.records := by
  rw [Workspace.conclude] at done
  cases known : outcome.next with
  | none =>
    rw [known] at done
    cases done
    rfl
  | some next =>
    obtain ⟨middle, written, stored, same⟩ := ready.persist plain next
    simp only [known, bind_apply, written] at done
    rcases result : persistIn (Path.absolute home) inside next with ⟨_ | _, folder⟩ <;>
      rw [result] at done stored
    case error => cases done
    case ok =>
      cases done
      exact ⟨same, folder, stored, stores_of_persistIn result⟩

/-- A run succeeds once it has read everything, if the state folder is as runs leave it. -/
theorem Ready.exists_run (ready : Ready disk home inside) (tidy : Tidy inside) {reading : Reading}
    (leads : Leads disk root home) (gathers : Gathers disk home reading) :
    ∃ after, run reading.context root disk = (.ok reading.outcome.summary, after) ∧
      SameTree home disk after := by
  rw [run_of_gathers leads gathers, Workspace.conclude]
  cases reading.outcome.next with
  | none => exact ⟨disk, rfl, rfl⟩
  | some next =>
    obtain ⟨after, written, _, same⟩ := ready.persist tidy.plain next
    obtain ⟨folder, done⟩ := persistIn_eq_ok (Path.absolute home) next tidy.free
    rw [done] at written
    exact ⟨after, by simp only [bind_apply, written]; rfl, same⟩

/-- A state folder as runs leave it can be cleared, and then there is no state. -/
theorem Ready.clear (ready : Ready disk home inside) (leads : Leads disk root home)
    (tidy : Tidy inside) :
    ∃ after cleared, Workspace.clear root disk = (.ok (), after) ∧ SameTree home disk after ∧
      Ready after home cleared ∧ Blank cleared := by
  obtain ⟨entries, found⟩ := leads
  obtain ⟨middle, first, ready, same⟩ :=
    ready.discard (by decide) (tidy.free manifestFile.name (by decide))
  have free : isFolder (inside.erase manifestFile.name) graphFile.name = false := by
    rw [isFolder, Folder.get?_erase_of_ne _ (by decide)]
    exact tidy.free graphFile.name (by decide)
  obtain ⟨after, second, ready, same'⟩ := ready.discard (by decide) free
  refine ⟨after, _, ?_, same'.trans same, ready, fun name member => ?_⟩
  · simp only [Workspace.clear, bind_apply, resolveRoot_apply, found, first, second]
  · simp only [stateNames, List.mem_cons, List.not_mem_nil, or_false] at member
    rcases member with rfl | rfl | rfl | rfl
    · exact Folder.get?_erase ..
    · rw [Folder.get?_erase_of_ne _ (by decide), Folder.get?_erase_of_ne _ (by decide)]
      exact tidy.draft graphFile (by simp)
    · rw [Folder.get?_erase_of_ne _ (by decide)]
      exact Folder.get?_erase ..
    · rw [Folder.get?_erase_of_ne _ (by decide), Folder.get?_erase_of_ne _ (by decide)]
      exact tidy.draft manifestFile (by simp)

end SourceIndex.Workspace
