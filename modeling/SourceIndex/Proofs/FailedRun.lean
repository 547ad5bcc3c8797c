import SourceIndex.Proofs.History

/-!
# Runs that fail

A run writes nothing before it has read everything and its pass is complete. Then it replaces the
graph log and after it the manifest. So a run that fails leaves both as they were, with one
exception: if the draft of the manifest cannot be written, the graph log has been replaced already.
-/

namespace SourceIndex.Workspace

variable {disk after : Disk} {home : Location} {inside : Folder} {root path : String}
variable {context : Context} {error : WorkspaceError}

/-! ## While it reads -/

theorem inaccessible_of_readText? {file : String}
    (failed : readText? file disk = (.error (.inaccessible path), after)) : path = file := by
  rw [readText?_apply] at failed
  split at failed <;> cases failed
  rfl

theorem inaccessible_of_loadBaseline? {config : Config}
    (failed : loadBaseline? config root disk = (.error (.inaccessible path), after)) :
    path = manifestFile.path root ∨ path = graphFile.path root := by
  rcases bind_error failed with failed | ⟨manifest, middle, _, failed⟩
  · rcases bind_error failed with failed | ⟨text, middle, _, failed⟩
    · exact .inl (inaccessible_of_readText? failed)
    · cases text with
      | none => cases failed
      | some text =>
        simp only at failed
        generalize Manifest.read text = found at failed
        cases found <;> cases failed
  · cases manifest with
    | none => cases failed
    | some manifest =>
      simp only at failed
      split at failed
      case isFalse => cases failed
      case isTrue =>
        rcases bind_error failed with failed | ⟨text, middle, _, failed⟩
        · exact .inr (inaccessible_of_readText? failed)
        · cases text with
          | none => cases failed
          | some text =>
            simp only at failed
            generalize GraphLog.read text = found at failed
            cases found <;> cases failed

/-- A source that cannot be read is reported as such. -/
theorem sources_ne_inaccessible {scan : Scan} :
    sources root scan disk ≠ (.error (.inaccessible path), after) := by
  intro failed
  rw [sources_apply] at failed
  split at failed
  case h_1 => cases failed
  case h_2 =>
    rw [sourcesOf, walkedOf] at failed
    cases patterns : IgnoreRules.ofPatterns? scan.extraIgnores with
    | none =>
      rw [patterns] at failed
      cases failed
    | some patterns' =>
      rw [patterns] at failed
      simp only [Except.bind, readAll] at failed
      split at failed <;> cases failed

/-- While a run reads, only a state file can be inaccessible. -/
theorem inaccessible_of_gather (leads : Leads disk root home)
    (failed : gather context root disk = (.error (.inaccessible path), after)) :
    path = manifestFile.path (Path.absolute home) ∨ path = graphFile.path (Path.absolute home) := by
  obtain ⟨entries, found⟩ := leads
  rw [gather] at failed
  rcases bind_error failed with failed | ⟨_, middle, checked, failed⟩
  · rw [checkConfig_apply] at failed
    split at failed <;> cases failed
  · cases (reads_checkConfig _).apply_eq checked
    rw [bind_apply, resolveRoot_apply, found] at failed
    rcases bind_error failed with failed | ⟨baseline, middle, _, failed⟩
    · exact inaccessible_of_loadBaseline? failed
    · rcases bind_error failed with failed | ⟨sources, middle, _, failed⟩
      · exact absurd failed sources_ne_inaccessible
      · cases failed

/-! ## While it writes -/

/-- Neither the state folder of a tree nor a file that a run uses in it is a link. -/
structure Unlinked (disk : Disk) (home : Location) : Prop where
  folder : ∀ target, disk.node? (stateLocation home) ≠ some (.link target)
  files : ∀ inside, disk.node? (stateLocation home) = some (.folder inside) → Plain inside

/-- A run that could load its state was not refused its manifest. -/
theorem Gathers.readText_ne {reading : Reading} (gathers : Gathers disk home reading) :
    disk.readText (manifestFile.path (Path.absolute home)) ≠ .error .refused := by
  intro refused
  have loaded := gathers.loaded
  rw [loadBaseline?, loadManifest?, bind_apply, bind_apply, readText?_apply, refused] at loaded
  cases loaded

/-- A run that could load its state has found a folder there, or nothing. -/
theorem Unlinked.exists_ready {reading : Reading} (unlinked : Unlinked disk home)
    (proper : Disk.Proper home) (leads : Leads disk root home)
    (gathers : Gathers disk home reading) : ∃ inside, Ready disk home inside ∧ Plain inside := by
  cases known : disk.node? (stateLocation home) with
  | none => exact ⟨[], leads.ready proper (.inr ⟨known, rfl⟩), fun _ _ _ => nofun⟩
  | some node =>
    cases node with
    | folder inside => exact ⟨inside, leads.ready proper (.inl known), unlinked.files inside known⟩
    | link target => exact absurd known (unlinked.folder target)
    | file file =>
      obtain ⟨entries, found⟩ := leads
      have upper := Disk.node?_of_folder? found
      have inWay : Folder.get? entries ".arbor" = some (.file file) :=
        (Folder.node?_append_singleton upper ".arbor").symm.trans known
      refine absurd ?_ gathers.readText_ne
      rw [Disk.readText, Disk.read, Artifact.path, stateFile_absolute proper (by decide),
        stateLocation, Disk.resolve,
        Disk.resolveWith_blocked true proper upper (by decide) (by decide) inWay]
      rfl

/-- In particular no folder stands in the place of the manifest. -/
theorem Ready.free_manifest {reading : Reading} (ready : Ready disk home inside)
    (plain : Plain inside) (gathers : Gathers disk home reading) :
    isFolder inside manifestFile.name = false := by
  by_contra inWay
  refine gathers.readText_ne ?_
  rw [Disk.readText, Artifact.path, ready.read (by decide) (plain _ (by decide)), contentIn]
  rw [Bool.not_eq_false, isFolder] at inWay
  split at inWay
  case h_1 known =>
    rw [known]
    rfl
  case h_2 => cases inWay

/-- What is left in the state folder when the next state could not be written. -/
theorem persistIn_eq_error {next : Baseline} {folder : Folder}
    (free : isFolder inside manifestFile.name = false)
    (failed : persistIn root inside next = (.error error, folder)) :
    (error = .inaccessible (graphFile.draftPath root) ∨
        error = .inaccessible (graphFile.path root)) ∧
        (folder = inside ∨ folder = drafted inside graphFile (GraphLog.write next.store)) ∨
      error = .inaccessible (manifestFile.draftPath root) ∧
        isFolder inside manifestFile.draftName = true ∧
        folder = saved inside graphFile (GraphLog.write next.store) := by
  rw [persistIn] at failed
  split at failed
  case h_2 reason left first =>
    cases failed
    rw [saveIn] at first
    split at first
    · cases first
      exact .inl ⟨.inl rfl, .inl rfl⟩
    · split at first
      · cases first
        exact .inl ⟨.inr rfl, .inr rfl⟩
      · cases first
  case h_1 left first =>
    obtain ⟨_, _, rfl⟩ := saveIn_eq_ok_iff.1 first
    have kept : isFolder (saved inside graphFile (GraphLog.write next.store)) manifestFile.name =
        false := by
      rw [isFolder, get?_saved]
      exact free
    rw [saveIn, kept] at failed
    split at failed
    case isTrue inWay =>
      cases failed
      rw [isFolder, get?_saved] at inWay
      exact .inr ⟨rfl, inWay, rfl⟩
    case isFalse => cases failed

/-- What a failed run leaves of the state of a tree: the manifest, and the graph log unless the
draft of the manifest could not be written, because a folder is in its place. -/
structure Leaves (context : Context) (home : Location) (disk after : Disk)
    (error : WorkspaceError) : Prop where
  manifest : after.read (manifestFile.path (Path.absolute home)) =
    disk.read (manifestFile.path (Path.absolute home))
  graph : error ≠ .inaccessible (manifestFile.draftPath (Path.absolute home)) →
    after.read (graphFile.path (Path.absolute home)) =
      disk.read (graphFile.path (Path.absolute home))
  replaced : error = .inaccessible (manifestFile.draftPath (Path.absolute home)) →
    (∃ inside, disk.node? (stateLocation home) = some (.folder inside) ∧
      isFolder inside manifestFile.draftName = true) ∧
    ∃ reading next, reading.context = context ∧ Gathers disk home reading ∧
      reading.outcome.next = some next ∧
      after.read (graphFile.path (Path.absolute home)) = .ok (GraphLog.write next.store).toUTF8

/-- A run that fails while it writes the next state. -/
theorem Ready.leaves_of_persist {reading : Reading} {next : Baseline}
    (ready : Ready disk home inside) (plain : Plain inside) (gathers : Gathers disk home reading)
    (outcome : reading.outcome.next = some next)
    (failed : Workspace.persist (Path.absolute home) next disk = (.error error, after)) :
    Leaves reading.context home disk after error := by
  obtain ⟨other, done, readyAfter, _⟩ := ready.persist plain next
  obtain ⟨result, rfl⟩ := Prod.mk.inj (failed.symm.trans done)
  have pair : persistIn (Path.absolute home) inside next =
      (.error error, (persistIn (Path.absolute home) inside next).2) := Prod.ext result.symm rfl
  generalize (persistIn (Path.absolute home) inside next).2 = folder at pair readyAfter
  -- A name that stands for the same as before has the same content as before.
  have same {name : String} (member : name ∈ stateNames) (isName : Path.Proper name)
      (kept : folder.get? name = inside.get? name) :
      after.read (stateFile (Path.absolute home) name) =
        disk.read (stateFile (Path.absolute home) name) := by
    rw [ready.read isName (plain name member),
      readyAfter.read isName (by rw [kept]; exact plain name member), contentIn, contentIn, kept]
  have differs {name : String} (isName : Path.Proper name) (other : name ≠ manifestFile.draftName) :
      WorkspaceError.inaccessible (stateFile (Path.absolute home) name) ≠
        .inaccessible (manifestFile.draftPath (Path.absolute home)) := by
    intro equal
    exact other ((stateFile_inj ready.proper isName (by decide)).1
      (WorkspaceError.inaccessible.inj equal))
  rcases persistIn_eq_error (ready.free_manifest plain gathers) pair with
    ⟨reason, left⟩ | ⟨reason, inWay, left⟩
  · have other : error ≠ .inaccessible (manifestFile.draftPath (Path.absolute home)) := by
      rcases reason with rfl | rfl
      · exact differs (by decide) (by decide)
      · exact differs (by decide) (by decide)
    have kept {name : String} (different : graphFile.draftName ≠ name) :
        folder.get? name = inside.get? name := by
      rcases left with rfl | rfl
      · rfl
      · exact Folder.get?_set_of_ne _ different _
    exact ⟨same (by decide) (by decide) (kept (by decide)),
      fun _ => same (by decide) (by decide) (kept (by decide)), fun reason => absurd reason other⟩
  · refine ⟨same (by decide) (by decide) (by rw [left, get?_saved]; rfl),
      fun other => absurd reason other, fun _ => ⟨?_, reading, next, rfl, gathers, outcome, ?_⟩⟩
    · rcases ready.holds with found | ⟨_, rfl⟩
      · exact ⟨inside, found, inWay⟩
      · cases inWay
    · have known : folder.get? graphFile.name =
          some (.file { content := (GraphLog.write next.store).toUTF8 }) := by
        rw [left, get?_saved]
        rfl
      rw [Artifact.path, readyAfter.read (by decide) (by simp [known]), contentIn, known]
      rfl

/-- A run that fails has written nothing unless its pass was complete, and then it leaves the
manifest and, with one exception, the graph log. -/
theorem failed_run_leaves_state (failed : run context root disk = (.error error, after)) :
    (after = disk ∨ ∃ home reading next, Leads disk root home ∧ reading.context = context ∧
      Gathers disk home reading ∧ reading.outcome.next = some next) ∧
    ∀ home, Leads disk root home → Disk.Proper home → Unlinked disk home →
      Leaves context home disk after error := by
  rw [run_eq] at failed
  rcases bind_error failed with failed | ⟨⟨path, reading⟩, middle, gathered, failed⟩
  · obtain rfl := (reads_gather _ _).apply_eq failed
    refine ⟨.inl rfl, fun home leads proper _ => ⟨rfl, fun _ => rfl, ?_⟩⟩
    rintro rfl
    rcases inaccessible_of_gather leads failed with same | same
    · exact absurd ((stateFile_inj proper (by decide) (by decide)).1 same) (by decide)
    · exact absurd ((stateFile_inj proper (by decide) (by decide)).1 same) (by decide)
  · obtain ⟨rfl, rfl, home, leads, rfl, gathers⟩ := gathers_of_gather gathered
    simp only [conclude] at failed
    cases outcome : reading.outcome.next with
    | none =>
      rw [outcome] at failed
      cases failed
    | some next =>
      refine ⟨.inr ⟨home, reading, next, leads, rfl, gathers, outcome⟩, fun other alsoLeads proper
        unlinked => ?_⟩
      obtain rfl := leads.unique alsoLeads
      obtain ⟨inside, ready, plain⟩ := unlinked.exists_ready proper leads gathers
      rw [outcome] at failed
      rcases bind_error failed with failed | ⟨_, _, _, failed⟩
      · exact ready.leaves_of_persist plain gathers outcome failed
      · cases failed

/-- A state folder in which a folder stands in the place of the draft of the manifest. -/
def blockedFolder : Folder := [("manifest.tmp", .folder [])]

/-- The small tree with such a state folder. -/
def blockedDisk : Disk := smallDisk sampleFile blockedFolder

theorem plain_blocked : Plain blockedFolder := by
  simp [Plain, stateNames, blockedFolder, Folder.get?_cons, graphFile, manifestFile]

theorem ready_blocked : Ready blockedDisk ["tree"] blockedFolder :=
  ⟨proper_sample, ⟨_, rfl⟩, .inl rfl⟩

theorem gathers_blocked : Gathers blockedDisk ["tree"] (sampleReading .unit none) :=
  ⟨rfl, ready_blocked.loadBaseline?_missing _ rfl, sources_sample rfl⟩

theorem unlinked_blocked : Unlinked blockedDisk ["tree"] := by
  refine ⟨fun _ => nofun, fun inside known => ?_⟩
  cases known
  exact plain_blocked

/-- A run on that tree fails, and has replaced the graph log all the same. -/
theorem failed_run_leaves_state_blocked :
    ∃ after text, run (sampleReading .unit none).context (Path.absolute ["tree"]) blockedDisk =
        (.error (.inaccessible (manifestFile.draftPath (Path.absolute ["tree"]))), after) ∧
      blockedDisk.read (graphFile.path (Path.absolute ["tree"])) = .error .missing ∧
      after.read (graphFile.path (Path.absolute ["tree"])) = .ok text := by
  obtain ⟨next, outcome⟩ : ∃ next, (sampleReading .unit none).outcome.next = some next :=
    ⟨_, Pass.next_advance (sampleReading .unit none).input none⟩
  obtain ⟨after, written, _⟩ := ready_blocked.persist plain_blocked next
  have failed : run (sampleReading .unit none).context (Path.absolute ["tree"]) blockedDisk =
      (.error (.inaccessible (manifestFile.draftPath (Path.absolute ["tree"]))), after) := by
    rw [run_of_gathers ready_blocked.leads gathers_blocked, conclude, outcome]
    simp only [bind_apply, written]
    rfl
  obtain ⟨_, _, _, _, _, _, replaced⟩ := ((failed_run_leaves_state failed).2 ["tree"]
    ready_blocked.leads proper_sample unlinked_blocked).replaced rfl
  have missing : blockedDisk.read (graphFile.path (Path.absolute ["tree"])) = .error .missing := by
    apply ready_blocked.read (by decide)
    intro target known
    cases known
  exact ⟨after, _, failed, missing, replaced⟩

end SourceIndex.Workspace
