import SourceIndex.Proofs.Path
import SourceIndex.Workspace.Run

/-!
# Actions

How an action on a disk is applied, and which actions leave the disk as it is: everything that a run
does before it has the next state.
-/

namespace SourceIndex.Workspace

/-! ## Actions -/

variable {α β : Type}

@[simp] theorem pure_apply (value : α) (disk : Disk) :
    (pure value : DiskAction α) disk = (.ok value, disk) := rfl

theorem bind_apply (action : DiskAction α) (next : α → DiskAction β) (disk : Disk) :
    (action >>= next) disk =
      match action disk with
      | (.ok value, disk) => next value disk
      | (.error error, disk) => (.error error, disk) := by
  change (ExceptT.bindCont next (action disk).1) (action disk).2 = _
  rcases action disk with ⟨_ | _, _⟩ <;> rfl

/-- What is made of its value does not change what an action does. -/
theorem map_apply (view : α → β) (action : DiskAction α) (disk : Disk) :
    (view <$> action) disk = ((action disk).1.map view, (action disk).2) := by
  rw [← bind_pure_comp, bind_apply]
  rcases action disk with ⟨_ | _, _⟩ <;> rfl

@[simp] theorem get_bind_apply (next : Disk → DiskAction β) (disk : Disk) :
    ((get : DiskAction Disk) >>= next) disk = next disk disk := rfl

/-- An action that gives a value gave one at its first step. -/
theorem bind_ok {action : DiskAction α} {next : α → DiskAction β} {value : β} {disk after : Disk}
    (done : (action >>= next) disk = (.ok value, after)) :
    ∃ first middle, action disk = (.ok first, middle) ∧ next first middle = (.ok value, after) := by
  rw [bind_apply] at done
  split at done
  case h_1 first middle known => exact ⟨first, middle, known, done⟩
  case h_2 => cases done

/-- An action that fails has failed at its first step or after it. -/
theorem bind_error {action : DiskAction α} {next : α → DiskAction β} {error : WorkspaceError}
    {disk after : Disk} (failed : (action >>= next) disk = (.error error, after)) :
    action disk = (.error error, after) ∨
      ∃ first middle, action disk = (.ok first, middle) ∧
        next first middle = (.error error, after) := by
  rw [bind_apply] at failed
  split at failed
  case h_1 first middle known => exact .inr ⟨first, middle, known, failed⟩
  case h_2 known =>
    cases failed
    exact .inl known

/-- An action of whose value something is known has given one. -/
theorem exists_ok_of_map {action : DiskAction α} {view : α → β} {seen : β} {disk : Disk}
    (known : (action disk).1.toOption.map view = some seen) :
    ∃ value after, action disk = (.ok value, after) ∧ view value = seen := by
  rcases done : action disk with ⟨_ | value, after⟩ <;> rw [done] at known <;> cases known
  exact ⟨value, after, rfl, rfl⟩

/-- An action that leaves the disk as it is. -/
def Reads (action : DiskAction α) : Prop := ∀ disk, (action disk).2 = disk

theorem reads_pure (value : α) : Reads (pure value : DiskAction α) := fun _ => rfl

theorem Reads.bind {action : DiskAction α} {next : α → DiskAction β} (first : Reads action)
    (second : ∀ value, Reads (next value)) : Reads (action >>= next) := by
  intro disk
  have same := first disk
  rw [bind_apply]
  rcases outcome : action disk with ⟨_ | value, middle⟩
  · simpa [outcome] using same
  · rw [outcome] at same
    cases same
    exact second value middle

/-- What an action that only reads gives. -/
theorem Reads.apply_eq {action : DiskAction α} (reads : Reads action) {disk next : Disk}
    {result : Except WorkspaceError α} (outcome : action disk = (result, next)) : next = disk := by
  have same := reads disk
  rw [outcome] at same
  exact same

theorem perform_apply (path : String) (change : Disk → Except Disk.Fault Disk) (disk : Disk) :
    perform path change disk =
      match change disk with
      | .ok next => (.ok (), next)
      | .error _ => (.error (.inaccessible path), disk) := by
  rw [perform, get_bind_apply]
  cases change disk <;> rfl

/-! ## Reading -/

theorem readText?_apply (path : String) (disk : Disk) :
    readText? path disk =
      match disk.readText path with
      | .ok text => (.ok (some text), disk)
      | .error .missing => (.ok none, disk)
      | .error .refused => (.error (.inaccessible path), disk) := by
  rw [readText?, get_bind_apply]
  rcases disk.readText path with (_ | _) | _ <;> rfl

theorem reads_readText? (path : String) : Reads (readText? path) := by
  intro disk
  rw [readText?_apply]
  split <;> rfl

theorem checkConfig_apply (config : Config) (disk : Disk) :
    checkConfig config disk =
      match config.fault? with
      | some fault => (.error (.config (.invalid fault)), disk)
      | none => (.ok (), disk) := by
  rw [checkConfig]
  cases config.fault? <;> rfl

theorem resolveRoot_apply (root : String) (disk : Disk) :
    resolveRoot root disk =
      match disk.folder? root with
      | some (location, _) => (.ok (Path.absolute location), disk)
      | none => (.error (.rootMissing root), disk) := by
  rw [resolveRoot, get_bind_apply]
  rcases disk.folder? root with _ | ⟨_, _⟩ <;> rfl

theorem reads_checkConfig (config : Config) : Reads (checkConfig config) := by
  intro disk
  rw [checkConfig_apply]
  split <;> rfl

theorem reads_resolveRoot (root : String) : Reads (resolveRoot root) := by
  intro disk
  rw [resolveRoot_apply]
  split <;> rfl

theorem reads_loadManifest? (root : String) : Reads (loadManifest? root) := by
  refine (reads_readText? _).bind fun text => ?_
  cases text with
  | none => exact reads_pure _
  | some text =>
    simp only
    split <;> exact reads_pure _

theorem reads_loadBaseline? (config : Config) (root : String) :
    Reads (loadBaseline? config root) := by
  refine (reads_loadManifest? root).bind fun manifest => ?_
  cases manifest with
  | none => exact reads_pure _
  | some manifest =>
    simp only
    split
    case isFalse => exact reads_pure _
    case isTrue =>
      refine (reads_readText? _).bind fun text => ?_
      cases text with
      | none => exact reads_pure _
      | some text =>
        simp only
        split <;> exact reads_pure _

end SourceIndex.Workspace
