import SourceIndex.Disk.Operations
import SourceIndex.Proofs.Path

/-!
# Laws of disks

What a folder holds after a change, and what is found at a location of a disk after a node was put
there or removed. A node below a folder is put there by changing the folder, so that any number of
changes in one folder is one change of the disk.
-/

namespace SourceIndex

namespace Folder

/-! ## Folders -/

@[simp] theorem get?_nil (name : String) : get? [] name = none := rfl

theorem get?_cons (entry : String × DiskNode) (folder : Folder) (name : String) :
    get? (entry :: folder) name = if entry.1 = name then some entry.2 else get? folder name := by
  by_cases same : entry.1 = name <;> simp [get?, same]

theorem get?_append_singleton (folder : Folder) (name other : String) (node : DiskNode) :
    get? (folder ++ [(name, node)]) other =
      (get? folder other).or (if name = other then some node else none) := by
  induction folder with
  | nil => simp [get?_cons]
  | cons entry folder ih =>
    rw [List.cons_append, get?_cons, get?_cons, ih]
    split <;> rfl

theorem get?_map_replace (folder : Folder) (name other : String) (node : DiskNode) :
    get? (folder.map fun entry => if entry.1 = name then (name, node) else entry) other =
      if name = other then (get? folder name).map fun _ => node else get? folder other := by
  induction folder with
  | nil => simp
  | cons entry folder ih =>
    rw [List.map_cons, get?_cons, ih]
    by_cases here : entry.1 = name
    · by_cases same : name = other <;> simp [get?_cons, here, same]
    · rw [if_neg here, get?_cons, get?_cons, if_neg here]
      by_cases same : name = other
      · rw [if_pos same, if_pos same, if_neg (same ▸ here)]
      · rw [if_neg same, if_neg same]

@[simp] theorem get?_set (folder : Folder) (name : String) (node : DiskNode) :
    (folder.set name node).get? name = some node := by
  rw [set]
  split
  case isTrue known =>
    obtain ⟨old, found⟩ := Option.isSome_iff_exists.1 known
    simp [get?_map_replace, found]
  case isFalse unknown =>
    simp only [Option.isSome_iff_ne_none, ne_eq, Classical.not_not] at unknown
    simp [get?_append_singleton, unknown]

theorem get?_set_of_ne (folder : Folder) {name other : String} (differs : name ≠ other)
    (node : DiskNode) : (folder.set name node).get? other = folder.get? other := by
  rw [set]
  split
  · simp [get?_map_replace, differs]
  · simp [get?_append_singleton, differs]

@[simp] theorem get?_erase (folder : Folder) (name : String) :
    (folder.erase name).get? name = none := by
  simp [get?, erase, List.find?_eq_none]

theorem get?_erase_of_ne (folder : Folder) {name other : String} (differs : name ≠ other) :
    (folder.erase name).get? other = folder.get? other := by
  rw [get?, get?, erase, List.find?_filter]
  congr 2
  funext entry
  by_cases same : entry.1 = other <;> simp [same, Ne.symm differs]

/-- A name that is not listed is not found. -/
theorem ne_of_get?_eq_none {folder : Folder} {name : String} (absent : folder.get? name = none) :
    ∀ entry ∈ folder, entry.1 ≠ name := by
  intro entry member
  rw [get?, Option.map_eq_none_iff, List.find?_eq_none] at absent
  simpa using absent entry member

theorem erase_of_get?_eq_none {folder : Folder} {name : String} (absent : folder.get? name = none) :
    folder.erase name = folder :=
  List.filter_eq_self.2 fun entry member => by simpa using ne_of_get?_eq_none absent entry member

/-- Of two nodes that are put under a name the second stays. -/
@[simp] theorem set_set (folder : Folder) (name : String) (first second : DiskNode) :
    (folder.set name first).set name second = folder.set name second := by
  rw [set, get?_set, Option.isSome_some, if_pos rfl]
  cases found : folder.get? name with
  | some old =>
    simp only [set, found, Option.isSome_some, if_true, List.map_map]
    apply List.map_congr_left
    intro entry _
    by_cases same : entry.1 = name <;> simp [same]
  | none =>
    have others := ne_of_get?_eq_none found
    simp only [set, found, Option.isSome_none, Bool.false_eq_true, if_false, List.map_append,
      List.map_cons, List.map_nil, if_true]
    congr 1
    rw [List.map_congr_left fun entry member => if_neg (others entry member)]
    exact List.map_id _

/-- Removing a name undoes what was put under it, apart from what stood there before. -/
@[simp] theorem erase_set (folder : Folder) (name : String) (node : DiskNode) :
    (folder.set name node).erase name = folder.erase name := by
  have replaced : (folder.map fun entry => if entry.1 = name then (name, node) else entry).filter
      (fun entry => entry.1 ≠ name) = folder.filter fun entry => entry.1 ≠ name := by
    induction folder with
    | nil => rfl
    | cons entry folder ih => by_cases same : entry.1 = name <;> simp_all
  rw [set]
  split
  · exact replaced
  · simp [erase]

/-! ## Locations -/

attribute [local simp] node? modify

/-- A location below another one is looked up in the folder at the upper one. -/
theorem node?_append (folder : Folder) (above : Location) {below : Location} (proper : below ≠ []) :
    folder.node? (above ++ below) =
      match folder.node? above with
      | some (.folder inside) => node? inside below
      | _ => none := by
  induction above generalizing folder with
  | nil => rfl
  | cons name above ih =>
    cases above with
    | nil =>
      obtain ⟨next, rest, rfl⟩ := List.exists_cons_of_ne_nil proper
      rfl
    | cons next above =>
      rw [List.cons_append, List.cons_append, node?, node?]
      cases folder.get? name with
      | none => rfl
      | some node =>
        cases node with
        | folder inside => exact ih inside
        | file _ => rfl
        | link _ => rfl

/-- The node with a name in the folder at a location. -/
theorem node?_append_singleton {folder inside : Folder} {location : Location}
    (found : folder.node? location = some (.folder inside)) (name : String) :
    folder.node? (location ++ [name]) = inside.get? name := by
  rw [node?_append folder location (by simp), found]
  rfl

/-- What stands above a node is a folder. -/
theorem exists_folder_of_append {folder : Folder} {above below : Location} {node : DiskNode}
    (proper : below ≠ []) (found : folder.node? (above ++ below) = some node) :
    ∃ inside, folder.node? above = some (.folder inside) := by
  rw [node?_append folder above proper] at found
  split at found
  case h_1 inside upper => exact ⟨inside, upper⟩
  case h_2 => simp at found

/-- The way to a folder starts with a folder. -/
theorem exists_folder_of_cons {folder inside : Folder} {name : String} {rest : Location}
    (found : folder.node? (name :: rest) = some (.folder inside)) :
    ∃ lower, folder.get? name = some (.folder lower) ∧
      node? lower rest = some (.folder inside) := by
  cases rest with
  | nil => exact ⟨inside, found, rfl⟩
  | cons next rest =>
    rw [node?] at found
    split at found
    case h_1 lower known => exact ⟨lower, known, found⟩
    case h_2 => simp at found

theorem node?_set_cons (folder lower : Folder) (name : String) (rest : Location) :
    (folder.set name (.folder lower)).node? (name :: rest) = node? lower rest := by
  cases rest with
  | nil => simp
  | cons next rest => simp

/-- Changing the folder at a location changes what is found there. -/
theorem node?_modify (change : Folder → Folder) {folder inside : Folder} {location : Location}
    (found : folder.node? location = some (.folder inside)) :
    (modify change location folder).node? location = some (.folder (change inside)) := by
  induction location generalizing folder with
  | nil =>
    cases found
    rfl
  | cons name rest ih =>
    obtain ⟨lower, known, below⟩ := exists_folder_of_cons found
    rw [modify, known, node?_set_cons]
    exact ih below

/-- A folder that is found after a change was there before. -/
theorem exists_of_node?_modify {change : Folder → Folder} {folder after : Folder}
    {location : Location}
    (found : (modify change location folder).node? location = some (.folder after)) :
    ∃ inside : Folder, folder.node? location = some (.folder inside) ∧ after = change inside := by
  induction location generalizing folder with
  | nil =>
    cases found
    exact ⟨folder, rfl, rfl⟩
  | cons name rest ih =>
    rw [modify] at found
    split at found
    case h_1 lower known =>
      rw [node?_set_cons] at found
      obtain ⟨inside, below, rfl⟩ := ih found
      refine ⟨inside, ?_, rfl⟩
      cases rest with
      | nil =>
        cases below
        exact known
      | cons next rest => rwa [node?, known]
    case h_2 blocked =>
      obtain ⟨lower, known, _⟩ := exists_folder_of_cons found
      exact absurd known (blocked lower)

/-- Two changes of the folder at a location are one. -/
theorem modify_modify (first second : Folder → Folder) (location : Location) (folder : Folder) :
    modify second location (modify first location folder) =
      modify (fun inside => second (first inside)) location folder := by
  induction location generalizing folder with
  | nil => rfl
  | cons name rest ih =>
    simp only [modify]
    cases known : folder.get? name with
    | none => simp [known]
    | some node =>
      cases node with
      | folder inside => simp [ih]
      | file _ => simp [known]
      | link _ => simp [known]

/-- A change below a location is a change of the folder at the location. -/
theorem modify_append (change : Folder → Folder) (above below : Location) (folder : Folder) :
    modify change (above ++ below) folder = modify (modify change below) above folder := by
  induction above generalizing folder with
  | nil => rfl
  | cons name rest ih =>
    rw [List.cons_append, modify, modify]
    cases folder.get? name with
    | none => rfl
    | some node =>
      cases node with
      | folder inside => simp only [ih]
      | file _ => rfl
      | link _ => rfl

/-- Only what a change does to the folder at the location counts. -/
theorem modify_congr {first second : Folder → Folder} {folder inside : Folder} {location : Location}
    (found : folder.node? location = some (.folder inside))
    (same : first inside = second inside) :
    modify first location folder = modify second location folder := by
  induction location generalizing folder with
  | nil =>
    cases found
    exact same
  | cons name rest ih =>
    obtain ⟨lower, known, below⟩ := exists_folder_of_cons found
    rw [modify, modify, known]
    simp only [ih below]

end Folder

namespace Disk

/-! ## Putting and removing -/

theorem put_append (disk : Disk) (above : Location) (name : String) (node : DiskNode) :
    disk.put (above ++ [name]) node =
      { disk with top := disk.top.modify (fun folder => folder.set name node) above } := by
  simp [put]

theorem remove_append (disk : Disk) (above : Location) (name : String) :
    disk.remove (above ++ [name]) =
      { disk with top := disk.top.modify (fun folder => folder.erase name) above } := by
  simp [remove]

variable {disk : Disk} {above : Location} {inside : Folder}

/-- The folder in which a node is put. -/
theorem node?_put_above (found : disk.node? above = some (.folder inside)) (name : String)
    (node : DiskNode) :
    (disk.put (above ++ [name]) node).node? above = some (.folder (inside.set name node)) := by
  rw [put_append]
  exact Folder.node?_modify _ found

/-- A node is found where it was put. -/
theorem node?_put (found : disk.node? above = some (.folder inside)) (name : String)
    (node : DiskNode) : (disk.put (above ++ [name]) node).node? (above ++ [name]) = some node := by
  rw [node?, Folder.node?_append_singleton (node?_put_above found name node)]
  simp

/-- Removing a node undoes putting one. -/
theorem remove_put (disk : Disk) (above : Location) (name : String) (node : DiskNode) :
    (disk.put (above ++ [name]) node).remove (above ++ [name]) = disk.remove (above ++ [name]) := by
  simp [put_append, remove_append, Folder.modify_modify]

/-- The folder at the end of a location is found in the folder above it. -/
theorem exists_above {name : String}
    (found : disk.node? (above ++ [name]) = some (.folder inside)) :
    ∃ outside : Folder, disk.node? above = some (.folder outside) ∧
      outside.get? name = some (.folder inside) := by
  obtain ⟨outside, upper⟩ := Folder.exists_folder_of_append (by simp) found
  refine ⟨outside, upper, ?_⟩
  rw [← Folder.node?_append_singleton upper]
  exact found

/-! ## Resolution -/

attribute [local simp] advance

/-- A location of proper names. -/
def Proper (location : Location) : Prop := ∀ name ∈ location, Path.Proper name

instance (location : Location) : Decidable (Proper location) :=
  inferInstanceAs (Decidable (∀ name ∈ location, Path.Proper name))

theorem Proper.append {location : Location} (proper : Proper location) {name : String}
    (isName : Path.Proper name) : Proper (location ++ [name]) := by
  intro other member
  cases List.mem_append.1 member with
  | inl upper => exact proper other upper
  | inr here => exact List.mem_singleton.1 here ▸ isName

/-- Names that lead to a folder are passed. -/
theorem advance_names (last : Bool) (base names : Location) (rest : List Path.Component)
    (found : disk.node? (base ++ names) = some (.folder inside)) :
    disk.advance last base (names.map .name ++ rest) =
      disk.advance last (base ++ names) rest := by
  induction names generalizing base with
  | nil => simp
  | cons name names ih =>
    have here : ∃ lower, disk.node? (base ++ [name]) = some (.folder lower) := by
      cases names with
      | nil => exact ⟨inside, found⟩
      | cons next names =>
        rw [← List.singleton_append, ← List.append_assoc] at found
        exact Folder.exists_folder_of_append (by simp) found
    obtain ⟨lower, known⟩ := here
    rw [List.map_cons, List.cons_append, advance, known]
    simpa using ih (base ++ [name]) (by simpa using found)

/-- Components that lead to the same point lead to the same end. -/
theorem follow_congr {last : Bool} {links : Nat} {first second : Location}
    {before after : List Path.Component}
    (same : disk.advance last first before = disk.advance last second after) :
    disk.follow last links first before = disk.follow last links second after := by
  rw [follow.eq_def, follow.eq_def]
  simp only [same]

/-- Where a path of proper names leads, with a link in the last place followed or not. -/
theorem resolveWith_absolute (disk : Disk) (last : Bool) {names : Location}
    (proper : Proper names) :
    disk.resolveWith last (Path.absolute names) =
      disk.follow last maxLinks [] (names.map .name) := by
  have nonempty : (Path.absolute names).isEmpty = false := by
    simp [Path.absolute]
  rw [resolveWith, nonempty]
  apply follow_congr
  cases names with
  | nil => rfl
  | cons first others =>
    rw [Path.steps_absolute proper]
    rfl

/-- A path that leads to its end without a link resolves to that. -/
theorem follow_of_done {last : Bool} {links : Nat} {location : Location}
    {components : List Path.Component} {resolution : Resolution}
    (done : disk.advance last location components = .done resolution) :
    disk.follow last links location components = resolution := by
  cases links <;> simp [follow, done]

/-- What is found under a name in a folder, if a link in the last place is not followed or there is
none. -/
theorem advance_name {last : Bool} (found : disk.node? above = some (.folder inside))
    (name : String) (plain : last = true → ∀ target, inside.get? name ≠ some (.link target)) :
    disk.advance last above [.name name] =
      .done (match inside.get? name with
        | none => .absent (above ++ [name])
        | some node => .found (above ++ [name]) node) := by
  have known : disk.node? (above ++ [name]) = inside.get? name :=
    Folder.node?_append_singleton found name
  rw [advance, known]
  cases entry : inside.get? name with
  | none => simp
  | some node =>
    cases node with
    | folder entries => simp [known, entry]
    | file file => simp
    | link target =>
      cases last with
      | false => simp
      | true => exact absurd entry (plain rfl target)

/-- The folder at a location of proper names is where its absolute path leads. -/
theorem resolveWith_folder (last : Bool) {names : Location}
    (proper : Proper names)
    (found : disk.node? names = some (.folder inside)) :
    disk.resolveWith last (Path.absolute names) = .found names (.folder inside) := by
  rw [resolveWith_absolute disk last proper]
  apply follow_of_done
  have way := advance_names last [] names [] found
  rw [List.append_nil, List.nil_append] at way
  rw [way, advance, found]

/-- What the absolute path of a name in a folder leads to. -/
theorem resolveWith_name {last : Bool} (proper : Proper above)
    (found : disk.node? above = some (.folder inside)) {name : String} (isName : Path.Proper name)
    (plain : last = true → ∀ target, inside.get? name ≠ some (.link target)) :
    disk.resolveWith last (Path.absolute (above ++ [name])) =
      match inside.get? name with
      | none => .absent (above ++ [name])
      | some node => .found (above ++ [name]) node := by
  rw [resolveWith_absolute disk last (proper.append isName), List.map_append]
  apply follow_of_done
  rw [advance_names last [] above _ found, List.nil_append, List.map_singleton,
    advance_name found name plain]

section

variable (last : Bool) (proper : Proper above) (found : disk.node? above = some (.folder inside))
variable {name inner : String} (isName : Path.Proper name) (isInner : Path.Proper inner)
include proper found isName isInner

/-- The absolute path of something in something in a folder goes on from that folder. -/
theorem resolveWith_of_advance {resolution : Resolution}
    (ends : disk.advance last above [.name name, .name inner] = .done resolution) :
    disk.resolveWith last (Path.absolute (above ++ [name] ++ [inner])) = resolution := by
  rw [resolveWith_absolute disk last ((proper.append isName).append isInner), List.append_assoc,
    List.map_append]
  apply follow_of_done
  rw [advance_names last [] above _ found]
  exact ends

/-- The absolute path of something in a folder that does not exist leads nowhere. -/
theorem resolveWith_missing (absent : inside.get? name = none) :
    disk.resolveWith last (Path.absolute (above ++ [name] ++ [inner])) = .missing := by
  apply resolveWith_of_advance last proper found isName isInner
  have known : disk.node? (above ++ [name]) = none :=
    (Folder.node?_append_singleton found name).trans absent
  simp [known]

/-- The absolute path of something in a file cannot be followed. -/
theorem resolveWith_blocked {file : DiskFile} (inWay : inside.get? name = some (.file file)) :
    disk.resolveWith last (Path.absolute (above ++ [name] ++ [inner])) = .blocked := by
  apply resolveWith_of_advance last proper found isName isInner
  have known : disk.node? (above ++ [name]) = some (.file file) :=
    (Folder.node?_append_singleton found name).trans inWay
  simp [known]

end

/-! ## What a path leads to -/

/-- A node that is reached without following a link stands where it was found. -/
theorem node?_of_advance {last : Bool} {location found : Location}
    {components : List Path.Component} {node : DiskNode}
    (reached : disk.advance last location components = .done (.found found node)) :
    disk.node? found = some node := by
  fun_induction advance disk last location components with
  | case1 location node known =>
    cases reached
    exact known
  | case3 _ rest ih | case4 location rest ih | case5 location rest ih => exact ih reached
  | case7 location name rest next entries known ih => exact ih reached
  | case8 location name rest next file known =>
    clear_value next
    split at reached <;> cases reached
    exact known
  | case9 location name rest next target known =>
    clear_value next
    cases reached
    exact known
  | case2 | case10 => cases reached
  | case6 => split at reached <;> cases reached

/-- A node that is reached stands where it was found. -/
theorem node?_of_follow {last : Bool} {links : Nat} {location found : Location}
    {components : List Path.Component} {node : DiskNode}
    (led : disk.follow last links location components = .found found node) :
    disk.node? found = some node := by
  fun_induction follow disk last links location components with
  | case1 links location components resolution reached =>
    rw [led] at reached
    exact node?_of_advance reached
  | case2 => cases led
  | case3 location components links next target rest reached ih => exact ih led

/-- A folder to which a path leads stands where it was found. -/
theorem node?_of_folder? {path : String} {location : Location}
    (found : disk.folder? path = some (location, inside)) :
    disk.node? location = some (.folder inside) := by
  rw [folder?, resolve, resolveWith] at found
  split at found
  case h_1 place entries led =>
    cases found
    split at led
    · cases led
    · exact node?_of_follow led
  case h_2 => cases found

end Disk

end SourceIndex
