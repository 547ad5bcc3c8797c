import Mathlib.Data.Option.Basic
import SourceIndex.Proofs.Action
import SourceIndex.Proofs.PathResolution

/-!
# Disks that differ in what files hold

No operation on a disk but reading looks at the content of a file. So operations that write related
contents to disks of the same shape succeed or fail alike, and leave disks of the same shape in
which the contents are related.
-/

namespace SourceIndex

variable {related : DiskFile → DiskFile → Prop}

mutual

/-- Nodes of the same shape, with related files. -/
inductive DiskNode.Matches (related : DiskFile → DiskFile → Prop) : DiskNode → DiskNode → Prop where
  | file {first second : DiskFile} (held : related first second) :
    DiskNode.Matches related (.file first) (.file second)
  | link (target : String) : DiskNode.Matches related (.link target) (.link target)
  | folder {first second : List (String × DiskNode)}
    (inside : Folder.Matches related first second) :
    DiskNode.Matches related (.folder first) (.folder second)

/-- Folders that list the same names in the same order, for matching nodes. -/
inductive Folder.Matches (related : DiskFile → DiskFile → Prop) :
    List (String × DiskNode) → List (String × DiskNode) → Prop where
  | nil : Folder.Matches related [] []
  | cons (name : String) {first second : DiskNode} {rest others : List (String × DiskNode)}
    (node : DiskNode.Matches related first second) (inside : Folder.Matches related rest others) :
    Folder.Matches related ((name, first) :: rest) ((name, second) :: others)

end

/-- A node matches itself, if every file is related to itself. -/
theorem DiskNode.matches_refl (refl : ∀ file, related file file) (node : DiskNode) :
    DiskNode.Matches related node node :=
  @DiskNode.rec (fun node => DiskNode.Matches related node node)
    (fun entries => Folder.Matches related entries entries)
    (fun entry => DiskNode.Matches related entry.2 entry.2)
    (fun file => .file (refl file)) (fun target => .link target) (fun _ inside => .folder inside)
    .nil (fun entry _ node inside => .cons entry.1 node inside) (fun _ _ node => node) node

/-! ## Folders -/

namespace Folder

theorem matches_refl (refl : ∀ file, related file file) (folder : Folder) :
    Matches related folder folder := by
  cases DiskNode.matches_refl refl (.folder folder) with
  | folder inside => exact inside

namespace Matches

variable {first second : Folder} (matched : Matches related first second)
include matched

theorem get? (name : String) :
    Option.Rel (DiskNode.Matches related) (first.get? name) (second.get? name) := by
  induction first generalizing second with
  | nil =>
    cases matched
    exact .none
  | cons entry rest ih =>
    cases matched with
    | cons here node inside =>
      rw [get?_cons, get?_cons]
      split
      · exact .some node
      · exact ih inside

theorem append {rest others : Folder} (more : Matches related rest others) :
    Matches related (first ++ rest) (second ++ others) := by
  induction first generalizing second with
  | nil =>
    cases matched
    exact more
  | cons entry first ih =>
    cases matched with
    | cons name node inside => exact .cons name node (ih inside)

theorem replace (name : String) {one other : DiskNode} (node : DiskNode.Matches related one other) :
    Matches related (first.map fun entry => if entry.1 = name then (name, one) else entry)
      (second.map fun entry => if entry.1 = name then (name, other) else entry) := by
  induction first generalizing second with
  | nil =>
    cases matched
    exact .nil
  | cons entry first ih =>
    cases matched with
    | cons here old inside =>
      rw [List.map_cons, List.map_cons]
      by_cases same : here = name
      · rw [if_pos same, if_pos same]
        exact .cons name node (ih inside)
      · rw [if_neg same, if_neg same]
        exact .cons here old (ih inside)

theorem set (name : String) {one other : DiskNode} (node : DiskNode.Matches related one other) :
    Matches related (first.set name one) (second.set name other) := by
  have known : (first.get? name).isSome = (second.get? name).isSome := by
    have found := matched.get? name
    generalize first.get? name = one, second.get? name = two at found ⊢
    cases found <;> rfl
  rw [Folder.set, Folder.set, known]
  split
  · exact matched.replace name node
  · exact matched.append (.cons name node .nil)

theorem erase (name : String) : Matches related (first.erase name) (second.erase name) := by
  induction first generalizing second with
  | nil =>
    cases matched
    exact .nil
  | cons entry first ih =>
    cases matched with
    | cons here node inside =>
      rw [Folder.erase, Folder.erase, List.filter_cons, List.filter_cons]
      split
      · exact .cons here node (ih inside)
      · exact ih inside

theorem node? (location : Location) :
    Option.Rel (DiskNode.Matches related) (first.node? location) (second.node? location) := by
  induction location generalizing first second with
  | nil => exact .some (.folder matched)
  | cons name rest ih =>
    cases rest with
    | nil => exact matched.get? name
    | cons next rest =>
      have found := matched.get? name
      rw [Folder.node?, Folder.node?]
      generalize first.get? name = one, second.get? name = two at found ⊢
      cases found with
      | none => exact .none
      | some node =>
        cases node with
        | file _ => exact .none
        | link _ => exact .none
        | folder inside => exact ih inside

/-- A change that keeps folders alike does so everywhere. -/
theorem modify {change other : Folder → Folder}
    (keeps : ∀ {one two}, Matches related one two → Matches related (change one) (other two))
    (location : Location) :
    Matches related (first.modify change location) (second.modify other location) := by
  induction location generalizing first second with
  | nil => exact keeps matched
  | cons name rest ih =>
    have found := matched.get? name
    rw [Folder.modify, Folder.modify]
    generalize first.get? name = one, second.get? name = two at found ⊢
    cases found with
    | none => exact matched
    | some node =>
      cases node with
      | file _ => exact matched
      | link _ => exact matched
      | folder inside => exact matched.set name (.folder (ih inside))

end Matches

end Folder

/-! ## Disks -/

namespace Disk

/-- Disks of the same shape, with related files. -/
structure Matches (related : DiskFile → DiskFile → Prop) (first second : Disk) : Prop where
  top : Folder.Matches related first.top second.top
  current : first.current = second.current

theorem matches_refl (refl : ∀ file, related file file) (disk : Disk) : Matches related disk disk :=
  ⟨Folder.matches_refl refl disk.top, rfl⟩

/-- Paths that lead to the same place, where nodes match. -/
inductive Resolution.Matches (related : DiskFile → DiskFile → Prop) :
    Resolution → Resolution → Prop where
  | found (location : Location) {first second : DiskNode}
    (node : DiskNode.Matches related first second) :
    Matches related (.found location first) (.found location second)
  | absent (location : Location) : Matches related (.absent location) (.absent location)
  | missing : Matches related .missing .missing
  | blocked : Matches related .blocked .blocked

/-- Paths that lead to the same link or to the same place. -/
inductive Progress.Matches (related : DiskFile → DiskFile → Prop) : Progress → Progress → Prop where
  | done {first second : Resolution} (resolution : first.Matches related second) :
    Matches related (.done first) (.done second)
  | link (location : Location) (target : String) (rest : List Path.Component) :
    Matches related (.link location target rest) (.link location target rest)

/-- Changes that succeed with matching disks or fail alike. -/
inductive Fares (related : DiskFile → DiskFile → Prop) :
    Except Fault Disk → Except Fault Disk → Prop where
  | ok {first second : Disk} (matched : Disk.Matches related first second) :
    Fares related (.ok first) (.ok second)
  | error (fault : Fault) : Fares related (.error fault) (.error fault)

namespace Matches

variable {first second : Disk} (matched : Matches related first second)
include matched

theorem node? (location : Location) :
    Option.Rel (DiskNode.Matches related) (first.node? location) (second.node? location) :=
  matched.top.node? location

theorem put (location : Location) {one other : DiskNode}
    (node : DiskNode.Matches related one other) :
    Matches related (first.put location one) (second.put location other) := by
  rw [Disk.put, Disk.put]
  cases location.getLast? with
  | none => exact matched
  | some name =>
    exact ⟨matched.top.modify (fun inside => inside.set name node) _, matched.current⟩

theorem remove (location : Location) :
    Matches related (first.remove location) (second.remove location) := by
  rw [Disk.remove, Disk.remove]
  cases location.getLast? with
  | none => exact matched
  | some name => exact ⟨matched.top.modify (fun inside => inside.erase name) _, matched.current⟩

theorem advance (last : Bool) (location : Location) (components : List Path.Component) :
    (first.advance last location components).Matches related
      (second.advance last location components) := by
  induction components generalizing location with
  | nil =>
    have found := matched.node? location
    rw [Disk.advance, Disk.advance]
    generalize first.node? location = one, second.node? location = two at found ⊢
    cases found with
    | none => exact .done .missing
    | some node => exact .done (.found location node)
  | cons component rest ih =>
    cases component with
    | root => exact ih []
    | here => exact ih location
    | up => exact ih location.dropLast
    | name name =>
      have found := matched.node? (location ++ [name])
      generalize one : first.node? (location ++ [name]) = here,
        two : second.node? (location ++ [name]) = there at found
      cases found with
      | none =>
        rw [advance_missing one, advance_missing two]
        split
        · exact .done (.absent _)
        · exact .done .missing
      | some node =>
        cases node with
        | folder inside =>
          rw [advance_folder one, advance_folder two]
          exact ih (location ++ [name])
        | file held =>
          rw [advance_file one, advance_file two]
          split
          · exact .done (.found _ (.file held))
          · exact .done .blocked
        | link target =>
          rw [Disk.advance, Disk.advance, one, two]
          simp only
          split
          · exact .done (.found _ (.link target))
          · exact .link location target rest

theorem follow (last : Bool) (links : Nat) (location : Location)
    (components : List Path.Component) :
    (first.follow last links location components).Matches related
      (second.follow last links location components) := by
  induction links generalizing location components with
  | zero =>
    have reached := matched.advance last location components
    generalize one : first.advance last location components = here,
      two : second.advance last location components = there at reached
    cases reached with
    | done resolution =>
      rw [follow_of_done one, follow_of_done two]
      exact resolution
    | link =>
      rw [follow_of_link_zero one, follow_of_link_zero two]
      exact .blocked
  | succ links ih =>
    have reached := matched.advance last location components
    generalize one : first.advance last location components = here,
      two : second.advance last location components = there at reached
    cases reached with
    | done resolution =>
      rw [follow_of_done one, follow_of_done two]
      exact resolution
    | link location target rest =>
      rw [follow_of_link one, follow_of_link two]
      exact ih location (Path.steps target ++ rest)

theorem resolveWith (last : Bool) (path : String) :
    (first.resolveWith last path).Matches related (second.resolveWith last path) := by
  rw [Disk.resolveWith, Disk.resolveWith, matched.current]
  split
  · exact .missing
  · exact matched.follow last maxLinks second.current (Path.steps path)

/-- What is read at a path is what one of two related files holds, or else the same fault. -/
theorem read (path : String) :
    first.read path = second.read path ∨
      ∃ one other, related one other ∧
        first.read path = (if one.readable then .ok one.content else .error .refused) ∧
        second.read path = if other.readable then .ok other.content else .error .refused := by
  have led := matched.resolveWith true path
  rw [Disk.read, Disk.read, resolve, resolve]
  generalize first.resolveWith true path = one, second.resolveWith true path = two at led ⊢
  cases led with
  | absent => exact .inl rfl
  | missing => exact .inl rfl
  | blocked => exact .inl rfl
  | found location node =>
    cases node with
    | file held => exact .inr ⟨_, _, held, rfl, rfl⟩
    | link target => exact .inl rfl
    | folder inside => exact .inl rfl

theorem write (path : String) {one other : DiskFile} (held : related one other) :
    Fares related (first.write path one) (second.write path other) := by
  have led := matched.resolveWith true path
  rw [Disk.write, Disk.write, resolve, resolve]
  generalize first.resolveWith true path = one, second.resolveWith true path = two at led ⊢
  cases led with
  | absent location => exact .ok (matched.put location (.file held))
  | missing => exact .error .missing
  | blocked => exact .error .refused
  | found location node =>
    cases node with
    | file old => exact .ok (matched.put location (.file held))
    | link target => exact .error .refused
    | folder inside => exact .error .refused

theorem rename (source target : String) :
    Fares related (first.rename source target) (second.rename source target) := by
  have start := matched.resolveWith false source
  have goal := matched.resolveWith false target
  rw [Disk.rename, Disk.rename, locate, locate, locate, locate]
  generalize first.resolveWith false source = one, second.resolveWith false source = two
    at start ⊢
  generalize first.resolveWith false target = three, second.resolveWith false target = four
    at goal ⊢
  cases start with
  | absent => exact .error .missing
  | missing => exact .error .missing
  | blocked => exact .error .refused
  | found here node =>
    have moved (there : Location) := (matched.remove here).put there node
    cases node with
    | folder inside => exact .error .refused
    | file _ | link _ =>
      cases goal with
      | absent there => exact .ok (moved there)
      | missing => exact .error .missing
      | blocked => exact .error .refused
      | found there old =>
        cases old with
        | folder inside => exact .error .refused
        | file _ | link _ => exact .ok (moved there)

theorem makeFolder {one other : Resolution} (resolution : one.Matches related other) :
    Fares related (first.makeFolder one) (second.makeFolder other) := by
  cases resolution with
  | absent location => exact .ok (matched.put location (.folder .nil))
  | missing => exact .error .missing
  | blocked => exact .error .refused
  | found location node => exact .error .refused

theorem resolveReversed (last : Bool) (reversed : List Path.Component) :
    (first.resolveReversed last reversed).Matches related
      (second.resolveReversed last reversed) := by
  rw [Disk.resolveReversed, Disk.resolveReversed, matched.current]
  exact matched.follow last maxLinks second.current reversed.reverse

theorem ensureFolder (reversed : List Path.Component) :
    Fares related (first.ensureFolder reversed) (second.ensureFolder reversed) := by
  rw [Disk.ensureFolder, Disk.ensureFolder]
  have made := matched.makeFolder (matched.resolveReversed false reversed)
  have led := matched.resolveReversed true reversed
  generalize first.makeFolder (first.resolveReversed false reversed) = one,
    second.makeFolder (second.resolveReversed false reversed) = two at made ⊢
  generalize first.resolveReversed true reversed = three,
    second.resolveReversed true reversed = four at led ⊢
  cases made with
  | ok made => exact .ok made
  | error fault =>
    cases led with
    | absent => exact .error fault
    | missing => exact .error fault
    | blocked => exact .error fault
    | found location node =>
      cases node with
      | file _ => exact .error fault
      | link _ => exact .error fault
      | folder _ => exact .ok matched

theorem ensureFolders (reversed : List Path.Component) :
    Fares related (first.ensureFolders reversed) (second.ensureFolders reversed) := by
  induction reversed generalizing first second with
  | nil => exact .ok matched
  | cons last before ih =>
    have made := matched.ensureFolder (last :: before)
    have above := ih matched
    rw [Disk.ensureFolders, Disk.ensureFolders]
    generalize first.ensureFolder (last :: before) = one, second.ensureFolder (last :: before) = two
      at made ⊢
    cases made with
    | ok made => exact .ok made
    | error fault =>
      cases fault with
      | refused => exact .error .refused
      | missing =>
        generalize first.ensureFolders before = three, second.ensureFolders before = four at above ⊢
        cases above with
        | ok made => exact made.ensureFolder (last :: before)
        | error fault => exact .error fault

end Matches

end Disk

/-! ## Actions -/

namespace Workspace

/-- Outcomes of actions that give the same on matching disks. -/
structure Agrees {α : Type} (related : DiskFile → DiskFile → Prop)
    (first second : Except WorkspaceError α × Disk) : Prop where
  result : first.1 = second.1
  disk : first.2.Matches related second.2

variable {first second : Disk}

theorem agrees_bind {α β : Type} {action other : DiskAction α} {next following : α → DiskAction β}
    (start : Agrees related (action first) (other second))
    (onward : ∀ value {one two : Disk}, one.Matches related two →
      Agrees related (next value one) (following value two)) :
    Agrees related ((action >>= next) first) ((other >>= following) second) := by
  rw [bind_apply, bind_apply]
  obtain ⟨result, disk⟩ := start
  rcases one : action first with ⟨_ | value, middle⟩ <;>
    rcases two : other second with ⟨_ | _, between⟩ <;>
      rw [one, two] at result disk <;> cases result
  · exact ⟨rfl, disk⟩
  · exact onward value disk

theorem agrees_perform (path : String) {change other : Disk → Except Disk.Fault Disk}
    (matched : first.Matches related second)
    (fares : Disk.Fares related (change first) (other second)) :
    Agrees related (perform path change first) (perform path other second) := by
  rw [perform_apply, perform_apply]
  generalize change first = one, other second = two at fares ⊢
  cases fares with
  | ok changed => exact ⟨rfl, changed⟩
  | error fault => exact ⟨rfl, matched⟩

theorem agrees_ensureFolder (root : String) (matched : first.Matches related second) :
    Agrees related (ensureFolder root first) (ensureFolder root second) :=
  agrees_perform _ matched (matched.ensureFolders _)

/-- Saving related texts. -/
theorem agrees_save (root : String) (artifact : Artifact) {text other : String}
    (held : related { content := text.toUTF8 } { content := other.toUTF8 })
    (matched : first.Matches related second) :
    Agrees related (save root artifact text first) (save root artifact other second) := by
  refine agrees_bind (agrees_ensureFolder root matched) fun _ _ _ made => ?_
  refine agrees_bind (agrees_perform _ made (made.write _ held)) fun _ _ _ drafted => ?_
  exact agrees_perform _ drafted (drafted.rename _ _)

end Workspace

end SourceIndex
