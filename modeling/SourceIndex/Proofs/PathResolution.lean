import SourceIndex.Proofs.Disk

/-!
# Paths through links

A path that leads to a folder, through whatever links, leads there as long as the folders on the way
are folders and the links are the same. So it does not matter to it that files come and go.
-/

namespace SourceIndex

namespace Folder

/-! ## Other entries in a folder -/

/-- What is below a name is looked up in the folder of that name. -/
theorem node?_cons {folder inside : Folder} {name : String}
    (known : folder.get? name = some (.folder inside)) (rest : Location) :
    folder.node? (name :: rest) = node? inside rest := by
  cases rest with
  | nil => exact known
  | cons next rest => rw [node?, known]

/-- Nothing is below a name of something else. -/
theorem node?_cons_cons {folder : Folder} {name next : String} {rest : Location}
    (known : ∀ inside, folder.get? name ≠ some (.folder inside)) :
    folder.node? (name :: next :: rest) = none := by
  rw [node?]
  split
  case h_1 inside found => exact absurd found (known inside)
  case h_2 => rfl

theorem node?_set_of_ne (folder : Folder) {name other : String} (differs : name ≠ other)
    (node : DiskNode) (rest : Location) :
    (folder.set name node).node? (other :: rest) = folder.node? (other :: rest) := by
  cases rest with
  | nil => exact get?_set_of_ne folder differs node
  | cons next rest => rw [node?, node?, get?_set_of_ne folder differs]

/-- Every folder in a folder is still there and, apart from some names, every link. -/
structure Keeps (names : List String) (first second : Folder) : Prop where
  folder : ∀ {name inside}, first.get? name = some (.folder inside) →
    second.get? name = some (.folder inside)
  link : ∀ {name target}, name ∉ names → first.get? name = some (.link target) →
    second.get? name = some (.link target)

theorem Keeps.trans {names : List String} {first second third : Folder}
    (before : Keeps names first second) (after : Keeps names second third) :
    Keeps names first third :=
  ⟨fun known => after.folder (before.folder known),
    fun other known => after.link other (before.link other known)⟩

theorem Keeps.mono {names others : List String} {first second : Folder}
    (keeps : Keeps names first second) (listed : names ⊆ others) : Keeps others first second :=
  ⟨keeps.folder, fun other known => keeps.link (fun member => other (listed member)) known⟩

/-- What other entries in a folder make of a node: it is below the folder, or it is the same, or it
is a folder as before. -/
theorem node?_modify_cases {folder inside : Folder} {place : Location} (next : Folder)
    (found : folder.node? place = some (.folder inside)) (location : Location) :
    (∃ rest, location = place ++ rest ∧ folder.node? location = node? inside rest ∧
        (modify (fun _ => next) place folder).node? location = node? next rest) ∨
      (modify (fun _ => next) place folder).node? location = folder.node? location ∨
      ∃ before after : Folder, folder.node? location = some (.folder before) ∧
        (modify (fun _ => next) place folder).node? location = some (.folder after) := by
  induction place generalizing folder location with
  | nil =>
    cases found
    exact .inl ⟨location, rfl, rfl, rfl⟩
  | cons name rest ih =>
    obtain ⟨lower, known, below⟩ := exists_folder_of_cons found
    rw [modify, known]
    cases location with
    | nil => exact .inr (.inr ⟨folder, _, rfl, rfl⟩)
    | cons first others =>
      by_cases here : name = first
      · subst here
        simp only [node?_cons known, node?_set_cons]
        rcases ih below others with ⟨more, rfl, before, after⟩ | same
        · exact .inl ⟨more, rfl, before, after⟩
        · exact .inr same
      · exact .inr (.inl (node?_set_of_ne folder here _ _))

/-- What other entries in some folder make of any folder: a related one, if the relation passes on
to the folder above. -/
theorem exists_related_modify (related : Folder → Folder → Prop) {valid : Folder → Prop}
    {names : List String} (refl : ∀ folder, related folder folder)
    (lift : ∀ {folder lower other name}, valid folder →
      folder.get? name = some (.folder lower) → related lower other →
        related folder (folder.set name (.folder other)))
    {folder inside next outside : Folder} {place home : Location}
    (all : ∀ location entries, folder.node? location = some (.folder entries) → valid entries)
    (found : folder.node? place = some (.folder inside)) (keeps : Keeps names inside next)
    (changed : related inside next) (upper : folder.node? home = some (.folder outside)) :
    ∃ other : Folder, (modify (fun _ => next) place folder).node? home = some (.folder other) ∧
      related outside other := by
  induction place generalizing folder home outside with
  | nil =>
    cases found
    cases home with
    | nil =>
      cases upper
      exact ⟨_, rfl, changed⟩
    | cons name rest =>
      obtain ⟨lower, known, below⟩ := exists_folder_of_cons upper
      refine ⟨outside, ?_, refl outside⟩
      rw [modify, node?_cons (keeps.folder known)]
      exact below
  | cons name rest ih =>
    obtain ⟨lower, known, below⟩ := exists_folder_of_cons found
    have allBelow : ∀ location entries, node? lower location = some (.folder entries) →
        valid entries := by
      intro location entries here
      exact all (name :: location) entries ((node?_cons known location).trans here)
    rw [modify, known]
    cases home with
    | nil =>
      cases upper
      have self : node? lower [] = some (.folder lower) := rfl
      obtain ⟨other, moved, inner⟩ := ih allBelow below self
      cases moved
      exact ⟨_, rfl, lift (all [] folder rfl) known inner⟩
    | cons first others =>
      by_cases here : name = first
      · subst here
        rw [node?_cons known] at upper
        rw [node?_set_cons]
        exact ih allBelow below upper
      · rw [node?_set_of_ne folder here]
        exact ⟨outside, upper, refl outside⟩

end Folder

namespace Disk

/-! ## Other entries in a folder of a disk -/

variable {disk : Disk} {place : Location} {inside next : Folder}

/-- The disk with other entries in the folder at a location. -/
def replace (disk : Disk) (place : Location) (inside : Folder) : Disk :=
  { disk with top := disk.top.modify (fun _ => inside) place }

theorem replace_replace (disk : Disk) (place : Location) (first second : Folder) :
    (disk.replace place first).replace place second = disk.replace place second := by
  simp [replace, Folder.modify_modify]

theorem node?_replace (found : disk.node? place = some (.folder inside)) (next : Folder) :
    (disk.replace place next).node? place = some (.folder next) :=
  Folder.node?_modify _ found

/-- Putting a node into a folder replaces its entries. -/
theorem put_eq_replace (found : disk.node? place = some (.folder inside)) (name : String)
    (node : DiskNode) :
    disk.put (place ++ [name]) node = disk.replace place (inside.set name node) := by
  rw [put_append, replace]
  congr 1
  exact Folder.modify_congr found rfl

/-- Removing a node from a folder replaces its entries. -/
theorem remove_eq_replace (found : disk.node? place = some (.folder inside)) (name : String) :
    disk.remove (place ++ [name]) = disk.replace place (inside.erase name) := by
  rw [remove_append, replace]
  congr 1
  exact Folder.modify_congr found rfl

/-- A folder that was just put somewhere can be put there with other entries at once. -/
theorem replace_put (disk : Disk) (above : Location) (name : String) (first second : Folder) :
    (disk.put (above ++ [name]) (.folder first)).replace (above ++ [name]) second =
      disk.put (above ++ [name]) (.folder second) := by
  rw [put_append, put_append, replace]
  simp [Folder.modify_append, Folder.modify_modify, Folder.modify]

/-- A folder with other entries is put in the place of the folder. -/
theorem replace_eq_put {above : Location} {name : String}
    (found : disk.node? (above ++ [name]) = some (.folder inside)) (next : Folder) :
    disk.replace (above ++ [name]) next = disk.put (above ++ [name]) (.folder next) := by
  obtain ⟨outside, upper, known⟩ := exists_above found
  rw [put_append, replace, Folder.modify_append]
  congr 1
  apply Folder.modify_congr upper
  simp [Folder.modify, known]

/-- No path through a link leads to a folder. -/
def Futile (disk : Disk) (above : Location) (target : String) : Prop :=
  ∀ links rest place inside,
    disk.follow true links above (Path.steps target ++ rest) ≠ .found place (.folder inside)

/-- Folders are still folders, and links through which paths lead to folders are still the same. -/
structure Grows (first second : Disk) : Prop where
  folder : ∀ {location inside}, first.node? location = some (.folder inside) →
    ∃ other : Folder, second.node? location = some (.folder other)
  link : ∀ {above name target}, first.node? (above ++ [name]) = some (.link target) →
    first.Futile above target ∨ second.node? (above ++ [name]) = some (.link target)

/-- A disk grows if files take the place of files and of links that lead nowhere. -/
theorem grows_replace {names : List String} (found : disk.node? place = some (.folder inside))
    (keeps : Folder.Keeps names inside next)
    (futile : ∀ name ∈ names, ∀ target, inside.get? name = some (.link target) →
      disk.Futile place target) : Grows disk (disk.replace place next) where
  folder {location entries} known := by
    rcases Folder.node?_modify_cases next found location with
      ⟨rest, rfl, before, after⟩ | same | ⟨_, other, _, after⟩
    · rw [node?, before] at known
      cases rest with
      | nil => exact ⟨next, after⟩
      | cons name rest =>
        obtain ⟨lower, inner, below⟩ := Folder.exists_folder_of_cons known
        rw [Folder.node?_cons (keeps.folder inner), below] at after
        exact ⟨entries, after⟩
    · exact ⟨entries, same.trans known⟩
    · exact ⟨other, after⟩
  link {above name target} known := by
    rcases Folder.node?_modify_cases next found (above ++ [name]) with
      ⟨rest, location, before, after⟩ | same | ⟨_, _, folder, _⟩
    · rw [node?, before] at known
      cases rest with
      | nil => cases known
      | cons first rest =>
        by_cases inner : ∃ lower, inside.get? first = some (.folder lower)
        · obtain ⟨lower, inner⟩ := inner
          rw [Folder.node?_cons (keeps.folder inner), ← Folder.node?_cons inner, known] at after
          exact .inr after
        · cases rest with
          | nil =>
            obtain ⟨rfl, rest⟩ := List.append_inj' location rfl
            cases rest
            by_cases listed : name ∈ names
            · exact .inl (futile name listed target known)
            · exact .inr (after.trans (keeps.link listed known))
          | cons second rest =>
            rw [Folder.node?_cons_cons fun lower known => inner ⟨lower, known⟩] at known
            cases known
    · exact .inr (same.trans known)
    · cases folder.symm.trans known

/-! ## Steps of a path -/

section

variable {last : Bool} {location : Location} {name : String} {rest : List Path.Component}

theorem advance_missing (known : disk.node? (location ++ [name]) = none) :
    disk.advance last location (.name name :: rest) =
      .done (if rest.isEmpty then .absent (location ++ [name]) else .missing) := by
  rw [advance, known]

theorem advance_file {file : DiskFile}
    (known : disk.node? (location ++ [name]) = some (.file file)) :
    disk.advance last location (.name name :: rest) =
      .done (if rest.isEmpty then .found (location ++ [name]) (.file file) else .blocked) := by
  rw [advance, known]

theorem advance_folder (known : disk.node? (location ++ [name]) = some (.folder inside)) :
    disk.advance last location (.name name :: rest) =
      disk.advance last (location ++ [name]) rest := by
  rw [advance, known]

theorem advance_link {target : String}
    (known : disk.node? (location ++ [name]) = some (.link target))
    (followed : rest = [] → last = true) :
    disk.advance last location (.name name :: rest) = .link location target rest := by
  rw [advance, known]
  cases rest with
  | nil => simp [followed rfl]
  | cons component rest => rfl

end

/-- A link is followed, if there are any left to follow. -/
theorem follow_of_link {last : Bool} {location above : Location}
    {components rest : List Path.Component} {target : String}
    (reached : disk.advance last location components = .link above target rest) (links : Nat) :
    disk.follow last (links + 1) location components =
      disk.follow last links above (Path.steps target ++ rest) := by
  rw [follow.eq_def]
  simp only [reached]

theorem follow_of_link_zero {last : Bool} {location above : Location}
    {components rest : List Path.Component} {target : String}
    (reached : disk.advance last location components = .link above target rest) :
    disk.follow last 0 location components = .blocked := by
  rw [follow.eq_def]
  simp only [reached]

/-! ## Paths on disks that grow -/

section

variable {first second : Disk} (grows : first.Grows second) {location : Location}
variable {components : List Path.Component}
include grows

/-- Components that come to a folder or to a link still do, unless the link leads to no folder. -/
theorem advance_of_grows :
    (∀ {place inside},
      first.advance true location components = .done (.found place (.folder inside)) →
      ∃ other : Folder,
        second.advance true location components = .done (.found place (.folder other))) ∧
    ∀ {above target rest}, first.advance true location components = .link above target rest →
      first.Futile above target ∨
        second.advance true location components = .link above target rest := by
  fun_induction advance first true location components with
  | case1 location node known =>
    refine ⟨?_, by simp⟩
    intro place inside led
    cases led
    obtain ⟨other, still⟩ := grows.folder known
    exact ⟨other, by rw [advance, still]⟩
  | case3 _ rest ih | case4 location rest ih | case5 location rest ih => exact ih
  | case7 location name rest next inside known ih =>
    obtain ⟨other, still⟩ := grows.folder known
    rw [advance_folder still]
    exact ih
  | case10 location name rest next target known =>
    refine ⟨by simp, ?_⟩
    intro above other rest led
    cases led
    rcases grows.link known with futile | still
    · exact .inl futile
    · exact .inr (advance_link still fun _ => rfl)
  -- Neither a folder nor a link that is followed is at the end of the other ways.
  | case2 => simp
  | case6 | case8 => split <;> simp
  | case9 location name rest next target known unfollowed => simp at unfollowed

/-- A path that leads to a folder still leads there. -/
theorem follow_folder_of_grows {links : Nat} {place : Location} {inside : Folder}
    (led : first.follow true links location components = .found place (.folder inside)) :
    ∃ other : Folder,
      second.follow true links location components = .found place (.folder other) := by
  fun_induction follow first true links location components with
  | case1 links location components resolution reached =>
    subst led
    obtain ⟨other, still⟩ := (advance_of_grows grows).1 reached
    exact ⟨other, follow_of_done still⟩
  | case2 => cases led
  | case3 location components above target rest links reached ih =>
    rcases (advance_of_grows grows).2 reached with futile | still
    · exact absurd led (futile links rest place inside)
    · rw [follow_of_link still]
      exact ih led

theorem resolve_folder_of_grows {path : String} {place : Location} {inside : Folder}
    (current : second.current = first.current)
    (led : first.resolve path = .found place (.folder inside)) :
    ∃ other : Folder, second.resolve path = .found place (.folder other) := by
  rw [resolve, resolveWith] at led ⊢
  split at led
  case isTrue => cases led
  case isFalse nonempty =>
    rw [if_neg nonempty, current]
    exact follow_folder_of_grows grows led

end

/-! ## Names behind a path -/

variable {last : Bool} {links : Nat} {location : Location} {components : List Path.Component}

/-- What follows a path that leads to a folder without a link starts there. -/
theorem advance_append_of_found {node : DiskNode}
    (led : disk.advance true location components = .done (.found place node))
    (isFolder : ∀ file, node ≠ .file file) (rest : List Path.Component) :
    disk.advance last location (components ++ rest) = disk.advance last place rest := by
  fun_induction advance disk true location components with
  | case1 =>
    cases led
    rfl
  | case3 _ components ih | case4 location components ih | case5 location components ih =>
    exact ih led
  | case7 location name components next entries known ih =>
    rw [List.cons_append, advance_folder known]
    exact ih led
  | case8 location name components next file =>
    clear_value next
    split at led <;> cases led
    exact absurd rfl (isFolder file)
  | case2 | case10 => cases led
  | case6 => split at led <;> cases led
  | case9 location name components next target known unfollowed => simp at unfollowed

/-- What follows a path that comes to a link comes after the link. -/
theorem advance_append_of_link {above : Location} {target : String} {before : List Path.Component}
    (led : disk.advance true location components = .link above target before)
    {rest : List Path.Component} (more : rest ≠ []) :
    disk.advance last location (components ++ rest) = .link above target (before ++ rest) := by
  fun_induction advance disk true location components with
  | case3 _ components ih | case4 location components ih | case5 location components ih =>
    exact ih led
  | case7 location name components next entries known ih =>
    rw [List.cons_append, advance_folder known]
    exact ih led
  | case10 location name components next target known =>
    cases led
    exact advance_link known fun none => absurd (List.append_eq_nil_iff.1 none).2 more
  | case1 | case2 | case6 | case8 | case9 => cases led

/-- A name behind a path that leads to a folder is looked up in the folder. -/
theorem follow_append_name
    (led : disk.follow true links location components = .found place (.folder inside))
    (name : String) (plain : last = true → ∀ target, inside.get? name ≠ some (.link target)) :
    disk.follow last links location (components ++ [.name name]) =
      match inside.get? name with
      | none => .absent (place ++ [name])
      | some node => .found (place ++ [name]) node := by
  fun_induction follow disk true links location components with
  | case1 links location components resolution reached =>
    subst led
    have here := node?_of_advance reached
    apply follow_of_done
    exact (advance_append_of_found reached (by simp) _).trans (advance_name here name plain)
  | case2 => cases led
  | case3 location components above target rest links reached ih =>
    rw [follow_of_link (advance_append_of_link reached (by simp)), ← List.append_assoc]
    exact ih led

/-- Whether a link in the last place is followed matters only if there is one. -/
theorem advance_true
    (notLink : ∀ found target, disk.advance false location components ≠
      .done (.found found (.link target))) :
    disk.advance true location components = disk.advance false location components := by
  fun_induction advance disk false location components with
  | case1 location node known => rw [advance, known]
  | case2 location known => rw [advance, known]
  | case3 _ rest ih | case4 location rest ih | case5 location rest ih => exact ih notLink
  | case6 location name rest next known => exact advance_missing known
  | case7 location name rest next entries known ih =>
    rw [advance_folder known]
    exact ih notLink
  | case8 location name rest next file known => exact advance_file known
  | case9 => exact absurd rfl (notLink _ _)
  | case10 location name rest next target known => exact advance_link known fun _ => rfl

/-- A path that does not lead to a link leads to the same if a link in the last place is
followed. -/
theorem follow_true {resolution : Resolution}
    (led : disk.follow false links location components = resolution)
    (notLink : ∀ found target, resolution ≠ .found found (.link target)) :
    disk.follow true links location components = resolution := by
  fun_induction follow disk false links location components with
  | case1 links location components found reached =>
    subst led
    apply follow_of_done
    rw [advance_true (by simpa [reached] using notLink), reached]
  | case2 location components above target rest reached =>
    rw [follow_of_link_zero (by rw [advance_true (by simp [reached]), reached])]
    exact led
  | case3 location components above target rest links reached ih =>
    rw [follow_of_link (by rw [advance_true (by simp [reached]), reached])]
    exact ih led

/-- A link behind a path that leads to a folder is followed from that folder, if there are any left
to follow. -/
theorem follow_append_link {name target : String}
    (led : disk.follow true links location components = .found place (.folder inside))
    (known : inside.get? name = some (.link target)) :
    disk.follow true links location (components ++ [.name name]) = .blocked ∨
      ∃ fewer, disk.follow true links location (components ++ [.name name]) =
        disk.follow true fewer place (Path.steps target) := by
  fun_induction follow disk true links location components with
  | case1 links location components resolution reached =>
    subst led
    have link : disk.node? (place ++ [name]) = some (.link target) :=
      (Folder.node?_append_singleton (node?_of_advance reached) name).trans known
    have further := (advance_append_of_found reached (by simp) [.name name]).trans
      (advance_link link fun _ => rfl)
    cases links with
    | zero => exact .inl (follow_of_link_zero further)
    | succ links => exact .inr ⟨links, by rw [follow_of_link further, List.append_nil]⟩
  | case2 => cases led
  | case3 location components above target rest links reached ih =>
    rw [follow_of_link (advance_append_of_link reached (by simp)), ← List.append_assoc]
    exact ih led

/-! ## Paths that lead to no folder -/

/-- What a folder stands in is a folder. -/
theorem exists_folder_dropLast
    (standing : ∃ inside : Folder, disk.node? location = some (.folder inside)) :
    ∃ outside : Folder, disk.node? location.dropLast = some (.folder outside) := by
  obtain ⟨inside, standing⟩ := standing
  rcases List.eq_nil_or_concat' location with rfl | ⟨above, name, rfl⟩
  · exact ⟨inside, standing⟩
  · obtain ⟨outside, upper, _⟩ := exists_above standing
    exact ⟨outside, by rw [List.dropLast_concat]; exact upper⟩

/-- Components that come to an end without a link have come to a folder, or nothing can follow. -/
theorem advance_append_of_done
    (standing : ∃ inside : Folder, disk.node? location = some (.folder inside))
    {resolution : Resolution} (reached : disk.advance true location components = .done resolution) :
    (∃ place entries, resolution = .found place (.folder entries)) ∨
      ∀ last rest, rest ≠ [] → disk.advance last location (components ++ rest) = .done .missing ∨
        disk.advance last location (components ++ rest) = .done .blocked := by
  fun_induction advance disk true location components with
  | case1 location node known =>
    obtain ⟨inside, standing⟩ := standing
    cases known.symm.trans standing
    cases reached
    exact .inl ⟨_, _, rfl⟩
  | case2 location known =>
    obtain ⟨inside, standing⟩ := standing
    cases known.symm.trans standing
  | case3 _ components ih => exact ih ⟨_, rfl⟩ reached
  | case4 location components ih => exact ih standing reached
  | case5 location components ih => exact ih (exists_folder_dropLast standing) reached
  | case6 location name components next known =>
    refine .inr fun last rest more => .inl ?_
    rw [List.cons_append, advance_missing known, if_neg (by simp [more])]
  | case7 location name components next entries known ih =>
    simp only [List.cons_append, advance_folder known]
    exact ih ⟨entries, known⟩ reached
  | case8 location name components next file known =>
    refine .inr fun last rest more => .inr ?_
    rw [List.cons_append, advance_file known, if_neg (by simp [more])]
  | case9 location name components next target known unfollowed => simp at unfollowed
  | case10 => cases reached

/-- A link that components come to stands in a folder. -/
theorem exists_folder_of_link
    (standing : ∃ inside : Folder, disk.node? location = some (.folder inside))
    {above : Location} {target : String} {rest : List Path.Component}
    (reached : disk.advance true location components = .link above target rest) :
    ∃ entries : Folder, disk.node? above = some (.folder entries) := by
  fun_induction advance disk true location components with
  | case3 _ components ih => exact ih ⟨_, rfl⟩ reached
  | case4 location components ih => exact ih standing reached
  | case5 location components ih => exact ih (exists_folder_dropLast standing) reached
  | case7 location name components next entries known ih => exact ih ⟨entries, known⟩ reached
  | case10 =>
    cases reached
    exact standing
  | case1 | case2 | case6 | case8 | case9 => cases reached

/-- A name behind a path is found only if the path leads to a folder. -/
theorem exists_folder_of_follow_name {name : String} {node : DiskNode}
    (standing : ∃ inside : Folder, disk.node? location = some (.folder inside))
    (led : disk.follow false links location (components ++ [.name name]) = .found place node) :
    ∃ above entries,
      disk.follow true links location components = .found above (.folder entries) := by
  fun_induction follow disk true links location components with
  | case1 links location components resolution reached =>
    rcases advance_append_of_done standing reached with folder | fails
    · exact folder
    · rcases fails false [.name name] (by simp) with missing | blocked
      · cases (follow_of_done missing).symm.trans led
      · cases (follow_of_done blocked).symm.trans led
  | case2 location components above target rest reached =>
    have link : disk.advance false location (components ++ [.name name]) =
        .link above target (rest ++ [.name name]) := advance_append_of_link reached (by simp)
    cases (follow_of_link_zero link).symm.trans led
  | case3 location components above target rest links reached ih =>
    rw [follow_of_link (advance_append_of_link reached (by simp)), ← List.append_assoc] at led
    exact ih (exists_folder_of_link standing reached) led

/-- Nothing behind a path that leads to a file or nowhere is a folder, however many links are
followed. -/
theorem follow_append_ne_folder
    (standing : ∃ inside : Folder, disk.node? location = some (.folder inside))
    (passable : disk.follow true links location components ≠ .blocked)
    (notFolder : ∀ place entries,
      disk.follow true links location components ≠ .found place (.folder entries))
    (others : Nat) (rest : List Path.Component) (place : Location) (entries : Folder) :
    disk.follow true others location (components ++ rest) ≠ .found place (.folder entries) := by
  fun_induction follow disk true links location components generalizing others with
  | case1 links location components resolution reached =>
    intro led
    by_cases more : rest = []
    · rw [more, List.append_nil, follow_of_done reached] at led
      exact notFolder place entries led
    · rcases advance_append_of_done standing reached with ⟨place, entries, folder⟩ | fails
      · exact notFolder place entries folder
      · rcases fails true rest more with missing | blocked
        · cases (follow_of_done missing).symm.trans led
        · cases (follow_of_done blocked).symm.trans led
  | case2 => exact absurd rfl passable
  | case3 location components above target before links reached ih =>
    have further : disk.advance true location (components ++ rest) =
        .link above target (before ++ rest) := by
      by_cases more : rest = []
      · rw [more, List.append_nil, List.append_nil, reached]
      · exact advance_append_of_link reached more
    cases others with
    | zero =>
      rw [follow_of_link_zero further]
      simp
    | succ others =>
      rw [follow_of_link further, ← List.append_assoc]
      exact ih (exists_folder_of_link standing reached) passable notFolder others

end Disk

end SourceIndex
