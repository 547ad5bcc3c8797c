import SourceIndex.Path

/-!
# Disks

A disk is a value: a tree of folders, files and links. Paths are followed through links, of which
only so many are followed that a loop of links leads nowhere.

This leaves out several things that a system has. No file has two names, as with hard links. Every
name is text. Permissions count only for reading files: folders can be listed and changed, and files
can be replaced and renamed, whoever does it. There is always room, and paths may have any length;
only a scan keeps to the limit of the system.
-/

namespace SourceIndex

/-- A file with the time of its last change, in seconds and nanoseconds since 1970. -/
structure DiskFile where
  content : ByteArray
  seconds : Int := 0
  nanos : Nat := 0
  readable : Bool := true

/-- What a name in a folder stands for. -/
inductive DiskNode where
  | file (file : DiskFile)
  | link (target : String)
  | folder (entries : List (String × DiskNode))

/-- The entries of a folder in the order in which they are listed. -/
abbrev Folder := List (String × DiskNode)

/-- The names that lead from the top folder to a node. -/
abbrev Location := List String

/-- A disk with the folder in which relative paths start. -/
structure Disk where
  top : Folder := []
  current : Location := []

namespace Folder

/-- The node with a name. -/
def get? (folder : Folder) (name : String) : Option DiskNode :=
  (folder.find? fun entry => entry.1 = name).map (·.2)

/-- The folder without a name. -/
def erase (folder : Folder) (name : String) : Folder := folder.filter fun entry => entry.1 ≠ name

/-- The folder in which a name stands for a node. A new name comes last. -/
def set (folder : Folder) (name : String) (node : DiskNode) : Folder :=
  if (folder.get? name).isSome then
    folder.map fun entry => if entry.1 = name then (name, node) else entry
  else folder ++ [(name, node)]

/-- The node at a location, reached through folders only. -/
def node? : Folder → Location → Option DiskNode
  | folder, [] => some (.folder folder)
  | folder, [name] => folder.get? name
  | folder, name :: next :: rest =>
    match folder.get? name with
    | some (.folder inside) => node? inside (next :: rest)
    | _ => none

/-- Changes the folder at a location; a location that is no folder is left alone. -/
def modify (change : Folder → Folder) : Location → Folder → Folder
  | [], folder => change folder
  | name :: rest, folder =>
    match folder.get? name with
    | some (.folder inside) => folder.set name (.folder (modify change rest inside))
    | _ => folder

end Folder

namespace Disk

/-- The node at a location. -/
def node? (disk : Disk) (location : Location) : Option DiskNode := disk.top.node? location

/-- Puts a node at a location. -/
def put (disk : Disk) (location : Location) (node : DiskNode) : Disk :=
  match location.getLast? with
  | none => disk
  | some name =>
    { disk with top := disk.top.modify (fun folder => folder.set name node) location.dropLast }

/-- Removes what is at a location. -/
def remove (disk : Disk) (location : Location) : Disk :=
  match location.getLast? with
  | none => disk
  | some name =>
    { disk with top := disk.top.modify (fun folder => folder.erase name) location.dropLast }

/-- Where a path leads. -/
inductive Resolution where
  | found (location : Location) (node : DiskNode)
  /-- Only the last name is missing, in a folder that exists. -/
  | absent (location : Location)
  /-- An earlier name is missing. -/
  | missing
  /-- A name on the way is not a folder, or there are too many links. -/
  | blocked

/-- How far a path leads without following a link. -/
inductive Progress where
  | done (resolution : Resolution)
  /-- A link in the folder at `location`, with the components that follow it. -/
  | link (location : Location) (target : String) (rest : List Path.Component)

/-- Follows components from a folder up to the first link; a link in the last place is followed only
if `follow` is set. -/
def advance (disk : Disk) (follow : Bool) : Location → List Path.Component → Progress
  | location, [] =>
    match disk.node? location with
    | some node => .done (.found location node)
    | none => .done .missing
  | _, .root :: rest => advance disk follow [] rest
  | location, .here :: rest => advance disk follow location rest
  | location, .up :: rest => advance disk follow location.dropLast rest
  | location, .name name :: rest =>
    let next := location ++ [name]
    match disk.node? next with
    | none => .done (if rest.isEmpty then .absent next else .missing)
    | some (.folder _) => advance disk follow next rest
    | some (.file file) => .done (if rest.isEmpty then .found next (.file file) else .blocked)
    | some (.link target) =>
      if rest.isEmpty && !follow then .done (.found next (.link target))
      else .link location target rest

/-- Follows components and at most `links` links. -/
def follow (disk : Disk) (last : Bool) : (links : Nat) → Location → List Path.Component → Resolution
  | links, location, components =>
    match advance disk last location components, links with
    | .done resolution, _ => resolution
    | .link _ _ _, 0 => .blocked
    | .link location target rest, links + 1 =>
      follow disk last links location (Path.steps target ++ rest)

/-- The number of links that are followed on one path. -/
def maxLinks : Nat := 40

/-- Where a path leads, with a link in the last place followed or not. -/
def resolveWith (disk : Disk) (last : Bool) (path : String) : Resolution :=
  if path.isEmpty then .missing
  else disk.follow last maxLinks disk.current (Path.steps path)

/-- Where a path leads. -/
def resolve (disk : Disk) (path : String) : Resolution := disk.resolveWith true path

/-- The node that a path names, which may be a link. -/
def locate (disk : Disk) (path : String) : Resolution := disk.resolveWith false path

end Disk

end SourceIndex
