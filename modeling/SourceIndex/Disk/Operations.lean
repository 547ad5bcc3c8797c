import SourceIndex.Disk.Basic

/-!
# Operations on a disk

Reading, writing and moving files by their paths.
-/

namespace SourceIndex.Disk

/-- Why an operation on a path fails. -/
inductive Fault where
  /-- The path leads nowhere. -/
  | missing
  /-- The path leads to something of another kind, or cannot be followed. -/
  | refused
  deriving DecidableEq, Repr

/-- Whether a path leads to anything. -/
def exists? (disk : Disk) (path : String) : Bool :=
  match disk.resolve path with
  | .found _ _ => true
  | _ => false

/-- The location and the entries of the folder that a path leads to. -/
def folder? (disk : Disk) (path : String) : Option (Location × Folder) :=
  match disk.resolve path with
  | .found location (.folder entries) => some (location, entries)
  | _ => none

/-- The file that a path leads to. -/
def file? (disk : Disk) (path : String) : Option DiskFile :=
  match disk.resolve path with
  | .found _ (.file file) => some file
  | _ => none

/-- The content of a file. -/
def read (disk : Disk) (path : String) : Except Fault ByteArray :=
  match disk.resolve path with
  | .found _ (.file file) => if file.readable then .ok file.content else .error .refused
  | .found _ _ => .error .refused
  | .absent _ => .error .missing
  | .missing => .error .missing
  | .blocked => .error .refused

/-- The content of a file as text. -/
def readText (disk : Disk) (path : String) : Except Fault String := do
  match String.fromUTF8? (← disk.read path) with
  | some text => .ok text
  | none => .error .refused

/-- Creates a file, or replaces its content. -/
def write (disk : Disk) (path : String) (file : DiskFile) : Except Fault Disk :=
  match disk.resolve path with
  | .found location (.file _) => .ok (disk.put location (.file file))
  | .absent location => .ok (disk.put location (.file file))
  | .found _ _ => .error .refused
  | .missing => .error .missing
  | .blocked => .error .refused

/-- Creates a link. -/
def makeLink (disk : Disk) (path target : String) : Except Fault Disk :=
  match disk.locate path with
  | .absent location => .ok (disk.put location (.link target))
  | .missing => .error .missing
  | _ => .error .refused

/-- Creates a folder in a folder that exists. -/
def makeFolder (disk : Disk) (path : Resolution) : Except Fault Disk :=
  match path with
  | .absent location => .ok (disk.put location (.folder []))
  | .missing => .error .missing
  | _ => .error .refused

/-- Where components of a path, given from the last to the first, lead from the current folder. -/
def resolveReversed (disk : Disk) (last : Bool) (reversed : List Path.Component) : Resolution :=
  disk.follow last maxLinks disk.current reversed.reverse

/-- Creates a folder that may exist already. -/
def ensureFolder (disk : Disk) (reversed : List Path.Component) : Except Fault Disk :=
  match disk.makeFolder (disk.resolveReversed false reversed) with
  | .ok disk => .ok disk
  | .error fault =>
    match disk.resolveReversed true reversed with
    | .found _ (.folder _) => .ok disk
    | _ => .error fault

/-- Creates a folder and the folders on the way to it, given from the last component on. -/
def ensureFolders (disk : Disk) : (reversed : List Path.Component) → Except Fault Disk
  | [] => .ok disk
  | last :: before =>
    match disk.ensureFolder (last :: before) with
    | .ok disk => .ok disk
    | .error .refused => .error .refused
    | .error .missing => do
      let disk ← disk.ensureFolders before
      disk.ensureFolder (last :: before)

/-- Creates the folder of a path and the folders on the way to it, as far as they are missing. -/
def makeFolders (disk : Disk) (path : String) : Except Fault Disk :=
  disk.ensureFolders (Path.components path).reverse

/-- Removes a file or a link. -/
def removeFile (disk : Disk) (path : String) : Except Fault Disk :=
  match disk.locate path with
  | .found _ (.folder _) => .error .refused
  | .found location _ => .ok (disk.remove location)
  | .absent _ => .error .missing
  | .missing => .error .missing
  | .blocked => .error .refused

/-- Removes a folder with all that is in it. -/
def removeFolder (disk : Disk) (path : String) : Except Fault Disk :=
  match disk.locate path with
  | .found location (.folder _) => .ok (disk.remove location)
  | .absent _ => .error .missing
  | .missing => .error .missing
  | _ => .error .refused

/-- Moves a file or a link, which replaces a file or a link but not a folder. -/
def rename (disk : Disk) (source target : String) : Except Fault Disk :=
  match disk.locate source, disk.locate target with
  | .found _ (.folder _), _ => .error .refused
  | .found _ _, .found _ (.folder _) => .error .refused
  | .found here node, .found there _ => .ok ((disk.remove here).put there node)
  | .found here node, .absent there => .ok ((disk.remove here).put there node)
  | .found _ _, .missing => .error .missing
  | .found _ _, .blocked => .error .refused
  | .absent _, _ => .error .missing
  | .missing, _ => .error .missing
  | .blocked, _ => .error .refused

end SourceIndex.Disk
