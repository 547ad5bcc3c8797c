import Std.Time.DateTime.Timestamp
import SourceIndex.Command.Run
import SourceIndex.Tree.Stored

/-!
# The program

Reads the tree at the given root into a disk, runs the command on it, and writes back the state
files that have changed. Syntax trees are looked up among the state files.
-/

namespace SourceIndex.Program

/-- How the program is used. -/
def usage : String :=
  String.intercalate "\n"
    ["Usage: arbor [-v] [-r ROOT] COMMAND", "",
     "Commands:",
     "  analyze [--init] [-g GRANULARITY]",
     "  status",
     "  impact NAME [-d DEPTH]",
     "  cycles",
     "  entry-points [--max-callers COUNT]",
     "  leaves",
     "  clear",
     "  version",
     "  help"]

/-- Whether the content of a folder is of interest. -/
def isRead (name : String) : Bool := name = ".arbor" || !Walk.skippedFolders.contains name

/-- The file at a path. One that cannot be read is recorded as such, with its length. -/
def readFile (path : String) (metadata : IO.FS.Metadata) : IO DiskFile := do
  let file (content : ByteArray) (readable : Bool) : DiskFile :=
    { content, seconds := metadata.modified.sec, nanos := metadata.modified.nsec.toNat, readable }
  try return file (← IO.FS.readBinFile path) true
  catch _ => return file ⟨Array.replicate metadata.byteSize.toNat 0⟩ false

/-- What an entry of a folder is, if its metadata can be read. A link is recorded with the path that
it leads to, and a folder with what `readInside` gives. -/
def readEntry (readInside : String → IO Folder) (entry : IO.FS.DirEntry) :
    IO (Option DiskNode) := do
  try
    let path := entry.path.toString
    let metadata ← entry.path.symlinkMetadata
    match metadata.type with
    | .dir => return some (.folder (← if isRead entry.fileName then readInside path else pure []))
    | .file => return some (.file (← readFile path metadata))
    | .symlink =>
      let target ← try pure (← IO.FS.realPath path).toString catch _ => pure ""
      return some (.link target)
    | .other => return none
  catch _ => return none

/-- The entries of the folder at a path. One that cannot be listed is taken for an empty one. -/
partial def readFolder (path : String) : IO Folder := do
  let listed ← try (← IO.FS.realPath path).readDir catch _ => pure #[]
  let mut entries : Folder := []
  for entry in listed do
    if let some node ← readEntry readFolder entry then
      entries := entries ++ [(entry.fileName, node)]
  return entries

/-- A disk in which relative paths start where the program was started. -/
def emptyDisk : IO Disk := do
  let current ← IO.FS.realPath "."
  let started : Disk := { current := Path.names (Path.components current.toString) }
  return (started.makeFolders current.toString).toOption.getD started

/-- Puts a folder into a disk. -/
def withFolder (disk : Disk) (path : String) (folder : Folder) : Disk :=
  match disk.makeFolders path with
  | .ok disk => disk.put (Path.names (Path.components path)) (.folder folder)
  | .error _ => disk

/-- Adds the file that a link leads to. -/
def withTarget (disk : Disk) (target : String) : IO Disk := do
  if disk.exists? target then return disk
  try
    let path ← IO.FS.realPath target
    let file ← readFile target (← path.metadata)
    let parent := "/" ++ Path.key (Path.names (Path.components target)).dropLast
    match disk.makeFolders parent with
    | .ok disk => return (disk.write target file).toOption.getD disk
    | .error _ => return disk
  catch _ => return disk

/-- The disk with the tree at a root. A root that is not a folder is left out. -/
def readDisk (root : String) : IO Disk := do
  let disk ← emptyDisk
  try
    let resolved ← IO.FS.realPath root
    unless ← resolved.isDir do return disk
    let path := resolved.toString
    let folder ← readFolder path
    let mut disk := withFolder disk path folder
    for (_, node) in folder do
      match node with
      | .link target => disk ← withTarget disk target
      | _ => pure ()
    return disk
  catch _ => return disk

/-- Writes back a file of which the content has changed. -/
def writeBack (old new : Disk) (artifact : Workspace.Artifact) (root : String) : IO Unit := do
  let path := artifact.path root
  let content (disk : Disk) : Option ByteArray := (disk.read path).toOption
  match content old, content new with
  | before, some after =>
    if before.map (·.data) ≠ some after.data then
      IO.FS.createDirAll (Workspace.stateFolder root)
      IO.FS.writeBinFile (artifact.draftPath root) after
      IO.FS.rename (artifact.draftPath root) path
  | some _, none => IO.FS.removeFile path
  | none, none => pure ()

/-- The parser that looks trees up among the state files. -/
def parser (disk : Disk) (root : String) : Parser :=
  Node.storedParser (((disk.folder? (Workspace.stateFile root "trees")).map (·.2)).getD [])

/-- The present time. -/
def now : IO Instant := do
  let nanos := (← Std.Time.Timestamp.now).toNanosecondsSinceUnixEpoch.val
  return Instant.ofUnix (nanos / 1000000000) (nanos % 1000000000).toNat

/-- Adds the time that a run took to the first line of its report. -/
def timed (command : Command) (nanos : Nat) (lines : List String) : List String :=
  match command, lines with
  | .analyze _ _, first :: rest => (first ++ " in " ++ Report.duration nanos) :: rest
  | _, lines => lines

/-- Runs an invocation and gives its exit code. -/
def invoke (invocation : Invocation) : IO UInt32 := do
  let root := invocation.root
  let started ← IO.monoNanosNow
  let disk ← readDisk root
  let (response, changed) := Command.invoke (parser disk root) (← now) invocation disk
  for artifact in [Workspace.configFile, Workspace.graphFile, Workspace.manifestFile] do
    writeBack disk changed artifact root
  let finished ← IO.monoNanosNow
  for line in timed invocation.command (finished - started) response.lines do
    IO.println line
  for message in response.error.toList do
    IO.eprintln message
  return UInt32.ofNat response.code

end SourceIndex.Program

/-- Runs the program. -/
def main (arguments : List String) : IO UInt32 := do
  match SourceIndex.Command.read arguments with
  | .help =>
    IO.println SourceIndex.Program.usage
    return 0
  | .invalid =>
    IO.eprintln SourceIndex.Program.usage
    return 2
  | .invoke invocation => SourceIndex.Program.invoke invocation
