import SourceIndex.ConfigFile
import SourceIndex.Disk.Operations
import SourceIndex.GraphLog
import SourceIndex.Manifest

/-!
# State files

A tree keeps its state in a folder of its own: the configuration, the manifest and the graph log.
Files are replaced by writing next to them and renaming.
-/

namespace SourceIndex

/-- Why an operation on a tree fails. -/
inductive WorkspaceError where
  /-- A file or folder could not be read, written or removed. -/
  | inaccessible (path : String)
  | malformedGraph (line : Nat)
  | config (error : ConfigError)
  /-- The root is not a folder. -/
  | rootMissing (path : String)
  /-- A pattern of the configuration is not a glob. -/
  | ignorePattern
  /-- Source files could not be read. As files are read in no certain order, any of them may be the
  one that is reported. -/
  | unreadable (paths : List String)

namespace WorkspaceError

/-- The wording of an error about the root. -/
def rootMissingText (path : String) : String :=
  "tree root " ++ path ++ " does not exist or is not a directory"

/-- The wording of an error about a setting. -/
def invalidText (fault : Config.Fault) : String := "invalid configuration: " ++ fault.message

end WorkspaceError

/-- An action on a disk that can fail. What it did before a failure stays done. -/
abbrev DiskAction := ExceptT WorkspaceError (StateM Disk)

namespace Workspace

/-- The folder of the state files. -/
def stateFolder (root : String) : String := Path.join root ".arbor"

/-- The path of a state file. -/
def stateFile (root name : String) : String := Path.join (stateFolder root) name

/-- A state file: what it is called, and what it is called while it is written. -/
structure Artifact where
  name : String
  draftName : String

/-- The manifest. -/
def manifestFile : Artifact := ⟨"manifest.json", "manifest.tmp"⟩

/-- The graph log. -/
def graphFile : Artifact := ⟨"graph.jsonl", "graph.tmp"⟩

/-- The configuration. -/
def configFile : Artifact := ⟨"config.toml", "config.tmp"⟩

namespace Artifact

/-- The path of an artifact. -/
def path (artifact : Artifact) (root : String) : String := stateFile root artifact.name

/-- The path of an artifact while it is written. -/
def draftPath (artifact : Artifact) (root : String) : String := stateFile root artifact.draftName

end Artifact

/-- Makes a change to the disk; a fault is reported at `path`. -/
def perform (path : String) (change : Disk → Except Disk.Fault Disk) : DiskAction Unit := do
  match change (← get) with
  | .ok disk => set disk
  | .error _ => throw (.inaccessible path)

/-- The text of a file, or nothing if the file is missing. -/
def readText? (path : String) : DiskAction (Option String) := do
  match (← get).readText path with
  | .ok text => return some text
  | .error .missing => return none
  | .error .refused => throw (.inaccessible path)

/-- Creates the folder of the state files. -/
def ensureFolder (root : String) : DiskAction Unit :=
  perform (stateFolder root) fun disk => disk.makeFolders (stateFolder root)

/-- Replaces an artifact: its content is written next to it and then renamed. -/
def save (root : String) (artifact : Artifact) (text : String) : DiskAction Unit := do
  ensureFolder root
  perform (artifact.draftPath root) fun disk =>
    disk.write (artifact.draftPath root) { content := text.toUTF8 }
  perform (artifact.path root) fun disk =>
    disk.rename (artifact.draftPath root) (artifact.path root)

/-- Removes an artifact, if there is one. -/
def discard (root : String) (artifact : Artifact) : DiskAction Unit := do
  match (← get).removeFile (artifact.path root) with
  | .ok disk => set disk
  | .error .missing => return
  | .error .refused => throw (.inaccessible (artifact.path root))

/-- The configuration that a text holds. -/
def parseConfig (text : String) : DiskAction Config :=
  match Config.parse text with
  | .ok config => return config
  | .error error => throw (.config error)

/-- The configuration of a tree; without a file it has only defaults. -/
def loadConfig (root : String) : DiskAction Config := do
  let path := configFile.path root
  if (← get).exists? path then
    match (← get).readText path with
    | .ok text => parseConfig text
    | .error _ => throw (.inaccessible path)
  else return {}

/-- The configuration of a tree, for which a file is created if there is none. -/
def ensureConfig (root : String) : DiskAction Config := do
  ensureFolder root
  if (← get).exists? (configFile.path root) then loadConfig root
  else
    save root configFile Config.defaultText
    return {}

/-- The manifest of a tree, unless it is missing, malformed or of another version. -/
def loadManifest? (root : String) : DiskAction (Option Manifest) := do
  match ← readText? (manifestFile.path root) with
  | none => return none
  | some text =>
    match Manifest.read text with
    | .usable manifest => return some manifest
    | .malformed => return none
    | .otherVersion => return none

/-- The store of a tree, unless it is missing. -/
def loadStore? (root : String) : DiskAction (Option Store) := do
  match ← readText? (graphFile.path root) with
  | none => return none
  | some text =>
    match GraphLog.read text with
    | .ok store => return some store
    | .error line => throw (.malformedGraph line)

/-- The path of the folder that a root leads to, free of links. -/
def resolveRoot (root : String) : DiskAction String := do
  match (← get).folder? root with
  | some (location, _) => return "/" ++ Path.key location
  | none => throw (.rootMissing root)

/-- Removes the manifest and the graph log, and keeps the configuration. -/
def clear (root : String) : DiskAction Unit := do
  let root ← resolveRoot root
  discard root manifestFile
  discard root graphFile

end Workspace

end SourceIndex
