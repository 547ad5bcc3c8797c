import SourceIndex.Ignore.Rules
import SourceIndex.Pass.Analysis
import SourceIndex.Walk
import SourceIndex.Workspace.Basic

/-!
# Scanning a tree

The sources of a tree: the files that a walk finds, without the ignored ones.
-/

namespace SourceIndex.Workspace

/-- The rules of an ignore file, if there is one. -/
def fileRules (disk : Disk) (path : String) : IgnoreRules :=
  match disk.file? path with
  | some file => if file.readable then IgnoreRules.ofFile file.content else []
  | none => []

/-- The rules of a tree: those of its ignore files, then those of the configuration. -/
def ignoreRules (root : String) (scan : Scan) : DiskAction IgnoreRules := do
  let disk ← get
  match IgnoreRules.ofPatterns? scan.extraIgnores with
  | none => throw .ignorePattern
  | some patterns =>
    return fileRules disk (Path.join root ".gitignore")
      ++ fileRules disk (Path.join root scan.ignoreFile) ++ patterns

/-- The length in bytes below which a path has to stay. -/
def pathLimit : Nat := 4096

/-- Whether a path is too long to be followed. -/
def isTooLong (path : String) : Bool := pathLimit ≤ path.utf8ByteSize

/-- What a walk of the tree at `root` is told. Only a folder with too long a path cannot be listed,
and a folder that can be listed tells what its entries are. -/
def walkFilter (root : String) (scan : Scan) (rules : IgnoreRules) : Walk.Filter where
  ignored := rules.ignores
  maxFileSize := scan.maxFileSize.toNat
  unlisted names := isTooLong (names.foldl Path.join root)
  untold _ := false

/-- The tracked files of a tree. -/
def walk (root : String) (scan : Scan) : DiskAction (List WalkedFile) := do
  match (← get).folder? root with
  | none => throw (.rootMissing root)
  | some (_, folder) =>
    let rules ← ignoreRules root scan
    return Walk.files (walkFilter root scan rules) folder

/-- The path of a walked file of the tree at `root`. -/
def walkedPath (root : String) (walked : WalkedFile) : String := Path.join root walked.path

/-- Whether a walked file can be read. -/
def isReadable (root : String) (walked : WalkedFile) : Bool :=
  walked.file.readable && !isTooLong (walkedPath root walked)

/-- The source of a walked file that can be read. -/
def sourceOf (walked : WalkedFile) : Source where
  path := walked.path
  language := walked.language
  content := walked.file.content
  modified := some (Instant.ofUnix walked.file.seconds walked.file.nanos)

/-- The sources of a tree, if all of them can be read. -/
def sources (root : String) (scan : Scan) : DiskAction (List Source) := do
  let walked ← walk root scan
  if walked.all (isReadable root) then return walked.map sourceOf
  else throw (.unreadable ((walked.filter (!isReadable root ·)).map (walkedPath root)))

end SourceIndex.Workspace
