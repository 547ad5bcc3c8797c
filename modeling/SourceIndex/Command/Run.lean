import SourceIndex.Command.Basic
import SourceIndex.Command.Report

/-!
# Running commands

What each command does to a disk, and what it prints.
-/

namespace SourceIndex

/-- Why a command fails. -/
inductive CommandError where
  | configuration (root : String)
  | analysis (root : String)
  | detection (root : String)
  | clearing (root : String)
  | noGraph (path : String)
  | unreadableGraph (path : String)
  | unknownUnit (name : String)
  deriving DecidableEq, Repr

namespace CommandError

/-- The message of an error. -/
def message : CommandError → String
  | configuration root => "Failed to load configuration under " ++ root
  | analysis root => "Analysis of " ++ root ++ " failed"
  | detection root => "Change detection in " ++ root ++ " failed"
  | clearing root => "Failed to clear " ++ root
  | noGraph path => "No graph store at " ++ path ++ "; run `arbor analyze` first"
  | unreadableGraph path => "Failed to read graph store " ++ path
  | unknownUnit name => "Unknown unit '" ++ name ++ "'"

end CommandError

/-- What the program answers. -/
structure Response where
  code : Nat
  lines : List String := []
  error : Option String := none
  deriving DecidableEq, Repr

namespace Command

/-- The work of a command: the lines that it prints, or an error. -/
abbrev Work := ExceptT CommandError (StateM Disk)

/-- Takes an action for a part of a command, which fails with an error of its own. -/
def during {α : Type} (error : CommandError) (action : DiskAction α) : Work α :=
  fun disk =>
    match action disk with
    | (.ok value, disk) => (.ok value, disk)
    | (.error _, disk) => (.error error, disk)

/-- The configuration of a tree. -/
def config (root : String) (init : Bool) : Work Config :=
  during (.configuration root)
    (if init then Workspace.ensureConfig root else Workspace.loadConfig root)

/-- The call graph of a tree. -/
def graph (root : String) : Work CallGraph := do
  let path := Workspace.graphFile.path root
  match ← during (.unreadableGraph path) (Workspace.loadStore? root) with
  | some store => return CallGraph.build store.records
  | none => throw (.noGraph path)

/-- What the program says of its version. -/
def versionLine : String := "arbor v0.1.0"

/-- The work of a command on a tree. -/
def work (parser : Parser) (now : Instant) (root : String) : Command → Work (List String)
  | .analyze init granularity => do
    let stored ← config root init
    let config := { stored with granularity := granularity.getD stored.granularity }
    let summary ← during (.analysis root) (Workspace.run ⟨parser, config, now⟩ root)
    return Report.summary summary
  | .status => do
    let config ← config root false
    let status ← during (.detection root) (Workspace.status ⟨parser, config, now⟩ root)
    return Report.status status
  | .impact name depth => do
    let config ← config root false
    let graph ← graph root
    if graph.contains name then
      return Report.impact (graph.impact name (depth.getD config.analysis.maxCallDepth.toNat))
    else throw (.unknownUnit name)
  | .cycles => do return Report.cycles (← graph root).cycles
  | .entryPoints maxCallers => do
    let config ← config root false
    let graph ← graph root
    return graph.entryPoints (maxCallers.getD config.analysis.entryPointMaxCallers.toNat)
  | .leaves => do return (← graph root).leaves
  | .clear => do
    during (.clearing root) (Workspace.clear root)
    return []
  | .version => return [versionLine]

/-- Runs an invocation on a disk. -/
def invoke (parser : Parser) (now : Instant) (invocation : Invocation) (disk : Disk) :
    Response × Disk :=
  match work parser now invocation.root invocation.command disk with
  | (.ok lines, disk) => (⟨0, lines, none⟩, disk)
  | (.error error, disk) => (⟨1, [], some ("Error: " ++ error.message)⟩, disk)

/-- Runs the program with arguments on a disk. -/
def run (parser : Parser) (now : Instant) (arguments : List String) (disk : Disk) :
    Response × Disk :=
  match read arguments with
  | .help => (⟨0, [], none⟩, disk)
  | .invalid => (⟨2, [], none⟩, disk)
  | .invoke invocation => invoke parser now invocation disk

end Command

end SourceIndex
