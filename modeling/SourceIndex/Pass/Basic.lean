import SourceIndex.CallGraph
import SourceIndex.FileChanges
import SourceIndex.Pass.Analysis

/-!
# Passes

A pass takes the sources of a tree and brings a store and a manifest up to date with them. Without a
baseline it derives everything; with one, only what has changed.
-/

namespace SourceIndex

/-- The sizes of the call graph of a store. -/
structure GraphStats where
  units : Nat
  edges : Nat
  cycles : Nat
  entryPoints : Nat
  leaves : Nat
  deriving DecidableEq, Repr

namespace GraphStats

/-- The sizes of the call graph of records. -/
def ofRecords (maxCallers : Nat) (records : List Record) : GraphStats :=
  let graph := CallGraph.build records
  ⟨graph.nodes.length, graph.edges.length, graph.cycles.length,
    (graph.entryPoints maxCallers).length, graph.leaves.length⟩

end GraphStats

/-- What a pass reports. -/
structure Summary where
  mode : Mode
  granularity : Granularity
  added : Nat
  modified : Nat
  deleted : Nat
  unchanged : Nat
  /-- Records derived in this pass. -/
  reanalyzed : Nat := 0
  /-- Records that were taken over. -/
  retained : Nat := 0
  removed : Nat := 0
  /-- Records in the store after the pass. -/
  records : Nat := 0
  /-- Whether there was anything to write. -/
  written : Bool := false
  renames : List UnitRename := []
  failures : List Failure := []
  unitChanges : List UnitChanges := []
  graph : Option GraphStats := none

namespace Summary

/-- The number of files that have changed. -/
def changed (summary : Summary) : Nat := summary.added + summary.modified + summary.deleted

/-- The summary of a pass in which nothing is derived yet. -/
def ofChanges (mode : Mode) (granularity : Granularity) (changes : FileChanges) : Summary where
  mode := mode
  granularity := granularity
  added := changes.added.length
  modified := changes.modified.length
  deleted := changes.deleted.length
  unchanged := changes.unchanged.length

end Summary

/-- What a pass leads to: the summary and, if anything has changed, the new state. -/
structure Outcome where
  summary : Summary
  next : Option Baseline

namespace Pass

/-- What a pass is given apart from its baseline. -/
structure Input where
  parser : Parser
  config : Config
  /-- The time that the new manifest bears. -/
  now : Instant
  sources : List Source

namespace Input

/-- The sources as a scan sees them. -/
def scanned (input : Input) : List ScannedFile :=
  input.sources.map fun source =>
    { path := source.path
      language := source.language
      hash := input.config.tracking.digest.ofBytes source.content
      size := UInt64.ofNat source.content.size
      lastModified := source.modified }

/-- How the sources differ from a baseline. -/
def changes (input : Input) (baseline : Option Baseline) : FileChanges :=
  FileChanges.compare input.scanned (baseline.map (·.manifest))

/-- The sources that have to be analysed, in order of their paths. -/
def stale (input : Input) (changes : FileChanges) : List Source :=
  let byPath := KeyMap.ofList (input.sources.map fun source => (source.path, source))
  changes.stalePaths.filterMap byPath.get?

/-- The sizes of the call graph, if they are asked for. -/
def graphStats? (input : Input) (store : Store) : Option GraphStats :=
  let analysis := input.config.analysis
  if analysis.trackDependencies then
    some (GraphStats.ofRecords analysis.entryPointMaxCallers.toNat store.records)
  else none

end Input

/-- The mode of a pass. -/
def mode (baseline : Option Baseline) : Mode := if baseline.isSome then .incremental else .full

/-- A stale source with its analysis, unless its content is not text. -/
abbrev Analyzed := Source × Option FileAnalysis

/-- The failures of analysed sources. -/
def failures (analyzed : List Analyzed) : List Failure :=
  analyzed.flatMap fun (source, analysis) =>
    match analysis with
    | some analysis => analysis.failures
    | none => [Failure.ofBinary source.path]

/-- The entry of a scanned file in the next manifest: that of its analysis, or the old one. An old
entry of the same content takes over the time of the file. -/
def entryOf? (analyzed : List Analyzed) (previous : Option Manifest) (file : ScannedFile) :
    Option FileEntry :=
  match analyzed.find? fun (source, analysis) => source.path = file.path && analysis.isSome with
  | some (_, some analysis) => some analysis.entry
  | _ => do
    let old ← previous.bind (·.file? file.path)
    return if old.hash = file.hash then { old with lastModified := file.lastModified } else old

/-- The next manifest. -/
def nextManifest (input : Input) (changes : FileChanges) (analyzed : List Analyzed)
    (baseline : Option Baseline) (store : Store) : Manifest :=
  let previous := baseline.map (·.manifest)
  let files := KeyMap.ofList (changes.current.entries.filterMap fun (path, file) =>
    (entryOf? analyzed previous file).map fun entry => (path, entry))
  let units := (files.values.flatMap (·.units)).length
  { version := Manifest.currentVersion
    granularity := input.config.granularity
    digest := input.config.tracking.digest
    generated := input.now
    files
    totals := ⟨UInt64.ofNat files.size, UInt64.ofNat units, UInt64.ofNat store.size,
      mode baseline⟩ }

/-- A pass that has something to bring up to date. -/
def advance (input : Input) (baseline : Option Baseline) (changes : FileChanges) : Outcome :=
  let config := input.config
  let previous := baseline.map (·.manifest)
  let store := (baseline.map (·.store)).getD .empty
  let analyzed : List Analyzed := (input.stale changes).map fun source =>
    (source, FileAnalysis.ofSource? input.parser config previous store source)
  let analyses := analyzed.filterMap (·.2)
  let update := Update.apply config.granularity store changes.deleted (analyses.map (·.update))
  let unitChanges := analyses.filterMap (·.update.changes)
  let carried := analyses.foldl (fun count analysis => count + analysis.carried) 0
  let reanalyzed := update.inserted - carried
  { summary :=
      { Summary.ofChanges (mode baseline) config.granularity changes with
        reanalyzed
        retained := update.store.size - reanalyzed
        removed := update.removed
        records := update.store.size
        written := true
        renames := unitChanges.flatMap (·.renamed)
        failures := failures analyzed
        unitChanges
        graph := input.graphStats? update.store }
    next := some ⟨nextManifest input changes analyzed baseline update.store, update.store⟩ }

/-- A pass that finds its baseline up to date. -/
def confirm (input : Input) (baseline : Baseline) (changes : FileChanges) : Outcome :=
  { summary :=
      { Summary.ofChanges .incremental input.config.granularity changes with
        retained := baseline.store.size
        records := baseline.store.size
        graph := input.graphStats? baseline.store }
    next := none }

/-- Brings a baseline up to date with the sources. -/
def run (input : Input) (baseline : Option Baseline) : Outcome :=
  let changes := input.changes baseline
  match baseline with
  | some baseline =>
    if changes.isEmpty then confirm input baseline changes
    else advance input (some baseline) changes
  | none => advance input none changes

end Pass

end SourceIndex
