import SourceIndex.Pass.Basic
import SourceIndex.Workspace.Run

/-!
# Reports

The lines in which the program reports what it did or found.
-/

namespace SourceIndex.Report

/-- The first line of the report of a run, without the time it took. -/
def headline (summary : Summary) : String :=
  s!"{summary.mode.name} run ({summary.granularity.name} granularity)"

/-- A span of time in its largest unit that does not exceed it, with two decimals. -/
def duration (nanos : Nat) : String :=
  let (unit, name) :=
    if 1000000000 ≤ nanos then (1000000000, "s")
    else if 1000000 ≤ nanos then (1000000, "ms")
    else if 1000 ≤ nanos then (1000, "µs")
    else (1, "ns")
  let hundredths := (nanos * 200 + unit) / (2 * unit)
  let decimals := hundredths % 100
  s!"{hundredths / 100}." ++ (if decimals < 10 then "0" else "") ++ toString decimals ++ name

/-- The similarity of a rename in percent; a half goes to the even neighbour. -/
def percent (similarity : Float) : String := toString (Decimal.roundToEven (similarity * 100.0))

/-- The line of a rename. -/
def renameLine (rename : UnitRename) : String :=
  s!"  renamed: {rename.old.id} -> {rename.new.id} ({percent rename.similarity}% similar)"

/-- The line of the call graph. -/
def graphLine (stats : GraphStats) : String :=
  s!"  graph: {stats.units} units, {stats.edges} edges, {stats.cycles} cycles, "
    ++ s!"{stats.entryPoints} entry points, {stats.leaves} leaves"

/-- The report of a run. -/
def summary (summary : Summary) : List String :=
  [headline summary,
   s!"  files: {summary.added} added, {summary.modified} modified, {summary.deleted} deleted, "
     ++ s!"{summary.unchanged} unchanged",
   s!"  units: {summary.reanalyzed} re-analyzed, {summary.retained} retained, "
     ++ s!"{summary.removed} removed"]
    ++ summary.renames.map renameLine
    ++ summary.failures.map (fun failure => "  failed: " ++ failure.text)
    ++ (summary.graph.map graphLine).toList
    ++ (if summary.written then [] else ["  up to date, nothing written"])

/-- A number with its sign. -/
def signed (value : Int) : String := (if 0 ≤ value then "+" else "") ++ toString value

/-- The report of what the next run would do. -/
def status (status : Status) : List String :=
  let changes := status.changes
  let last (totals : Totals) : String :=
    s!"last run: {totals.lastRun.name} ({totals.files.toNat} files, {totals.units.toNat} units, "
      ++ s!"{totals.records.toNat} records)"
  let modified (change : FileChange) : String :=
    s!"  M {change.path} ({signed (sizeDelta change.oldSize change.newSize).toInt} bytes)"
  ["next run: " ++ status.mode.name]
    ++ (status.lastRun.map last).toList
    ++ changes.added.map (fun path => "  A " ++ path)
    ++ changes.modified.map modified
    ++ changes.deleted.map (fun path => "  D " ++ path)
    ++ [s!"{changes.unchanged.length} unchanged"]

/-- Layers of names, numbered from `hop` on. -/
def layers : (hop : Nat) → List (List String) → List String
  | _, [] => []
  | hop, names :: rest =>
    (s!"  {hop}: " ++ String.intercalate ", " names) :: layers (hop + 1) rest

/-- The report of an impact. -/
def impact (impact : CallGraph.Impact) : List String :=
  (s!"{impact.affected.length} units affected by a change to {impact.target} "
    ++ s!"(depth {impact.maxDepth})") :: layers 1 impact.byDepth

/-- The report of cycles. -/
def cycles (cycles : List (List String)) : List String :=
  if cycles.isEmpty then ["No cycles"] else cycles.map (String.intercalate " -> ")

end SourceIndex.Report
