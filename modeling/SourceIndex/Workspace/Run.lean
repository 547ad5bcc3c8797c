import SourceIndex.Pass.Basic
import SourceIndex.Workspace.Scan

/-!
# Runs

A run brings the state files of a tree up to date with its sources.
-/

namespace SourceIndex

/-- What the next run of a tree would do. -/
structure Status where
  mode : Mode
  changes : FileChanges
  lastRun : Option Totals

namespace Workspace

/-- The settings and the surroundings of a run. -/
structure Context where
  parser : Parser
  config : Config
  now : Instant

/-- Refuses a configuration with a fault. -/
def checkConfig (config : Config) : DiskAction Unit :=
  match config.fault? with
  | some fault => throw (.config (.invalid fault))
  | none => return

/-- The state that a run can build on. A manifest of other settings or a missing or malformed graph
log are no such state. -/
def loadBaseline? (config : Config) (root : String) : DiskAction (Option Baseline) := do
  match ← loadManifest? root with
  | none => return none
  | some manifest =>
    if manifest.compatible config.granularity config.tracking.digest then
      match ← readText? (graphFile.path root) with
      | none => return none
      | some text =>
        match GraphLog.read text with
        | .ok store => return some ⟨manifest, store⟩
        | .error _ => return none
    else return none

/-- Brings the state files of a tree up to date. -/
def run (context : Context) (root : String) : DiskAction Summary := do
  checkConfig context.config
  let root ← resolveRoot root
  let baseline ← loadBaseline? context.config root
  let sources ← sources root context.config.scan
  let outcome := Pass.run ⟨context.parser, context.config, context.now, sources⟩ baseline
  match outcome.next with
  | none => return outcome.summary
  | some next =>
    ensureFolder root
    save root graphFile (GraphLog.write next.store)
    save root manifestFile next.manifest.write
    return outcome.summary

/-- What the next run would do. Nothing is written. -/
def status (context : Context) (root : String) : DiskAction Status := do
  checkConfig context.config
  let root ← resolveRoot root
  let baseline ← loadBaseline? context.config root
  let sources ← sources root context.config.scan
  let input : Pass.Input := ⟨context.parser, context.config, context.now, sources⟩
  return {
    mode := Pass.mode baseline
    changes := input.changes baseline
    lastRun := baseline.map (·.manifest.totals) }

end Workspace

end SourceIndex
