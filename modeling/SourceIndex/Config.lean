import SourceIndex.Decimal.Shortest
import SourceIndex.Digest

/-!
# Configuration

What a run can be told: the granularity of the index, how changes are tracked, how calls are
analysed and which files are scanned.
-/

namespace SourceIndex

/-- The size of the pieces that are re-derived after a change. -/
inductive Granularity where
  | file
  | unit
  deriving DecidableEq, Repr

namespace Granularity

/-- The name of a granularity in configuration and manifest. -/
def name : Granularity → String
  | file => "file"
  | unit => "unit"

/-- The granularity with a name. -/
def ofName? (name : String) : Option Granularity := [file, unit].find? (·.name = name)

/-- A name refers to one granularity. -/
@[simp] theorem ofName?_name (granularity : Granularity) :
    ofName? granularity.name = some granularity := by
  cases granularity <;> decide

/-- The granularity that a text names, with white space around it ignored; otherwise a message. -/
def parse (text : String) : Except String Granularity :=
  match ofName? (Text.trim text) with
  | some granularity => .ok granularity
  | none => .error s!"invalid granularity '{Text.trim text}', expected one of: file, unit"

end Granularity

/-- How changes are tracked from run to run. -/
structure Tracking where
  digest : Digest := .sha256
  storeSource : Bool := false
  detectRenames : Bool := false
  /-- The least similarity of a renamed unit. -/
  threshold : Float := 0.85

namespace Tracking

/-- Whether fingerprints keep the source of their units. -/
def retainsSource (tracking : Tracking) : Bool := tracking.storeSource || tracking.detectRenames

end Tracking

/-- How calls are analysed. -/
structure Analysis where
  trackDependencies : Bool := true
  maxCallDepth : UInt64 := 10
  entryPointMaxCallers : UInt64 := 2
  maxCallsPerUnit : UInt64 := 50

/-- Which files are scanned. -/
structure Scan where
  ignoreFile : String := ".arborignore"
  extraIgnores : List String := []
  /-- Files with more bytes are skipped. -/
  maxFileSize : UInt64 := 1048576

/-- The whole configuration of a run. -/
structure Config where
  granularity : Granularity := .file
  tracking : Tracking := {}
  analysis : Analysis := {}
  scan : Scan := {}

namespace Config

/-- Why a configuration is refused. -/
inductive Fault where
  | threshold (value : Float)
  | callDepth
  | callsPerUnit

/-- The wording of a fault. -/
def Fault.message : Fault → String
  | threshold value =>
    "incremental.similarityThreshold must be within [0, 1], got " ++ Decimal.text value
  | callDepth => "analysis.maxCallDepth must be at least 1"
  | callsPerUnit => "analysis.maxCallsPerUnit must be at least 1"

/-- The first fault of a configuration. -/
def fault? (config : Config) : Option Fault :=
  if !(0.0 ≤ config.tracking.threshold && config.tracking.threshold ≤ 1.0) then
    some (.threshold config.tracking.threshold)
  else if config.analysis.maxCallDepth = 0 then some .callDepth
  else if config.analysis.maxCallsPerUnit = 0 then some .callsPerUnit
  else none

end Config

end SourceIndex
