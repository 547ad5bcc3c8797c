import SourceIndex.Config
import SourceIndex.Toml.Decode
import SourceIndex.Toml.Reader

/-!
# Configuration files

The configuration as a TOML document. Keys that are not given keep their defaults, and unknown keys
are skipped.
-/

namespace SourceIndex

/-- Why a configuration cannot be used. -/
inductive ConfigError where
  /-- The text is not a document of the expected shape. -/
  | malformed
  /-- A setting is out of its range. -/
  | invalid (fault : Config.Fault)

namespace Tracking

/-- The tracking settings of a document. -/
def ofToml? (document : Toml) : Option Tracking := do
  let names := ["hashAlgorithm", "storeSource", "detectRenames", "similarityThreshold"]
  match ← document.slots? names with
  | [digest, storeSource, detectRenames, threshold] =>
    let defaults : Tracking := {}
    return {
      digest := ← Toml.defaulted? (Toml.choice? Digest.ofName?) defaults.digest digest
      storeSource := ← Toml.defaulted? Toml.bool? defaults.storeSource storeSource
      detectRenames := ← Toml.defaulted? Toml.bool? defaults.detectRenames detectRenames
      threshold := ← Toml.defaulted? Toml.float? defaults.threshold threshold }
  | _ => none

end Tracking

namespace Analysis

/-- The analysis settings of a document. -/
def ofToml? (document : Toml) : Option Analysis := do
  let names := ["trackDependencies", "maxCallDepth", "entryPointMaxCallers", "maxCallsPerUnit"]
  match ← document.slots? names with
  | [trackDependencies, maxCallDepth, entryPointMaxCallers, maxCallsPerUnit] =>
    let defaults : Analysis := {}
    let word := Toml.defaulted? Toml.word64?
    return {
      trackDependencies :=
        ← Toml.defaulted? Toml.bool? defaults.trackDependencies trackDependencies
      maxCallDepth := ← word defaults.maxCallDepth maxCallDepth
      entryPointMaxCallers := ← word defaults.entryPointMaxCallers entryPointMaxCallers
      maxCallsPerUnit := ← word defaults.maxCallsPerUnit maxCallsPerUnit }
  | _ => none

end Analysis

namespace Scan

/-- The scan settings of a document. -/
def ofToml? (document : Toml) : Option Scan := do
  match ← document.slots? ["ignoreFile", "extraIgnores", "maxFileSize"] with
  | [ignoreFile, extraIgnores, maxFileSize] =>
    let defaults : Scan := {}
    return {
      ignoreFile := ← Toml.defaulted? Toml.text? defaults.ignoreFile ignoreFile
      extraIgnores := ← Toml.defaulted? (Toml.list? Toml.text?) defaults.extraIgnores extraIgnores
      maxFileSize := ← Toml.defaulted? Toml.word64? defaults.maxFileSize maxFileSize }
  | _ => none

end Scan

namespace Config

/-- The configuration of a document. -/
def ofToml? (document : Toml) : Option Config := do
  match ← document.slots? ["granularity", "incremental", "analysis", "scan"] with
  | [granularity, tracking, analysis, scan] =>
    return {
      granularity := ← Toml.defaulted? (Toml.choice? Granularity.ofName?) .file granularity
      tracking := ← Toml.defaulted? Tracking.ofToml? {} tracking
      analysis := ← Toml.defaulted? Analysis.ofToml? {} analysis
      scan := ← Toml.defaulted? Scan.ofToml? {} scan }
  | _ => none

/-- Refuses a configuration with a fault. -/
def validate (config : Config) : Except ConfigError Config :=
  match config.fault? with
  | some fault => .error (.invalid fault)
  | none => .ok config

/-- The configuration that a text holds. -/
def parse (text : String) : Except ConfigError Config :=
  match (Toml.read text).bind ofToml? with
  | some config => config.validate
  | none => .error .malformed

/-- The document that sets every key to its default. -/
def defaultText : String :=
  String.intercalate "\n"
    ["granularity = \"file\"", "",
     "[incremental]", "hashAlgorithm = \"sha256\"", "storeSource = false",
     "detectRenames = false", "similarityThreshold = 0.85", "",
     "[analysis]", "trackDependencies = true", "maxCallDepth = 10", "entryPointMaxCallers = 2",
     "maxCallsPerUnit = 50", "",
     "[scan]", "ignoreFile = \".arborignore\"", "extraIgnores = []", "maxFileSize = 1048576", ""]

end Config

end SourceIndex
