import SourceIndex.Fingerprint
import SourceIndex.Instant
import SourceIndex.Json.Reader
import SourceIndex.Json.Writer
import SourceIndex.KeyMap

/-!
# Manifests

A manifest remembers what the last run analysed: the digest of every file and, if units are tracked,
the fingerprints of its units.
-/

namespace SourceIndex

/-- Whether a run built on a manifest. -/
inductive Mode where
  | full
  | incremental
  deriving DecidableEq, Repr

namespace Mode

/-- The name of a mode. -/
def name : Mode → String
  | full => "full"
  | incremental => "incremental"

/-- The mode with a name. -/
def ofName? (name : String) : Option Mode := [full, incremental].find? (·.name = name)

/-- A name refers to one mode. -/
@[simp] theorem ofName?_name (mode : Mode) : ofName? mode.name = some mode := by
  cases mode <;> decide

end Mode

/-- What is remembered of a file. -/
structure FileEntry where
  hash : String
  size : UInt64
  lastModified : Option Instant
  /-- The identifiers of its units. -/
  units : List String
  /-- The fingerprints of its units by key, if units are tracked. -/
  fingerprints : Option (KeyMap Fingerprint) := none
  deriving DecidableEq

/-- The sizes of an index after a run. -/
structure Totals where
  files : UInt64
  units : UInt64
  records : UInt64
  lastRun : Mode
  deriving DecidableEq

/-- What a run remembers for the next one. -/
structure Manifest where
  version : UInt32
  granularity : Granularity
  digest : Digest
  generated : Instant
  files : KeyMap FileEntry
  totals : Totals
  deriving DecidableEq

/-- A map as an object. -/
def Json.ofMap {α : Type} (value : α → Json) (entries : KeyMap α) : Json :=
  .object (entries.entries.map fun entry => (some entry.1, value entry.2))

/-- A map from an object, in which a later field replaces an earlier one of the same name. -/
def Json.map? {α : Type} (value : Json → Option α) : Json → Option (KeyMap α)
  | .object fields =>
    let entry? (field : Option String × Json) : Option (String × α) := do
      return (← field.1, ← value field.2)
    (fields.mapM entry?).map KeyMap.ofList
  | _ => none

namespace FileEntry

/-- The names of the fields in the order in which they are written. -/
def fieldNames : List String := ["hash", "size", "lastModified", "units", "unitFingerprints"]

/-- The document of an instant. -/
def instantJson (instant : Instant) : Json := .text (String.ofList instant.write)

/-- The instant of a document. -/
def instant? (document : Json) : Option Instant :=
  document.text?.bind fun text => Instant.read text.toList

/-- The document of a file entry. -/
def toJson (entry : FileEntry) : Json :=
  .object
    ([(some "hash", .text entry.hash),
      (some "size", .natural entry.size.toNat),
      (some "lastModified", (entry.lastModified.map instantJson).getD .null),
      (some "units", .texts entry.units)]
      ++ (entry.fingerprints.map fun fingerprints =>
          (some "unitFingerprints", Json.ofMap Fingerprint.toJson fingerprints)).toList)

/-- The file entry that a document describes. -/
def ofJson? (document : Json) : Option FileEntry := do
  match ← document.slots? fieldNames with
  | [hash, size, lastModified, units, fingerprints] =>
    return {
      hash := ← Json.required? Json.text? hash
      size := ← Json.required? Json.word64? size
      lastModified := ← Json.defaulted? (Json.option? instant?) none lastModified
      units := ← Json.required? (Json.list? Json.text?) units
      fingerprints :=
        ← Json.defaulted? (Json.option? (Json.map? Fingerprint.ofJson?)) none fingerprints }
  | _ => none

end FileEntry

namespace Totals

/-- The totals of a manifest that states none. -/
def zero : Totals := ⟨0, 0, 0, .full⟩

/-- The names of the fields in the order in which they are written. -/
def fieldNames : List String := ["totalFiles", "totalUnits", "totalRecords", "lastRun"]

/-- The document of totals. -/
def toJson (totals : Totals) : Json :=
  .object
    [(some "totalFiles", .natural totals.files.toNat),
     (some "totalUnits", .natural totals.units.toNat),
     (some "totalRecords", .natural totals.records.toNat),
     (some "lastRun", .text totals.lastRun.name)]

/-- The totals that a document describes. -/
def ofJson? (document : Json) : Option Totals := do
  match ← document.slots? fieldNames with
  | [files, units, records, lastRun] =>
    return {
      files := ← Json.required? Json.word64? files
      units := ← Json.required? Json.word64? units
      records := ← Json.required? Json.word64? records
      lastRun := ← Json.required? (Json.choice? Mode.ofName?) lastRun }
  | _ => none

end Totals

namespace Manifest

/-- The version of the manifests that this library writes and uses. -/
def currentVersion : UInt32 := 1

/-- The names of the fields in the order in which they are written. -/
def fieldNames : List String :=
  ["version", "granularity", "hashAlgorithm", "generated", "files", "globalStats"]

/-- The document of a manifest. -/
def toJson (manifest : Manifest) : Json :=
  .object
    [(some "version", .natural manifest.version.toNat),
     (some "granularity", .text manifest.granularity.name),
     (some "hashAlgorithm", .text manifest.digest.name),
     (some "generated", FileEntry.instantJson manifest.generated),
     (some "files", Json.ofMap FileEntry.toJson manifest.files),
     (some "globalStats", manifest.totals.toJson)]

/-- The manifest that a document describes. -/
def ofJson? (document : Json) : Option Manifest := do
  match ← document.slots? fieldNames with
  | [version, granularity, digest, generated, files, totals] =>
    return {
      version := ← Json.required? Json.word32? version
      granularity := ← Json.required? (Json.choice? Granularity.ofName?) granularity
      digest := ← Json.defaulted? (Json.choice? Digest.ofName?) .sha256 digest
      generated := ← Json.required? FileEntry.instant? generated
      files := ← Json.required? (Json.map? FileEntry.ofJson?) files
      totals := ← Json.defaulted? Totals.ofJson? Totals.zero totals }
  | _ => none

/-- The text of a manifest. -/
def write (manifest : Manifest) : String := manifest.toJson.pretty

/-- The manifest that a text holds, of any version. -/
def parse? (text : String) : Option Manifest := (Json.read text.toList).bind ofJson?

/-- What a manifest text is good for. -/
inductive Reading where
  | malformed
  /-- A manifest of another version, which is ignored. -/
  | otherVersion
  | usable (manifest : Manifest)

/-- Reads a manifest text. -/
def read (text : String) : Reading :=
  match parse? text with
  | none => .malformed
  | some manifest =>
    if manifest.version = currentVersion then .usable manifest else .otherVersion

/-- What is remembered of a file. -/
def file? (manifest : Manifest) (path : String) : Option FileEntry := manifest.files.get? path

/-- The fingerprints of the units of a file, if they were recorded. -/
def fingerprints? (manifest : Manifest) (path : String) : Option (KeyMap Fingerprint) :=
  (manifest.file? path).bind (·.fingerprints)

/-- Whether a run with some settings can build on the manifest. -/
def compatible (manifest : Manifest) (granularity : Granularity) (digest : Digest) : Bool :=
  manifest.version = currentVersion && manifest.granularity = granularity
    && manifest.digest = digest

/-- The number of units of all files. -/
def unitCount (manifest : Manifest) : Nat :=
  (manifest.files.values.flatMap (·.units)).length

end Manifest

end SourceIndex
