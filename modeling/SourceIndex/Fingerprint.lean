import SourceIndex.Json.Decode
import SourceIndex.SourceUnit

/-!
# Fingerprints

What a manifest remembers of a unit, by which the next run tells whether the unit has changed.
-/

namespace SourceIndex

/-- What is remembered of a unit. -/
structure Fingerprint where
  id : String
  hash : String
  line : UInt32
  endLine : UInt32
  size : UInt64
  isAsync : Bool
  /-- The source, kept only if renames are to be found. -/
  source : Option String := none
  deriving DecidableEq, Repr

/-- A unit's key with its fingerprint. -/
structure UnitState where
  name : String
  fingerprint : Fingerprint
  deriving DecidableEq, Repr

namespace Fingerprint

/-- The names of the fields in the order in which they are written. -/
def fieldNames : List String := ["id", "hash", "line", "endLine", "size", "async", "source"]

/-- The document of a fingerprint. -/
def toJson (fingerprint : Fingerprint) : Json :=
  .object
    ([(some "id", .text fingerprint.id),
      (some "hash", .text fingerprint.hash),
      (some "line", .natural fingerprint.line.toNat),
      (some "endLine", .natural fingerprint.endLine.toNat),
      (some "size", .natural fingerprint.size.toNat),
      (some "async", .bool fingerprint.isAsync)]
      ++ (fingerprint.source.map fun source => (some "source", Json.text source)).toList)

/-- The fingerprint that a document describes. -/
def ofJson? (document : Json) : Option Fingerprint := do
  match ← document.slots? fieldNames with
  | [id, hash, line, endLine, size, isAsync, source] =>
    return {
      id := ← Json.required? Json.text? id
      hash := ← Json.required? Json.text? hash
      line := ← Json.required? Json.word32? line
      endLine := ← Json.required? Json.word32? endLine
      size := ← Json.required? Json.word64? size
      isAsync := ← Json.required? Json.bool? isAsync
      source := ← Json.defaulted? (Json.option? Json.text?) none source }
  | _ => none

end Fingerprint

namespace SourceUnit

/-- The fingerprint of a unit of a file. -/
def fingerprint (keepSource : Bool) (path : String) (unit : SourceUnit) : Fingerprint where
  id := unit.identifier path
  hash := unit.hash
  line := unit.startLine
  endLine := unit.endLine
  size := unit.byteSize
  isAsync := unit.isAsync
  source := if keepSource then some unit.source else none

/-- The key and the fingerprint of a unit of a file. -/
def state (keepSource : Bool) (path : String) (unit : SourceUnit) : UnitState :=
  ⟨unit.key, unit.fingerprint keepSource path⟩

end SourceUnit

end SourceIndex
