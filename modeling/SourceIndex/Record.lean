import SourceIndex.Json.Decode
import SourceIndex.Language

/-!
# Records

What the index knows about one unit: where it is, how it is called, what it calls and what effects
it has. A record is written as one line of the graph log.
-/

namespace SourceIndex

/-- The indexed facts about a unit. -/
structure Record where
  /-- The file key, `#` and the unit's key in the file. -/
  id : String
  name : String
  file : String
  line : UInt32
  signature : String
  isAsync : Bool
  calls : List String
  effects : List String
  tags : List String := []
  patterns : List String := []
  language : Language
  deriving DecidableEq, Repr

namespace Record

/-- What identifies a record in a store. -/
def key (record : Record) : String × String := (record.file, record.id)

/-- The name of the record's node in the call graph. Units without a name of their own are told
apart by their identifiers. -/
def nodeName (record : Record) : String :=
  if record.tags.contains "anonymous" then record.id else record.name

/-- The names of the fields in the order in which they are written. -/
def fieldNames : List String :=
  ["id", "name", "file", "line", "signature", "async", "calls", "effects", "tags", "patterns",
   "lang"]

/-- A field for a list, left out if the list is empty. -/
def listField (name : String) (values : List String) : List (Option String × Json) :=
  if values.isEmpty then [] else [(some name, .texts values)]

/-- The document of a record. -/
def toJson (record : Record) : Json :=
  .object
    ([(some "id", .text record.id),
      (some "name", .text record.name),
      (some "file", .text record.file),
      (some "line", .natural record.line.toNat),
      (some "signature", .text record.signature),
      (some "async", .bool record.isAsync),
      (some "calls", .texts record.calls),
      (some "effects", .texts record.effects)]
      ++ listField "tags" record.tags ++ listField "patterns" record.patterns
      ++ [(some "lang", .text record.language.name)])

/-- The record that a document describes. -/
def ofJson? (document : Json) : Option Record := do
  match ← document.slots? fieldNames with
  | [id, name, file, line, signature, isAsync, calls, effects, tags, patterns, language] =>
    return {
      id := ← Json.required? Json.text? id
      name := ← Json.required? Json.text? name
      file := ← Json.required? Json.text? file
      line := ← Json.required? Json.word32? line
      signature := ← Json.required? Json.text? signature
      isAsync := ← Json.required? Json.bool? isAsync
      calls := ← Json.required? (Json.list? Json.text?) calls
      effects := ← Json.required? (Json.list? Json.text?) effects
      tags := ← Json.defaulted? (Json.list? Json.text?) [] tags
      patterns := ← Json.defaulted? (Json.list? Json.text?) [] patterns
      language := ← Json.required? (Json.choice? Language.ofName?) language }
  | _ => none

end Record

end SourceIndex
