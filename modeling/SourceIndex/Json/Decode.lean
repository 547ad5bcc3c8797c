import SourceIndex.Json.Basic

/-!
# Values from documents

How a document is taken for a value of a given kind. A structure is an object, whose unknown fields
are skipped and whose known ones may not repeat, or an array of its fields in order. A choice is its
name, or an object with the name as only field and null as its value.
-/

namespace SourceIndex.Json

/-- The text of a string. -/
def text? : Json → Option String
  | .string value => value
  | _ => none

/-- A truth value. -/
def bool? : Json → Option Bool
  | .bool value => some value
  | _ => none

/-- A natural number below `bound`, written with digits only. -/
def natural? (bound : Nat) : Json → Option Nat
  | .number (.natural value) => if value < bound then some value else none
  | _ => none

/-- A number of thirty-two bits. -/
def word32? (document : Json) : Option UInt32 := (document.natural? UInt32.size).map UInt32.ofNat

/-- A number of sixty-four bits. -/
def word64? (document : Json) : Option UInt64 := (document.natural? UInt64.size).map UInt64.ofNat

/-- A list whose elements all satisfy `element`. -/
def list? {α : Type} (element : Json → Option α) : Json → Option (List α)
  | .array items => items.mapM element
  | _ => none

/-- Null, or a value. -/
def option? {α : Type} (value : Json → Option α) : Json → Option (Option α)
  | .null => some none
  | document => (value document).map some

/-- One of several named choices. -/
def choice? {α : Type} (ofName? : String → Option α) : Json → Option α
  | .string (some name) => ofName? name
  | .object [(some name, .null)] => ofName? name
  | _ => none

/-- The values of the named fields of an object, with `none` for an absent one. -/
def slotsOfObject (fields : List (Option String × Json)) (names : List String) :
    List (Option Json) :=
  names.map fun name => (fields.find? fun field => field.1 = some name).map (·.2)

/-- Whether every name is text and no known name is given twice. -/
def readable (fields : List (Option String × Json)) (names : List String) : Bool :=
  fields.all (fun field => field.1.isSome)
    && names.all fun name => (fields.filter fun field => field.1 = some name).length ≤ 1

/-- The fields of a structure with the given field names, in their order. -/
def slots? (names : List String) : Json → Option (List (Option Json))
  | .object fields => if readable fields names then some (slotsOfObject fields names) else none
  | .array items =>
    if items.length ≤ names.length then
      some (items.map some ++ List.replicate (names.length - items.length) none)
    else none
  | _ => none

/-- The value of a field that has to be there. -/
def required? {α : Type} (value : Json → Option α) (slot : Option Json) : Option α :=
  slot.bind value

/-- The value of a field that stands for `default` when it is absent. -/
def defaulted? {α : Type} (value : Json → Option α) (default : α) : Option Json → Option α
  | none => some default
  | some document => value document

end SourceIndex.Json
