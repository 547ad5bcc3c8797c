import SourceIndex.Toml.Basic

/-!
# Building tables

Which lines may add to which tables. A key is assigned once, a table has one header, a dotted key
does not add to a table with a header, and nothing adds to a value in braces from outside.
-/

namespace SourceIndex.Toml

/-- The fields of a table in the order in which they are written. -/
abbrev Fields := List (String × Toml)

namespace Fields

/-- The value of a key. -/
def get? (fields : Fields) (key : String) : Option Toml := fields.lookup key

/-- Replaces the value of a key. -/
def replace (fields : Fields) (key : String) (value : Toml) : Fields :=
  fields.map fun field => if field.1 = key then (key, value) else field

/-- Replaces the last of several tables. -/
def replaceLast (items : List Fields) (last : Fields) : List Fields := items.dropLast ++ [last]

/-- Assigns a value to a dotted key, whose last part is `key`. The tables on the way are created
with form `inner`; those that exist must be implied, and the last of them by a dotted key. -/
def assign (inner : TomlForm) (key : String) (value : Toml) :
    (path : List String) → Fields → Option Fields
  | [], fields => if (fields.get? key).isSome then none else some (fields ++ [(key, value)])
  | step :: path, fields =>
    match fields.get? step with
    | none => do
      let inside ← assign inner key value path []
      return fields ++ [(step, .table inner inside)]
    | some (.table form inside) =>
      if form.isImplied && (form.isDotted || !path.isEmpty) then do
        let inside ← assign inner key value path inside
        return fields.replace step (.table form inside)
      else none
    | some (.tables items) =>
      match items.getLast?, path with
      | some last, _ :: _ => do
        let last ← assign inner key value path last
        return fields.replace step (.tables (replaceLast items last))
      | _, _ => none
    | some _ => none

/-- Changes the table under a path of keys. Tables that are missing on the way are implied; of
several tables the last one is meant. -/
def descend (change : Fields → Option Fields) : (path : List String) → Fields → Option Fields
  | [], fields => change fields
  | step :: path, fields =>
    match fields.get? step with
    | none => do
      let inside ← descend change path []
      return fields ++ [(step, .table .implied inside)]
    | some (.table form inside) =>
      if form.isInline then none
      else do
        let inside ← descend change path inside
        return fields.replace step (.table form inside)
    | some (.tables items) => do
      let last ← descend change path (← items.getLast?)
      return fields.replace step (.tables (replaceLast items last))
    | some _ => none

/-- Opens a table under a header. It must be new, or implied by headers of tables inside it. -/
def openTable (key : String) (fields : Fields) : Option Fields :=
  match fields.get? key with
  | none => some (fields ++ [(key, .table .header [])])
  | some (.table .implied inside) =>
    some (fields.filter (fun field => field.1 ≠ key) ++ [(key, .table .header inside)])
  | some _ => none

/-- Opens one more of several tables. -/
def openItem (key : String) (fields : Fields) : Option Fields :=
  match fields.get? key with
  | none => some (fields ++ [(key, .tables [[]])])
  | some (.tables items) => some (fields.replace key (.tables (items ++ [[]])))
  | some _ => none

end Fields

/-- A document that has been read up to some line: the root table and the path of the open table. -/
structure Draft where
  root : Fields := []
  opened : List String := []

namespace Draft

/-- Opens the table under a path, or one more table if it stands in double brackets. -/
def header (isItem : Bool) (path : List String) (draft : Draft) : Option Draft := do
  let key ← path.getLast?
  let opening := if isItem then Fields.openItem key else Fields.openTable key
  return ⟨← Fields.descend opening path.dropLast draft.root, path⟩

/-- Assigns a value in the open table. -/
def assign (path : List String) (value : Toml) (draft : Draft) : Option Draft := do
  let key ← path.getLast?
  let change := Fields.assign .dotted key value path.dropLast
  return { draft with root := ← Fields.descend change draft.opened draft.root }

end Draft

/-- The table of assignments in braces. -/
def ofAssignments (assignments : List (List String × Toml)) : Option Toml := do
  let fields ← assignments.foldlM (fun fields (path, value) => do
    Fields.assign .dottedInBraces (← path.getLast?) value path.dropLast fields) []
  return .table .braces fields

end SourceIndex.Toml
