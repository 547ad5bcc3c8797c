import SourceIndex.Toml.Basic

/-!
# Values from TOML

How a value of a document is taken for a value of a given kind. A structure is a table, whose
unknown fields are skipped, or an array of its fields in order; fields that are not given keep their
defaults. A choice is its name, or a table with the name as key of something empty.
-/

namespace SourceIndex.Toml

/-- The text of a string. -/
def text? : Toml → Option String
  | .text value => some value
  | _ => none

/-- A truth value. -/
def bool? : Toml → Option Bool
  | .bool value => some value
  | _ => none

/-- A number of sixty-four bits. -/
def word64? : Toml → Option UInt64
  | .integer value => if 0 ≤ value then some (UInt64.ofNat value.toNat) else none
  | _ => none

/-- A floating-point number, which may be written as an integer. -/
def float? : Toml → Option Float
  | .float value => some value
  | .integer value => some (Float.ofInt value)
  | _ => none

/-- A list whose items all satisfy `item`. -/
def list? {α : Type} (item : Toml → Option α) : Toml → Option (List α)
  | .array items => items.mapM item
  | .tables items => (items.map (Toml.table .header)).mapM item
  | _ => none

/-- Whether a value is an array or a table without anything in it. -/
def isEmpty : Toml → Bool
  | .array items => items.isEmpty
  | .table _ fields => fields.isEmpty
  | .tables items => items.isEmpty
  | _ => false

/-- One of several named choices: its name, or a table with the name as its only key. -/
def choice? {α : Type} (ofName? : String → Option α) : Toml → Option α
  | .text name => ofName? name
  | .table _ [(name, value)] => if value.isEmpty then ofName? name else none
  | _ => none

/-- The fields of a structure with the given field names, in their order. A date has none of
them. -/
def slots? (names : List String) : Toml → Option (List (Option Toml))
  | .table _ fields => some (names.map fun name => fields.lookup name)
  | .array items => some (padded items)
  | .tables items => some (padded (items.map (Toml.table .header)))
  | .moment _ => some (names.map fun _ => none)
  | _ => none
where
  /-- As many items as there are names. -/
  padded (items : List Toml) : List (Option Toml) :=
    (items.map some ++ names.map fun _ => none).take names.length

/-- The value of a field that stands for `default` when it is absent. -/
def defaulted? {α : Type} (value : Toml → Option α) (default : α) : Option Toml → Option α
  | none => some default
  | some found => value found

end SourceIndex.Toml
