/-!
# TOML documents

A document is a table. A table remembers how it was written, because that decides whether later
lines may add to it.
-/

namespace SourceIndex

/-- How a table was written. -/
inductive TomlForm where
  /-- In braces. -/
  | braces
  /-- Implied by a dotted key in braces. -/
  | dottedInBraces
  /-- Under a header of its own. -/
  | header
  /-- Implied by the header of a table inside it. -/
  | implied
  /-- Implied by a dotted key. -/
  | dotted
  deriving DecidableEq, Repr

/-- A value of a document. -/
inductive Toml where
  | text (value : String)
  | integer (value : Int)
  | float (value : Float)
  | bool (value : Bool)
  /-- A date, a time or both, as written. -/
  | moment (spelling : String)
  | array (items : List Toml)
  | table (form : TomlForm) (fields : List (String × Toml))
  /-- Tables under headers in double brackets. -/
  | tables (items : List (List (String × Toml)))

namespace TomlForm

/-- Whether the table is part of a value in braces. -/
def isInline : TomlForm → Bool
  | braces | dottedInBraces => true
  | _ => false

/-- Whether the table is implied by a dotted key. -/
def isDotted : TomlForm → Bool
  | dotted | dottedInBraces => true
  | _ => false

/-- Whether the table is written only through what is in it. -/
def isImplied : TomlForm → Bool
  | implied => true
  | form => form.isDotted

end TomlForm

end SourceIndex
