/-!
# JSON documents

A document keeps the fields of an object in the order in which they are written, repetitions
included, so that a reader of records can refuse a field that is given twice.
-/

namespace SourceIndex

/-- A number as it is written. -/
inductive JsonNumber where
  /-- Digits only. -/
  | natural (value : Nat)
  /-- A number with a sign, a fraction or an exponent, as it is spelled. -/
  | other (spelling : String)
  deriving DecidableEq, Repr

/-- A document. A string is `none` if an escape in it names half of a surrogate pair. -/
inductive Json where
  | null
  | bool (value : Bool)
  | number (value : JsonNumber)
  | string (value : Option String)
  | array (items : List Json)
  | object (fields : List (Option String × Json))

namespace Json

/-- A text. -/
def text (value : String) : Json := .string (some value)

/-- A list of texts. -/
def texts (values : List String) : Json := .array (values.map text)

/-- A natural number. -/
def natural (value : Nat) : Json := .number (.natural value)

end Json

end SourceIndex
