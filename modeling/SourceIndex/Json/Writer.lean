import SourceIndex.Json.Basic

/-!
# Writing JSON

A document is written on one line, or with every element on a line of its own and indented by two
spaces a level. Both forms read back as the document.
-/

namespace SourceIndex.Json

/-- A control character as a four-digit escape. -/
def unicodeEscape (code : Nat) : List Char :=
  ['\\', 'u', '0', '0', Nat.digitChar (code / 16), Nat.digitChar (code % 16)]

/-- A character inside a string. Quotes, backslashes and control characters are escaped. -/
def escape (c : Char) : List Char :=
  if c = '"' then ['\\', '"']
  else if c = '\\' then ['\\', '\\']
  else if c = '\x08' then ['\\', 'b']
  else if c = '\x0c' then ['\\', 'f']
  else if c = '\n' then ['\\', 'n']
  else if c = '\r' then ['\\', 'r']
  else if c = '\t' then ['\\', 't']
  else if c < ' ' then unicodeEscape c.toNat
  else [c]

/-- A string with its quotes. One that is no text is written as an unpaired surrogate. -/
def quote : Option String → List Char
  | some text => '"' :: text.toList.flatMap escape ++ ['"']
  | none => ['"', '\\', 'u', 'd', '8', '0', '0', '"']

/-- A number as it is spelled. -/
def spell : JsonNumber → List Char
  | .natural value => Nat.toDigits 10 value
  | .other spelling => spelling.toList

/-- The space between elements: none on one line, otherwise a line break and the indentation of a
level. -/
def pad : (level : Option Nat) → List Char
  | none => []
  | some level => '\n' :: List.replicate (2 * level) ' '

/-- The mark between a field's name and its value. -/
def colon : (level : Option Nat) → List Char
  | none => [':']
  | some _ => [':', ' ']

mutual

/-- A document; `level` is its indentation, or nothing for the form on one line. -/
def write (level : Option Nat) : Json → List Char
  | .null => ['n', 'u', 'l', 'l']
  | .bool true => ['t', 'r', 'u', 'e']
  | .bool false => ['f', 'a', 'l', 's', 'e']
  | .number value => spell value
  | .string value => quote value
  | .array [] => ['[', ']']
  | .array (first :: others) =>
    '[' :: pad (level.map (· + 1)) ++ write (level.map (· + 1)) first
      ++ writeElements (level.map (· + 1)) others ++ pad level ++ [']']
  | .object [] => ['\x7b', '\x7d']
  | .object ((key, first) :: others) =>
    '\x7b' :: pad (level.map (· + 1)) ++ quote key ++ colon level
      ++ write (level.map (· + 1)) first ++ writeMembers (level.map (· + 1)) others
      ++ pad level ++ ['\x7d']

/-- The elements after the first. -/
def writeElements (level : Option Nat) : List Json → List Char
  | [] => []
  | item :: items => ',' :: pad level ++ write level item ++ writeElements level items

/-- The fields after the first. -/
def writeMembers (level : Option Nat) : List (Option String × Json) → List Char
  | [] => []
  | (key, item) :: items =>
    ',' :: pad level ++ quote key ++ colon level ++ write level item ++ writeMembers level items

end

/-- A document on one line. -/
def compact (document : Json) : String := String.ofList (document.write none)

/-- A document with a line for every element. -/
def pretty (document : Json) : String := String.ofList (document.write (some 0))

end SourceIndex.Json
