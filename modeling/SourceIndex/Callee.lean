import SourceIndex.Text.Basic

/-!
# Callees

A call node's callee is an expression. Its name is what is left without white space, type arguments
and the calls in front of it, provided that only names and separators are left.
-/

namespace SourceIndex.Callee

/-- Reads on after `kept`, given in reverse, at a nesting depth of type arguments. Angle brackets
open and close type arguments, and a `::` directly before them goes too; a closing bracket outside
of any, as in an arrow, stays. -/
def stripFrom (kept : List Char) : (depth : Nat) → List Char → List Char
  | _, [] => kept.reverse
  | 0, '<' :: rest =>
    match kept with
    | ':' :: ':' :: before => stripFrom before 1 rest
    | _ => stripFrom kept 1 rest
  | depth + 1, '<' :: rest => stripFrom kept (depth + 2) rest
  | depth + 1, '>' :: rest => stripFrom kept depth rest
  | 0, c :: rest => stripFrom (c :: kept) 0 rest
  | depth + 1, _ :: rest => stripFrom kept (depth + 1) rest

/-- A text without its type arguments. -/
def stripTypeArguments (text : List Char) : List Char := stripFrom [] 0 text

/-- The longest name, in bytes, that is kept. -/
def maxSize : Nat := 120

/-- Characters that separate the parts of a name. -/
def isSeparator (c : Char) : Bool := c == '.' || c == ':' || c == '-' || c == '>'

/-- Whether a text consists of names and separators, where the last character may be `!`. -/
def isPath : List Char → Bool
  | [] => true
  | ['!'] => true
  | c :: rest => (Text.isNameChar c || isSeparator c) && isPath rest

/-- The name of what a callee expression calls, if it has one. The result of a call is called by the
name that follows it. -/
def name? (raw : String) : Option String :=
  let compact := stripTypeArguments (raw.toList.filter fun c => !Text.isBlank c)
  let plain := Text.replacePair '?' '.' '.' compact
  let tail := Text.afterLast (· == ')') plain
  let name := (tail.dropWhile isSeparator).dropWhile fun c => c == '&' || c == '*'
  if (String.ofList name).utf8ByteSize ≤ maxSize && isPath name && name.any Text.isNameChar then
    some (String.ofList name)
  else none

end SourceIndex.Callee
