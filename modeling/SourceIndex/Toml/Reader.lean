import SourceIndex.Toml.Scalar
import SourceIndex.Toml.Table

/-!
# Reading TOML
-/

namespace SourceIndex.Toml

open Text (Reader)

/-- The characters after a comment, which ends before the end of its line. -/
def skipComment (input : List Char) : List Char :=
  match input with
  | '#' :: rest => rest.dropWhile isPlain
  | _ => input

/-- The characters after the end of a line, or the end of the document. -/
def lineEnd? (input : List Char) : Option (List Char) :=
  if input.isEmpty then some [] else newline? input

/-- The characters of the next line, if nothing but blanks and a comment is left of this one. -/
def nextLine? (input : List Char) : Option (List Char) := lineEnd? (skipComment (skip input))

/-- The characters after blanks, comments and line breaks; `fuel` bounds their number. -/
def skipLines : (fuel : Nat) → List Char → List Char
  | 0, input => input
  | fuel + 1, input =>
    match newline? (skipComment (skip input)) with
    | some rest => skipLines fuel rest
    | none => skip input

/-- The characters after blanks, comments and line breaks. -/
def skipAll (input : List Char) : List Char := skipLines (input.length + 1) input

/-- The items of an array up to its closing bracket. A comma may follow the last one. -/
def items (item : Reader Toml) : (fuel : Nat) → Reader (List Toml)
  | 0, _ => none
  | fuel + 1, input =>
    match skipAll input with
    | ']' :: rest => some ([], rest)
    | input => do
      let (first, rest) ← item input
      match skipAll rest with
      | ']' :: rest => return ([first], rest)
      | ',' :: rest =>
        let (others, rest) ← items item fuel rest
        return (first :: others, rest)
      | _ => none

/-- A key and its value. -/
def assignment (item : Reader Toml) : Reader (List String × Toml) := fun input => do
  let (path, rest) ← key input
  let (_, rest) ← mark '=' rest
  let (value, rest) ← item (skip rest)
  return ((path, value), rest)

/-- The assignments in braces up to the closing brace, at least one. -/
def assignments (item : Reader Toml) : (fuel : Nat) → Reader (List (List String × Toml))
  | 0, _ => none
  | fuel + 1, input => do
    let (first, rest) ← assignment item input
    match skip rest with
    | '\x7d' :: rest => return ([first], rest)
    | ',' :: rest =>
      let (others, rest) ← assignments item fuel rest
      return (first :: others, rest)
    | _ => none

/-- A table in braces after the opening brace. -/
def inlineTable (item : Reader Toml) : Reader Toml := fun input =>
  match skip input with
  | '\x7d' :: rest => some (.table .braces [], rest)
  | rest => do
    let (found, rest) ← assignments item (rest.length + 1) rest
    return (← ofAssignments found, rest)

/-- A value that is neither an array nor a table. -/
def scalar : Reader Toml := fun input =>
  match input with
  | 't' :: 'r' :: 'u' :: 'e' :: rest => some (.bool true, rest)
  | 'f' :: 'a' :: 'l' :: 's' :: 'e' :: rest => some (.bool false, rest)
  | '"' :: _ => (string input).map fun (found, rest) => (.text found, rest)
  | '\'' :: _ => (string input).map fun (found, rest) => (.text found, rest)
  | _ => if startsDate input || startsTime input then momentAt input else number input

/-- A value in which arrays and tables nest at most `depth` times. -/
def value : (depth : Nat) → Reader Toml
  | 0, input => if "[\x7b".toList.any fun c => input.head? == some c then none else scalar input
  | depth + 1, input =>
    match input with
    | '[' :: rest =>
      (items (value depth) (rest.length + 1) rest).map fun (found, rest) => (.array found, rest)
    | '\x7b' :: rest => inlineTable (value depth) rest
    | _ => scalar input

/-- A header up to the closing brackets, and the rest of its line. -/
def header (isItem : Bool) (draft : Draft) (input : List Char) : Option (Draft × List Char) := do
  let (path, rest) ← key input
  let (_, rest) ← mark ']' rest
  let rest ← if isItem then (mark ']' rest).map (·.2) else some rest
  return (← draft.header isItem path, ← nextLine? rest)

/-- One line with a header or an assignment, which may extend over several lines. -/
def statement (draft : Draft) (input : List Char) : Option (Draft × List Char) :=
  match input with
  | '[' :: '[' :: rest => header true draft rest
  | '[' :: rest => header false draft rest
  | _ => do
    let ((path, found), rest) ← assignment (value (depthLimit - 1)) input
    return (← draft.assign path found, ← nextLine? rest)

/-- The lines of a document; `fuel` bounds their number. -/
def lines : (fuel : Nat) → Draft → List Char → Option Draft
  | 0, _, _ => none
  | fuel + 1, draft, input =>
    match skip input with
    | [] => some draft
    | '#' :: rest => do lines fuel draft (← lineEnd? (skipComment ('#' :: rest)))
    | rest =>
      match newline? rest with
      | some rest => lines fuel draft rest
      | none => do
        let (draft, rest) ← statement draft rest
        lines fuel draft rest

/-- The document that a text holds. A byte order mark at its start is skipped. -/
def read (text : String) : Option Toml := do
  let input := match text.toList with
    | '\ufeff' :: rest => rest
    | input => input
  let draft ← lines (input.length + 1) {} input
  return .table .header draft.root

end SourceIndex.Toml
