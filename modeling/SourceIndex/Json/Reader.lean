import SourceIndex.Json.Basic
import SourceIndex.Text.Reader

/-!
# Reading JSON

A reader takes the characters of a document and gives what it read with the characters that follow.
-/

namespace SourceIndex.Json

/-- White space between the tokens of a document. -/
def isSpace (c : Char) : Bool := c == ' ' || c == '\n' || c == '\t' || c == '\r'

/-- The characters after leading white space. -/
def skip (input : List Char) : List Char := input.dropWhile isSpace

/-- The value of four hexadecimal digits. -/
def hexUnit? (a b c d : Char) : Option Nat := do
  return (← Text.hexValue? a) * 4096 + (← Text.hexValue? b) * 256 + (← Text.hexValue? c) * 16
    + (← Text.hexValue? d)

/-- A piece of a string: a character, or a surrogate given by an escape. -/
inductive Piece where
  | char (c : Char)
  | surrogate (unit : Nat)

/-- The piece that a four-digit escape stands for. -/
def Piece.ofUnit (unit : Nat) : Piece :=
  if 0xd800 ≤ unit ∧ unit < 0xe000 then .surrogate unit else .char (Char.ofNat unit)

/-- The character of a one-letter escape. -/
def escaped? : Char → Option Char
  | '"' => some '"'
  | '\\' => some '\\'
  | '/' => some '/'
  | 'b' => some '\x08'
  | 'f' => some '\x0c'
  | 'n' => some '\n'
  | 'r' => some '\r'
  | 't' => some '\t'
  | _ => none

/-- The pieces of a string up to its closing quote. Control characters have to be escaped. -/
def pieces : Text.Reader (List Piece)
  | [] => none
  | '"' :: rest => some ([], rest)
  | '\\' :: 'u' :: a :: b :: c :: d :: rest => do
    let unit ← hexUnit? a b c d
    let (more, rest) ← pieces rest
    return (.ofUnit unit :: more, rest)
  | '\\' :: c :: rest => do
    let c ← escaped? c
    let (more, rest) ← pieces rest
    return (.char c :: more, rest)
  | c :: rest =>
    if c < ' ' ∨ c = '\\' then none
    else do
      let (more, rest) ← pieces rest
      return (.char c :: more, rest)

/-- The characters of the pieces; two surrogates that form a pair are one character. -/
def assemble : List Piece → Option (List Char)
  | [] => some []
  | .char c :: rest => (assemble rest).map (c :: ·)
  | .surrogate high :: .surrogate low :: rest =>
    if high < 0xdc00 ∧ 0xdc00 ≤ low then
      (assemble rest).map (Char.ofNat (0x10000 + (high - 0xd800) * 0x400 + (low - 0xdc00)) :: ·)
    else none
  | .surrogate _ :: _ => none

/-- A string after its opening quote. -/
def stringBody : Text.Reader (Option String) := fun input => do
  let (found, rest) ← pieces input
  return ((assemble found).map String.ofList, rest)

/-- The digits at the front, at least one. -/
def digits : Text.Reader (List Char) := fun input =>
  match input.span Text.isDigit with
  | ([], _) => none
  | found => some found

/-- A fraction, if a point follows. -/
def fraction : Text.Reader (List Char) := fun input =>
  match input with
  | '.' :: rest => do
    let (found, rest) ← digits rest
    return ('.' :: found, rest)
  | _ => some ([], input)

/-- An exponent, if its mark follows. -/
def exponent : Text.Reader (List Char) := fun input =>
  match input with
  | mark :: rest =>
    if mark = 'e' ∨ mark = 'E' then
      match rest with
      | sign :: after =>
        if sign = '+' ∨ sign = '-' then do
          let (found, rest) ← digits after
          return (mark :: sign :: found, rest)
        else do
          let (found, rest) ← digits rest
          return (mark :: found, rest)
      | [] => none
    else some ([], input)
  | [] => some ([], [])

/-- A number without its sign. A zero is not followed by further digits. -/
def magnitude : Text.Reader JsonNumber := fun input => do
  let (whole, rest) ← digits input
  if whole.head? = some '0' ∧ whole.length ≠ 1 then none
  else
    let (part, rest) ← fraction rest
    let (power, rest) ← exponent rest
    if part = [] ∧ power = [] then return (.natural (Text.decimalValue whole), rest)
    else return (.other (String.ofList (whole ++ part ++ power)), rest)

/-- A number. -/
def numberAt : Text.Reader JsonNumber := fun input =>
  match input with
  | '-' :: rest => do
    let (found, rest) ← magnitude rest
    match found with
    | .natural value => return (.other ("-" ++ toString value), rest)
    | .other spelling => return (.other ("-" ++ spelling), rest)
  | _ => magnitude input

mutual

/-- A value; `fuel` bounds the nesting and the number of elements. -/
def value : (fuel : Nat) → Text.Reader Json
  | 0, _ => none
  | fuel + 1, input =>
    match skip input with
    | 'n' :: 'u' :: 'l' :: 'l' :: rest => some (.null, rest)
    | 't' :: 'r' :: 'u' :: 'e' :: rest => some (.bool true, rest)
    | 'f' :: 'a' :: 'l' :: 's' :: 'e' :: rest => some (.bool false, rest)
    | '"' :: rest => do
      let (found, rest) ← stringBody rest
      return (.string found, rest)
    | '[' :: rest =>
      match skip rest with
      | ']' :: rest => some (.array [], rest)
      | rest => do
        let (found, rest) ← elements fuel rest
        return (.array found, rest)
    | '\x7b' :: rest =>
      match skip rest with
      | '\x7d' :: rest => some (.object [], rest)
      | rest => do
        let (found, rest) ← members fuel rest
        return (.object found, rest)
    | rest => do
      let (found, rest) ← numberAt rest
      return (.number found, rest)

/-- The elements of an array up to its closing bracket, at least one. -/
def elements : (fuel : Nat) → Text.Reader (List Json)
  | 0, _ => none
  | fuel + 1, input => do
    let (first, rest) ← value fuel input
    match skip rest with
    | ']' :: rest => return ([first], rest)
    | ',' :: rest =>
      let (others, rest) ← elements fuel rest
      return (first :: others, rest)
    | _ => none

/-- The fields of an object up to its closing brace, at least one. -/
def members : (fuel : Nat) → Text.Reader (List (Option String × Json))
  | 0, _ => none
  | fuel + 1, input =>
    match skip input with
    | '"' :: rest => do
      let (key, rest) ← stringBody rest
      match skip rest with
      | ':' :: rest =>
        let (first, rest) ← value fuel rest
        match skip rest with
        | '\x7d' :: rest => return ([(key, first)], rest)
        | ',' :: rest =>
          let (others, rest) ← members fuel rest
          return ((key, first) :: others, rest)
        | _ => none
      | _ => none
    | _ => none

end

/-- The document that a text holds, with nothing but white space around it. -/
def read (input : List Char) : Option Json := do
  let (found, rest) ← value (2 * input.length + 2) input
  if skip rest = [] then return found else none

end SourceIndex.Json
