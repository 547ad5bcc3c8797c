import SourceIndex.Decimal.Shortest
import SourceIndex.Instant
import SourceIndex.Text.Reader
import SourceIndex.Toml.Basic

/-!
# TOML scalars

Readers of strings, numbers, dates and keys.
-/

namespace SourceIndex.Toml

open Text (Reader)

/-- A blank within a line. -/
def isBlank (c : Char) : Bool := c == ' ' || c == '\t'

/-- The characters after blanks. -/
def skip (input : List Char) : List Char := input.dropWhile isBlank

/-- Characters that may stand in comments and strings: all but control characters, of which the tab
is allowed. -/
def isPlain (c : Char) : Bool := c == '\t' || (' ' ≤ c && c ≠ '\x7f')

/-- The characters after a line break. -/
def newline? : List Char → Option (List Char)
  | '\n' :: rest => some rest
  | '\r' :: '\n' :: rest => some rest
  | _ => none

/-! ## Strings -/

/-- The character of a one-letter escape. -/
def escaped? : Char → Option Char
  | '"' => some '"'
  | '\\' => some '\\'
  | 'b' => some '\x08'
  | 'f' => some '\x0c'
  | 'n' => some '\n'
  | 'r' => some '\r'
  | 't' => some '\t'
  | _ => none

/-- The character with a code in hexadecimal digits. -/
def scalar? (digits : List Char) : Option Char :=
  let code := Text.valueIn 16 digits
  if digits.all (fun c => (Text.hexValue? c).isSome) && code.isValidChar then
    some (Char.ofNat code)
  else none

/-- An escape after its backslash. -/
def escape : Reader Char
  | 'u' :: rest =>
    if rest.length < 4 then none else (scalar? (rest.take 4)).map fun c => (c, rest.drop 4)
  | 'U' :: rest =>
    if rest.length < 8 then none else (scalar? (rest.take 8)).map fun c => (c, rest.drop 8)
  | c :: rest => (escaped? c).map fun c => (c, rest)
  | [] => none

/-- Puts a character in front of what a reader gives. -/
def withChar (c : Char) (found : Option (List Char × List Char)) : Option (List Char × List Char) :=
  found.map fun (more, rest) => (c :: more, rest)

/-- A string up to its closing quote; `fuel` bounds its length. -/
def basicBody : (fuel : Nat) → Reader (List Char)
  | 0, _ => none
  | fuel + 1, input =>
    match input with
    | '"' :: rest => some ([], rest)
    | '\\' :: rest => do
      let (c, rest) ← escape rest
      withChar c (basicBody fuel rest)
    | c :: rest => if isPlain c then withChar c (basicBody fuel rest) else none
    | [] => none

/-- A string without escapes up to its closing apostrophe. -/
def literalBody : Reader (List Char)
  | '\'' :: rest => some ([], rest)
  | c :: rest => if isPlain c then withChar c (literalBody rest) else none
  | [] => none

/-- The characters after blanks and line breaks. -/
def skipLayout : List Char → List Char
  | '\n' :: rest => skipLayout rest
  | '\r' :: '\n' :: rest => skipLayout rest
  | c :: rest => if isBlank c then skipLayout rest else c :: rest
  | [] => []

/-- The characters after a line break that a backslash removes, with the layout around it. -/
def continued? (input : List Char) : Option (List Char) := (newline? (skip input)).map skipLayout

/-- A string over several lines up to its closing quotes, of which two more may belong to it. -/
def multiBasicBody : (fuel : Nat) → Reader (List Char)
  | 0, _ => none
  | fuel + 1, input =>
    match input with
    | '"' :: '"' :: '"' :: '"' :: '"' :: rest => some (['"', '"'], rest)
    | '"' :: '"' :: '"' :: '"' :: rest => some (['"'], rest)
    | '"' :: '"' :: '"' :: rest => some ([], rest)
    | '\\' :: rest =>
      match continued? rest with
      | some rest => multiBasicBody fuel rest
      | none => do
        let (c, rest) ← escape rest
        withChar c (multiBasicBody fuel rest)
    | '\n' :: rest => withChar '\n' (multiBasicBody fuel rest)
    | '\r' :: '\n' :: rest => withChar '\n' (multiBasicBody fuel rest)
    | c :: rest => if isPlain c then withChar c (multiBasicBody fuel rest) else none
    | [] => none

/-- A string without escapes over several lines, up to its closing apostrophes. -/
def multiLiteralBody : Reader (List Char)
  | '\'' :: '\'' :: '\'' :: '\'' :: '\'' :: rest => some (['\'', '\''], rest)
  | '\'' :: '\'' :: '\'' :: '\'' :: rest => some (['\''], rest)
  | '\'' :: '\'' :: '\'' :: rest => some ([], rest)
  | '\n' :: rest => withChar '\n' (multiLiteralBody rest)
  | '\r' :: '\n' :: rest => withChar '\n' (multiLiteralBody rest)
  | c :: rest => if isPlain c then withChar c (multiLiteralBody rest) else none
  | [] => none

/-- The characters after a line break, if there is one. -/
def skipNewline (input : List Char) : List Char := (newline? input).getD input

/-- The text of characters that were read. -/
def asText (found : Option (List Char × List Char)) : Option (String × List Char) :=
  found.map fun (chars, rest) => (String.ofList chars, rest)

/-- A string on one line. -/
def lineString : Reader String
  | '"' :: rest => asText (basicBody (rest.length + 1) rest)
  | '\'' :: rest => asText (literalBody rest)
  | _ => none

/-- A string. A line break right after the opening quotes of a string over several lines is not part
of it. -/
def string : Reader String
  | '"' :: '"' :: '"' :: rest => asText (multiBasicBody (rest.length + 1) (skipNewline rest))
  | '\'' :: '\'' :: '\'' :: rest => asText (multiLiteralBody (skipNewline rest))
  | input => lineString input

/-! ## Numbers -/

/-- Digits after the first one; an underscore may stand between two digits. -/
def moreDigits (isDigit : Char → Bool) : Reader (List Char)
  | '_' :: c :: rest => if isDigit c then withChar c (moreDigits isDigit rest) else none
  | '_' :: [] => none
  | c :: rest => if isDigit c then withChar c (moreDigits isDigit rest) else some ([], c :: rest)
  | [] => some ([], [])

/-- Digits, at least one. -/
def someDigits (isDigit : Char → Bool) : Reader (List Char)
  | c :: rest => if isDigit c then withChar c (moreDigits isDigit rest) else none
  | [] => none

/-- The whole part of a number: a zero, or digits that do not begin with one. -/
def wholeDigits : Reader (List Char)
  | '0' :: rest => some (['0'], rest)
  | input => someDigits Text.isDigit input

/-- A sign: whether it is a minus, and whether there is one. -/
def sign : List Char → (Bool × Bool) × List Char
  | '-' :: rest => ((true, true), rest)
  | '+' :: rest => ((false, true), rest)
  | input => ((false, false), input)

/-- An integer of sixty-four bits. -/
def integerOf? (value : Int) : Option Toml :=
  if Int64.minValue.toInt ≤ value ∧ value ≤ Int64.maxValue.toInt then some (.integer value)
  else none

/-- An integer in base sixteen, eight or two after its mark. -/
def basedInteger (base : Nat) : Reader Toml := fun input => do
  let isDigit (c : Char) : Bool := (Text.hexValue? c).any (· < base)
  let (digits, rest) ← someDigits isDigit input
  return (← integerOf? (Text.valueIn base digits), rest)

/-- An exponent after its mark. -/
def exponent : Reader Int := fun input => do
  let ((negative, _), rest) := sign input
  let (digits, rest) ← someDigits Text.isDigit rest
  let value : Int := Text.decimalValue digits
  return (if negative then -value else value, rest)

/-- The number with given digits; one that is too large is refused. -/
def floatOf? (negative : Bool) (digits : List Char) (power : Int) : Option Toml :=
  let value := Decimal.nearest (Text.decimalValue digits) power
  if negative then some (.float (-value))
  else if value.isInf then none
  else some (.float value)

/-- A fraction and an exponent after the whole part of a number, or neither. -/
def decimalRest (negative : Bool) (whole : List Char) : Reader Toml := fun input => do
  let power? (rest : List Char) : Option (Int × List Char) :=
    match rest with
    | 'e' :: rest => exponent rest
    | 'E' :: rest => exponent rest
    | _ => some (0, rest)
  match input with
  | '.' :: rest => do
    let (part, rest) ← someDigits Text.isDigit rest
    let (power, rest) ← power? rest
    return (← floatOf? negative (whole ++ part) (power - part.length), rest)
  | mark :: _ =>
    if mark = 'e' ∨ mark = 'E' then do
      let (power, rest) ← power? input
      return (← floatOf? negative whole power, rest)
    else return (← integerOf? (signed whole), input)
  | [] => return (← integerOf? (signed whole), input)
where
  /-- The value of digits with the sign of the number. -/
  signed (digits : List Char) : Int :=
    if negative then -(Text.decimalValue digits : Int) else Text.decimalValue digits

/-- A number. -/
def number : Reader Toml := fun input =>
  let ((negative, isSigned), rest) := sign input
  match rest with
  | 'i' :: 'n' :: 'f' :: rest =>
    some (.float (if negative then -1.0 / 0.0 else 1.0 / 0.0), rest)
  | 'n' :: 'a' :: 'n' :: rest => some (.float (0.0 / 0.0), rest)
  | '0' :: 'x' :: digits => if isSigned then none else basedInteger 16 digits
  | '0' :: 'o' :: digits => if isSigned then none else basedInteger 8 digits
  | '0' :: 'b' :: digits => if isSigned then none else basedInteger 2 digits
  | _ => do
    let (whole, rest) ← wholeDigits rest
    decimalRest negative whole rest

/-! ## Dates and times -/

/-- The value of exactly `count` digits, within limits. -/
def fixedDigits (count low high : Nat) : Reader Nat := fun input =>
  let digits := input.take count
  let value := Text.decimalValue digits
  if digits.length = count ∧ digits.all Text.isDigit ∧ low ≤ value ∧ value ≤ high then
    some (value, input.drop count)
  else none

/-- A given character. -/
def mark (c : Char) : Reader Unit
  | first :: rest => if first = c then some ((), rest) else none
  | [] => none

/-- A time of day with seconds and, if a point follows, a fraction. -/
def time : Reader Unit := fun input => do
  let (_, rest) ← fixedDigits 2 0 23 input
  let (_, rest) ← mark ':' rest
  let (_, rest) ← fixedDigits 2 0 59 rest
  let (_, rest) ← mark ':' rest
  let (_, rest) ← fixedDigits 2 0 60 rest
  match rest with
  | '.' :: rest =>
    let after := rest.dropWhile Text.isDigit
    if after.length < rest.length then return ((), after) else none
  | _ => return ((), rest)

/-- A day of a month that has it. -/
def date : Reader Unit := fun input => do
  let (year, rest) ← fixedDigits 4 0 9999 input
  let (_, rest) ← mark '-' rest
  let (month, rest) ← fixedDigits 2 1 12 rest
  let (_, rest) ← mark '-' rest
  let (_, rest) ← fixedDigits 2 1 (Instant.daysIn year month) rest
  return ((), rest)

/-- The offset of a time, if one follows. -/
def offset : Reader Unit := fun input =>
  match input with
  | 'Z' :: rest => some ((), rest)
  | 'z' :: rest => some ((), rest)
  | c :: rest =>
    if c = '+' ∨ c = '-' then do
      let (_, rest) ← fixedDigits 2 0 23 rest
      let (_, rest) ← mark ':' rest
      let (_, rest) ← fixedDigits 2 0 59 rest
      return ((), rest)
    else some ((), input)
  | [] => some ((), [])

/-- Whether a time of day follows. -/
def startsTime (input : List Char) : Bool :=
  match fixedDigits 2 0 23 input with
  | some (_, ':' :: _) => true
  | _ => false

/-- A time with its offset after a date, if a separator and a time follow. -/
def timeOfDate : Reader Unit := fun input =>
  match input with
  | c :: rest =>
    if (c = 'T' ∨ c = 't' ∨ c = ' ') ∧ startsTime rest then do
      let (_, rest) ← time rest
      offset rest
    else some ((), input)
  | [] => some ((), [])

/-- Whether a date follows: four digits and a dash. -/
def startsDate (input : List Char) : Bool :=
  match fixedDigits 4 0 9999 input with
  | some (_, '-' :: _) => true
  | _ => false

/-- A date, a time or both. -/
def momentAt : Reader Toml := fun input => do
  let (_, rest) ←
    if startsDate input then do
      let (_, rest) ← date input
      timeOfDate rest
    else time input
  return (.moment (String.ofList (input.take (input.length - rest.length))), rest)

/-! ## Keys -/

/-- Characters of a key without quotes. -/
def isBare (c : Char) : Bool := c.isAlphanum || c == '_' || c == '-'

/-- One part of a key. -/
def simpleKey : Reader String := fun input =>
  match input with
  | '"' :: _ => lineString input
  | '\'' :: _ => lineString input
  | _ =>
    match input.span isBare with
    | ([], _) => none
    | (name, rest) => some (String.ofList name, rest)

/-- The parts of a key, which points separate; `fuel` bounds their number. -/
def keyParts : (fuel : Nat) → Reader (List String)
  | 0, _ => none
  | fuel + 1, input => do
    let (first, rest) ← simpleKey (skip input)
    match skip rest with
    | '.' :: rest =>
      let (others, rest) ← keyParts fuel rest
      return (first :: others, rest)
    | rest => return ([first], rest)

/-- The most that arrays and tables may nest, and that a key may have parts, is one less. -/
def depthLimit : Nat := 80

/-- A key with fewer parts than the limit, and blanks around it. -/
def key : Reader (List String) := keyParts (depthLimit - 1)

end SourceIndex.Toml
