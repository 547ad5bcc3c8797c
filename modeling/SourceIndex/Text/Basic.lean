import SourceIndex.Text.Class

/-!
# Text operations

Trimming, splitting and joining of text. The operations work on lists of characters; the ones that
other modules use on `String` are stated once here.
-/

namespace SourceIndex.Text

/-- The characters before the last run that satisfies `p`. -/
def dropEnd (p : Char → Bool) (text : List Char) : List Char :=
  (text.reverse.dropWhile p).reverse

/-- Without the characters at both ends that satisfy `p`. -/
def strip (p : Char → Bool) (text : List Char) : List Char := dropEnd p (text.dropWhile p)

/-- Without the white space at both ends. -/
def trim (text : String) : String := String.ofList (strip isBlank text.toList)

/-- The pieces between the characters that satisfy `p`; a text without one is its own piece. -/
def pieces (p : Char → Bool) : List Char → List (List Char)
  | [] => [[]]
  | c :: rest =>
    if p c then [] :: pieces p rest
    else
      match pieces p rest with
      | [] => [[c]]
      | piece :: pieces => (c :: piece) :: pieces

/-- The pieces of white-space separated text, none of them empty. -/
def words (text : List Char) : List (List Char) :=
  (pieces isBlank text).filter (· ≠ [])

/-- Pieces written one after the other with `separator` between them. -/
def join (separator : List Char) : List (List Char) → List Char
  | [] => []
  | [piece] => piece
  | piece :: pieces => piece ++ separator ++ join separator pieces

/-- Every run of white space becomes one space, and the ends are trimmed. -/
def collapse (text : String) : String := String.ofList (join [' '] (words text.toList))

/-- The part after the last character that satisfies `p`, or the whole text. -/
def afterLast (p : Char → Bool) (text : List Char) : List Char :=
  (text.reverse.takeWhile (!p ·)).reverse

/-- The lines of a text. A line ends before a line feed, or before a carriage return and a line
feed; a last line without an end counts unless it is empty. -/
def lines (text : List Char) : List (List Char) :=
  let all := pieces (· == '\n') text
  let closed :=
    all.dropLast.map fun line => if line.getLast? = some '\r' then line.dropLast else line
  match all.getLast? with
  | some (c :: rest) => closed ++ [c :: rest]
  | _ => closed

/-- Every occurrence of the two characters `first` and `second` replaced by `new`, from left to
right. -/
def replacePair (first second new : Char) : List Char → List Char
  | c :: d :: rest =>
    if c = first ∧ d = second then new :: replacePair first second new rest
    else c :: replacePair first second new (d :: rest)
  | rest => rest

/-- Whether `needle` occurs somewhere in the text. -/
def hasInfix (needle : List Char) : List Char → Bool
  | [] => needle.isEmpty
  | c :: rest => needle.isPrefixOf (c :: rest) || hasInfix needle rest

/-- The items without the later repetitions of each. -/
def firstOccurrences {α : Type} [BEq α] : List α → List α
  | [] => []
  | item :: items => item :: (firstOccurrences items).filter (· != item)

end SourceIndex.Text
