import SourceIndex.Text.Class

/-!
# Call patterns

A pattern describes a set of call names by the pieces they are made of. Matching gives the
remainders of a text after each piece, so that a piece of variable length leaves a choice to the
pieces behind it.
-/

namespace SourceIndex.Effect

/-- A piece of a pattern. -/
inductive Piece where
  /-- One of some texts. -/
  | oneOf (texts : List String)
  /-- One of some texts, or nothing. -/
  | optional (texts : List String)
  /-- Any number of word characters. -/
  | anyWord
  /-- At least one word character. -/
  | word
  /-- Any number of words, each after two colons. -/
  | pathWords

/-- What has to follow the last piece. -/
inductive Ending where
  | anything
  /-- The end of the text. -/
  | nothing
  /-- The end of the text, or a character that is not part of a word. -/
  | wordEnd

/-- A pattern for call names. -/
structure Pattern where
  pieces : List Piece
  ending : Ending := .nothing
  /-- Whether the first piece has to stand at the start of the text. -/
  atStart : Bool := true
  ignoreCase : Bool := false

/-- A letter without its case. Besides the ASCII letters this folds the long s and the Kelvin sign,
the only other characters that fold to ASCII letters. -/
def foldCase (c : Char) : Char :=
  if c = '\u017f' then 's' else if c = '\u212a' then 'k' else c.toLower

/-- The rest of `input` after `text`. -/
def after? (ignoreCase : Bool) : (text input : List Char) → Option (List Char)
  | [], input => some input
  | _ :: _, [] => none
  | t :: text, c :: input =>
    if t = c ∨ (ignoreCase ∧ foldCase t = foldCase c) then after? ignoreCase text input else none

/-- The rests of a text after none, one and up to all of the word characters at its front. -/
def wordRests : List Char → List (List Char)
  | [] => [[]]
  | c :: rest => (c :: rest) :: if Text.isWordChar c then wordRests rest else []

/-- The rests after at least one word character. -/
def someWordRests : List Char → List (List Char)
  | [] => []
  | c :: rest => if Text.isWordChar c then wordRests rest else []

/-- The rests after any number of words that follow two colons; `bound` limits their number. -/
def pathRests : (bound : Nat) → List Char → List (List Char)
  | 0, input => [input]
  | bound + 1, input =>
    input ::
      match input with
      | ':' :: ':' :: rest => (someWordRests rest).flatMap (pathRests bound)
      | _ => []

/-- The rests of a text after a piece. -/
def Piece.rests (ignoreCase : Bool) (input : List Char) : Piece → List (List Char)
  | .oneOf texts => texts.filterMap fun text => after? ignoreCase text.toList input
  | .optional texts => input :: texts.filterMap fun text => after? ignoreCase text.toList input
  | .anyWord => wordRests input
  | .word => someWordRests input
  | .pathWords => pathRests input.length input

/-- The rests of a text after pieces in a row. -/
def restsAfter (ignoreCase : Bool) : List Piece → List Char → List (List Char)
  | [], input => [input]
  | piece :: pieces, input =>
    (piece.rests ignoreCase input).flatMap (restsAfter ignoreCase pieces)

/-- Whether a rest is allowed behind the last piece. -/
def Ending.allows : Ending → List Char → Bool
  | .anything, _ => true
  | .nothing, rest => rest.isEmpty
  | .wordEnd, [] => true
  | .wordEnd, c :: _ => !Text.isWordChar c

/-- A text and its ends. -/
def suffixes : List Char → List (List Char)
  | [] => [[]]
  | c :: rest => (c :: rest) :: suffixes rest

/-- Whether a pattern describes a call name. -/
def Pattern.matches (pattern : Pattern) (call : String) : Bool :=
  let starts := if pattern.atStart then [call.toList] else suffixes call.toList
  starts.any fun start =>
    (restsAfter pattern.ignoreCase pattern.pieces start).any pattern.ending.allows

end SourceIndex.Effect
