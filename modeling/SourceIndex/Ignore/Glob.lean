/-!
# Globs

A glob describes paths by the bytes they are made of. Matching gives the remainders of a path after
each token, so that a token of variable length leaves a choice to the tokens behind it.
-/

namespace SourceIndex

/-- A token of a glob. -/
inductive GlobToken where
  /-- Given bytes. -/
  | literal (bytes : List UInt8)
  /-- One byte that is not a separator: `?`. -/
  | anyByte
  /-- Any number of bytes that are not separators: `*`. -/
  | anyName
  /-- Nothing, or anything up to a separator: `**` in front. -/
  | leading
  /-- A separator with anything behind it: `**` at the end. -/
  | trailing
  /-- A separator, or two with anything between them: `**` in the middle. -/
  | between
  /-- One byte of some ranges, or of none of them. -/
  | oneOf (negated : Bool) (ranges : List (UInt8 × UInt8))
  /-- One of several sequences of tokens. -/
  | choice (branches : List (List GlobToken))

/-- A sequence of tokens for a whole path. -/
abbrev Glob := List GlobToken

namespace Glob

/-- The byte of the separator of names. -/
def separator : UInt8 := 47

/-! ## Matching -/

/-- The remainders of a path behind each of its separators. -/
def afterSeparators : List UInt8 → List (List UInt8)
  | [] => []
  | byte :: rest =>
    if byte = separator then rest :: afterSeparators rest else afterSeparators rest

/-- The remainders after none, one and up to all of the bytes before the next separator. -/
def nameRests : List UInt8 → List (List UInt8)
  | [] => [[]]
  | byte :: rest => (byte :: rest) :: if byte = separator then [] else nameRests rest

/-- All remainders. -/
def allRests : List UInt8 → List (List UInt8)
  | [] => [[]]
  | byte :: rest => (byte :: rest) :: allRests rest

/-- The remainder after given bytes. -/
def after? : (bytes input : List UInt8) → Option (List UInt8)
  | [], input => some input
  | _ :: _, [] => none
  | byte :: bytes, first :: input => if byte = first then after? bytes input else none

/-- The remainder after one byte that satisfies `p`. -/
def afterByte? (p : UInt8 → Bool) : List UInt8 → Option (List UInt8)
  | [] => none
  | byte :: rest => if p byte then some rest else none

/-- Remainders of one path, each length once. -/
def distinct : List (List UInt8) → List (List UInt8)
  | [] => []
  | rest :: rests =>
    let others := distinct rests
    if others.any fun other => other.length = rest.length then others else rest :: others

mutual

/-- Whether tokens are written without anything between their marks. -/
def isVoid : List GlobToken → Bool
  | [] => true
  | token :: tokens => isVoidToken token && isVoid tokens

/-- Whether a token is a choice without anything in it. -/
def isVoidToken : GlobToken → Bool
  | .choice branches => areVoid branches
  | _ => false

/-- Whether all branches are void. -/
def areVoid : List (List GlobToken) → Bool
  | [] => true
  | branch :: branches => isVoid branch && areVoid branches

end

mutual

/-- The remainders of a path after a token. -/
def tokenRests : GlobToken → List UInt8 → List (List UInt8)
  | .literal bytes, input => (after? bytes input).toList
  | .anyByte, input => (afterByte? (· ≠ separator) input).toList
  | .anyName, input => nameRests input
  | .leading, input => input :: afterSeparators input
  | .trailing, input => ((after? [separator] input).map allRests).getD []
  | .between, input =>
    ((after? [separator] input).map fun rest => rest :: afterSeparators rest).getD []
  | .oneOf negated ranges, input =>
    (afterByte? (fun byte => negated != ranges.any fun range => range.1 ≤ byte && byte ≤ range.2)
      input).toList
  | .choice branches, input =>
    if areVoid branches then [input] else branchRests branches input

/-- The remainders after a sequence of tokens, of several remainders. -/
def rests : List GlobToken → List (List UInt8) → List (List UInt8)
  | [], inputs => inputs
  | token :: tokens, inputs => rests tokens (distinct (inputs.flatMap (tokenRests token)))

/-- The remainders after one of several sequences, of which void ones do not count. -/
def branchRests : List (List GlobToken) → List UInt8 → List (List UInt8)
  | [], _ => []
  | branch :: branches, input =>
    (if isVoid branch then [] else rests branch [input]) ++ branchRests branches input

end

/-- Whether a glob describes a path. A double star alone describes every path. -/
def describes (glob : Glob) (path : List UInt8) : Bool :=
  match glob with
  | [.leading] => true
  | _ => (rests glob [path]).any (·.isEmpty)

/-! ## Reading -/

/-- The bytes of a character. -/
def bytesOf (c : Char) : List UInt8 := (String.singleton c).toUTF8.data.toList

/-- The ranges of bytes that a range of characters stands for: the bytes of both ends, with a range
from the last byte of one to the first byte of the other. -/
def byteRanges (low high : Char) : List (UInt8 × UInt8) :=
  let single (byte : UInt8) := (byte, byte)
  if low = high then (bytesOf low).map single
  else
    match (bytesOf low).getLast?, bytesOf high with
    | some last, first :: others =>
      (bytesOf low).dropLast.map single ++ (last, first) :: others.map single
    | _, _ => []

/-- The outcome of reading a class of characters. -/
inductive ClassReading where
  | closed (ranges : List (Char × Char)) (rest : List Char)
  /-- The closing bracket is missing. -/
  | unclosed
  /-- A range ends before it starts. -/
  | invalid

/-- Reads a class after its opening bracket and mark of negation. A closing bracket or a dash in
front stands for itself, and so does a dash at the end. The ranges so far are given from the last to
the first. -/
def readClass : (first inRange : Bool) → List (Char × Char) → List Char → ClassReading
  | _, _, _, [] => .unclosed
  | first, inRange, ranges, c :: rest =>
    if c = ']' ∧ !first then
      .closed (if inRange then ('-', '-') :: ranges else ranges).reverse rest
    else if c = '-' ∧ !first ∧ !inRange then readClass false true ranges rest
    else if inRange then
      match ranges with
      | (low, _) :: others =>
        if c < low then .invalid else readClass false false ((low, c) :: others) rest
      | [] => readClass false false [(c, c)] rest
    else readClass false false ((c, c) :: ranges) rest

/-- A choice that is being read: its finished branches, and the tokens in front of it, both from the
last to the first. -/
structure OpenChoice where
  branches : List (List GlobToken) := []
  before : List GlobToken

/-- A glob that is being read. -/
structure Draft where
  /-- The tokens of the branch that is being read, from the last to the first. -/
  tokens : List GlobToken := []
  /-- The choices around it, from the inside out. -/
  choices : List OpenChoice := []
  /-- The character that was read last. -/
  previous : Option Char := none
  /-- Whether an opening bracket starts a class, which it no longer does once a class was not
  closed. -/
  classes : Bool := true

namespace Draft

/-- Adds a token. -/
def push (token : GlobToken) (draft : Draft) : Draft :=
  { draft with tokens := token :: draft.tokens }

/-- Adds a character that stands for itself. -/
def pushChar (c : Char) (draft : Draft) : Draft := draft.push (.literal (bytesOf c))

/-- Records the character that was read last. -/
def behind (c : Char) (draft : Draft) : Draft := { draft with previous := some c }

/-- Starts a choice. -/
def openChoice (draft : Draft) : Draft :=
  { draft with tokens := [], choices := ⟨[], draft.tokens⟩ :: draft.choices }

/-- Ends a branch of the innermost choice; outside of a choice a comma stands for itself. -/
def comma (draft : Draft) : Draft :=
  match draft.choices with
  | [] => draft.pushChar ','
  | ⟨branches, before⟩ :: outer =>
    { draft with tokens := [], choices := ⟨draft.tokens.reverse :: branches, before⟩ :: outer }

/-- Ends the innermost choice. -/
def closeChoice? (draft : Draft) : Option Draft :=
  match draft.choices with
  | [] => none
  | ⟨branches, before⟩ :: outer =>
    let token := GlobToken.choice (draft.tokens.reverse :: branches).reverse
    some { draft with tokens := token :: before, choices := outer }

/-- Adds two single stars. -/
def pushStars (draft : Draft) : Draft := (draft.push .anyName).push .anyName

/-- Adds a double star that stands between separators, in place of the separator before it. -/
def pushDouble (isLast : Bool) (draft : Draft) : Draft :=
  match draft.tokens with
  | .leading :: _ => draft
  | .trailing :: _ => draft
  | tokens => { draft with tokens := (if isLast then .trailing else .between) :: tokens.drop 1 }

/-- Reads what follows a double star, which crosses separators only if it stands alone between
them. -/
def doubleStar (before : Option Char) (draft : Draft) (rest : List Char) : Draft × List Char :=
  let inChoice := !draft.choices.isEmpty
  if draft.tokens.isEmpty then
    match rest with
    | [] => (draft.push .leading, [])
    | '/' :: rest => ((draft.push .leading).behind '/', rest)
    | _ => (draft.pushStars, rest)
  else if before ≠ some '/' ∧ !(inChoice ∧ (before = some ',' ∨ before = some '\x7b')) then
    (draft.pushStars, rest)
  else
    match rest with
    | [] => (draft.pushDouble true, [])
    | '/' :: rest => ((draft.pushDouble false).behind '/', rest)
    | c :: _ =>
      if inChoice ∧ (c = ',' ∨ c = '\x7d') then (draft.pushDouble true, rest)
      else (draft.pushStars, rest)

/-- Reads a class after its opening bracket. -/
def characterClass (draft : Draft) (rest : List Char) : Option (Draft × List Char) :=
  let (negated, body) :=
    match rest with
    | '!' :: body => (true, body)
    | '^' :: body => (true, body)
    | _ => (false, rest)
  match readClass true false [] body with
  | .invalid => none
  | .unclosed => some (({ draft with classes := false }.pushChar '[').behind '[', rest)
  | .closed ranges rest =>
    let token := GlobToken.oneOf negated (ranges.flatMap fun range => byteRanges range.1 range.2)
    some ((draft.push token).behind ']', rest)

end Draft

/-- Reads the characters of a glob; `fuel` bounds their number. -/
def readAll : (fuel : Nat) → Draft → List Char → Option Draft
  | 0, _, _ => none
  | _ + 1, draft, [] => some draft
  | fuel + 1, draft, c :: rest =>
    let next := draft.behind c
    match c with
    | '?' => readAll fuel (next.push .anyByte) rest
    | '*' =>
      match rest with
      | '*' :: rest =>
        let (next, rest) := next.doubleStar draft.previous rest
        readAll fuel next rest
      | _ => readAll fuel (next.push .anyName) rest
    | '[' =>
      if draft.classes then do
        let (next, rest) ← next.characterClass rest
        readAll fuel next rest
      else readAll fuel (next.pushChar '[') rest
    | '\x7b' => readAll fuel next.openChoice rest
    | '\x7d' => do readAll fuel (← next.closeChoice?) rest
    | ',' => readAll fuel next.comma rest
    | '\\' =>
      match rest with
      | [] => none
      | escaped :: rest => readAll fuel ((next.pushChar escaped).behind escaped) rest
    | _ => readAll fuel (next.pushChar c) rest

/-- The glob that a text describes. -/
def parse? (text : List Char) : Option Glob := do
  let draft ← readAll (text.length + 1) {} text
  if draft.choices.isEmpty then return draft.tokens.reverse else none

end Glob

end SourceIndex
