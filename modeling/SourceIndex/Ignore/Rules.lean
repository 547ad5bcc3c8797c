import SourceIndex.Ignore.Glob
import SourceIndex.Path

/-!
# Ignore rules

Lines that name the files and folders to leave out. A later line wins over an earlier one, and a
line with an exclamation mark takes files in again.
-/

namespace SourceIndex

/-- A rule of an ignore file. -/
structure IgnoreRule where
  glob : Glob
  /-- Whether the rule takes files in instead of leaving them out. -/
  negated : Bool
  foldersOnly : Bool

/-- What a line of an ignore file says. -/
inductive IgnoreLine where
  | nothing
  | invalid
  | rule (rule : IgnoreRule)

namespace IgnoreRule

/-- Whether a glob begins with a double star of its own. -/
def startsDouble (text : List Char) : Bool := "**/".toList.isPrefixOf text || text = "**".toList

/-- The glob text of a rule. One without a separator applies in every folder, and one that ends in a
double star does not apply to the folder in front of it. -/
def globText (anchored : Bool) (text : List Char) : List Char :=
  let text :=
    if anchored || text.contains '/' || startsDouble text then text else "**/".toList ++ text
  if "/**".toList.isSuffixOf text then text ++ "/*".toList else text

/-- The rule of a line without its marks in front. A separator at the end restricts it to
folders. -/
def ofBody (negated anchored : Bool) (body : List Char) : IgnoreLine :=
  let (foldersOnly, text) :=
    match body.reverse with
    | '/' :: '\\' :: before => (true, before.reverse)
    | '/' :: before => (true, before.reverse)
    | _ => (false, body)
  match Glob.parse? (globText anchored text) with
  | some glob => .rule ⟨glob, negated, foldersOnly⟩
  | none => .invalid

/-- Reads the marks in front of a rule: an exclamation mark negates it, and a separator anchors it
to the root. A backslash takes its meaning from an exclamation mark or a number sign. -/
def ofMarked (line : List Char) : IgnoreLine :=
  match line with
  | '\\' :: '!' :: rest => ofBody false false ('!' :: rest)
  | '\\' :: '#' :: rest => ofBody false false ('#' :: rest)
  | '!' :: '/' :: rest => ofBody true true rest
  | '!' :: rest => ofBody true false rest
  | '/' :: rest => ofBody false true rest
  | _ => ofBody false false line

/-- What a line says. White space at its end does not count unless a backslash keeps it. -/
def ofLine (line : List Char) : IgnoreLine :=
  if line.head? = some '#' then .nothing
  else
    let line := if "\\ ".toList.isSuffixOf line then line else Text.dropEnd Text.isBlank line
    if line.isEmpty then .nothing else ofMarked line

/-- Whether a rule applies to a path. -/
def applies (rule : IgnoreRule) (path : List UInt8) (isFolder : Bool) : Bool :=
  (!rule.foldersOnly || isFolder) && rule.glob.describes path

end IgnoreRule

/-- Rules in the order in which they were given. -/
abbrev IgnoreRules := List IgnoreRule

namespace IgnoreRules

/-- The rules of lines, of which invalid ones are skipped. -/
def ofLines (lines : List (List Char)) : IgnoreRules :=
  lines.filterMap fun line =>
    match IgnoreRule.ofLine line with
    | .rule rule => some rule
    | _ => none

/-- The rules of patterns that all have to be valid. -/
def ofPatterns? : List String → Option IgnoreRules
  | [] => some []
  | pattern :: patterns =>
    match IgnoreRule.ofLine pattern.toList with
    | .nothing => ofPatterns? patterns
    | .invalid => none
    | .rule rule => (ofPatterns? patterns).map (rule :: ·)

/-- The lines of a file up to the first one that is not text. -/
def textLines : List (List UInt8) → List String
  | [] => []
  | line :: lines =>
    match String.fromUTF8? (ByteArray.mk line.toArray) with
    | some text => text :: textLines lines
    | none => []

/-- The bytes of each line. A line feed ends a line, together with a carriage return in front of
it. -/
def byteLines : List UInt8 → List (List UInt8)
  | [] => []
  | 10 :: rest => [] :: byteLines rest
  | 13 :: 10 :: rest => [] :: byteLines rest
  | byte :: rest =>
    match byteLines rest with
    | [] => [[byte]]
    | line :: lines => (byte :: line) :: lines

/-- The rules of an ignore file. Byte order marks in front of it are skipped. -/
def ofFile (content : ByteArray) : IgnoreRules :=
  let lines := (textLines (byteLines content.data.toList)).map String.toList
  match lines with
  | [] => []
  | first :: others => ofLines (first.dropWhile (· = '\ufeff') :: others)

/-- What the last rule that applies says of a path: whether it is left out. -/
def verdict? (rules : IgnoreRules) (names : List String) (isFolder : Bool) : Option Bool :=
  let path := (Path.key names).toUTF8.data.toList
  (rules.reverse.find? fun rule => rule.applies path isFolder).map fun rule => !rule.negated

/-- The folders above a path, from the inside out, and the root. The names are given from the last
to the first. -/
def parents : (reversed : List String) → List (List String)
  | [] => []
  | _ :: above => above.reverse :: parents above

/-- Whether the rules leave out a path. If none applies to it, those that apply to the folders above
it count. -/
def ignores (rules : IgnoreRules) (names : List String) (isFolder : Bool) : Bool :=
  let verdicts :=
    rules.verdict? names isFolder :: (parents names.reverse).map fun above =>
      rules.verdict? above true
  (verdicts.findSome? id).getD false

end IgnoreRules

end SourceIndex
