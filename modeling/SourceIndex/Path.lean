import SourceIndex.Text.Basic

/-!
# Paths

A path is text with `/` between its components. For the name of a file, repeated and trailing
separators and inner `.` components do not count. For the way to a file they do: they stay in place,
which is possible only in a folder.
-/

namespace SourceIndex.Path

/-- One step of a path. -/
inductive Component where
  /-- The leading `/`. -/
  | root
  /-- `.`, which stays in place. -/
  | here
  /-- `..` -/
  | up
  | name (text : String)
  deriving DecidableEq, Repr

/-- The component that a piece between separators stands for; empty pieces and `.` stand for
none. -/
def Component.ofPiece? (piece : List Char) : Option Component :=
  if piece = [] ∨ piece = ['.'] then none
  else if piece = ['.', '.'] then some .up
  else some (.name (String.ofList piece))

/-- The components of a path, in order. -/
def components (path : String) : List Component :=
  let parts := Text.pieces (· == '/') path.toList
  let front : List Component :=
    if path.toList.head? = some '/' then [.root]
    else if parts.head? = some ['.'] then [.here]
    else []
  front ++ parts.filterMap Component.ofPiece?

/-- The step that a piece between separators stands for. -/
def Component.step (piece : List Char) : Component := (Component.ofPiece? piece).getD .here

/-- The steps on the way along a path, one for each piece between separators. -/
def steps (path : String) : List Component :=
  let front : List Component := if path.toList.head? = some '/' then [.root] else []
  front ++ (Text.pieces (· == '/') path.toList).map Component.step

/-- The names among the components. -/
def names (components : List Component) : List String :=
  components.filterMap fun component =>
    match component with
    | .name text => some text
    | _ => none

/-- Whether a path starts at the root. -/
def isAbsolute (path : String) : Bool := path.toList.head? = some '/'

/-- `relative` seen from `base`; an absolute path stands for itself. -/
def join (base relative : String) : String :=
  if isAbsolute relative then relative
  else
    match base.toList.getLast? with
    | none => relative
    | some '/' => base ++ relative
    | some _ => base ++ "/" ++ relative

/-- The last component, if it is a name. -/
def fileName? (path : String) : Option String :=
  match (components path).getLast? with
  | some (.name text) => some text
  | _ => none

/-- The text after the last dot of a file name; a dot in front does not start an extension. -/
def extensionOfName? (name : String) : Option String :=
  match name.toList.reverse.span (· ≠ '.') with
  | (_, []) => none
  | (_, [_]) => none
  | (ending, _ :: _ :: _) => some (String.ofList ending.reverse)

/-- The extension of the file name of a path. -/
def extension? (path : String) : Option String := (fileName? path).bind extensionOfName?

/-- The components of `path` below `root`, if `root` leads to it component by component. -/
def below? : (root path : List Component) → Option (List Component)
  | [], path => some path
  | _ :: _, [] => none
  | r :: root, c :: path => if r = c then below? root path else none

/-- Names joined by `/`. -/
def key (names : List String) : String :=
  String.ofList (Text.join ['/'] (names.map String.toList))

/-- The key of a file in the index: its names below `root` joined by `/`, or all its names if it
does not lie below `root`. -/
def relativeKey (root path : String) : String :=
  let own := components path
  key (names ((below? (components root) own).getD own))

end SourceIndex.Path
