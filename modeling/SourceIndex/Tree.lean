import SourceIndex.Language

/-!
# Syntax trees

A parsed source text is a tree of nodes. Each node has a kind, the name of the field under which its
parent holds it, and the span of bytes of the source that it covers.
-/

namespace SourceIndex

/-- A node of a syntax tree. -/
structure Node where
  kind : String
  /-- The field of the parent that holds the node. -/
  field : Option String
  /-- Whether the grammar names the node, as opposed to punctuation and keywords. -/
  named : Bool
  /-- Whether the node contains a syntax error. -/
  hasError : Bool
  /-- The first byte of the span. -/
  start : Nat
  /-- The first byte after the span. -/
  stop : Nat
  children : List Node

namespace Node

/-- A tree with nothing below its root. -/
def leaf (kind : String) (start stop : Nat) : Node := ⟨kind, none, true, false, start, stop, []⟩

instance : Inhabited Node := ⟨leaf "" 0 0⟩

/-- The first child held under a field. -/
def child? (node : Node) (field : String) : Option Node :=
  node.children.find? (·.field = some field)

/-- The children held under a field. -/
def childrenAt (node : Node) (field : String) : List Node :=
  node.children.filter (·.field = some field)

/-- The children that the grammar names. -/
def namedChildren (node : Node) : List Node := node.children.filter (·.named)

/-- Whether a child of some kind exists. -/
def hasChild (node : Node) (kind : String) : Bool := node.children.any (·.kind = kind)

/-- The text that a node covers. -/
def text? (source : String) (node : Node) : Option String :=
  String.fromUTF8? (source.toUTF8.extract node.start node.stop)

/-- The text of the first child held under a field. -/
def fieldText? (source : String) (node : Node) (field : String) : Option String :=
  (node.child? field).bind (·.text? source)

mutual

/-- The number of nodes of a tree. -/
def size : Node → Nat
  | ⟨_, _, _, _, _, _, children⟩ => 1 + sizeAll children

/-- The number of nodes of trees. -/
def sizeAll : List Node → Nat
  | [] => 0
  | node :: nodes => node.size + sizeAll nodes

end

/-- A node of a tree that is listed from the root down, with its distance from the root. -/
structure Row where
  depth : Nat
  node : Node

/-- The trees whose roots are at `depth` at the front of a list of rows, and the rows that follow;
`bound` limits the number of rows that are read. -/
def forest : (bound depth : Nat) → List Row → List Node × List Row
  | 0, _, rows => ([], rows)
  | _ + 1, _, [] => ([], [])
  | bound + 1, depth, row :: rows =>
    if row.depth < depth then ([], row :: rows)
    else
      let (children, rows) := forest bound (row.depth + 1) rows
      let (siblings, rows) := forest bound depth rows
      ({ row.node with children } :: siblings, rows)

/-- The tree that a list of rows describes. A row's parent is the nearest row before it that is one
step nearer to the root. -/
def ofRows? (rows : List Row) : Option Node := (forest rows.length 0 rows).1.head?

end Node

/-- A parser gives a syntax tree for every source text of a language. -/
abbrev Parser := Language → String → Node

end SourceIndex
