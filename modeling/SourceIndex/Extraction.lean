import SourceIndex.Callee
import SourceIndex.Grammar.Tables
import SourceIndex.SourceUnit

/-!
# Extraction

A syntax tree is walked from the root down over its named nodes, with a list of nodes that are still
to be visited. Nodes of a function kind with a body give units; a call belongs to the innermost unit
around it.
-/

namespace SourceIndex.Extraction

/-- A name qualified by the scope around it. -/
def qualify (scope : Option String) (name : String) : String :=
  match scope with
  | some scope => if scope = "" then name else scope ++ "." ++ name
  | none => name

/-- A node to visit. -/
structure Frame where
  node : Node
  parent : Option Node
  /-- The qualified name of the innermost container or named unit around the node. -/
  scope : Option String
  /-- The number of the innermost unit around the node. -/
  owner : Option Nat

/-- A unit before its key is chosen and its calls are known. -/
structure Draft where
  node : Node
  name : String
  qualifiedName : Option String

/-- What a visit of a node can find. -/
inductive Finding where
  | unit (draft : Draft)
  | call (owner : Nat) (callee : String)
  | imported (name : String)

variable (grammar : Grammar) (source : String)

/-- Whether a node defines a unit. -/
def isUnit (node : Node) : Bool :=
  grammar.functionKinds.contains node.kind && (node.child? "body").isSome

/-- The name with which a function is declared, with dots between its parts. -/
def declaredName? (parent : Option Node) (node : Node) : Option String :=
  let own := grammar.functionName source node
  let bound :=
    if grammar.anonymousKinds.contains node.kind then parent.bind (grammar.bindingName source)
    else none
  ((own.or bound).map fun name =>
    String.ofList (Text.replacePair ':' ':' '.' (Text.strip Text.isBlank name.toList))).filter
      (· ≠ "")

/-- The scope of a function's name: the one around it, and in it the receiver. -/
def nameScope (scope : Option String) (node : Node) : Option String :=
  match grammar.receiver source node with
  | some receiver => some (qualify scope receiver)
  | none => scope

/-- The unit that a node defines. -/
def draft (frame : Frame) : Draft :=
  match declaredName? grammar source frame.parent frame.node with
  | none => ⟨frame.node, SourceUnit.anonymousName, none⟩
  | some declared =>
    let name := String.ofList (Text.afterLast (· == '.') declared.toList)
    ⟨frame.node, name, some (qualify (nameScope grammar source frame.scope frame.node) declared)⟩

/-- What the children of a node are visited with, and what is found at the node itself. -/
structure Visit where
  scope : Option String
  owner : Option Nat
  findings : List Finding

/-- The calls and modules found at a call node. -/
def callFindings (frame : Frame) : List Finding :=
  match grammar.callee source frame.node with
  | none => []
  | some raw =>
    ((grammar.loadedModule source frame.node raw).map Finding.imported).toList
      ++ (match frame.owner, Callee.name? raw with
          | some owner, some callee => [Finding.call owner callee]
          | _, _ => [])

/-- Visits a node; `count` is the number of units found before. -/
def visit (frame : Frame) (count : Nat) : Visit :=
  if isUnit grammar frame.node then
    let found := draft grammar source frame
    ⟨found.qualifiedName.or frame.scope, some count, [.unit found]⟩
  else if grammar.containerKinds.contains frame.node.kind then
    match grammar.containerName source frame.node with
    | some name => ⟨some (qualify frame.scope name), frame.owner, []⟩
    | none => ⟨frame.scope, frame.owner, []⟩
  else if grammar.callKinds.contains frame.node.kind then
    ⟨frame.scope, frame.owner, callFindings grammar source frame⟩
  else if grammar.importKinds.contains frame.node.kind then
    ⟨frame.scope, frame.owner, (grammar.imports source frame.node).map Finding.imported⟩
  else ⟨frame.scope, frame.owner, []⟩

/-- The frames of the named children of a visited node. -/
def childFrames (frame : Frame) (visit : Visit) : List Frame :=
  frame.node.namedChildren.map fun child => ⟨child, some frame.node, visit.scope, visit.owner⟩

/-- The findings of the frames to visit and of everything below them, in source order. `fuel` bounds
the number of visits, and `count` is the number of units found before. -/
def walk : (fuel : Nat) → List Frame → (count : Nat) → List Finding
  | 0, _, _ => []
  | _ + 1, [], _ => []
  | fuel + 1, frame :: frames, count =>
    let visited := visit grammar source frame count
    let count := if isUnit grammar frame.node then count + 1 else count
    visited.findings ++ walk fuel (childFrames frame visited ++ frames) count

/-- The findings of a tree. -/
def findings (root : Node) : List Finding :=
  walk grammar source root.size [⟨root, none, none, none⟩] 0

/-- The number of the line of a byte of the source, counted from one. -/
def lineNumber (source : String) (offset : Nat) : Nat :=
  ((source.toUTF8.extract 0 offset).data.toList.filter (· == 10)).length + 1

/-- The line of a byte of the source, as it is stored. -/
def lineAt (source : String) (offset : Nat) : UInt32 := UInt32.ofNat (lineNumber source offset)

/-- A key with the line and a number behind it. -/
def numberedKey (base : String) (line : UInt32) (number : Nat) : String :=
  s!"{base}@{line.toNat}.{number}"

/-- The first numbered key from `number` on that is not used; `bound` limits the search. -/
def freeKey (used : List String) (base : String) (line : UInt32) : (bound number : Nat) → String
  | 0, number => numberedKey base line number
  | bound + 1, number =>
    if used.contains (numberedKey base line number) then freeKey used base line bound (number + 1)
    else numberedKey base line number

/-- A key that is not used: the given one, or else one with the line and perhaps a number. -/
def uniqueKey (used : List String) (base : String) (line : UInt32) : String :=
  if used.contains base then
    let marked := s!"{base}@{line.toNat}"
    if used.contains marked then freeKey used base line used.length 2 else marked
  else base

/-- The unit of a draft with the number `index`. -/
def finish (digest : Digest) (calls : List (Nat × String)) (used : List String) (index : Nat)
    (draft : Draft) : SourceUnit :=
  let startLine := lineAt source draft.node.start
  let text := (draft.node.text? source).getD ""
  { key := uniqueKey used (draft.qualifiedName.getD (toString startLine.toNat)) startLine
    name := draft.name
    qualifiedName := draft.qualifiedName
    startLine
    endLine := lineAt source draft.node.stop
    byteSize := UInt64.ofNat text.utf8ByteSize
    source := text
    hash := digest.ofSource text
    parameters := grammar.parameters source draft.node
    isAsync := grammar.isAsync draft.node
    hasError := draft.node.hasError
    calls := Text.firstOccurrences
      (calls.filterMap fun call => if call.1 = index then some call.2 else none) }

/-- The units of drafts in order; each key avoids those before it. -/
def finishAll (digest : Digest) (calls : List (Nat × String)) :
    (used : List String) → (index : Nat) → List Draft → List SourceUnit
  | _, _, [] => []
  | used, index, draft :: drafts =>
    let unit := finish grammar source digest calls used index draft
    unit :: finishAll digest calls (unit.key :: used) (index + 1) drafts

/-- The drafts among findings. -/
def drafts (findings : List Finding) : List Draft :=
  findings.filterMap fun finding =>
    match finding with
    | .unit draft => some draft
    | _ => none

/-- The calls among findings, with the numbers of their units. -/
def calls (findings : List Finding) : List (Nat × String) :=
  findings.filterMap fun finding =>
    match finding with
    | .call owner callee => some (owner, callee)
    | _ => none

/-- The imported modules among findings. -/
def imports (findings : List Finding) : List String :=
  findings.filterMap fun finding =>
    match finding with
    | .imported name => some name
    | _ => none

/-- The units and imports of a parsed source text. -/
def ofTree (grammar : Grammar) (digest : Digest) (path : String) (language : Language)
    (source : String) (root : Node) : SourceFile :=
  let found := findings grammar source root
  { path
    language
    units := finishAll grammar source digest (calls found) [] 0 (drafts found)
    imports := Text.firstOccurrences ((imports found).filter (· ≠ "")) }

end SourceIndex.Extraction

namespace SourceIndex.SourceFile

/-- The units and imports of the content of a file, or nothing if it is not UTF-8 text. -/
def ofContent? (parser : Parser) (digest : Digest) (path : String) (language : Language)
    (content : ByteArray) : Option SourceFile :=
  (String.fromUTF8? content).map fun source =>
    Extraction.ofTree (Grammar.ofLanguage language) digest path language source
      (parser language source)

end SourceIndex.SourceFile
