import SourceIndex.Json.Decode
import SourceIndex.Tree

/-!
# Listed syntax trees

A syntax tree as a document: the list of its nodes from the root down, each an array of its depth,
kind, field, flags, start and end. The flags are 1 for a named node, plus 2 for one with an error.
-/

namespace SourceIndex.Node

/-- A number without a bound that matters. -/
def number? (document : Json) : Option Nat := document.natural? UInt64.size

/-- The row of a listed node. -/
def Row.ofJson? : Json → Option Row
  | .array [depth, kind, field, flags, start, stop] => do
    let flags ← number? flags
    let node : Node :=
      { kind := ← kind.text?
        field := ← Json.option? Json.text? field
        named := flags % 2 = 1
        hasError := flags / 2 % 2 = 1
        start := ← number? start
        stop := ← number? stop
        children := [] }
    return ⟨← number? depth, node⟩
  | _ => none

/-- The tree that a document lists. -/
def ofJson? (document : Json) : Option Node := do ofRows? (← document.list? Row.ofJson?)

end SourceIndex.Node
