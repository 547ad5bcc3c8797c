import SourceIndex.Text.Basic
import SourceIndex.Tree

/-!
# Grammars

What the nodes of a language's syntax trees mean for the index: which of them are units, calls,
imports and containers, and how names and parameters are read off them.
-/

namespace SourceIndex

/-- The meaning of the nodes of a language. -/
structure Grammar where
  /-- The kinds of nodes that define a unit, provided that they have a body. -/
  functionKinds : List String
  /-- The kinds of functions that may take their name from what they are bound to. -/
  anonymousKinds : List String := []
  /-- The kinds of nodes whose name qualifies the units inside. -/
  containerKinds : List String := []
  callKinds : List String
  importKinds : List String
  /-- The name of a function. -/
  functionName : (source : String) → Node → Option String :=
    fun source node => node.fieldText? source "name"
  /-- The name that a function without one takes from its parent. -/
  bindingName : (source : String) → (parent : Node) → Option String := fun _ _ => none
  /-- The name of a container. -/
  containerName : (source : String) → Node → Option String :=
    fun source node => node.fieldText? source "name"
  /-- The type to which a function belongs that is declared outside of it. -/
  receiver : (source : String) → Node → Option String := fun _ _ => none
  /-- The parameter list of a function. -/
  parameters : (source : String) → Node → String :=
    fun source node => ((node.fieldText? source "parameters").map Text.collapse).getD "()"
  /-- The text that names what a call node calls. -/
  callee : (source : String) → Node → Option String :=
    fun source node => node.fieldText? source "function"
  /-- The modules that an import node names. -/
  imports : (source : String) → Node → List String
  /-- The module that a call with some callee loads. -/
  loadedModule : (source : String) → Node → (callee : String) → Option String := fun _ _ _ => none
  /-- Whether a function is asynchronous. -/
  isAsync : Node → Bool := fun node => node.hasChild "async"

namespace Grammar

/-- Characters that enclose the name of a module. -/
def isQuote (c : Char) : Bool :=
  c == '"' || c == '\'' || c == Char.ofNat 96 || c == '<' || c == '>'

/-- A name without the white space and the quotes around it. -/
def unquote (text : String) : String :=
  String.ofList (Text.strip isQuote (Text.strip Text.isBlank text.toList))

/-- A type's name without its type arguments. -/
def baseType (text : String) : String :=
  String.ofList (Text.strip Text.isBlank (text.toList.takeWhile fun c => c ≠ '<' ∧ c ≠ '['))

/-- The text after all repetitions of `word` at its front; `bound` limits their number. -/
def dropWord (word : List Char) : (bound : Nat) → List Char → List Char
  | 0, text => text
  | bound + 1, text =>
    if word.isPrefixOf text then dropWord word bound (text.drop word.length) else text

end Grammar

end SourceIndex
