import SourceIndex.Effect.Rules
import SourceIndex.Record
import SourceIndex.SourceUnit

/-!
# Records of units

The record of a unit adds to what was extracted a signature, the effects of its calls, and tags and
patterns that describe its role.
-/

namespace SourceIndex.SourceUnit

/-- Names of units that construct a value. -/
def constructorNames : List String := ["new", "__init__", "constructor", "__new__"]

/-- Names of units at which a program or a module starts. -/
def entryNames : List String := ["main", "init", "start"]

/-- The most lines of a unit that passes its work on. -/
def maxDelegateLines : UInt32 := 3

/-- The name and parameters on one line. -/
def signature (unit : SourceUnit) : String :=
  Text.collapse ((if unit.isAsync then "async " else "") ++ unit.name ++ unit.parameters)

/-- Whether what follows `test` in a name leaves `test` a word of its own. -/
def endsWord : List Char → Bool
  | [] => true
  | c :: _ => c == '_' || Text.isCapital c

/-- Whether a name is that of a test, such as `test_parse` and `testParse`, but not `testimony`. -/
def isTestName (name : String) : Bool :=
  match name.toList with
  | 't' :: 'e' :: 's' :: 't' :: rest => endsWord rest
  | 'T' :: 'e' :: 's' :: 't' :: rest => endsWord rest
  | _ => false

/-- Whether a file holds tests, by its directories and its name. -/
def isTestPath (path : String) : Bool :=
  let text := path.toList
  (Text.pieces (· == '/') text).any (fun segment =>
      ["test", "tests", "__tests__", "spec"].contains (String.ofList segment))
    || ["_test.", ".test.", ".spec."].any (fun mark => Text.hasInfix mark.toList text)
    || "test_".toList.isPrefixOf (Text.afterLast (· == '/') text)

/-- The name of the container or unit directly around a unit with a qualified name. -/
def owner? (qualifiedName : String) : Option String :=
  match qualifiedName.toList.reverse.span (· ≠ '.') with
  | (_, _ :: before) => some (String.ofList (before.takeWhile (· ≠ '.')).reverse)
  | (_, []) => none

/-- Whether a unit constructs a value: by its name, or because it is named like its owner. -/
def isConstructor (unit : SourceUnit) : Bool :=
  constructorNames.contains unit.name || unit.qualifiedName.bind owner? = some unit.name

/-- The tags of a unit of a file. -/
def tags (path : String) (unit : SourceUnit) : List String :=
  (if isTestName unit.name || isTestPath path then ["test"] else [])
    ++ (if unit.isConstructor then ["constructor"] else [])
    ++ (if entryNames.contains unit.name then ["entry"] else [])
    ++ (if unit.isAsync then ["async"] else [])
    ++ (if unit.isAnonymous then ["anonymous"] else [])

/-- Whether a named unit calls a unit of its own name. -/
def isRecursive (unit : SourceUnit) : Bool :=
  !unit.isAnonymous && unit.calls.any fun call =>
    String.ofList (Text.afterLast (fun c => c == '.' || c == ':') call.toList) = unit.name

/-- Whether a short unit makes a single call. -/
def isDelegate (unit : SourceUnit) : Bool :=
  unit.calls.length = 1 && unit.endLine - unit.startLine + 1 ≤ maxDelegateLines

/-- The patterns of a unit. -/
def patterns (unit : SourceUnit) : List String :=
  (if unit.isRecursive then ["recursive"] else [])
    ++ (if unit.isDelegate then ["delegate"] else [])

/-- The record of a unit of a file, with at most `maxCalls` of its calls. -/
def record (maxCalls : Nat) (file : SourceFile) (unit : SourceUnit) : Record where
  id := unit.identifier file.path
  name := unit.name
  file := file.path
  line := unit.startLine
  signature := unit.signature
  isAsync := unit.isAsync
  calls := unit.calls.take maxCalls
  effects := Effect.classify unit.calls file.imports
  tags := unit.tags file.path
  patterns := unit.patterns
  language := file.language

/-- A unit without a name is the node of its identifier, and any other unit that of its name. -/
theorem nodeName_record (maxCalls : Nat) (file : SourceFile) (unit : SourceUnit) :
    (unit.record maxCalls file).nodeName =
      if unit.isAnonymous then unit.identifier file.path else unit.name := by
  have tagged : (unit.record maxCalls file).tags.contains "anonymous" = unit.isAnonymous := by
    rw [record, tags]
    cases unit.isAnonymous <;> simp
  rw [Record.nodeName, tagged]
  rfl

end SourceIndex.SourceUnit

namespace SourceIndex.SourceFile

/-- The records of all units of a file, in source order. -/
def records (maxCalls : Nat) (file : SourceFile) : List Record :=
  file.units.map (·.record maxCalls file)

end SourceIndex.SourceFile
