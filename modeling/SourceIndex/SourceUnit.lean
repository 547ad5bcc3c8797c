import SourceIndex.Config
import SourceIndex.Language

/-!
# Units

A unit is a function of a source file, with what was read off its syntax tree.
-/

namespace SourceIndex

/-- A function of a source file. -/
structure SourceUnit where
  /-- What identifies the unit in its file: the qualified name, or the first line of a unit without
  a name, with a suffix if that is taken. -/
  key : String
  name : String
  /-- The name with the names of the enclosing containers and units in front of it. -/
  qualifiedName : Option String
  startLine : UInt32
  endLine : UInt32
  byteSize : UInt64
  source : String
  /-- The digest of the source without its layout. -/
  hash : String
  parameters : String
  isAsync : Bool
  hasError : Bool
  /-- The names of the callees in order of first occurrence. -/
  calls : List String
  deriving DecidableEq, Repr

/-- A source file with its units in source order. -/
structure SourceFile where
  path : String
  language : Language
  units : List SourceUnit
  imports : List String
  deriving DecidableEq, Repr

namespace SourceUnit

/-- The name shown for a unit without one. -/
def anonymousName : String := "<anonymous>"

/-- Whether the unit has no name of its own. -/
def isAnonymous (unit : SourceUnit) : Bool := unit.qualifiedName.isNone

/-- The identifier of the unit of a file with some key. -/
def identifierOf (file key : String) : String := file ++ "#" ++ key

/-- The identifier of the unit in the index. -/
def identifier (unit : SourceUnit) (file : String) : String := identifierOf file unit.key

end SourceUnit

end SourceIndex
