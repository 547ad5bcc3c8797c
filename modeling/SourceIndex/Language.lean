import SourceIndex.Path

/-!
# Languages

The languages whose source files are indexed, told apart by file extension.
-/

namespace SourceIndex

/-- An indexed language. -/
inductive Language where
  | rust
  | typescript
  | tsx
  | javascript
  | python
  | go
  | java
  | c
  | cpp
  deriving DecidableEq, Repr

namespace Language

/-- All languages. -/
def all : List Language := [rust, typescript, tsx, javascript, python, go, java, c, cpp]

/-- The name by which records refer to a language. -/
def name : Language → String
  | rust => "rust"
  | typescript => "typescript"
  | tsx => "tsx"
  | javascript => "javascript"
  | python => "python"
  | go => "go"
  | java => "java"
  | c => "c"
  | cpp => "cpp"

/-- The file extensions of a language. -/
def extensions : Language → List String
  | rust => ["rs"]
  | typescript => ["ts", "mts", "cts"]
  | tsx => ["tsx"]
  | javascript => ["js", "jsx", "mjs", "cjs"]
  | python => ["py", "pyi"]
  | go => ["go"]
  | java => ["java"]
  | c => ["c", "h"]
  | cpp => ["cpp", "cc", "cxx", "hpp", "hh", "hxx"]

/-- The language with a name. -/
def ofName? (name : String) : Option Language := all.find? (·.name = name)

/-- The language of an extension. -/
def ofExtension? (extension : String) : Option Language :=
  all.find? (·.extensions.contains extension)

/-- The language of the file at a path. -/
def ofPath? (path : String) : Option Language := (Path.extension? path).bind ofExtension?

/-- A name refers to one language. -/
@[simp] theorem ofName?_name (language : Language) : ofName? language.name = some language := by
  cases language <;> decide

end Language

end SourceIndex
