import SourceIndex.Grammar.Basic

/-!
# Grammars of the indexed languages
-/

namespace SourceIndex.Grammar

/-- Rust: methods are qualified by the type they are implemented for, and macros are calls. -/
def rust : Grammar where
  functionKinds := ["function_item"]
  containerKinds := ["impl_item", "trait_item", "mod_item"]
  callKinds := ["call_expression", "macro_invocation"]
  importKinds := ["use_declaration"]
  containerName source node :=
    if node.kind = "impl_item" then (node.fieldText? source "type").map baseType
    else node.fieldText? source "name"
  callee source node :=
    if node.kind = "macro_invocation" then (node.fieldText? source "macro").map (· ++ "!")
    else node.fieldText? source "function"
  imports source node := ((node.fieldText? source "argument").map Text.collapse).toList
  isAsync node :=
    node.children.any fun child => child.kind = "function_modifiers" && child.hasChild "async"

/-- Python. -/
def python : Grammar where
  functionKinds := ["function_definition"]
  containerKinds := ["class_definition"]
  callKinds := ["call"]
  importKinds := ["import_statement", "import_from_statement"]
  imports source node :=
    if node.kind = "import_from_statement" then (node.fieldText? source "module_name").toList
    else
      (node.childrenAt "name").filterMap fun name =>
        if name.kind = "aliased_import" then name.fieldText? source "name" else name.text? source

/-- The name that a function takes from the variable, property or field it is bound to. -/
def ecmaBindingName (source : String) (parent : Node) : Option String :=
  if parent.kind = "variable_declarator" then
    (parent.child? "name").bind fun name =>
      if name.kind = "identifier" then name.text? source else none
  else if parent.kind = "assignment_expression" then
    (parent.fieldText? source "left").map fun left =>
      String.ofList (Text.afterLast (· == '.') left.toList)
  else if parent.kind = "pair" then (parent.fieldText? source "key").map unquote
  else if parent.kind = "field_definition" ∨ parent.kind = "public_field_definition" then
    (parent.fieldText? source "property").or (parent.fieldText? source "name")
  else none

/-- The parameters of a function, which may be a single name without parentheses. -/
def ecmaParameters (source : String) (node : Node) : String :=
  match node.fieldText? source "parameters" with
  | some parameters => Text.collapse parameters
  | none =>
    match node.fieldText? source "parameter" with
    | some single => "(" ++ single ++ ")"
    | none => "()"

/-- The module that a call of `require` with a string loads. -/
def requiredModule (source : String) (node : Node) (callee : String) : Option String :=
  if callee = "require" then do
    let arguments ← node.child? "arguments"
    let first ← arguments.namedChildren.head?
    if first.kind = "string" then (first.text? source).map unquote else none
  else none

/-- JavaScript. -/
def javascript : Grammar where
  functionKinds :=
    ["function_declaration", "generator_function_declaration", "method_definition",
     "arrow_function", "function_expression", "generator_function"]
  anonymousKinds := ["arrow_function", "function_expression", "generator_function"]
  containerKinds := ["class_declaration", "class"]
  callKinds := ["call_expression", "new_expression"]
  importKinds := ["import_statement"]
  bindingName := ecmaBindingName
  parameters := ecmaParameters
  callee source node :=
    if node.kind = "new_expression" then node.fieldText? source "constructor"
    else node.fieldText? source "function"
  imports source node := ((node.fieldText? source "source").map unquote).toList
  loadedModule := requiredModule

/-- TypeScript, which adds abstract classes. -/
def typescript : Grammar :=
  { javascript with
    containerKinds := ["class_declaration", "abstract_class_declaration", "class"] }

/-- The type of a method's receiver, without pointer and type arguments. -/
def receiverType (source : String) (node : Node) : Option String := do
  let receiver ← node.child? "receiver"
  let parameter ← receiver.namedChildren.head?
  let type ← parameter.fieldText? source "type"
  return baseType (String.ofList (type.toList.dropWhile (· == '*')))

/-- Go: methods are qualified by the type of their receiver. -/
def go : Grammar where
  functionKinds := ["function_declaration", "method_declaration", "func_literal"]
  anonymousKinds := ["func_literal"]
  callKinds := ["call_expression"]
  importKinds := ["import_spec"]
  receiver := receiverType
  imports source node := ((node.fieldText? source "path").map unquote).toList
  isAsync _ := false

/-- The module that an import declaration names, without the keywords around it. -/
def declaredImport (text : String) : String :=
  let body := Text.strip Text.isBlank text.toList
  let path := Text.strip Text.isBlank (dropWord "import".toList body.length body)
  let path := if "static ".toList.isPrefixOf path then path.drop 7 else path
  Text.collapse (String.ofList (Text.dropEnd (· == ';') path))

/-- Java: calls name their object, and creating an object calls its type. -/
def java : Grammar where
  functionKinds := ["method_declaration", "constructor_declaration"]
  containerKinds :=
    ["class_declaration", "interface_declaration", "enum_declaration", "record_declaration"]
  callKinds := ["method_invocation", "object_creation_expression"]
  importKinds := ["import_declaration"]
  callee source node :=
    if node.kind = "object_creation_expression" then (node.fieldText? source "type").map baseType
    else
      (node.fieldText? source "name").map fun name =>
        match node.fieldText? source "object" with
        | some object => object ++ "." ++ name
        | none => name
  imports source node := ((node.text? source).map declaredImport).toList
  isAsync _ := false

/-- The function declarator that a declarator leads to through pointers and references; `bound`
limits the number of steps. -/
def functionDeclarator? : (bound : Nat) → Node → Option Node
  | 0, _ => none
  | bound + 1, declarator =>
    if declarator.kind = "function_declarator" then some declarator
    else
      ((declarator.child? "declarator").or declarator.namedChildren.head?).bind
        (functionDeclarator? bound)

/-- The function declarator of a definition. -/
def definedDeclarator? (node : Node) : Option Node :=
  (node.child? "declarator").bind (functionDeclarator? 8)

/-- C: a function's name and parameters are found in its declarator. -/
def c : Grammar where
  functionKinds := ["function_definition"]
  callKinds := ["call_expression"]
  importKinds := ["preproc_include"]
  functionName source node :=
    (definedDeclarator? node).bind fun declarator => declarator.fieldText? source "declarator"
  parameters source node :=
    (((definedDeclarator? node).bind fun declarator =>
      declarator.fieldText? source "parameters").map Text.collapse).getD "()"
  imports source node := ((node.fieldText? source "path").map unquote).toList
  isAsync _ := false

/-- C++, which adds classes and namespaces. -/
def cpp : Grammar :=
  { c with containerKinds := ["class_specifier", "struct_specifier", "namespace_definition"] }

/-- The grammar of a language. -/
def ofLanguage : Language → Grammar
  | .rust => rust
  | .typescript | .tsx => typescript
  | .javascript => javascript
  | .python => python
  | .go => go
  | .java => java
  | .c => c
  | .cpp => cpp

end SourceIndex.Grammar
