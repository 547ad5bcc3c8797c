/-!
# Options

How arguments are split into options, their values and operands. An option has a long name and maybe
a letter; letters can be joined, and a value can be attached or follow as an argument of its own.
-/

namespace SourceIndex

/-- An option that a command takes. -/
structure OptionSpec where
  long : String
  short : Option Char := none
  /-- Whether the option takes a value. -/
  takesValue : Bool := false
  /-- Whether a value is acceptable. -/
  accepts : String → Bool := fun _ => true

/-- What a command takes: options, commands of its own, and a number of operands. -/
structure CommandSpec where
  options : List OptionSpec := []
  commands : List String := []
  operands : Nat := 0

/-- The arguments of a command. -/
structure Arguments where
  /-- The options that were given, by long name, with their values. -/
  options : List (String × String) := []
  operands : List String := []
  /-- The command that was named, and the arguments behind it. -/
  command : Option (String × List String) := none

/-- The outcome of reading arguments. -/
inductive ArgumentReading where
  | arguments (arguments : Arguments)
  /-- Help was asked for before anything was wrong. -/
  | help
  | invalid

namespace Arguments

/-- The value of an option that was given. -/
def value? (arguments : Arguments) (long : String) : Option String :=
  arguments.options.lookup long

/-- Whether an option was given. -/
def given (arguments : Arguments) (long : String) : Bool := (arguments.value? long).isSome

/-- Adds an option, which must not be given twice and whose value must be acceptable. -/
def add? (arguments : Arguments) (spec : OptionSpec) (value : String) : Option Arguments :=
  if arguments.given spec.long || !spec.accepts value then none
  else some { arguments with options := arguments.options ++ [(spec.long, value)] }

/-- Adds an operand, unless there are enough. -/
def addOperand? (arguments : Arguments) (spec : CommandSpec) (value : String) :
    Option Arguments :=
  if arguments.operands.length < spec.operands then
    some { arguments with operands := arguments.operands ++ [value] }
  else none

/-- What one argument leads to. -/
inductive Step where
  | next (arguments : Arguments)
  /-- The option takes the next argument as its value. -/
  | wants (arguments : Arguments) (spec : OptionSpec)
  | help
  | invalid

/-- Continues with arguments to which something could be added. -/
def Step.ofOption : Option Arguments → Step
  | some arguments => .next arguments
  | none => .invalid

/-- Reads an argument with a long name, which may have a value attached. -/
def readLong (spec : CommandSpec) (arguments : Arguments) (text : List Char) : Step :=
  let (name, attached) := text.span (· ≠ '=')
  let name := String.ofList name
  if name = "help" then if attached.isEmpty then .help else .invalid
  else
    match spec.options.find? (·.long = name), attached with
    | none, _ => .invalid
    | some option, [] =>
      if option.takesValue then .wants arguments option else .ofOption (arguments.add? option "")
    | some option, _ :: value =>
      if option.takesValue then .ofOption (arguments.add? option (String.ofList value))
      else .invalid

/-- Reads joined letters. The rest behind a letter that takes a value is its value. -/
def readShort (spec : CommandSpec) : Arguments → List Char → Step
  | arguments, [] => .next arguments
  | arguments, c :: rest =>
    if c = 'h' then .help
    else
      match spec.options.find? (·.short = some c) with
      | none => .invalid
      | some option =>
        if option.takesValue then
          match rest with
          | [] => .wants arguments option
          | '=' :: value => .ofOption (arguments.add? option (String.ofList value))
          | value => .ofOption (arguments.add? option (String.ofList value))
        else
          match arguments.add? option "" with
          | some arguments => readShort spec arguments rest
          | none => .invalid

/-- Reads an argument that is not a command. -/
def readOne (spec : CommandSpec) (arguments : Arguments) (text : String) : Step :=
  match text.toList with
  | '-' :: '-' :: name => readLong spec arguments name
  | '-' :: c :: rest => readShort spec arguments (c :: rest)
  | _ => .ofOption (arguments.addOperand? spec text)

/-- Whether an argument can be the value of the option before it. -/
def isValue (text : String) : Bool :=
  match text.toList with
  | '-' :: _ :: _ => false
  | _ => true

/-- Adds all that follows a double dash as operands. -/
def addOperands (spec : CommandSpec) : Arguments → List String → ArgumentReading
  | arguments, [] => .arguments arguments
  | arguments, text :: rest =>
    match arguments.addOperand? spec text with
    | some arguments => addOperands spec arguments rest
    | none => .invalid

/-- Reads arguments up to the name of a command. -/
def readAll (spec : CommandSpec) : Arguments → List String → ArgumentReading
  | arguments, [] => .arguments arguments
  | arguments, text :: rest =>
    if spec.commands.contains text then
      .arguments { arguments with command := some (text, rest) }
    else if text = "--" then addOperands spec arguments rest
    else
      match readOne spec arguments text, rest with
      | .help, _ => .help
      | .invalid, _ => .invalid
      | .next arguments, rest => readAll spec arguments rest
      | .wants _ _, [] => .invalid
      | .wants arguments option, value :: rest =>
        if isValue value then
          match arguments.add? option value with
          | some arguments => readAll spec arguments rest
          | none => .invalid
        else .invalid

/-- Reads the arguments of a command. -/
def read (spec : CommandSpec) (texts : List String) : ArgumentReading := readAll spec {} texts

end Arguments

end SourceIndex
