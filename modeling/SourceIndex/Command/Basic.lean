import SourceIndex.Command.Options
import SourceIndex.Config
import SourceIndex.Text.Reader

/-!
# Commands

What the program can be asked to do, and how arguments ask for it.
-/

namespace SourceIndex

/-- What the program is asked to do. -/
inductive Command where
  | analyze (init : Bool) (granularity : Option Granularity)
  | status
  | impact (name : String) (depth : Option Nat)
  | cycles
  | entryPoints (maxCallers : Option Nat)
  | leaves
  | clear
  | version
  deriving DecidableEq, Repr

/-- A command with the root of the tree that it is for. -/
structure Invocation where
  root : String
  verbose : Bool
  command : Command
  deriving DecidableEq, Repr

/-- What arguments ask for. -/
inductive Request where
  | invoke (invocation : Invocation)
  | help
  | invalid

namespace Command

/-- The names of the commands. -/
def names : List String :=
  ["analyze", "status", "impact", "cycles", "entry-points", "leaves", "clear", "version"]

/-- A count of sixty-four bits in decimal digits, with an optional plus sign. -/
def count? (text : String) : Option Nat :=
  let digits :=
    match text.toList with
    | '+' :: digits => digits
    | digits => digits
  let value := Text.decimalValue digits
  if digits ≠ [] ∧ digits.all Text.isDigit ∧ value < UInt64.size then some value else none

/-- The granularity that a text names. -/
def granularity? (text : String) : Option Granularity := (Granularity.parse text).toOption

/-- The options in front of the command. -/
def mainSpec : CommandSpec where
  options :=
    [{ long := "verbose", short := some 'v' },
     { long := "root", short := some 'r', takesValue := true,
       accepts := fun text => !text.isEmpty }]
  commands := "help" :: names

/-- The option with a count. -/
def countOption (long : String) (short : Option Char) : OptionSpec :=
  { long, short, takesValue := true, accepts := fun text => (count? text).isSome }

/-- What a command takes. -/
def specOf : (name : String) → CommandSpec
  | "analyze" =>
    { options :=
        [{ long := "init" },
         { long := "granularity", short := some 'g', takesValue := true,
           accepts := fun text => (granularity? text).isSome }] }
  | "impact" => { options := [countOption "depth" (some 'd')], operands := 1 }
  | "entry-points" => { options := [countOption "max-callers" none] }
  | _ => {}

/-- The command with a name and arguments. -/
def ofArguments? (name : String) (arguments : Arguments) : Option Command :=
  match name with
  | "analyze" =>
    some (.analyze (arguments.given "init") ((arguments.value? "granularity").bind granularity?))
  | "status" => some .status
  | "impact" =>
    arguments.operands.head?.map fun unit => .impact unit ((arguments.value? "depth").bind count?)
  | "cycles" => some .cycles
  | "entry-points" => some (.entryPoints ((arguments.value? "max-callers").bind count?))
  | "leaves" => some .leaves
  | "clear" => some .clear
  | "version" => some .version
  | _ => none

/-- Help on a command, if there is such a command. -/
def readHelp : List String → Request
  | [] => .help
  | [name] => if mainSpec.commands.contains name then .help else .invalid
  | _ => .invalid

/-- Reads a command and its arguments. -/
def readCommand (main : Arguments) (name : String) (texts : List String) : Request :=
  match Arguments.read (specOf name) texts with
  | .help => .help
  | .invalid => .invalid
  | .arguments own =>
    match ofArguments? name own with
    | some command =>
      .invoke ⟨(main.value? "root").getD ".", main.given "verbose", command⟩
    | none => .invalid

/-- Reads the arguments of the program. -/
def read (texts : List String) : Request :=
  match Arguments.read mainSpec texts with
  | .help => .help
  | .invalid => .invalid
  | .arguments main =>
    match main.command with
    | none => .invalid
    | some (name, rest) => if name = "help" then readHelp rest else readCommand main name rest

end Command

end SourceIndex
