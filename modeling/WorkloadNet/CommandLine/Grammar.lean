import WorkloadNet.Address.Cidr
import WorkloadNet.Settings

/-!
# Grammars of command lines

A command line is read at a level. A level has switches, which are given or not, parameters, which are given
with a value after their name, operands, which are values without a name, and commands, each with a level of
its own for what follows it. A command line without fault says something; `Fault` lists the other things
that it can come to.
-/

namespace WorkloadNet.CommandLine

/-- What a command line comes to that says nothing. -/
inductive Fault where
  /-- It asks for help. -/
  | help
  /-- It lacks everything, and gets help. -/
  | helpOnNothing
  /-- It asks for the version. -/
  | version
  /-- An argument is not known where it stands. -/
  | unknownArgument
  /-- There is no such command. -/
  | invalidSubcommand
  /-- A command is missing. -/
  | missingSubcommand
  /-- An argument is missing. -/
  | missingRequired
  /-- A value is missing, or is none of those possible. -/
  | invalidValue
  /-- A value does not read as what it should be. -/
  | valueValidation
  /-- A switch is given with a value. -/
  | tooManyValues
  /-- An argument is repeated. -/
  | argumentConflict
  deriving DecidableEq, Repr

namespace Fault

/-- The wording of a fault. -/
def text : Fault → String
  | help => "help is asked for"
  | helpOnNothing => "nothing is asked for"
  | version => "the version is asked for"
  | unknownArgument => "unexpected argument"
  | invalidSubcommand => "unrecognized subcommand"
  | missingSubcommand => "a subcommand is required but one was not provided"
  | missingRequired => "a required argument was not provided"
  | invalidValue => "a value is missing or not possible"
  | valueValidation => "invalid value"
  | tooManyValues => "unexpected value for a switch"
  | argumentConflict => "an argument cannot be used multiple times"

/-- Whether it is what was asked for. -/
def isAnswer (fault : Fault) : Bool := fault = help || fault = version

end Fault

/-! ## Values -/

/-- What a value has to read as. -/
inductive Reading where
  /-- Any text. -/
  | text
  /-- A path; not the empty one. -/
  | path
  /-- A number of at most 64 bits. -/
  | number
  /-- An IPv4 address. -/
  | v4
  /-- An address of either family. -/
  | host
  /-- A subnet. -/
  | subnet
  /-- One of these names. -/
  | choice (names : List String)
  deriving DecidableEq, Repr

/-- Reads a number of at most 64 bits. -/
def number? (text : String) : Option Nat := Text.unsigned? Settings.maxSeconds text.toList

/-- Reads a subnet. -/
def subnet? (text : String) : Option Cidr := (Cidr.ofText text).toOption

namespace Reading

/-- Whether a value reads as something. -/
def check (reading : Reading) (value : String) : Except Fault Unit :=
  let validated (known : Bool) := if known then Except.ok () else .error Fault.valueValidation
  match reading with
  | text => .ok ()
  | path => if value = "" then .error .invalidValue else .ok ()
  | number => validated (number? value).isSome
  | v4 => validated (V4.ofText? value).isSome
  | host => validated (Host.ofText? value).isSome
  | subnet => validated (subnet? value).isSome
  | choice names => if names.contains value then .ok () else .error .invalidValue

end Reading

/-! ## Arguments -/

/-- Whether an argument has to be given. -/
inductive Need where
  /-- It may be left out. -/
  | optional
  /-- It has to be given. -/
  | required
  /-- It has to be given when another one is not. -/
  | requiredWithout (other : String)
  deriving DecidableEq, Repr

/-- An argument with a value. An operand has no names. -/
structure Parameter where
  /-- What its values are found under. -/
  key : String
  /-- The names that stand after two dashes. -/
  names : List String := []
  /-- The letter that stands after one dash. -/
  letter : Option Char := none
  /-- What a value has to read as. -/
  reading : Reading := .text
  /-- Whether it may be repeated, and several values may stand between commas. -/
  many : Bool := false
  /-- Whether it has to be given. -/
  need : Need := .optional
  deriving DecidableEq, Repr

/-- What giving a switch does. -/
inductive Effect where
  /-- It is noted. -/
  | noted
  /-- Help is asked for. -/
  | help
  /-- The version is asked for. -/
  | version
  deriving DecidableEq, Repr

/-- An argument without a value. -/
structure Switch where
  /-- The name that stands after two dashes; what it is found under. -/
  name : String
  /-- The letter that stands after one dash. -/
  letter : Option Char := none
  /-- What giving it does. -/
  effect : Effect := .noted
  deriving DecidableEq, Repr

/-- What may stand on a command line from some point on. -/
structure Level where
  /-- The arguments without a value. -/
  switches : List Switch := []
  /-- The arguments with a value. -/
  parameters : List Parameter := []
  /-- The values without a name, in order. -/
  operands : List Parameter := []
  /-- The commands and what may follow them. -/
  commands : List (String × Level) := []

namespace Level

/-- The level of a command. -/
def command? (level : Level) (name : String) : Option Level := level.commands.lookup name

/-- The command that asks for help on others; every level with commands has it. -/
def helpCommand : String := "help"

/-- Whether a text names a command of a level, that for help included. -/
def isCommand (level : Level) (name : String) : Bool :=
  (level.command? name).isSome || (name = helpCommand && !level.commands.isEmpty)

/-- The parameter of a name. -/
def parameter? (level : Level) (name : String) : Option Parameter :=
  level.parameters.find? fun p => p.names.contains name

/-- The parameter of a letter. -/
def parameterOf? (level : Level) (letter : Char) : Option Parameter :=
  level.parameters.find? fun p => p.letter = some letter

/-- The switch of a name. -/
def switch? (level : Level) (name : String) : Option Switch :=
  level.switches.find? fun s => s.name = name

/-- The switch of a letter. -/
def switchOf? (level : Level) (letter : Char) : Option Switch :=
  level.switches.find? fun s => s.letter = some letter

/-- How a parameter is given. -/
def parameterUsage (p : Parameter) : String :=
  match p.names with
  | [] => "<" ++ p.key ++ ">"
  | name :: _ => "--" ++ name ++ " <value>"

/-- How the arguments of a level are given. -/
def usage (level : Level) : List String :=
  level.operands.map parameterUsage ++ level.parameters.map parameterUsage ++
    level.switches.map fun s => "--" ++ s.name

/-- How the commands of a level are given, a line each. -/
def commandUsages (level : Level) : List String :=
  level.commands.map fun (name, inner) => " ".intercalate (name :: inner.usage)

end Level

end WorkloadNet.CommandLine
