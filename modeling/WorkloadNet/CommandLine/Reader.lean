import WorkloadNet.CommandLine.Grammar

/-!
# Reading command lines

Arguments are read one after the other. The value of a parameter is looked at only when the next argument
has been recognized, or at the end; so an unknown argument is reported before a bad value in front of it.
After two dashes alone every argument is an operand.

What is found is a list of keys with values, innermost level first: a key that is given at several levels
has the value of the innermost one.
-/

namespace WorkloadNet.CommandLine

/-- The values found, by key. -/
abbrev Found := List (String × List String)

/-- How far a level has been read. -/
structure Progress where
  /-- The values found. -/
  found : Found := []
  /-- The parameter read last, and its value if that has been read. -/
  pending : Option (Parameter × Option String) := none
  /-- The number of operands read. -/
  operands : Nat := 0
  /-- Whether only operands follow. -/
  trailing : Bool := false

namespace Progress

/-- Notes values under a key. -/
def note (p : Progress) (key : String) (values : List String) : Progress :=
  { p with found := p.found ++ [(key, values)] }

/-- The values that the text of a parameter gives. -/
def values (parameter : Parameter) (text : String) : List String :=
  if parameter.many then (text.toList.splitOnP (· = ',')).map String.ofList else [text]

/-- Looks at the value of a parameter. -/
def store (p : Progress) (parameter : Parameter) (text : String) : Except Fault Progress := do
  if !parameter.many && (p.found.lookup parameter.key).isSome then throw .argumentConflict
  let values := values parameter text
  values.forM parameter.reading.check
  return p.note parameter.key values

/-- Looks at the value of the parameter read last. -/
def settle (p : Progress) : Except Fault Progress :=
  match p.pending with
  | none => .ok p
  | some (_, none) => .error .invalidValue
  | some (parameter, some text) => { p with pending := none }.store parameter text

/-- Whether the next argument is a value, unless it is an argument of its own. -/
def awaits (p : Progress) : Option Parameter :=
  match p.pending with
  | some (parameter, none) => if p.trailing then none else some parameter
  | _ => none

/-- Reads a switch. -/
def switch (p : Progress) (s : Switch) : Except Fault Progress := do
  let p ← p.settle
  match s.effect with
  | .help => throw .help
  | .version => throw .version
  | .noted =>
    if (p.found.lookup s.name).isSome then throw .argumentConflict
    return p.note s.name []

/-- Reads the name of a parameter, with the value that is attached to it if there is one. -/
def parameter (p : Progress) (parameter : Parameter) (attached : Option String) :
    Except Fault Progress := do
  let p ← p.settle
  match attached with
  | some text => p.store parameter text
  | none => return { p with pending := some (parameter, none) }

/-- Reads a value that stands alone. -/
def operand (p : Progress) (level : Level) (text : String) : Except Fault Progress := do
  match p.awaits with
  | some parameter => return { p with pending := some (parameter, some text) }
  | none =>
    match level.operands[p.operands]? with
    | some parameter =>
      let p ← p.settle
      return { p with pending := some (parameter, some text), operands := p.operands + 1 }
    | none =>
      if level.commands.isEmpty || (p.trailing && level.isCommand text) then throw .unknownArgument
      throw .invalidSubcommand

/-- Reads an argument that begins with two dashes: a name, with a value after an equals sign if there is
one. -/
def long (p : Progress) (level : Level) (text : List Char) : Except Fault Progress :=
  let name := String.ofList (text.takeWhile (· ≠ '='))
  let attached := match text.dropWhile (· ≠ '=') with
    | [] => none
    | _ :: value => some (String.ofList value)
  match level.parameter? name, level.switch? name, attached with
  | some parameter, _, attached => p.parameter parameter attached
  | none, some s, none => p.switch s
  | none, some _, some _ => .error .tooManyValues
  | none, none, _ => .error .unknownArgument

/-- The value that is attached to a letter; an equals sign in front does not count. -/
def attached? : List Char → Option String
  | [] => none
  | '=' :: value => some (String.ofList value)
  | value => some (String.ofList value)

/-- Reads letters after one dash: switches, and a parameter with what follows it as its value. -/
def letters (p : Progress) (level : Level) : List Char → Except Fault Progress
  | [] => .ok p
  | letter :: rest =>
    match level.parameterOf? letter, level.switchOf? letter with
    | some parameter, _ => p.parameter parameter (attached? rest)
    | none, some s => do (← p.switch s).letters level rest
    | none, none => .error .unknownArgument

/-- Reads an argument. -/
def argument (p : Progress) (level : Level) (text : String) : Except Fault Progress :=
  if p.trailing then p.operand level text
  else
    match text.toList with
    | ['-', '-'] => .ok { p with trailing := true }
    | '-' :: '-' :: name => p.long level name
    | '-' :: letter :: rest => p.letters level (letter :: rest)
    | _ => p.operand level text

end Progress

/-! ## Levels -/

/-- Whether an argument that has to be given is missing. -/
def isMissing (found : Found) (parameter : Parameter) : Bool :=
  (found.lookup parameter.key).isNone &&
    match parameter.need with
    | .optional => false
    | .required => true
    | .requiredWithout other => (found.lookup other).isNone

/-- What a level comes to at the end of the command line, given whether a command was read. -/
def Progress.finish (p : Progress) (level : Level) (commanded : Bool) : Except Fault Found := do
  let p ← p.settle
  if !commanded && !level.commands.isEmpty then
    throw (if p.found.isEmpty then .helpOnNothing else .missingSubcommand)
  if (level.operands ++ level.parameters).any (isMissing p.found) then throw .missingRequired
  return p.found

/-- What a request for help on commands comes to. -/
def helpOn (level : Level) : List String → Fault
  | [] => .help
  | name :: rest =>
    match level.command? name with
    | some inner => helpOn inner rest
    | none =>
      if name = Level.helpCommand ∧ !level.commands.isEmpty ∧ rest = [] then .help
      else .invalidSubcommand

/-- A command line that has been read. -/
structure Line where
  /-- The commands, outermost first. -/
  path : List String
  /-- The values found, innermost level first. -/
  found : Found
  deriving DecidableEq, Repr

/-- Reads arguments at a level that has been read this far. -/
def read (level : Level) (p : Progress) : List String → Except Fault Line
  | [] => do return ⟨[], ← p.finish level false⟩
  | text :: rest =>
    if p.trailing || p.awaits.isSome || !level.isCommand text then do
      read level (← p.argument level text) rest
    else
      match level.command? text with
      | none => .error (helpOn level rest)
      | some inner => do
        let line ← read inner {} rest
        return ⟨text :: line.path, line.found ++ (← p.finish level true)⟩

/-- Reads the arguments of a program. -/
def Line.ofArguments (level : Level) (arguments : List String) : Except Fault Line :=
  read level {} arguments

end WorkloadNet.CommandLine
