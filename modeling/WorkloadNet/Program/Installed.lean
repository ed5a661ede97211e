import WorkloadNet.Program.Script
import WorkloadNet.Text.FileTree

/-!
# Installed programs

A program is found by its name in the folders for programs, or by a path with folders of its own, and started
with arguments. Only the small programs that dry runs start are installed: they succeed, fail, wait for a time,
or carry out a script.
-/

namespace WorkloadNet.Program

/-! ## Courses -/

/-- Whether an argument says how long to sleep. -/
def isTime (argument : String) : Bool :=
  let digits := argument.toList.filter fun c => c ≠ '.'
  (Text.decimal? digits).isSome && argument.toList.length ≤ digits.length + 1

/-- The course of a sleep. -/
def sleep (arguments : List String) : Course :=
  if arguments = [] ∨ ¬ arguments.all isTime then .ends (.code 1) else .lasts (.code 0)

/-- The course of a shell. -/
def shell : List String → Course
  | ["-c"] => .ends (.code Script.misuse)
  | "-c" :: script :: _ => .ends (Script.endOf script)
  | _ => .ends (.code 0)

/-- The small programs, and the courses they take with arguments. -/
def programs : List (String × (List String → Course)) :=
  [("true", fun _ => .ends (.code 0)), ("false", fun _ => .ends (.code 1)), ("sleep", sleep),
    ("sh", shell), ("echo", fun _ => .ends (.code 0)), ("cat", fun _ => .ends (.code 0))]

/-! ## Places -/

/-- The folders in which programs are looked for, in order. -/
def folders : List String := ["/usr/bin", "/bin"]

/-- The files where the small programs are installed. -/
def installed : Text.FileTree :=
  let paths := folders.flatMap fun folder => programs.map fun (name, _) => Text.Path.join folder name
  let devices := Text.FileTree.addFile "/dev/null" .empty {}
  paths.foldl (fun files path => files.add path (.file .empty true)) devices

/-- Whether a path leads to a program. -/
def isProgram (path : String) : Bool :=
  match installed.openPath path with
  | .ok (.file _ runs) => runs
  | _ => false

/-- Finds a program. -/
def find (name : String) : Except Failure String :=
  let paths := if 1 < (Text.Path.components name).length then [name]
    else folders.map fun folder => Text.Path.join folder name
  match paths.find? isProgram with
  | some path => .ok path
  | none => .error (.notFound "binary" name)

/-! ## Starting -/

/-- Whether the program at a path can be started, or why not. -/
def checkStart (path : String) : Except IoCause Unit := do
  match ← installed.lookUp path with
  | .file _ true => return ()
  | _ => throw (.system errPermission)

/-- The path that a program to be started is at: a name alone is looked for in the folders. -/
def located (path : String) : String :=
  if path = "" ∨ path.contains '/' then path
  else
    let paths := folders.map fun folder => Text.Path.join folder path
    (paths.find? isProgram).getD (paths.headD path)

/-- Starts the program at a path. -/
def start (path : String) (arguments : List String) : Except Failure Supervised := do
  if (path :: arguments).any fun text => text.contains '\x00' then
    throw (.io path (.other "nul byte found in provided data"))
  (checkStart (located path)).mapError (.io path)
  let name := (Text.Path.base? path).getD ""
  return { course := ((programs.lookup name).map (· arguments)).getD (.ends (.code 0)) }

end WorkloadNet.Program
