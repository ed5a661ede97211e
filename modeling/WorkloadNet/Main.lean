import WorkloadNet.CommandLine.Run
import WorkloadNet.Firewall.Store

/-!
# The program

An invocation is carried out on a machine and a packet filter in memory, which are empty at first. Only the
settings file and the resolver file are read.
-/

namespace WorkloadNet.CommandLine

/-- Reads a file into a tree, if it can be read. -/
def readInto (files : Text.FileTree) (path : String) : IO Text.FileTree := do
  try
    return files.addFile path (← IO.FS.readBinFile path)
  catch _ => return files

/-- The files that an invocation may look at. -/
def filesOf (i : Invocation) : List String :=
  let given := match i.command with
    | .forwardDns _ resolvConf _ _ _ => resolvConf.toList
    | _ => []
  i.settings.toList ++ given ++ [({} : Settings).resolvConf]

/-- The lines that an outcome prints. -/
def linesOf : Outcome → List String
  | .printed lines => lines
  | _ => []

/-- Carries out an invocation. -/
def carryOut (i : Invocation) : IO UInt32 := do
  let files ← (filesOf i).foldlM readInto {}
  match (i.run Firewall.Store.backend { files } { filter := Firewall.Store.empty }).1 with
  | .ok outcome =>
    (linesOf outcome).forM IO.println
    return 0
  | .error failure =>
    IO.eprintln ("Error: " ++ failure.message)
    return 1

/-- Carries out what arguments ask for. -/
def carryOutArguments (arguments : List String) : IO UInt32 := do
  match Invocation.ofArguments arguments with
  | .ok i => carryOut i
  | .error fault =>
    if fault.isAnswer then
      grammar.commandUsages.forM IO.println
      return 0
    else
      IO.eprintln ("error: " ++ fault.text)
      return 2

end WorkloadNet.CommandLine

/-- Runs the program on its arguments. -/
def main (arguments : List String) : IO UInt32 :=
  WorkloadNet.CommandLine.carryOutArguments arguments
