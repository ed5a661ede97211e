import WorkloadNet.Program.Supervised
import WorkloadNet.Text.Decimal

/-!
# Scripts

A script is a sequence of commands. A command is a sequence of words between blanks; it ends at a semicolon or
at the end of a line, and one that follows `&&` or `||` is passed over when the command before it failed or
succeeded. Quotes and backslashes take from characters what they mean otherwise. `Script.endOf` tells how a
script ends whose commands are among a few that start nothing.
-/

namespace WorkloadNet.Program

/-- When a command is carried out. -/
inductive Condition where
  /-- In any case. -/
  | always
  /-- When the command before it succeeded. -/
  | succeeded
  /-- When the command before it failed. -/
  | failed
  deriving DecidableEq, Repr

/-- Whether a command is carried out after a command with this code. -/
def Condition.holds : Condition → Nat → Bool
  | always, _ => true
  | succeeded, code => code = 0
  | failed, code => code ≠ 0

/-- A script: commands, each with its condition and its words. -/
abbrev Script := List (Condition × List String)

namespace Script

/-! ## Reading -/

/-- What has been read of a script. -/
structure Draft where
  /-- The commands before, last one first. -/
  commands : Script := []
  /-- The condition of the command that is read. -/
  condition : Condition := .always
  /-- Its words before, last one first. -/
  words : List String := []
  /-- The characters of the word that is read, last one first. -/
  word : Option (List Char) := none

namespace Draft

/-- A character of a word is read. -/
def push (c : Char) (p : Draft) : Draft := { p with word := some (c :: p.word.getD []) }

/-- A word has begun, with a quote. -/
def begun (p : Draft) : Draft := { p with word := some (p.word.getD []) }

/-- The word that is read ends. -/
def endWord (p : Draft) : Draft :=
  match p.word with
  | none => p
  | some word => { p with words := String.ofList word.reverse :: p.words, word := none }

/-- The command that is read ends, and one with this condition begins. -/
def endCommand (next : Condition) (p : Draft) : Draft :=
  let p := p.endWord
  { commands := (p.condition, p.words.reverse) :: p.commands, condition := next }

end Draft

/-- The characters that a backslash keeps between double quotes. -/
def keptInQuotes : List Char := ['$', '\x60', '"', '\\']

/-- Reads the rest of a script. The quote is the one that has not been closed; there is no script when that
is never closed. -/
def read (p : Draft) : (quote : Option Char) → List Char → Option Script
  | none, [] => some (p.endCommand .always).commands.reverse
  | some _, [] => none
  | some '\'', c :: rest => if c = '\'' then read p none rest else read (p.push c) (some '\'') rest
  | some quote, '\\' :: c :: rest =>
    if keptInQuotes.contains c then read (p.push c) (some quote) rest
    else read ((p.push '\\').push c) (some quote) rest
  | some quote, c :: rest =>
    if c = quote then read p none rest else read (p.push c) (some quote) rest
  | none, '\\' :: c :: rest => if c = '\n' then read p none rest else read (p.push c) none rest
  | none, '&' :: '&' :: rest => read (p.endCommand .succeeded) none rest
  | none, '|' :: '|' :: rest => read (p.endCommand .failed) none rest
  | none, c :: rest =>
    if c = ' ' ∨ c = '\t' then read p.endWord none rest
    else if c = ';' ∨ c = '\n' then read (p.endCommand .always) none rest
    else if c = '\'' ∨ c = '"' then read p.begun (some c) rest
    else read (p.push c) none rest

/-- The script that a text spells. -/
def ofText? (text : String) : Option Script := read {} none text.toList

/-! ## What it comes to -/

/-- The code of a script that cannot be read and of an argument that is no number. -/
def misuse : Nat := 2

/-- The code of a command that is not known. -/
def unknown : Nat := 127

/-- The signals by name. -/
def signals : List (String × Nat) :=
  [("HUP", 1), ("INT", 2), ("QUIT", 3), ("KILL", 9), ("USR1", 10), ("USR2", 12), ("TERM", 15)]

/-- The signal of an option. -/
def signal? (option : String) : Option Nat :=
  match option.toList with
  | '-' :: name => (Text.decimal? name).or (signals.lookup (String.ofList name))
  | _ => none

/-- The commands that succeed whatever they are given. -/
def quiet : List String := [":", "true", "echo", "printf", "cat"]

/-- What a command comes to after a command with this code: a code, or the end of the script. -/
def outcome (code : Nat) : List String → Except ExitStatus Nat
  | [] => .ok code
  | ["exit"] => .error (.code code)
  | "exit" :: given :: _ =>
    .error (.code ((Text.decimal? given.toList).getD misuse % 256))
  | ["kill", "$$"] => .error (.signal terminate)
  | ["kill", option, "$$"] =>
    match signal? option with
    | some signal => .error (.signal signal)
    | none => .ok misuse
  | "false" :: _ => .ok 1
  | command :: _ => .ok (if quiet.contains command then 0 else unknown)

/-- How a script ends after a command with this code. -/
def endAfter (code : Nat) : Script → ExitStatus
  | [] => .code code
  | (condition, words) :: rest =>
    if condition.holds code then
      match outcome code words with
      | .error status => status
      | .ok code => endAfter code rest
    else endAfter code rest

/-- How the script that a text spells ends. -/
def endOf (text : String) : ExitStatus :=
  match ofText? text with
  | some script => script.endAfter 0
  | none => .code misuse

end Script

end WorkloadNet.Program
