import WorkloadNet.Address.Host
import WorkloadNet.Text.Blank
import WorkloadNet.Text.File
import WorkloadNet.Text.Line

/-!
# Resolver files

A resolver file names servers in lines whose first field is `nameserver` and whose second field is an
address. What follows `#` or `;` is a comment. Lines of any other form are skipped, and so are servers
with an IPv6 address. Each line stands for itself, so the servers of a text are those of its lines, in
order.
-/

namespace WorkloadNet.Dns

open Text

/-- The port that servers of a resolver file are asked at. -/
def serverPort : Nat := 53

/-- A line up to the first comment mark. -/
def withoutComment (line : List Char) : List Char :=
  line.takeWhile fun c => c ≠ '#' && c ≠ ';'

/-- The server that a line names. -/
def serverOfLine (line : List Char) : Option Endpoint :=
  match blankFields (withoutComment line) with
  | word :: address :: _ =>
    if word = "nameserver".toList then
      (V4.ofChars? address).map fun address => .ofV4 address serverPort
    else none
  | _ => none

/-- The servers that a resolver file names, in order, repetitions kept. -/
def nameservers (text : List Char) : List Endpoint :=
  (lines text).filterMap serverOfLine

/-- A set of servers as it is published, in the order of the file. -/
structure ServerSet where
  /-- The servers. -/
  endpoints : List Endpoint
  /-- Why the file could not be read, or why the publication ended. -/
  failure : Option Failure
  deriving BEq

namespace ServerSet

/-- Whether this is the last value of a publication. -/
def isTerminal (u : ServerSet) : Bool :=
  match u.failure with
  | some (.watchTerminated _) => true
  | _ => false

/-- The servers of a file. A file that cannot be read has none, and the failure is kept. -/
def ofFile (path : String) (content : FileContent) : ServerSet :=
  match readFile path content with
  | .ok text => ⟨nameservers text.toList, none⟩
  | .error failure => ⟨[], some failure⟩

/-- The last value of a publication. -/
def terminal (reason : String) : ServerSet := ⟨[], some (.watchTerminated reason)⟩

end ServerSet

end WorkloadNet.Dns
