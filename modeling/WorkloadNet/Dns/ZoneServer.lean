import WorkloadNet.Dns.Corefile
import WorkloadNet.Program.Supervised

/-!
# Zone servers

A zone is served by a program of its own, which is started on a file with its settings. The file is there
as long as the server; dropping the server stops the program and removes the file.
-/

namespace WorkloadNet.Dns

open Program

/-- A zone server that has been started. -/
structure ZoneServer where
  /-- The program. -/
  process : Supervised
  /-- The text that the program read. -/
  settings : String
  /-- Whether the file with that text is still there. -/
  filed : Bool := true

namespace ZoneServer

/-- The name of the program. -/
def program : String := "coredns"

/-- Starts a zone server; `course` is that of the program, if it is installed. -/
def start (s : ForwarderSettings) (course : Option Course) : Except Failure ZoneServer := do
  let settings ← corefile s
  match course with
  | none => .error (.notFound "binary" program)
  | some course => return { process := { course }, settings }

/-- Stops the program. -/
def stop (s : ZoneServer) : ZoneServer := { s with process := s.process.stop }

/-- Waits for the end of the program. -/
def wait (s : ZoneServer) : Option ExitStatus × ZoneServer :=
  let (status, process) := s.process.wait
  (status, { s with process })

/-- Drops a server. -/
def drop (s : ZoneServer) : ZoneServer := { s.stop with filed := false }

end ZoneServer

end WorkloadNet.Dns
