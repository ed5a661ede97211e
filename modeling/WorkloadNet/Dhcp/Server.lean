import WorkloadNet.Dhcp.Document
import WorkloadNet.Program.Installed

/-!
# Lease servers

A lease server runs a lease engine and owns the file with its leases. Stopping it closes the engine, waits
for its end and removes the file; what fails on the way is passed over, and stopping again does nothing. A
server that is dropped is stopped.

The engine is a program of its own, or, for dry runs, a recorder that only keeps what it was asked to do.
-/

namespace WorkloadNet.Dhcp

open Program

/-- An entry in the log of a recorder. -/
inductive Entry where
  /-- What it was asked to do. -/
  | call (name : String)
  /-- The directives that it was started with. -/
  | directives (directives : List Directive)
  deriving DecidableEq, Repr

/-- The name of the program that is the lease engine. -/
def engineProgram : String := "coredhcp"

/-- What the document is called that the lease engine reads. -/
def documentName : String := "coredhcp.yml"

/-- A lease engine. -/
inductive Engine where
  /-- A recorder; the calls that fail are given with their messages. -/
  | recorder (failing : List (String × String))
  /-- A program that takes this course. -/
  | program (course : Course)
  /-- The program at a path. -/
  | located (path : String)
  /-- The lease engine, where none is installed. -/
  | uninstalled

/-- A lease engine that has been started. -/
inductive Daemon where
  /-- A recorder. -/
  | recorder (failing : List (String × String))
  /-- A program, and the document that it read. -/
  | program (process : Supervised) (document : String)

/-- What a call to a recorder comes to. -/
def recorded (failing : List (String × String)) (name : String) : Except Failure Unit :=
  match failing.lookup name with
  | some message => .error (.kernel name message)
  | none => .ok ()

/-- A lease server, with the log of its recorder and whether its lease file is there. -/
structure LeaseServer where
  /-- The engine, once it has been started. -/
  daemon : Daemon
  /-- The path of the lease file. -/
  leaseFile : String
  /-- Whether the lease file is there. -/
  filed : Bool := false
  /-- Whether the server has been stopped. -/
  stopped : Bool := false
  /-- The log of a recorder, in order. -/
  log : List Entry := []

/-- Starts an engine. The log is kept also when that fails. -/
def Engine.start (s : LeaseSettings) (directives : List Directive) :
    Engine → Except Failure Daemon × List Entry
  | recorder failing =>
    match recorded failing "start" with
    | .error failure => (.error failure, [.call "start"])
    | .ok () => (.ok (.recorder failing), [.call "start", .directives directives])
  | program course =>
    match document s with
    | .error failure => (.error failure, [])
    | .ok document => (.ok (.program { course } document), [])
  | located path =>
    match document s, Program.start path ["-conf", documentName] with
    | .error failure, _ => (.error failure, [])
    | _, .error failure => (.error failure, [])
    | .ok document, .ok process => (.ok (.program process document), [])
  | uninstalled => (.error (.notFound "binary" engineProgram), [])

namespace LeaseServer

/-- Starts a server. -/
def start (s : LeaseSettings) (engine : Engine) : Except Failure LeaseServer × List Entry :=
  match refused s.directives with
  | .error failure => (.error failure, [])
  | .ok directives =>
    match engine.start s directives with
    | (.error failure, log) => (.error (.context "failed to start DHCP server" failure), log)
    | (.ok daemon, log) => (.ok { daemon, leaseFile := s.leaseFile, log }, log)

/-- Closes the engine. -/
def close (s : LeaseServer) : Except Failure Unit × LeaseServer :=
  match s.daemon with
  | .recorder failing => (recorded failing "close", { s with log := s.log ++ [.call "close"] })
  | .program process document => (.ok (), { s with daemon := .program process.stop document })

/-- What the end of the engine comes to: an error, unless it succeeded or was stopped. -/
def judge (p : Supervised) (status : ExitStatus) : Except Failure Unit :=
  if status.success || p.stopped then .ok ()
  else .error (.kernel engineProgram ("exited with " ++ status.text))

/-- Waits for the end of the engine; nothing when there is none. -/
def wait (s : LeaseServer) : Option (Except Failure Unit) × LeaseServer :=
  match s.daemon with
  | .recorder failing => (some (recorded failing "wait"), { s with log := s.log ++ [.call "wait"] })
  | .program process document =>
    let (status, process) := process.wait
    (status.map (judge process), { s with daemon := .program process document })

/-- Stops a server. -/
def stop (s : LeaseServer) : LeaseServer :=
  if s.stopped then s
  else
    let s := { s with stopped := true }
    let s := s.close.2
    let s := s.wait.2
    { s with filed := false }

/-- The document that the engine read. -/
def seen (s : LeaseServer) : Option String :=
  match s.daemon with
  | .recorder _ => none
  | .program _ document => some document

end LeaseServer

end WorkloadNet.Dhcp
