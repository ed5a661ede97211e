/-!
# Supervised processes

A process runs its course: it ends by itself, at once or after a while, or not at all. It is stopped at
most once: a process that has not ended is then told to terminate, and its end is waited for. However often
its end is waited for, the status is the same.
-/

namespace WorkloadNet.Program

/-- How a process ended. -/
inductive ExitStatus where
  /-- With a code. -/
  | code (code : Nat)
  /-- By a signal. -/
  | signal (signal : Nat)
  deriving DecidableEq, Repr

namespace ExitStatus

/-- Whether it ended without an error. -/
def success (s : ExitStatus) : Bool := s = code 0

/-- The wording of a status. -/
def text : ExitStatus → String
  | code n => "exit status: " ++ toString n
  | signal n => "signal: " ++ toString n

end ExitStatus

/-- The signal that tells a process to terminate. -/
def terminate : Nat := 15

/-- The course of a process that is left alone. -/
inductive Course where
  /-- It ends at once. -/
  | ends (status : ExitStatus)
  /-- It runs for a while before it ends. -/
  | lasts (status : ExitStatus)
  /-- It does not end. -/
  | stays
  deriving DecidableEq, Repr

namespace Course

/-- How it ends when it is left alone. -/
def status? : Course → Option ExitStatus
  | ends status => some status
  | lasts status => some status
  | stays => none

/-- How it ends when it is told to terminate soon after it began. -/
def terminated : Course → ExitStatus
  | ends status => status
  | _ => .signal terminate

end Course

/-- A process that has been started. -/
structure Supervised where
  /-- Its course. -/
  course : Course
  /-- Whether it has been stopped. -/
  stopped : Bool := false
  /-- How it ended, once that is known. -/
  status : Option ExitStatus := none
  deriving Repr

namespace Supervised

/-- Stops a process. -/
def stop (p : Supervised) : Supervised :=
  if p.stopped then p
  else { p with stopped := true, status := some (p.status.getD p.course.terminated) }

/-- Waits for the end of a process; nothing when there is none. -/
def wait (p : Supervised) : Option ExitStatus × Supervised :=
  let status := p.status.or p.course.status?
  (status, { p with status })

end Supervised

end WorkloadNet.Program
