import WorkloadNet.Dns.Members
import WorkloadNet.Dns.ResolverFile
import WorkloadNet.Text.FileTree
import WorkloadNet.Text.Quoted

/-!
# Watching a resolver file

The directory of the file is watched. The set of servers is published when the watch begins, and again
whenever the file has changed and now names other servers, counted with repetitions. The last publication
tells why the watch ended.

`published` is what is published when nothing ends the watch. `Watching` is the watch step by step: it
shares a channel of one place with a reader, may be cancelled at any time, and chooses freely between what
it could do next; `Watching.move?` says what each step does.
-/

namespace WorkloadNet.Dns.Watch

/-- What the watch on a directory reports. -/
inductive Report where
  /-- The watch met an error. -/
  | failed
  /-- Files of these names were touched; `access` when they were only read. The resolver file now reads
  as given. -/
  | touched (access : Bool) (names : List String) (now : ServerSet)

/-- Whether a folder can be watched, or why not. -/
def checkFolder (files : Text.FileTree) (folder : String) : Except IoCause Unit := do
  if folder.contains '\x00' then throw (.other "data provided contains a nul byte")
  let _ ← files.lookUp folder

/-- The name of the watched file, if it has one and the folder that holds it can be watched. -/
def begin (files : Text.FileTree) (path : String) : Except Failure String :=
  match Text.Path.base? path with
  | none => .error (.config (path ++ " names no file"))
  | some base =>
    let folder := Text.Path.folder path
    match checkFolder files folder with
    | .ok () => .ok base
    | .error cause => .error (.kernel ("watch " ++ folder)
      (cause.text ++ " about [" ++ Text.quoted folder ++ "]"))

/-- What the file reads as after a report that concerns it. -/
def Report.reading? (base : String) : Report → Option ServerSet
  | failed => none
  | touched access names now => if !access && names.contains base then some now else none

/-- The set to publish after a report: what the file reads as, when its servers differ from the current
ones. -/
def change? (base : String) (current : List Endpoint) (report : Report) : Option ServerSet :=
  (report.reading? base).filter fun next => !sameMembers current next.endpoints

/-- The sets that are published on reports. -/
def changes (base : String) (current : List Endpoint) : List Report → List ServerSet
  | [] => []
  | report :: rest =>
    match change? base current report with
    | some next => next :: changes base next.endpoints rest
    | none => changes base current rest

/-- The sets that are published, given what the file reads as first. -/
def published (base : String) (first : ServerSet) (reports : List Report) : List ServerSet :=
  first :: changes base first.endpoints reports

/-- The servers in use after a publication; the last one leaves them as they are. -/
def installed (servers : List Endpoint) (u : ServerSet) : List Endpoint :=
  if u.isTerminal then servers else u.endpoints

/-- The servers in use after publications. -/
def follow (servers : List Endpoint) (sets : List ServerSet) : List Endpoint :=
  sets.foldl installed servers

/-! ## Step by step -/

/-- Where a watch stands. -/
inductive Phase where
  /-- It publishes its first set. -/
  | opening (first : ServerSet)
  /-- It waits for reports. -/
  | waiting
  /-- It publishes another set. -/
  | offering (next : ServerSet)
  /-- It publishes why it ends. -/
  | closing (reason : String)
  /-- It has ended. -/
  | ended

/-- A watch, its channel and its reader. -/
structure Watching where
  /-- Where it stands. -/
  phase : Phase
  /-- The servers of the set published last. -/
  current : List Endpoint
  /-- The reports that it has not looked at. -/
  pending : List Report := []
  /-- Whether no more reports will come. -/
  closed : Bool := false
  /-- Whether it has been cancelled. -/
  cancelled : Bool := false
  /-- The set in the channel. -/
  channel : Option ServerSet := none
  /-- The sets that the reader has taken, in order. -/
  received : List ServerSet := []

namespace Watching

/-- A watch on a file that reads as given. -/
def start (first : ServerSet) : Watching := { phase := .opening first, current := first.endpoints }

/-- What may happen next. -/
inductive Move where
  /-- The watch is cancelled. -/
  | cancel
  /-- A report arrives. -/
  | report (report : Report)
  /-- The watch on the directory ends. -/
  | close
  /-- The watch looks at the next report, or sees that none will come. -/
  | look
  /-- The watch puts a set into the channel. -/
  | send
  /-- The watch sees that it has been cancelled. -/
  | heed
  /-- The reader takes the set in the channel. -/
  | read

/-- Why a cancelled watch ends. -/
def cancelledReason : String := "cancelled"

/-- Why a watch ends whose reports have ended. -/
def closedReason : String := "watcher closed"

/-- The watch after a move, if the move is possible. -/
def move? (base : String) (w : Watching) : Move → Option Watching
  | .cancel => some { w with cancelled := true }
  | .report report => if w.closed then none else some { w with pending := w.pending ++ [report] }
  | .close => some { w with closed := true }
  | .look =>
    match w.phase, w.pending with
    | .waiting, report :: rest =>
      match change? base w.current report with
      | some next =>
        some { w with phase := .offering next, current := next.endpoints, pending := rest }
      | none => some { w with pending := rest }
    | .waiting, [] => if w.closed then some { w with phase := .closing closedReason } else none
    | _, _ => none
  | .send =>
    match w.phase, w.channel with
    | .opening first, none => some { w with phase := .waiting, channel := some first }
    | .offering next, none => some { w with phase := .waiting, channel := some next }
    | .closing reason, none =>
      some { w with phase := .ended, channel := some (ServerSet.terminal reason) }
    | _, _ => none
  | .heed =>
    if w.cancelled then
      match w.phase with
      | .opening _ => some { w with phase := .ended }
      | .waiting | .offering _ => some { w with phase := .closing cancelledReason }
      | _ => none
    else none
  | .read => w.channel.map fun set => { w with channel := none, received := w.received ++ [set] }

/-- The watch after moves, if each is possible in its turn. -/
def run? (base : String) (w : Watching) : List Move → Option Watching
  | [] => some w
  | m :: rest => (w.move? base m).bind fun w => w.run? base rest

end Watching

end WorkloadNet.Dns.Watch
