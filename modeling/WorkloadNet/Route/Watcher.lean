import WorkloadNet.Failure

/-!
# Watching the default interface

The interface that carries the default route is asked for when the watch begins, and again on every
notification of the host. A value is emitted first, and after that whenever it differs from the one before;
the empty text stands for "no default route".

`emissions` is what is emitted when nothing ends the watch. `Watching` is the watch step by step: it shares
a channel of one place with a reader, may be stopped at any time, and chooses freely between what it could
do next; `Watching.move?` says what each step does.
-/

namespace WorkloadNet.Route

/-- The answer to a question for the default interface. -/
abbrev Query := Except Failure String

/-- The interface that an answer names; none when the question failed. -/
def reading : Query → String
  | .ok name => name
  | .error _ => ""

/-- The values that are emitted on later answers, given the value before them. -/
def changes (current : String) : List Query → List String
  | [] => []
  | query :: rest =>
    if reading query = current then changes current rest
    else reading query :: changes (reading query) rest

/-- The values that are emitted, given the first answer and the later ones. -/
def emissions (first : Query) (rest : List Query) : List String :=
  reading first :: changes (reading first) rest

/-! ## Step by step -/

/-- Where a watch stands. -/
inductive Phase where
  /-- It emits its first value. -/
  | opening
  /-- It waits for notifications. -/
  | waiting
  /-- It emits a value that has changed. -/
  | offering
  /-- It has ended. -/
  | ended
  deriving DecidableEq, Repr

/-- A watch, its channel and its reader. -/
structure Watching where
  /-- Where it stands. -/
  phase : Phase
  /-- The value emitted last, or about to be. -/
  current : String
  /-- The answers on the notifications that it has not taken up. -/
  pending : List Query := []
  /-- Whether no more notifications will come. -/
  closed : Bool := false
  /-- Whether it has been stopped. -/
  stopped : Bool := false
  /-- The value in the channel. -/
  channel : Option String := none
  /-- The values that the reader has taken, in order. -/
  received : List String := []

namespace Watching

/-- A watch whose first question was answered like this. -/
def start (first : Query) : Watching := { phase := .opening, current := reading first }

/-- What may happen next. -/
inductive Move where
  /-- The watch is stopped. -/
  | stop
  /-- The host sends a notification; asked after it, it answers like this. -/
  | notify (query : Query)
  /-- No more notifications will come. -/
  | close
  /-- The watch takes up a notification, or sees that none will come. -/
  | look
  /-- The watch puts a value into the channel. -/
  | send
  /-- The watch sees that it has been stopped. -/
  | heed
  /-- The reader takes the value in the channel. -/
  | read

/-- The watch after taking up a notification with this answer. -/
def take (w : Watching) (query : Query) (rest : List Query) : Watching :=
  if reading query = w.current then { w with pending := rest }
  else { w with phase := .offering, current := reading query, pending := rest }

/-- The watch after a move, if the move is possible. -/
def move? (w : Watching) : Move → Option Watching
  | .stop => some { w with stopped := true }
  | .notify query => if w.closed then none else some { w with pending := w.pending ++ [query] }
  | .close => some { w with closed := true }
  | .look =>
    match w.phase, w.pending with
    | .waiting, query :: rest => some (w.take query rest)
    | .waiting, [] => if w.closed then some { w with phase := .ended } else none
    | _, _ => none
  | .send =>
    match w.phase, w.channel with
    | .opening, none | .offering, none => some { w with phase := .waiting, channel := some w.current }
    | _, _ => none
  | .heed => if w.stopped ∧ w.phase ≠ .ended then some { w with phase := .ended } else none
  | .read => w.channel.map fun value => { w with channel := none, received := w.received ++ [value] }

/-- The watch after moves, if each is possible in its turn. -/
def run? (w : Watching) : List Move → Option Watching
  | [] => some w
  | m :: rest => (w.move? m).bind fun w => w.run? rest

/-- Every value emitted so far. -/
def emitted (w : Watching) : List String := w.received ++ w.channel.toList

end Watching

end WorkloadNet.Route
