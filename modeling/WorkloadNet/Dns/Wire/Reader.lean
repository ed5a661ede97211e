import WorkloadNet.Dns.Name
import WorkloadNet.Dns.Wire.Octets

/-!
# Reading octets of a message

A `Reader` takes a value off the octets of a message at a position and tells the position after it, or
finds that the octets do not spell one. It sees the whole message, because a name may go on at an earlier
position: two octets that begin with two set bits point there.

A name is read as long as its position stays before a limit. For a name that begins in the message the
limit is the end of the message; for one that a pointer leads to, it is the start of the name that holds
the pointer, and the pointer must lead before that start. So starts decrease, and a name has an end.
-/

namespace WorkloadNet.Dns.Wire

/-- Takes a value off the octets of a message. -/
abbrev Reader := ReaderT (Array UInt8) (StateT Nat Option)

namespace Reader

/-- The octets do not spell a value. -/
def refuse {α : Type} : Reader α := fun _ _ => none

/-- The position of the next octet. -/
def position : Reader Nat := fun _ position => some (position, position)

/-- How many octets are left. -/
def left : Reader Nat := fun octets position => some (octets.size - position, position)

/-- The next octet. -/
def octet : Reader UInt8 := fun octets position => octets[position]?.map (·, position + 1)

/-- The next `n` octets. -/
def take (n : Nat) : Reader (List UInt8) := fun octets position =>
  if position + n ≤ octets.size then
    some ((octets.extract position (position + n)).toList, position + n)
  else none

/-- The next 16-bit number. -/
def word : Reader UInt16 := do
  let high ← octet
  let low ← octet
  return wordOf high low

/-- The next 32-bit number. -/
def long : Reader UInt32 := do
  let high ← word
  let low ← word
  return longOf high low

/-- `n` values in a row. -/
def times {α : Type} (reader : Reader α) : Nat → Reader (List α)
  | 0 => pure []
  | n + 1 => do
    let a ← reader
    let rest ← times reader n
    return a :: rest

/-- The labels from a position on, for a name that began at `start`, within a limit and taking at most
`room` octets. -/
def labels (octets : Array UInt8) (limit start position room : Nat) : Option (Name × Nat) :=
  if _h : position < limit then do
    let size := (← octets[position]?).toNat
    if size = 0 then
      return ([], position + 1)
    else if size ≤ Name.mostLabelOctets then
      let next := position + 1 + size
      if size + 1 ≤ room ∧ next ≤ octets.size then
        let (rest, end_) ← labels octets limit start next (room - (size + 1))
        return ((octets.extract (position + 1) next).toList :: rest, end_)
      else none
    else if size < 192 then none
    else
      let target := (size - 192) * 256 + (← octets[position + 1]?).toNat
      if _h : target < start then
        let (rest, _) ← labels octets start target target room
        return (rest, position + 2)
      else none
  else none
  termination_by (start, limit - position)

/-- The next name. -/
def name : Reader Name := fun octets position =>
  labels octets octets.size position position (Name.mostOctets - 1)

end Reader

end WorkloadNet.Dns.Wire
