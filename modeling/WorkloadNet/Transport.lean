import WorkloadNet.Failure
import WorkloadNet.Json.Decode

/-!
# Transport protocols

The two protocols that rules match ports of and that carry name queries.
-/

namespace WorkloadNet

/-- A transport protocol. -/
inductive Transport where
  /-- The Transmission Control Protocol. -/
  | tcp
  /-- The User Datagram Protocol. -/
  | udp
  deriving DecidableEq, Repr

namespace Transport

/-- The lower-case name. -/
def text : Transport → String
  | tcp => "tcp"
  | udp => "udp"

/-- The protocol of a lower-case name. -/
def ofName? (name : String) : Option Transport :=
  if name = "tcp" then some tcp else if name = "udp" then some udp else none

/-- A text with the capital letters of ASCII made small. -/
def lowered (text : String) : String := String.ofList (text.toList.map Char.toLower)

/-- Reads a name in any mix of ASCII letter cases. -/
def ofText (text : String) : Except Failure Transport :=
  match ofName? (lowered text) with
  | some transport => .ok transport
  | none => .error (.config s!"unsupported protocol: {lowered text}")

/-- The protocol that a JSON value names. -/
def ofJson? (value : Json) : Option Transport := value.choice?.bind ofName?

/-- The JSON form of a protocol. -/
def toJson (transport : Transport) : Json := .text transport.text

end Transport

end WorkloadNet
