import WorkloadNet.Json.Decode

/-!
# Kinds and states of links

A link is a bridge, a tap device or one end of a veth pair; the kind of a veth end names the other
end and the namespace that it is moved into.
-/

namespace WorkloadNet

/-- A network namespace: the host's own, or a named one. -/
abbrev SpaceName := Option String

/-- The kind of a link. -/
inductive LinkKind where
  /-- A layer-2 switch. -/
  | bridge
  /-- A device that hands raw frames to a program. -/
  | tap
  /-- One end of a virtual cable. -/
  | veth (peer : String) (peerSpace : SpaceName)
  deriving DecidableEq, Repr

namespace LinkKind

/-- The short name of a kind. -/
def text : LinkKind → String
  | bridge => "bridge"
  | tap => "tap"
  | veth .. => "veth"

/-- The JSON form of a kind. -/
def toJson : LinkKind → Json
  | bridge => .text "bridge"
  | tap => .text "tap"
  | veth peer peerSpace =>
    .ofMembers [("veth", .ofMembers [("peer", .text peer),
      ("peer_namespace", (peerSpace.map Json.text).getD .null)])]

/-- The veth end that a JSON record describes: the peer is required, its namespace may be missing
from an object but not from an array. -/
def vethOfJson? (value : Json) : Option LinkKind := do
  match value with
  | .array [peer, space] => return veth (← peer.text?) (← Json.optional? Json.text? space)
  | .object _ =>
    match ← value.fields? ["peer", "peer_namespace"] with
    | [some peer, space] => return veth (← peer.text?) (← Json.optional? Json.text? space)
    | _ => none
  | _ => none

/-- The kind that a JSON value describes. -/
def ofJson? (value : Json) : Option LinkKind :=
  match value.choice? with
  | some name => if name = "bridge" then some bridge else if name = "tap" then some tap else none
  | none =>
    match value with
    | .object [(some "veth", record)] => vethOfJson? record
    | _ => none

end LinkKind

/-- Whether a link carries traffic. -/
inductive LinkState where
  /-- The link is down. -/
  | down
  /-- The link is up. -/
  | up
  deriving DecidableEq, Repr

namespace LinkState

/-- The name of a state. -/
def text : LinkState → String
  | down => "Down"
  | up => "Up"

/-- The state that a JSON value names. -/
def ofJson? (value : Json) : Option LinkState :=
  value.choice?.bind fun name =>
    if name = "Down" then some down else if name = "Up" then some up else none

/-- The JSON form of a state. -/
def toJson (state : LinkState) : Json := .text state.text

end LinkState

end WorkloadNet
