import Std.Data.ExtTreeMap
import WorkloadNet.Address.Cidr
import WorkloadNet.Link.Kind

/-!
# The state of a kernel in memory

A kernel in memory holds namespaces with their links, the namespace that link operations act in, and
the operations that are to fail once. Namespaces and links are finite maps, read through `m[k]?`; the
host's own namespace has the key `none` and comes first, the others follow by name.
-/

namespace WorkloadNet

/-- A network link. -/
structure Link where
  /-- What the link is. -/
  kind : LinkKind
  /-- Its addresses, in the order in which they were assigned. -/
  addresses : List Cidr := []
  /-- Whether it is up. -/
  state : LinkState := .down
  /-- The bridge that it is attached to. -/
  master : Option String := none
  /-- Whether transmit checksum offloading was turned off. -/
  txOffloadOff : Bool := false
  /-- Namespace and name of the other end of a veth pair. -/
  peer : Option (SpaceName × String) := none
  deriving DecidableEq, Repr

/-- The links of a namespace by name. -/
abbrev Links := Std.ExtTreeMap String Link

/-- A network namespace. -/
structure Space where
  /-- Its links. -/
  links : Links := ∅
  /-- The device and the gateway of its default route. -/
  defaultRoute : Option (String × V4) := none
  deriving DecidableEq

/-- The namespaces by name. -/
abbrev Spaces := Std.ExtTreeMap SpaceName Space

/-- The operations of a kernel in memory that can be made to fail. -/
inductive KernelOp where
  /-- Creating a link. -/
  | addLink
  /-- Assigning an address. -/
  | setIp
  /-- Asking for a link. -/
  | exists
  /-- Attaching a link to a bridge. -/
  | setMaster
  /-- Bringing a link up. -/
  | bringUp
  /-- Asking for an address. -/
  | hasIp
  /-- Deleting a link. -/
  | deleteLink
  /-- Turning transmit offloading off. -/
  | disableTxOffload
  /-- Installing the default route. -/
  | addDefaultRoute
  /-- Creating a namespace. -/
  | createNamespace
  /-- Deleting a namespace. -/
  | deleteNamespace
  /-- Entering a namespace. -/
  | enterNamespace
  deriving DecidableEq, Repr

namespace KernelOp

/-- The name that failures give to an operation. -/
def name : KernelOp → String
  | addLink => "AddLink"
  | setIp => "SetIp"
  | «exists» => "Exists"
  | setMaster => "SetMaster"
  | bringUp => "BringUp"
  | hasIp => "HasIp"
  | deleteLink => "DeleteLink"
  | disableTxOffload => "DisableTxOffload"
  | addDefaultRoute => "AddDefaultRoute"
  | createNamespace => "CreateNamespace"
  | deleteNamespace => "DeleteNamespace"
  | enterNamespace => "EnterNamespace"

/-- Every operation. -/
def all : List KernelOp :=
  [addLink, setIp, «exists», setMaster, bringUp, hasIp, deleteLink, disableTxOffload,
    addDefaultRoute, createNamespace, deleteNamespace, enterNamespace]

/-- The operation of a name. -/
def ofName? (text : String) : Option KernelOp := all.find? fun op => op.name = text

end KernelOp

/-- A kernel in memory. -/
structure Kernel where
  /-- The namespaces. -/
  spaces : Spaces
  /-- The namespace that link operations act in. -/
  current : SpaceName
  /-- The operations that fail when they are next called with the given name. -/
  pending : List (KernelOp × String)
  deriving DecidableEq

namespace Kernel

/-- A kernel with the host namespace only. -/
def initial : Kernel := ⟨(∅ : Spaces).insert none {}, none, []⟩

/-- A link of a namespace. -/
def link? (k : Kernel) (space : SpaceName) (name : String) : Option Link :=
  k.spaces[space]?.bind fun s => s.links[name]?

/-- The default route of a namespace. -/
def route? (k : Kernel) (space : SpaceName) : Option (String × V4) :=
  k.spaces[space]?.bind Space.defaultRoute

/-- Makes the next call of an operation on a name fail. -/
def failOnce (op : KernelOp) (name : String) (k : Kernel) : Kernel :=
  { k with pending := k.pending ++ [(op, name)] }

end Kernel

end WorkloadNet
