import WorkloadNet.Firewall.Bridge
import WorkloadNet.Kernel.Namespaces
import WorkloadNet.Link.Tap
import WorkloadNet.Network.Uplink

/-!
# Steps of a session

A session is a list of steps on a world: a kernel in memory, a packet filter, and the networks that
earlier steps left under identifiers. The steps are the operations of the library, grouped by the part
that they belong to; two kinds of step run further steps inside a namespace.

The type `ε` stands for the steps that only one packet filter has.
-/

namespace WorkloadNet.Session

open Firewall

/-- Operations on links of the current namespace. -/
inductive LinkStep where
  /-- Creates a link. -/
  | add (name : String) (kind : LinkKind)
  /-- Assigns an address. -/
  | setAddress (name : String) (address : Cidr)
  /-- Asks for an address. -/
  | hasAddress (name : String) (address : Cidr)
  /-- Asks for a link. -/
  | has (name : String)
  /-- Attaches a link to a bridge. -/
  | setMaster (name master : String)
  /-- Brings a link up. -/
  | bringUp (name : String)
  /-- Deletes a link. -/
  | delete (name : String)
  /-- Turns transmit offloading off. -/
  | disableTxOffload (name : String)
  /-- Installs the default route. -/
  | addDefaultRoute (name : String) (gateway : V4)
  deriving DecidableEq, Repr

/-- Operations on namespaces. -/
inductive SpaceStep where
  /-- Creates a namespace. -/
  | create (name : String)
  /-- Deletes a namespace. -/
  | delete (name : String)
  /-- Asks for a namespace. -/
  | has (name : String)
  deriving DecidableEq, Repr

/-- Operations that create and configure a link. -/
inductive BuilderStep where
  /-- Creates a bridge from the text of a subnet. -/
  | bridge (name subnet : String) (disableTxOffload : Bool)
  /-- Creates a bridge with an address. -/
  | bridgeWithAddress (name : String) (address : Cidr) (disableTxOffload : Bool)
  /-- Creates a tap device. -/
  | tap (name bridge : String)
  deriving DecidableEq, Repr

/-- The settings of a network in a session. -/
structure NetworkSettings where
  /-- The name. -/
  name : String
  /-- The subnet. -/
  subnet : Option Cidr
  /-- The address of the host end. -/
  gateway : Option V4
  /-- The address of the bridge. -/
  bridge : Option V4
  /-- Whether there are links to build with. -/
  hasLinks : Bool
  deriving DecidableEq, Repr

/-- Operations on networks. -/
inductive NetworkStep where
  /-- Checks settings. -/
  | validate (settings : NetworkSettings)
  /-- Builds a network and keeps it under an identifier. -/
  | build (id : String) (settings : NetworkSettings)
  /-- Takes up a network and keeps it under an identifier. -/
  | «open» (id : String) (settings : NetworkSettings)
  /-- Asks for the state of a network. -/
  | state (id : String)
  /-- Connects a network through a host interface. -/
  | connect (id hostIf : String)
  /-- Disconnects a network from a host interface. -/
  | disconnect (id hostIf : String)
  /-- Destroys a network. -/
  | destroy (id : String)
  deriving DecidableEq, Repr

/-- Operations of the rule engine. -/
inductive EngineStep where
  /-- Ensures the standard tables. -/
  | ensureStandardTables
  /-- Ensures a table. -/
  | ensureTable (request : TableRequest)
  /-- Ensures a chain. -/
  | newChain (request : ChainRequest)
  /-- Ensures a jump. -/
  | addJumpRule (source target table : String)
  /-- Installs rules. -/
  | addRules (rules : List Rule)
  /-- Removes rules. -/
  | removeRules (rules : List Rule)
  /-- Installs the rules of a bridge. -/
  | configureBridge (bridge hostIf mark : String)
  /-- Moves the rules of a bridge. -/
  | switchHostInterface (old new : Option String) (bridge mark : String)
  deriving DecidableEq, Repr

/-- Operations of the packet filter itself. -/
inductive FilterStep where
  /-- Lists the tables. -/
  | tables
  /-- Lists the chains of a table. -/
  | chains (table : TableSpec)
  /-- Creates a table. -/
  | createTable (table : TableSpec)
  /-- Creates a chain. -/
  | createChain (table : TableSpec) (request : ChainRequest)
  /-- Appends a rule. -/
  | appendRule (table : TableSpec) (rule : Rule)
  /-- Lists the rules of a chain. -/
  | listRules (table : TableSpec) (chain : String)
  /-- Deletes a rule. -/
  | deleteRule (table : TableSpec) (chain : String) (handle : Nat)
  deriving DecidableEq, Repr

/-- How a body ends after its steps. -/
inductive BodyEnd where
  /-- With what its steps answered. -/
  | normally
  /-- With a failure of its own. -/
  | failing
  /-- By a panic. -/
  | panicking
  deriving DecidableEq, Repr

/-- A step of a session. -/
inductive Step (ε : Type) where
  /-- An operation on links. -/
  | link (step : LinkStep)
  /-- An operation on namespaces. -/
  | space (step : SpaceStep)
  /-- Creating and configuring a link. -/
  | builder (step : BuilderStep)
  /-- An operation on networks. -/
  | network (step : NetworkStep)
  /-- An operation of the rule engine. -/
  | engine (step : EngineStep)
  /-- An operation of the packet filter. -/
  | filter (step : FilterStep)
  /-- A step that only this packet filter has. -/
  | extra (step : ε)
  /-- Makes an operation of the kernel fail once. -/
  | failKernel (op : KernelOp) (name : String)
  /-- A step whose arguments do not parse. -/
  | malformed (message : String)
  /-- Runs steps inside a namespace; `propagate` ends the body at the first failure. -/
  | enter (name : String) (steps : List (Step ε)) (propagate : Bool) (ending : BodyEnd)
  /-- Runs steps inside the namespace of a network. -/
  | execute (id : String) (steps : List (Step ε)) (propagate : Bool) (ending : BodyEnd)

/-- What a successful step answers. -/
inductive Value where
  /-- Nothing. -/
  | unit
  /-- Yes or no. -/
  | bool (b : Bool)
  /-- A text. -/
  | text (s : String)
  /-- Several texts. -/
  | texts (items : List String)
  /-- Installed rules. -/
  | rules (items : List InstalledRule)
  /-- A network just built or taken up. -/
  | network (net : Network)
  /-- The state of a network. -/
  | state (net : Network)
  /-- There is no network under the identifier. -/
  | noNetwork
  /-- The namespace at the end of a body and the results of its steps. -/
  | inside (current : SpaceName) (results : List (Except Failure Value))
  /-- The body panicked. -/
  | panicked
  /-- The step was malformed. -/
  | malformed (message : String)

/-- The result of a step. -/
abbrev Result := Except Failure Value

end WorkloadNet.Session
