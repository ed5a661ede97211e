import WorkloadNet.Link.Manager

/-!
# Settings of a network

A network joins a namespace to the host by a veth pair, one end on the host with the address of the
gateway, the other end inside, attached to a bridge that carries the name of the network:

    host                            namespace <name>
    <name>-host (gateway address) == <name>-net -- <name> (bridge address)

`NetworkRequest.check` looks for the first setting that is missing or does not fit; what it lets
through is a `NetworkPlan`, which carries what was checked.
-/

namespace WorkloadNet

/-- The host end of the veth pair of a network. -/
def hostLinkName (network : String) : String := network ++ "-host"

/-- The end of the veth pair of a network inside its namespace. -/
def spaceLinkName (network : String) : String := network ++ "-net"

/-- The life of a network. -/
inductive NetworkState where
  /-- Its parts are being created. -/
  | provisioning
  /-- Every part exists. -/
  | ready
  /-- Its parts were released. -/
  | destroyed
  deriving DecidableEq, Repr

namespace NetworkState

/-- The small name of a state. -/
def text : NetworkState → String
  | provisioning => "provisioning"
  | ready => "ready"
  | destroyed => "destroyed"

/-- The capitalized name of a state. -/
def title : NetworkState → String
  | provisioning => "Provisioning"
  | ready => "Ready"
  | destroyed => "Destroyed"

/-- The state that a JSON value names. -/
def ofJson? (value : Json) : Option NetworkState :=
  value.choice?.bind fun name => [provisioning, ready, destroyed].find? fun s => s.title = name

/-- The JSON form of a state. -/
def toJson (state : NetworkState) : Json := .text state.title

end NetworkState

/-- What a network is to be made of. Nothing is checked before it is needed. -/
structure NetworkRequest (σ : Type) where
  /-- The name of the network, of its namespace and of the bridge inside. -/
  name : String := ""
  /-- The subnet of the gateway and the bridge. -/
  subnet : Option Cidr := none
  /-- The address of the host end of the veth pair. -/
  gateway : Option V4 := none
  /-- The address of the bridge. -/
  bridge : Option V4 := none
  /-- The links. -/
  links : Option (LinkManager σ) := none

/-- Why settings do not make a network. -/
inductive SettingFault where
  /-- There is no name. -/
  | noName
  /-- The host end of the veth pair would have too long a name. -/
  | longName (name : String)
  /-- There is no subnet. -/
  | noSubnet
  /-- There is no gateway address. -/
  | noGateway
  /-- There is no bridge address. -/
  | noBridge
  /-- The gateway is outside the subnet. -/
  | gatewayOutside (gateway : V4) (subnet : Cidr)
  /-- The bridge is outside the subnet. -/
  | bridgeOutside (bridge : V4) (subnet : Cidr)
  /-- Gateway and bridge have the same address. -/
  | sameAddress (address : V4)
  /-- There is nothing to create links with. -/
  | noLinks
  /-- The network was destroyed before. -/
  | destroyed (name : String)
  deriving DecidableEq, Repr

namespace SettingFault

/-- The wording of a fault. -/
def message : SettingFault → String
  | noName => "network name is required"
  | longName name =>
    s!"network name {name} is too long: {hostLinkName name} is limited to {maxLinkName} bytes"
  | noSubnet => "network subnet is required"
  | noGateway => "gateway IP is required"
  | noBridge => "bridge IP is required"
  | gatewayOutside gateway subnet => s!"gateway IP {gateway.text} is not in network {subnet.text}"
  | bridgeOutside bridge subnet => s!"bridge IP {bridge.text} is not in network {subnet.text}"
  | sameAddress address => s!"gateway and bridge share the address {address.text}"
  | noLinks => "link manager is required"
  | destroyed name => s!"network {name} is destroyed"

/-- The failure that a fault is. -/
def toFailure (fault : SettingFault) : Failure := .config fault.message

end SettingFault

/-- Settings that make a network. -/
structure NetworkPlan (σ : Type) where
  /-- The name. -/
  name : String
  /-- The subnet. -/
  subnet : Cidr
  /-- The address of the host end. -/
  gateway : V4
  /-- The address of the bridge. -/
  bridge : V4
  /-- The links. -/
  links : LinkManager σ
  /-- There is a name. -/
  name_ne : name ≠ ""
  /-- The name of the host end fits. -/
  name_le : (hostLinkName name).utf8ByteSize ≤ maxLinkName
  /-- The gateway is an address of the subnet. -/
  gateway_mem : subnet.contains gateway
  /-- The bridge is an address of the subnet. -/
  bridge_mem : subnet.contains bridge
  /-- Gateway and bridge are distinct. -/
  gateway_ne_bridge : gateway ≠ bridge

/-- A present setting, or the fault of its absence. -/
def required {α : Type} (setting : Option α) (fault : SettingFault) : Except SettingFault α :=
  match setting with
  | some a => .ok a
  | none => .error fault

/-- Checks the settings; the first fault is reported. -/
def NetworkRequest.check {σ : Type} (r : NetworkRequest σ) : Except SettingFault (NetworkPlan σ) :=
  if hname : r.name = "" then .error .noName
  else if hlong : maxLinkName < (hostLinkName r.name).utf8ByteSize then .error (.longName r.name)
  else do
    let subnet ← required r.subnet .noSubnet
    let gateway ← required r.gateway .noGateway
    let bridge ← required r.bridge .noBridge
    if hg : ¬ subnet.contains gateway then .error (.gatewayOutside gateway subnet)
    else if hb : ¬ subnet.contains bridge then .error (.bridgeOutside bridge subnet)
    else if hs : gateway = bridge then .error (.sameAddress gateway)
    else do
      let links ← required r.links .noLinks
      return {
        name := r.name, subnet, gateway, bridge, links
        name_ne := hname
        name_le := Nat.not_lt.1 hlong
        gateway_mem := Decidable.not_not.1 hg
        bridge_mem := Decidable.not_not.1 hb
        gateway_ne_bridge := hs }

end WorkloadNet
