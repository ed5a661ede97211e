import WorkloadNet.Kernel.State
import WorkloadNet.Link.Manager

/-!
# Link operations of a kernel in memory

Each operation first takes the failure that is pending for it, if any. The operations act in the
current namespace; should that have been deleted by a body that runs inside it, the first operation
brings it back empty.

Deleting either end of a veth pair deletes the other end too, in whichever namespace it is.
-/

namespace WorkloadNet.Kernel

/-- Fails when a failure is pending for this operation on this name, which is then no longer
pending. -/
def takeFailure (op : KernelOp) (name : String) : Action Kernel Unit :=
  .of fun k =>
    if (op, name) ∈ k.pending then
      (.error (.kernel s!"{op.name} {name}" "injected failure"),
        { k with pending := k.pending.erase (op, name) })
    else (.ok (), k)

/-- The current namespace, created empty when it is missing. -/
def here : Action Kernel Space :=
  .of fun k =>
    match k.spaces[k.current]? with
    | some space => (.ok space, k)
    | none => (.ok {}, { k with spaces := k.spaces.insert k.current {} })

/-- Changes the current namespace. -/
def edit (f : Space → Space) : Action Kernel Unit :=
  .of fun k => (.ok (), { k with spaces := k.spaces.modify k.current f })

/-- A link of the current namespace. -/
def link (name : String) : Action Kernel Link := do
  match (← here).links[name]? with
  | some link => return link
  | none => Action.fail (.notFound "link" name)

/-- Changes a link of the current namespace, which has to exist. -/
def editLink (name : String) (f : Link → Link) : Action Kernel Unit := do
  let _ ← link name
  edit fun space => { space with links := space.links.modify name f }

/-- A namespace with one more link. -/
def withLink (name : String) (link : Link) (space : Space) : Space :=
  { space with links := space.links.insert name link }

/-- A namespace without a link. -/
def withoutLink (name : String) (space : Space) : Space :=
  { space with links := space.links.erase name }

/-- A namespace without its default route if that goes through the device. -/
def withoutRouteVia (device : String) (space : Space) : Space :=
  if space.defaultRoute.map Prod.fst = some device then { space with defaultRoute := none }
  else space

/-- Removes a link, the other end of its pair if it has one, and the default route of its namespace
that goes through it. -/
def removeLink (space : SpaceName) (name : String) (spaces : Spaces) : Spaces :=
  let removed := spaces[space]?.bind fun s => s.links[name]?
  let spaces := spaces.modify space (withoutLink name)
  let spaces := match removed.bind Link.peer with
    | some (peerSpace, peer) => spaces.modify peerSpace (withoutLink peer)
    | none => spaces
  spaces.modify space (withoutRouteVia name)

/-- Adds the far end of a veth pair whose near end is `name` in the namespace `near`. -/
def addPeer (near : SpaceName) (name peer : String) (peerSpace : SpaceName) :
    Action Kernel (SpaceName × String) :=
  .of fun k =>
    let far := peerSpace.or near
    match k.spaces[far]? with
    | none => (.error (.notFound "namespace" (peerSpace.getD "")), k)
    | some space =>
      if peer ∈ space.links then (.error (.alreadyExists "link" peer), k)
      else
        let other : Link := { kind := .veth name near, peer := some (near, name) }
        (.ok (far, peer), { k with spaces := k.spaces.modify far (withLink peer other) })

/-- Creates a link, with its other end when it is a veth. -/
def addLink (name : String) (kind : LinkKind) : Action Kernel Unit := do
  takeFailure .addLink name
  if name ∈ (← here).links then Action.fail (.alreadyExists "link" name)
  match kind with
  | .veth peer peerSpace =>
    let near := (← get).current
    let far ← addPeer near name peer peerSpace
    edit (withLink name { kind, peer := some far })
  | kind => edit (withLink name { kind })

/-- Assigns an address; one that the link already carries is not repeated. -/
def setAddress (name : String) (address : Cidr) : Action Kernel Unit := do
  takeFailure .setIp name
  editLink name fun link =>
    if address ∈ link.addresses then link
    else { link with addresses := link.addresses ++ [address] }

/-- Whether a link exists. -/
def hasLink (name : String) : Action Kernel Bool := do
  takeFailure .exists name
  return (← here).links.contains name

/-- Attaches a link to a bridge. -/
def setMaster (name master : String) : Action Kernel Unit := do
  takeFailure .setMaster name
  match (← here).links[master]? with
  | none => Action.fail (.notFound "link" master)
  | some bridge =>
    if bridge.kind ≠ .bridge then
      Action.fail (.kernel s!"set master of {name}" s!"{master} is not a bridge")
    editLink name fun link => { link with master := some master }

/-- Brings a link up. -/
def bringUp (name : String) : Action Kernel Unit := do
  takeFailure .bringUp name
  editLink name fun link => { link with state := .up }

/-- Whether a link carries an address. -/
def hasAddress (name : String) (address : Cidr) : Action Kernel Bool := do
  takeFailure .hasIp name
  return address ∈ (← link name).addresses

/-- Deletes a link; a missing one is no failure. -/
def deleteLink (name : String) : Action Kernel Unit := do
  takeFailure .deleteLink name
  modify fun k => { k with spaces := removeLink k.current name k.spaces }

/-- Turns transmit offloading off. -/
def disableTxOffload (name : String) : Action Kernel Unit := do
  takeFailure .disableTxOffload name
  editLink name fun link => { link with txOffloadOff := true }

/-- Installs the default route; a namespace has at most one. -/
def addDefaultRoute (name : String) (gateway : V4) : Action Kernel Unit := do
  takeFailure .addDefaultRoute name
  let _ ← link name
  if (← here).defaultRoute.isSome then Action.fail (.alreadyExists "route" "default")
  edit fun space => { space with defaultRoute := some (name, gateway) }

/-- The link operations of a kernel in memory. -/
def links : LinkManager Kernel where
  add := addLink
  setAddress := setAddress
  has := hasLink
  setMaster := setMaster
  bringUp := bringUp
  hasAddress := hasAddress
  delete := deleteLink
  disableTxOffload := disableTxOffload
  addDefaultRoute := addDefaultRoute

end WorkloadNet.Kernel
