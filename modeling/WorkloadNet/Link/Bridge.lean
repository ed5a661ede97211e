import WorkloadNet.Link.Manager

/-!
# Bridges

A bridge is created in steps: the link, its address, up, and transmit offloading off if asked for.
When a step fails after the bridge was created by the same call, the bridge is deleted again; a
bridge that was there before is never deleted. A bridge that already carries the address is left as
it is.
-/

namespace WorkloadNet

variable {σ α : Type}

/-- Deletes a link after a failure and ends with that failure; when the deletion fails too, with
both. -/
def LinkManager.undo (links : LinkManager σ) (name step : String) (primary : Failure) :
    Action σ α := do
  match ← (links.delete name).attempt with
  | .ok () => throw primary
  | .error cleanup => throw (.rollback primary (.context step cleanup))

/-- Runs the steps that configure a link just created, and deletes the link when one fails. -/
def LinkManager.orUndo (links : LinkManager σ) (name step : String) (steps : Action σ Unit) :
    Action σ Unit := do
  match ← steps.attempt with
  | .ok () => return ()
  | .error failure => links.undo name step failure

/-- The steps that follow the creation of a bridge. -/
def configureBridgeLink (links : LinkManager σ) (name : String) (address : Cidr)
    (disableTxOffload : Bool) : Action σ Unit := do
  (links.setAddress name address).annotate "failed to set ip"
  (links.bringUp name).annotate s!"failed to bring bridge {name} up"
  if disableTxOffload then
    (links.disableTxOffload name).annotate "failed to disable tx offloading"

/-- Creates and configures a bridge that carries exactly this address. -/
def createBridgeWithAddress (links : LinkManager σ) (name : String) (address : Cidr)
    (disableTxOffload : Bool) : Action σ Unit := do
  match ← (links.add name .bridge).attempt with
  | .ok () =>
    links.orUndo name "failed to delete link"
      (configureBridgeLink links name address disableTxOffload)
  | .error failure =>
    if failure.isAlreadyExists then
      let present ← (links.hasAddress name address).annotate "failed to list interface addresses"
      if present then return ()
      configureBridgeLink links name address disableTxOffload
    else throw (.context s!"failed to add bridge {name}" failure)

/-- The address that a bridge gets from the text of a subnet: the first usable one. -/
def bridgeAddress (subnet : String) : Except Failure Cidr :=
  match Cidr.ofText subnet with
  | .error fault => .error (.config s!"failed to parse subnet {subnet}: {fault.message}")
  | .ok cidr =>
    match cidr.firstUsable? with
    | none => .error (.config s!"subnet {subnet} has no usable address")
    | some address => .ok (cidr.withAddress address)

/-- Creates and configures a bridge that carries the first usable address of a subnet. -/
def createBridge (links : LinkManager σ) (name subnet : String) (disableTxOffload : Bool) :
    Action σ Unit := do
  let address ← Action.ofExcept (bridgeAddress subnet)
  createBridgeWithAddress links name address disableTxOffload

end WorkloadNet
