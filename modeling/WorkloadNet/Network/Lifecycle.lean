import WorkloadNet.Link.Bridge
import WorkloadNet.Namespace.Manager
import WorkloadNet.Network.Settings

/-!
# The life of a network

A network is built in steps: the namespace, the veth pair with one end inside, the gateway address on
the host end, and inside the namespace the bridge, the veth end attached to it and the default route.
A failure before the veth pair exists deletes the namespace again if the call created it; a later
failure destroys the network.

Destroying attempts both deletions, that of the host end and that of the namespace, and reports what
failed. A destroyed network refuses every use but another destruction.
-/

namespace WorkloadNet

/-- A network in use. -/
structure Network where
  /-- Its name. -/
  name : String
  /-- Where it is in its life. -/
  state : NetworkState
  deriving DecidableEq, Repr

namespace Network

variable {σ α : Type}

/-- The host end of the veth pair. -/
def hostLink (net : Network) : String := hostLinkName net.name

/-- Fails when the network was destroyed. -/
def ensureAlive (net : Network) : Except Failure Unit :=
  if net.state = .destroyed then .error (SettingFault.destroyed net.name).toFailure else .ok ()

/-! ## Destruction -/

/-- Deletes the host end of the veth pair and the namespace, attempts both, and fails with what
failed. -/
def release (links : LinkManager σ) (spaces : NamespaceManager σ) (name : String) :
    Action σ Unit := do
  let link ← ((links.delete (hostLinkName name)).annotate
    s!"failed to delete link {hostLinkName name}").attempt
  let space ← ((spaces.delete name).annotate s!"failed to delete namespace {name}").attempt
  let failures := [link, space].filterMap fun
    | .ok () => none
    | .error failure => some failure
  match Failure.ofList failures with
  | none => return ()
  | some failure => Action.fail failure

/-- Destroys a network: the network afterwards, destroyed whatever failed, and what failed. -/
def destroy (links : LinkManager σ) (spaces : NamespaceManager σ) (net : Network) :
    StateM σ (Network × Except Failure Unit) := fun s =>
  let (result, s) := (release links spaces net.name).on s
  (({ net with state := .destroyed }, result), s)

/-! ## Construction -/

/-- The steps inside the namespace. -/
def provisionInside (plan : NetworkPlan σ) : Action σ Unit := do
  (createBridgeWithAddress plan.links plan.name (plan.subnet.withAddress plan.bridge) true).annotate
    "failed to create bridge"
  let peer := spaceLinkName plan.name
  (plan.links.bringUp peer).annotate s!"failed to bring {peer} up"
  (plan.links.setMaster peer plan.name).annotate "failed to set bridge master"
  (plan.links.addDefaultRoute plan.name plan.gateway).annotate "failed to set default route"

/-- The steps after the veth pair exists. -/
def provision (spaces : NamespaceManager σ) (plan : NetworkPlan σ) : Action σ Unit := do
  let host := hostLinkName plan.name
  (plan.links.setAddress host (plan.subnet.withAddress plan.gateway)).annotate
    s!"failed to set ip on {host}"
  (plan.links.bringUp host).annotate s!"failed to bring {host} up"
  spaces.within plan.name (provisionInside plan)

/-- Creates the veth pair with one end inside the namespace. -/
def addVeth (plan : NetworkPlan σ) : Action σ Unit :=
  (plan.links.add (hostLinkName plan.name)
    (.veth (spaceLinkName plan.name) (some plan.name))).annotate
      s!"failed to create veth pair {hostLinkName plan.name}"

/-- Cleans up after the veth pair could not be created: the namespace goes if this call created
it. -/
def abandon (spaces : NamespaceManager σ) (name : String) (existed : Bool) (failure : Failure) :
    Action σ α := do
  if existed then Action.fail failure
  match ← (spaces.delete name).attempt with
  | .ok () => Action.fail failure
  | .error cleanup =>
    Action.fail (.rollback failure (.context "failed to delete namespace" cleanup))

/-- Cleans up after a later step failed: the network is destroyed. -/
def unwind (links : LinkManager σ) (spaces : NamespaceManager σ) (name : String)
    (failure : Failure) : Action σ α := do
  match ← (release links spaces name).attempt with
  | .ok () => Action.fail failure
  | .error cleanup => Action.fail (.rollback failure cleanup)

/-- Builds the network of a plan. -/
def ofPlan (spaces : NamespaceManager σ) (plan : NetworkPlan σ) : Action σ Network := do
  let existed ← spaces.has plan.name
  (spaces.create plan.name).annotate s!"failed to create namespace {plan.name}"
  match ← (addVeth plan).attempt with
  | .error failure => abandon spaces plan.name existed failure
  | .ok () =>
    match ← (provision spaces plan).attempt with
    | .error failure => unwind plan.links spaces plan.name failure
    | .ok () => return ⟨plan.name, .ready⟩

/-- The plan that settings make, or the failure that their first fault is. -/
def plan (request : NetworkRequest σ) : Except Failure (NetworkPlan σ) :=
  match request.check with
  | .ok plan => .ok plan
  | .error fault => .error fault.toFailure

/-- Builds the network that settings ask for. Invalid settings change nothing. -/
def build (spaces : NamespaceManager σ) (request : NetworkRequest σ) : Action σ Network := do
  ofPlan spaces (← Action.ofExcept (plan request))

/-- Takes up a network that was built before. Only its name and the links are needed. -/
def «open» (spaces : NamespaceManager σ) (request : NetworkRequest σ) : Action σ Network := do
  if request.name = "" then Action.fail SettingFault.noName.toFailure
  if request.links.isNone then Action.fail SettingFault.noLinks.toFailure
  if ← spaces.has request.name then return ⟨request.name, .ready⟩
  Action.fail (.notFound "namespace" request.name)

/-! ## Use -/

/-- A body that is there to be called once, and the value that it ended with. -/
structure Handover (σ α : Type) where
  /-- The body, until it is called. -/
  body : Option (StateM σ (Ending α))
  /-- Its value, once it ended with one. -/
  output : Option α := none

/-- Calls the body. It is handed over by its first call, and there is none for a second one. -/
def Handover.call : StateM (σ × Handover σ α) (Ending Unit) := fun (s, handover) =>
  match handover.body with
  | none => (.failed (.config "namespace callback ran twice"), s, handover)
  | some body =>
    match body.run s with
    | (.value a, s) => (.value (), s, { body := none, output := some a })
    | (.failed failure, s) => (.failed failure, s, { handover with body := none })
    | (.panicked, s) => (.panicked, s, { handover with body := none })

/-- Runs a body inside the namespace of a live network. -/
def execute (spaces : NamespaceManager σ) (net : Network) (body : StateM σ (Ending α)) :
    StateM σ (Ending α) := fun s =>
  match net.ensureAlive with
  | .error failure => (.failed failure, s)
  | .ok () =>
    let inside : NamespaceManager (σ × Handover σ α) :=
      spaces.zoom Prod.fst fun s (_, handover) => (s, handover)
    match inside.enter net.name Handover.call (s, { body := some body }) with
    | (.value (), s, { output := some a, .. }) => (.value a, s)
    | (.value (), s, { output := none, .. }) =>
      (.failed (.config "namespace callback did not run"), s)
    | (.failed failure, s, _) => (.failed failure, s)
    | (.panicked, s, _) => (.panicked, s)

end Network

end WorkloadNet
