import WorkloadNet.Session.Step

/-!
# Running a session

Each group of steps has its own small interpreter over the part of the world that it needs;
`runStep` lifts them to the world. A failing step never undoes what it did before it failed, and a
session goes on after it. Steps inside a namespace always leave the namespace as it was before.

While the steps inside a network's namespace run, the network is not among those kept.
-/

namespace WorkloadNet.Session

open Firewall

/-- What a session works on. -/
structure World (φ : Type) where
  /-- The kernel. -/
  kernel : Kernel := Kernel.initial
  /-- The packet filter. -/
  filter : φ
  /-- The networks kept, by identifier. -/
  networks : Std.ExtTreeMap String Network := ∅

/-- A packet filter with the steps that only it has. -/
structure FilterModel (φ ε : Type) where
  /-- Its operations. -/
  backend : Backend φ
  /-- Its own steps. -/
  extra : ε → Action φ Value

variable {φ ε σ α : Type}

namespace World

/-- An action of the kernel, on the world. -/
def onKernel (action : Action Kernel α) : Action (World φ) α :=
  action.zoom kernel fun kernel w => { w with kernel }

/-- An action of the packet filter, on the world. -/
def onFilter (action : Action φ α) : Action (World φ) α :=
  action.zoom filter fun filter w => { w with filter }

/-- The namespaces of the kernel, on the world. -/
def spaces : NamespaceManager (World φ) :=
  Kernel.namespaces.zoom kernel fun kernel w => { w with kernel }

/-- Keeps a network under an identifier. -/
def keep (id : String) (net : Network) (w : World φ) : World φ :=
  { w with networks := w.networks.insert id net }

end World

/-! ## Steps on one part of the world -/

/-- An action that answers nothing. -/
def silent (action : Action σ Unit) : Action σ Value := do
  action
  return .unit

/-- Runs an operation on links. -/
def LinkStep.run (links : LinkManager σ) : LinkStep → Action σ Value
  | add name kind => silent (links.add name kind)
  | setAddress name address => silent (links.setAddress name address)
  | hasAddress name address => do return .bool (← links.hasAddress name address)
  | has name => do return .bool (← links.has name)
  | setMaster name master => silent (links.setMaster name master)
  | bringUp name => silent (links.bringUp name)
  | delete name => silent (links.delete name)
  | disableTxOffload name => silent (links.disableTxOffload name)
  | addDefaultRoute name gateway => silent (links.addDefaultRoute name gateway)

/-- Runs an operation on namespaces. -/
def SpaceStep.run (spaces : NamespaceManager σ) : SpaceStep → Action σ Value
  | create name => silent (spaces.create name)
  | delete name => silent (spaces.delete name)
  | has name => do return .bool (← spaces.has name)

/-- Creates and configures a link. -/
def BuilderStep.run (links : LinkManager σ) : BuilderStep → Action σ Value
  | bridge name subnet off => silent (createBridge links name subnet off)
  | bridgeWithAddress name address off => silent (createBridgeWithAddress links name address off)
  | tap name master => silent (createTap links name master)

/-- Runs an operation of the rule engine. -/
def EngineStep.run (fw : Backend σ) : EngineStep → Action σ Value
  | ensureStandardTables => silent fw.ensureStandardTables
  | ensureTable request => silent (fw.ensureTable request)
  | newChain request => do return .text (← fw.newChain request).text
  | addJumpRule source target table => silent (fw.addJumpRule source target table)
  | addRules rules => do silent (fw.addRules (← Action.ofExcept (RuleSet.ofList rules)))
  | removeRules rules => do silent (fw.removeRules (← Action.ofExcept (RuleSet.ofList rules)))
  | configureBridge bridge hostIf mark => silent (fw.configureBridge bridge hostIf mark)
  | switchHostInterface old new bridge mark => silent (fw.switchHostInterface old new bridge mark)

/-- Runs an operation of the packet filter. -/
def FilterStep.run (fw : Backend σ) : FilterStep → Action σ Value
  | tables => do return .texts ((← fw.tables).map TableSpec.text)
  | chains table => do return .texts (← fw.chains table)
  | createTable table => silent (fw.createTable table)
  | createChain table request => silent (fw.createChain table request)
  | appendRule table rule => silent (fw.appendRule table rule)
  | listRules table chain => do return .rules (← fw.rules table chain)
  | deleteRule table chain handle => silent (fw.deleteRule table chain handle)

/-! ## Steps on networks -/

/-- The request that settings are, with the links of the kernel. -/
def NetworkSettings.request (settings : NetworkSettings) : NetworkRequest Kernel where
  name := settings.name
  subnet := settings.subnet
  gateway := settings.gateway
  bridge := settings.bridge
  links := if settings.hasLinks then some Kernel.links else none

/-- Makes a network and keeps it. -/
def keepNew (id : String) (action : Action Kernel Network) : Action (World φ) Value := do
  let net ← World.onKernel action
  modify (World.keep id net)
  return .network net

/-- Runs an action on the network kept under an identifier. -/
def withNetwork (id : String) (action : Network → Action (World φ) Value) :
    Action (World φ) Value := do
  match (← get).networks[id]? with
  | none => return .noNetwork
  | some net => action net

/-- Destroys a network that is kept. -/
def destroyKept (id : String) (net : Network) : Action (World φ) Value := .of fun w =>
  let ((net, result), kernel) := (Network.destroy Kernel.links Kernel.namespaces net).run w.kernel
  (result.map fun () => .unit, World.keep id net { w with kernel })

/-- Runs an operation on networks. -/
def NetworkStep.run (fw : Backend φ) : NetworkStep → Action (World φ) Value
  | validate settings => do
    let _ ← Action.ofExcept (Network.plan settings.request)
    return .unit
  | build id settings => keepNew id (Network.build Kernel.namespaces settings.request)
  | «open» id settings => keepNew id (Network.open Kernel.namespaces settings.request)
  | state id => withNetwork id fun net => return .state net
  | connect id hostIf => withNetwork id fun net => silent (World.onFilter (net.connect fw hostIf))
  | disconnect id hostIf =>
    withNetwork id fun net => silent (World.onFilter (net.disconnect fw hostIf))
  | destroy id => withNetwork id (destroyKept id)

/-! ## All steps -/

/-- How a body ends that ran its steps with these results. -/
def bodyEnding (ending : BodyEnd) (current : SpaceName) :
    Except Failure (List Result) → Ending Value
  | .error failure => .failed failure
  | .ok results =>
    match ending with
    | .normally => .value (.inside current results)
    | .failing => .failed (.config "inner")
    | .panicking => .panicked

/-- The result of a step whose body ended this way. -/
def resultOfEnding : Ending Value → Result
  | .value v => .ok v
  | .failed failure => .error failure
  | .panicked => .ok .panicked

mutual

/-- Runs a step. -/
def runStep (model : FilterModel φ ε) : Step ε → StateM (World φ) Result
  | .link step => (World.onKernel (step.run Kernel.links)).on
  | .space step => (World.onKernel (step.run Kernel.namespaces)).on
  | .builder step => (World.onKernel (step.run Kernel.links)).on
  | .network step => (step.run model.backend).on
  | .engine step => (World.onFilter (step.run model.backend)).on
  | .filter step => (World.onFilter (step.run model.backend)).on
  | .extra step => (World.onFilter (model.extra step)).on
  | .failKernel op name =>
    fun w => (.ok .unit, { w with kernel := w.kernel.failOnce op name })
  | .malformed message => pure (.ok (.malformed message))
  | .enter name steps propagate ending => fun w =>
    let (result, w) := World.spaces.enter name (fun w =>
      let (results, w) := runSteps model propagate steps w
      (bodyEnding ending w.kernel.current results, w)) w
    (resultOfEnding result, w)
  | .execute id steps propagate ending => fun w =>
    match w.networks[id]? with
    | none => (.ok .noNetwork, w)
    | some net =>
      let (result, w) := net.execute World.spaces (fun w =>
        let (results, w) := runSteps model propagate steps w
        (bodyEnding ending w.kernel.current results, w)) { w with networks := w.networks.erase id }
      (resultOfEnding result, World.keep id net w)

/-- Runs steps and collects their results; with `propagate` the first failure ends the run. -/
def runSteps (model : FilterModel φ ε) (propagate : Bool) :
    List (Step ε) → World φ → Except Failure (List Result) × World φ
  | [], w => (.ok [], w)
  | step :: rest, w =>
    match runStep model step w with
    | (.ok value, w) =>
      let (results, w) := runSteps model propagate rest w
      (results.map (.ok value :: ·), w)
    | (.error failure, w) =>
      if propagate then (.error failure, w)
      else
        let (results, w) := runSteps model propagate rest w
        (results.map (.error failure :: ·), w)

end

end WorkloadNet.Session
