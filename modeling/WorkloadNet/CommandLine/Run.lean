import WorkloadNet.CommandLine.Command
import WorkloadNet.Dhcp.Server
import WorkloadNet.Dns.Forwarder
import WorkloadNet.Dns.ZoneServer
import WorkloadNet.Firewall.Bridge
import WorkloadNet.Link.Tap
import WorkloadNet.Machine
import WorkloadNet.Network.Uplink
import WorkloadNet.Route.Watcher
import WorkloadNet.Settings

/-!
# Running commands

A command runs on a site: a machine and a packet filter. What it only looks at are its surroundings. The
settings come from the settings file if one is given; an argument outdoes a setting.

Commands that go on until they are interrupted come to what they have started.
-/

namespace WorkloadNet.CommandLine

open Firewall

/-- What commands work on. -/
structure Site (φ : Type) where
  /-- The machine. -/
  machine : Machine := {}
  /-- The packet filter. -/
  filter : φ

/-- What commands look at. -/
structure Surroundings where
  /-- The files. -/
  files : Text.FileTree := {}
  /-- The addresses of the interfaces. -/
  addresses : List Dhcp.InterfaceAddress := []
  /-- What the installed programs do, by name. -/
  course? : String → Option Program.Course := fun _ => none
  /-- The answer to a question for the default interface. -/
  route : Route.Query := .error .noDefaultRoute
  /-- The answers after each notification. -/
  routeChanges : List Route.Query := []

/-- What a command comes to. -/
inductive Outcome where
  /-- It is done. -/
  | done
  /-- It prints lines. -/
  | printed (lines : List String)
  /-- It has started a forwarder. -/
  | forwarding (forwarder : Dns.Forwarder)
  /-- It has started a zone server. -/
  | serving (server : Dns.ZoneServer)
  /-- It has started a lease server. -/
  | leasing (server : Dhcp.LeaseServer)

variable {φ : Type}

namespace Site

/-- The links of the machine, with its namespaces in a folder. -/
def links (folder : String) : LinkManager (Site φ) :=
  (Machine.links folder).zoom machine fun machine site => { site with machine }

/-- The namespaces of the machine in a folder. -/
def spaces (folder : String) : NamespaceManager (Site φ) :=
  (Machine.namespaces folder).zoom machine fun machine site => { site with machine }

/-- The packet filter of the site. -/
def firewall (backend : Backend φ) : Backend (Site φ) :=
  backend.zoom filter fun filter site => { site with filter }

end Site

/-! ## Bridges -/

/-- An interface that has a name. -/
def named (interface : String) : Option String := if interface = "" then none else some interface

/-- Moves the rules of a bridge along the default interfaces, from the current one. -/
def follow {σ : Type} (fw : Backend σ) (bridge mark : String) (current : Option String) :
    List String → Action σ Unit
  | [] => pure ()
  | interface :: rest => do
    if named interface ≠ current then
      fw.switchHostInterface current (named interface) bridge mark
    follow fw bridge mark (named interface) rest

/-- Installs the rules of a bridge behind an interface that has a name, and follows the default
interface from there. -/
def configureAndFollow {σ : Type} (fw : Backend σ) (bridge mark : String) (hostIf : Option String)
    (interfaces : List String) : Action σ Unit := do
  match hostIf.bind named with
  | some hostIf => fw.configureBridge bridge hostIf mark
  | none => pure ()
  follow fw bridge mark (hostIf.bind named) interfaces

/-! ## Services -/

/-- The settings of a forwarder that arguments and settings give. -/
def forwarderSettings (settings : Settings) (listen : String) (resolvConf : Option String)
    (timeoutSecs : Option Nat) (zone : String) : Dns.ForwarderSettings where
  address := listen
  timeoutMs := 1000 * timeoutSecs.getD settings.dnsTimeoutSecs
  resolvConf := resolvConf.getD settings.resolvConf
  zone := zone

/-- Starts to forward names. -/
def forwardNames (s : Surroundings) (settings : Dns.ForwarderSettings) :
    NameService → Except Failure Outcome
  | .failover => do
    return .forwarding (← Dns.Forwarder.start s.files settings)
  | .coredns => do
    let _ ← Dns.ForwarderSettings.refused settings.check
    return .serving (← Dns.ZoneServer.start settings (s.course? Dns.ZoneServer.program))

/-- Starts to hand out addresses. -/
def handOut (s : Surroundings) (settings : Dhcp.LeaseSettings) (interface : String) (router : V4) :
    Except Failure Outcome := do
  let settings ← settings.withInterface s.addresses interface router
  let engine := match s.course? Dhcp.engineProgram with
    | some course => .program course
    | none => .uninstalled
  return .leasing (← (Dhcp.LeaseServer.start settings engine).1)

/-! ## Networks -/

/-- Gives a network access through a host interface; the standard tables come first. -/
def connectNetwork {σ : Type} (fw : Backend σ) (net : Network) (hostIf : String) :
    Action σ Unit := do
  fw.ensureStandardTables
  net.connect fw hostIf

/-- Builds a network and connects it. A network that cannot be connected is destroyed again. -/
def createNetwork {σ : Type} (fw : Backend σ) (links : LinkManager σ) (spaces : NamespaceManager σ)
    (request : NetworkRequest σ) (hostIf : Option String) : Action σ Unit := do
  let net ← Network.build spaces request
  match hostIf with
  | none => return ()
  | some hostIf =>
    match ← (connectNetwork fw net hostIf).attempt with
    | .ok () => return ()
    | .error failure =>
      let _ ← (Network.release links spaces net.name).attempt
      Action.fail failure

/-- Does something with a network. -/
def NetworkCommand.run {σ : Type} (fw : Backend σ) (links : LinkManager σ)
    (spaces : NamespaceManager σ) : NetworkCommand → Action σ Unit
  | create name subnet gateway bridge hostIf =>
    createNetwork fw links spaces ⟨name, some subnet, some gateway, some bridge, some links⟩ hostIf
  | destroy name => do
    let net ← Network.open spaces { name, links := some links }
    Network.release links spaces net.name
  | connect name hostIf => do
    connectNetwork fw (← Network.open spaces { name, links := some links }) hostIf
  | disconnect name hostIf => do
    (← Network.open spaces { name, links := some links }).disconnect fw hostIf

/-! ## All commands -/

/-- An action that is then done. -/
def completed {σ : Type} (action : Action σ Unit) : Action σ Outcome := do
  action
  return .done

/-- Runs a command. -/
def Command.run (backend : Backend φ) (s : Surroundings) (settings : Settings) :
    Command → Action (Site φ) Outcome
  | createBridge name subnet off =>
    completed (WorkloadNet.createBridge (Site.links settings.netnsDir) name subnet off)
  | createTap name bridge =>
    completed (WorkloadNet.createTap (Site.links settings.netnsDir) name bridge)
  | configureBridge name hostIf mark false => do
    completed ((Site.firewall backend).configureBridge name (hostIf.getD "")
      (mark.getD settings.nftMark))
  | configureBridge name hostIf mark true => do
    completed (configureAndFollow (Site.firewall backend) name (mark.getD settings.nftMark) hostIf
      (Route.emissions s.route s.routeChanges))
  | forwardDns listen resolvConf timeoutSecs service zone =>
    Action.ofExcept (forwardNames s
      (forwarderSettings settings listen resolvConf timeoutSecs zone) service)
  | serveDhcp interface router first last dns leaseFile leaseTimeSecs =>
    let leases : Dhcp.LeaseSettings :=
      { range := some (first, last)
        leaseNanos := leaseTimeSecs.getD settings.leaseTimeSecs * Dhcp.nanosPerSecond
        dns
        leaseFile := leaseFile.getD settings.leaseFile }
    Action.ofExcept (handOut s leases interface router)
  | defaultInterface false => do return .printed [← Action.ofExcept s.route]
  | defaultInterface true => return .printed (Route.emissions s.route s.routeChanges)
  | network command =>
    completed (command.run (Site.firewall backend) (Site.links settings.netnsDir)
      (Site.spaces settings.netnsDir))

/-- Why an invocation failed. -/
inductive RunFailure where
  /-- The settings file cannot be loaded. -/
  | settings (path : String) (cause : Failure)
  /-- The command failed. -/
  | command (cause : Failure)

namespace RunFailure

/-- The failure behind it. -/
def cause : RunFailure → Failure
  | settings _ cause => cause
  | command cause => cause

/-- The wording of a failed invocation. -/
def message : RunFailure → String
  | settings path _ => "failed to load configuration " ++ path
  | command cause => cause.text

end RunFailure

/-- The settings of an invocation: those of its settings file, or the default ones. -/
def Invocation.load (i : Invocation) (s : Surroundings) : Except RunFailure Settings :=
  match i.settings with
  | none => .ok {}
  | some path => (Settings.load path (s.files.read path)).mapError (.settings path)

/-- Runs an invocation on a site. -/
def Invocation.run (backend : Backend φ) (s : Surroundings) (i : Invocation) (site : Site φ) :
    Except RunFailure Outcome × Site φ :=
  match i.load s with
  | .error failure => (.error failure, site)
  | .ok settings =>
    let (result, site) := (i.command.run backend s settings).on site
    (result.mapError .command, site)

end WorkloadNet.CommandLine
