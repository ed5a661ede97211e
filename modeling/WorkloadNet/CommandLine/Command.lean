import WorkloadNet.CommandLine.Reader

/-!
# Commands

The commands of the program with their arguments, and the grammar in which they are given.
-/

namespace WorkloadNet.CommandLine

/-- The ways to forward names. -/
inductive NameService where
  /-- By the forwarder of this library. -/
  | failover
  /-- By a zone server. -/
  | coredns
  deriving DecidableEq, Repr

/-- The name of a way to forward names on the command line. -/
def NameService.text : NameService → String
  | failover => "failover"
  | coredns => "coredns"

/-- What is to be done with a network. -/
inductive NetworkCommand where
  /-- Builds it, and connects it if a host interface is given. -/
  | create (name : String) (subnet : Cidr) (gateway bridge : V4) (hostIf : Option String)
  /-- Destroys it. -/
  | destroy (name : String)
  /-- Connects it. -/
  | connect (name hostIf : String)
  /-- Disconnects it. -/
  | disconnect (name hostIf : String)
  deriving DecidableEq, Repr

/-- What the program is to do. -/
inductive Command where
  /-- Creates a bridge with the first usable address of a subnet. -/
  | createBridge (name subnet : String) (disableTxOffload : Bool)
  /-- Creates a tap device on a bridge. -/
  | createTap (name bridge : String)
  /-- Installs the rules of a bridge; with `follow`, moves them with the default interface. -/
  | configureBridge (name : String) (hostIf mark : Option String) (follow : Bool)
  /-- Forwards names. -/
  | forwardDns (listen : String) (resolvConf : Option String) (timeoutSecs : Option Nat)
      (service : NameService) (zone : String)
  /-- Hands out addresses. -/
  | serveDhcp (interface : String) (router : V4) (first last : Host) (dns : List V4)
      (leaseFile : Option String) (leaseTimeSecs : Option Nat)
  /-- Prints the default interface; with `watch`, whenever it changes. -/
  | defaultInterface (watch : Bool)
  /-- Does something with a network. -/
  | network (command : NetworkCommand)
  deriving DecidableEq, Repr

/-- What is asked of the program. -/
structure Invocation where
  /-- The command. -/
  command : Command
  /-- The settings file. -/
  settings : Option String
  /-- Whether to report every step. -/
  verbose : Bool
  deriving DecidableEq, Repr

/-! ## The grammar -/

/-- A level with the arguments that every level has. -/
def level (parameters : List Parameter) (switches : List Switch := [])
    (operands : List Parameter := []) (commands : List (String × Level) := []) : Level where
  parameters := parameters ++ [{ key := "config", names := ["config"], reading := .path }]
  switches := switches ++ [⟨"verbose", some 'v', .noted⟩, ⟨"help", some 'h', .help⟩]
  operands := operands
  commands := commands

/-- A parameter that is found under its first name and has to be given. -/
def required (name : String) (reading : Reading := .text) (letter : Option Char := none)
    (alsoNamed : List String := []) : Parameter :=
  { key := name, names := name :: alsoNamed, letter, reading, need := .required }

/-- A parameter that is found under its first name and may be left out. -/
def optional (name : String) (reading : Reading := .text) (alsoNamed : List String := []) :
    Parameter :=
  { required name reading none alsoNamed with need := .optional }

/-- The name of a new object. -/
def newName : Parameter := required "name" .text (some 'n')

/-- The name of a network. -/
def networkName : Parameter := { key := "name", need := .required }

/-- The host interface of a network. -/
def hostInterface (need : Need) : Parameter :=
  { required "host-if" .text none ["hostIf"] with need }

/-- The commands on networks. -/
def networkLevel : Level := level [] [] [] [
  ("create", level [required "subnet" .subnet, required "gateway" .v4, required "bridge" .v4,
    hostInterface .optional] [] [networkName]),
  ("destroy", level [] [] [networkName]),
  ("connect", level [hostInterface .required] [] [networkName]),
  ("disconnect", level [hostInterface .required] [] [networkName])]

/-- The grammar of the program. -/
def grammar : Level := level [] [⟨"version", some 'V', .version⟩] [] [
  ("create-bridge", level [newName, required "cidr"] [⟨"disable-tx-offload", none, .noted⟩]),
  ("create-tap", level [newName, required "bridge"]),
  ("configure-bridge", level [newName, hostInterface (.requiredWithout "follow"),
    optional "nft-prefix" .text ["nftPrefix"]] [⟨"follow", none, .noted⟩]),
  ("forward-dns", level [required "listen" .text (some 'l'), optional "resolv-conf" .path,
    optional "timeout-secs" .number, optional "zone",
    optional "backend" (.choice [NameService.failover.text, NameService.coredns.text])]),
  ("serve-dhcp", level [required "interface" .text (some 'i'), required "router" .v4,
    required "range-start" .host, required "range-end" .host,
    { optional "dns" .v4 with many := true }, optional "lease-file" .path,
    optional "lease-time-secs" .number]),
  ("default-interface", level [] [⟨"watch", some 'w', .noted⟩]),
  ("network", networkLevel)]

/-! ## From values to commands -/

namespace Found

/-- The value under a key. -/
def text? (f : Found) (key : String) : Option String := (f.lookup key).bind List.head?

/-- Whether a switch is given. -/
def has (f : Found) (key : String) : Bool := (f.lookup key).isSome

/-- The values under a key that may be repeated. -/
def texts (f : Found) (key : String) : List String :=
  (f.filter fun (k, _) => k = key).flatMap Prod.snd

end Found

/-- The zone that is served when none is given. -/
def rootZone : String := "."

/-- The command on a network that values give. -/
def NetworkCommand.ofFound? (f : Found) : List String → Option NetworkCommand
  | ["create"] => do
    return create (← f.text? "name") (← (← f.text? "subnet") |> subnet?)
      (← (← f.text? "gateway") |> V4.ofText?) (← (← f.text? "bridge") |> V4.ofText?)
      (f.text? "host-if")
  | ["destroy"] => do return destroy (← f.text? "name")
  | ["connect"] => do return connect (← f.text? "name") (← f.text? "host-if")
  | ["disconnect"] => do return disconnect (← f.text? "name") (← f.text? "host-if")
  | _ => none

/-- The command that values give. -/
def Command.ofFound? (f : Found) : List String → Option Command
  | ["create-bridge"] => do
    return createBridge (← f.text? "name") (← f.text? "cidr") (f.has "disable-tx-offload")
  | ["create-tap"] => do return createTap (← f.text? "name") (← f.text? "bridge")
  | ["configure-bridge"] => do
    return configureBridge (← f.text? "name") (f.text? "host-if") (f.text? "nft-prefix")
      (f.has "follow")
  | ["forward-dns"] => do
    let service :=
      if f.text? "backend" = some NameService.coredns.text then NameService.coredns else .failover
    return forwardDns (← f.text? "listen") (f.text? "resolv-conf")
      ((f.text? "timeout-secs").bind number?) service ((f.text? "zone").getD rootZone)
  | ["serve-dhcp"] => do
    return serveDhcp (← f.text? "interface") (← (← f.text? "router") |> V4.ofText?)
      (← (← f.text? "range-start") |> Host.ofText?) (← (← f.text? "range-end") |> Host.ofText?)
      ((f.texts "dns").filterMap V4.ofText?) (f.text? "lease-file")
      ((f.text? "lease-time-secs").bind number?)
  | ["default-interface"] => some (defaultInterface (f.has "watch"))
  | "network" :: path => (NetworkCommand.ofFound? f path).map network
  | _ => none

/-- What arguments ask of the program. -/
def Invocation.ofArguments (arguments : List String) : Except Fault Invocation := do
  let line ← Line.ofArguments grammar arguments
  match Command.ofFound? line.found line.path with
  | some command => return ⟨command, line.found.text? "config", line.found.has "verbose"⟩
  | none => throw .missingRequired

end WorkloadNet.CommandLine
