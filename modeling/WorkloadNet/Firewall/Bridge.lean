import WorkloadNet.Firewall.Engine

/-!
# Rules of a bridge

A bridge reaches the outside through a host interface: forwarding both ways, masquerading, and name
and address service on the host's own input. The rules stand in chains of the workload, named by a
prefix, which the standard chains jump to. When the host interface changes, the rules for the old one
are removed and those for the new one installed.
-/

namespace WorkloadNet.Firewall

/-- The port of name service. -/
def dnsPort : UInt16 := 53
/-- The port of the address server. -/
def dhcpServerPort : UInt16 := 67
/-- The port of address clients. -/
def dhcpClientPort : UInt16 := 68

/-- The chain that a standard chain of this name jumps to for a prefix. -/
def prefixedChain (mark chain : String) : String := mark ++ chain

/-- The nine rules of a bridge behind a host interface. -/
def bridgeRuleList (hostIf bridge mark : String) : List Rule :=
  let forward := prefixedChain mark forwardChain
  let input := prefixedChain mark inputChain
  [.outbound forward filterTable hostIf bridge,
    .returnTraffic forward filterTable hostIf bridge,
    .masquerade postroutingChain natTable hostIf,
    .acceptPort dnsPort .udp input filterTable,
    .acceptPort dhcpServerPort .udp input filterTable,
    .acceptPort dhcpClientPort .udp input filterTable,
    .acceptPort dnsPort .tcp input filterTable,
    .acceptPort dhcpServerPort .tcp input filterTable,
    .acceptPort dhcpClientPort .tcp input filterTable]

/-- The rules of a bridge as a set. -/
def bridgeRules (hostIf bridge mark : String) : Except Failure RuleSet :=
  RuleSet.ofList (bridgeRuleList hostIf bridge mark)

variable {σ : Type}

namespace Backend

/-- Makes sure of the standard tables and of the chains of a prefix with the jumps to them. -/
def prepareBridgeChains (fw : Backend σ) (mark : String) : Action σ Unit := do
  fw.ensureStandardTables
  fw.addJumpRule forwardChain (prefixedChain mark forwardChain) filterTable
  fw.addJumpRule inputChain (prefixedChain mark inputChain) filterTable

/-- Installs the rules of a bridge behind a host interface. -/
def configureBridge (fw : Backend σ) (bridge hostIf mark : String) : Action σ Unit := do
  fw.prepareBridgeChains mark
  fw.addRules (← Action.ofExcept (bridgeRules hostIf bridge mark))

/-- Removes the rules of a bridge behind a host interface, if one is named. -/
def detachBridge (fw : Backend σ) (hostIf : Option String) (bridge mark : String) :
    Action σ Unit := do
  match hostIf.filter (· ≠ "") with
  | none => return ()
  | some hostIf => fw.removeRules (← Action.ofExcept (bridgeRules hostIf bridge mark))

/-- Installs the rules of a bridge behind a host interface, if one is named. -/
def attachBridge (fw : Backend σ) (hostIf : Option String) (bridge mark : String) :
    Action σ Unit := do
  match hostIf.filter (· ≠ "") with
  | none => return ()
  | some hostIf => fw.addRules (← Action.ofExcept (bridgeRules hostIf bridge mark))

/-- Moves the rules of a bridge from one host interface to another; either may be absent or empty,
which means that there is none. -/
def switchHostInterface (fw : Backend σ) (old new : Option String) (bridge mark : String) :
    Action σ Unit := do
  fw.prepareBridgeChains mark
  fw.detachBridge old bridge mark
  fw.attachBridge new bridge mark

end Backend

end WorkloadNet.Firewall
