import WorkloadNet.Firewall.Engine
import WorkloadNet.Network.Lifecycle

/-!
# Uplinks of a network

A network reaches the outside through a host interface by three rules in the standard chains:
forwarding both ways and masquerading. Connecting installs them; disconnecting removes the first
installed match of each.
-/

namespace WorkloadNet.Network

open Firewall

/-- The three rules of a network behind a host interface. -/
def uplinkRuleList (net : Network) (hostIf : String) : List Rule :=
  [.outbound forwardChain filterTable hostIf net.hostLink,
    .returnTraffic forwardChain filterTable hostIf net.hostLink,
    .masquerade postroutingChain natTable hostIf]

/-- The rules of a network behind a host interface as a set. -/
def uplinkRules (net : Network) (hostIf : String) : Except Failure RuleSet :=
  RuleSet.ofList (net.uplinkRuleList hostIf)

variable {σ : Type}

/-- Gives a live network access through a host interface. -/
def connect (fw : Backend σ) (net : Network) (hostIf : String) : Action σ Unit := do
  Action.ofExcept net.ensureAlive
  fw.addRules (← Action.ofExcept (net.uplinkRules hostIf))

/-- Withdraws the access of a live network through a host interface. -/
def disconnect (fw : Backend σ) (net : Network) (hostIf : String) : Action σ Unit := do
  Action.ofExcept net.ensureAlive
  fw.removeRules (← Action.ofExcept (net.uplinkRules hostIf))

end WorkloadNet.Network
