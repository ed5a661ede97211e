import WorkloadNet.Firewall.Table
import WorkloadNet.Link.Manager
import WorkloadNet.Text.Quoted
import WorkloadNet.Transport

/-!
# Rules

A rule is a list of criteria, all of which a packet has to meet, and a verdict. `Rule.text` writes it
in the syntax of the packet filter; the fingerprint is that text behind a mark of this program, and is
kept as the comment of an installed rule to find it again.

A `RuleSet` is a list of rules without a fault. `RuleSet.ofList` checks the rules in order and
reports the first fault.
-/

namespace WorkloadNet.Firewall

/-- The state of a connection as the connection tracker sees it. -/
inductive ConnState where
  /-- The packet belongs to a known connection. -/
  | established
  /-- The packet opens a connection related to a known one. -/
  | related
  deriving DecidableEq, Repr

/-- The name of a connection state. -/
def ConnState.text : ConnState → String
  | established => "established"
  | related => "related"

/-- A criterion of a rule. -/
inductive Match where
  /-- The packet came in through this interface. -/
  | inputInterface (name : String)
  /-- The packet leaves through this interface. -/
  | outputInterface (name : String)
  /-- The connection is in one of these states. -/
  | connState (states : List ConnState)
  /-- The packet is of this transport protocol. -/
  | transport (proto : Transport)
  /-- The packet is for this port. -/
  | destPort (port : UInt16)
  deriving DecidableEq, Repr

/-- The text of a criterion, with the blank that follows it. -/
def Match.text : Match → String
  | inputInterface name => "iifname " ++ name ++ " "
  | outputInterface name => "oifname " ++ name ++ " "
  | connState states => "ct state " ++ ",".intercalate (states.map ConnState.text) ++ " "
  | transport proto => "meta l4proto " ++ proto.text ++ " "
  | destPort port => "th dport " ++ Text.decimal port.toNat ++ " "

/-- What becomes of a packet that meets the criteria. -/
inductive Verdict where
  /-- It passes. -/
  | accept
  /-- It is judged by another chain. -/
  | jump (chain : String)
  /-- Its source address becomes that of the interface that it leaves through. -/
  | masquerade
  deriving DecidableEq, Repr

/-- The text of a verdict. -/
def Verdict.text : Verdict → String
  | accept => "accept"
  | jump chain => "jump " ++ chain
  | masquerade => "masquerade"

/-- A rule of one chain of one table. -/
structure Rule where
  /-- The name of the table. -/
  table : String
  /-- The name of the chain. -/
  chain : String
  /-- The criteria. -/
  criteria : List Match
  /-- The verdict. -/
  verdict : Verdict
  deriving DecidableEq, Repr

/-- Why a rule cannot be installed. -/
inductive RuleFault where
  /-- The table or the chain has no name. -/
  | unnamed
  /-- An interface name is empty or too long. -/
  | badInterface (name chain : String)
  /-- A criterion asks for port 0. -/
  | portZero (chain : String)
  /-- A criterion lists no connection state. -/
  | noStates
  /-- A jump has no target. -/
  | noTarget
  deriving DecidableEq, Repr

/-- The wording of a fault. -/
def RuleFault.message : RuleFault → String
  | unnamed => "chain name and table must be specified"
  | badInterface name chain =>
    s!"invalid interface name {Text.quoted name} in rule for chain {chain}"
  | portZero chain => s!"port 0 in rule for chain {chain}"
  | noStates => "empty connection state match"
  | noTarget => "jump target must be specified"

/-- Whether a text can be the name of a link. -/
def isLinkName (name : String) : Bool := name ≠ "" && name.utf8ByteSize ≤ maxLinkName

/-- The fault of a criterion of a rule for a chain. -/
def Match.fault? (chain : String) : Match → Option RuleFault
  | inputInterface name => if isLinkName name then none else some (.badInterface name chain)
  | outputInterface name => if isLinkName name then none else some (.badInterface name chain)
  | connState states => if states = [] then some .noStates else none
  | transport _ => none
  | destPort port => if port = 0 then some (.portZero chain) else none

/-- The fault of a verdict. -/
def Verdict.fault? : Verdict → Option RuleFault
  | jump chain => if chain = "" then some .noTarget else none
  | _ => none

namespace Rule

/-- The text of a rule. -/
def text (r : Rule) : String := String.join (r.criteria.map Match.text) ++ r.verdict.text

/-- The identity of a rule within its chain. -/
def fingerprint (r : Rule) : String := "guestnet: " ++ r.text

/-- The first fault of a rule: its place, then its criteria in order, then its verdict. -/
def fault? (r : Rule) : Option RuleFault :=
  if r.table = "" ∨ r.chain = "" then some .unnamed
  else (r.criteria.findSome? (Match.fault? r.chain)).or r.verdict.fault?

/-- Accepts what comes in from the workload and leaves through the host interface. -/
def outbound (chain table hostIf workloadIf : String) : Rule :=
  ⟨table, chain, [.inputInterface workloadIf, .outputInterface hostIf], .accept⟩

/-- Accepts what comes back from the host interface to the workload on known connections. -/
def returnTraffic (chain table hostIf workloadIf : String) : Rule :=
  ⟨table, chain, [.inputInterface hostIf, .outputInterface workloadIf,
    .connState [.established, .related]], .accept⟩

/-- Masquerades what leaves through the host interface. -/
def masquerade (chain table hostIf : String) : Rule :=
  ⟨table, chain, [.outputInterface hostIf], .masquerade⟩

/-- Accepts what is for a port of a protocol. -/
def acceptPort (port : UInt16) (proto : Transport) (chain table : String) : Rule :=
  ⟨table, chain, [.transport proto, .destPort port], .accept⟩

/-- Jumps from one chain to another. -/
def jump (source target table : String) : Rule := ⟨table, source, [], .jump target⟩

end Rule

/-- A list of rules without a fault, installed and removed in order. -/
structure RuleSet where
  /-- The rules. -/
  rules : List Rule
  /-- No rule has a fault. -/
  faultless : ∀ rule ∈ rules, rule.fault? = none
  deriving DecidableEq

namespace RuleSet

/-- Checks rules in order; the first fault is reported. -/
def check (rules : List Rule) : Except RuleFault RuleSet :=
  match h : rules.findSome? Rule.fault? with
  | some fault => .error fault
  | none => .ok ⟨rules, by simpa using h⟩

/-- The rules as a set, or the failure that their first fault is. -/
def ofList (rules : List Rule) : Except Failure RuleSet :=
  match check rules with
  | .ok set => .ok set
  | .error fault => .error (.config fault.message)

/-- Rules without a fault are a set. -/
theorem check_of_faultless {rules : List Rule} (h : ∀ rule ∈ rules, rule.fault? = none) :
    check rules = .ok ⟨rules, h⟩ := by
  have hnone : rules.findSome? Rule.fault? = none := by simpa using h
  unfold check
  split <;> simp_all

/-- A set has the rules that it was made of. -/
theorem rules_of_ofList {rules : List Rule} {set : RuleSet} (h : ofList rules = .ok set) :
    set.rules = rules := by
  have hcheck : check rules = .ok set := by
    unfold ofList at h
    cases hc : check rules with
    | ok other =>
      rw [hc] at h
      cases h
      rfl
    | error fault =>
      rw [hc] at h
      cases h
  unfold check at hcheck
  split at hcheck
  · cases hcheck
  · cases hcheck
    rfl

end RuleSet

end WorkloadNet.Firewall
