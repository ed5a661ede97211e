import Std.Data.ExtTreeMap

/-!
# Tables and chains

A table is identified by its name and its address family; two families may each have a table of one
name. A chain is requested by name and table name: a base chain is attached to a hook, a regular one
is only reached by jumps. The two standard tables are `inet filter` and `ip nat`.
-/

namespace WorkloadNet.Firewall

/-- The address family of a table. -/
inductive Family where
  /-- IPv4 and IPv6. -/
  | inet
  /-- IPv4 only. -/
  | ip
  deriving DecidableEq, Repr

namespace Family

/-- The name of a family. -/
def text : Family → String
  | inet => "inet"
  | ip => "ip"

/-- The place of a family in the order of tables of one name. -/
def rank : Family → Nat
  | inet => 0
  | ip => 1

theorem rank_inj {a b : Family} (h : a.rank = b.rank) : a = b := by
  cases a <;> cases b <;> simp [rank] at h <;> rfl

end Family

/-- A table as the packet filter identifies it. -/
structure TableSpec where
  /-- Its name. -/
  name : String
  /-- Its family. -/
  family : Family
  deriving DecidableEq, Repr

namespace TableSpec

/-- The text of a table: family, then name. -/
def text (t : TableSpec) : String := t.family.text ++ " " ++ t.name

/-- Tables are ordered by name, then by family. -/
instance : Ord TableSpec :=
  ⟨compareLex (compareOn TableSpec.name) (compareOn fun t => t.family.rank)⟩

instance : Std.TransOrd TableSpec :=
  inferInstanceAs (Std.TransCmp
    (compareLex (compareOn TableSpec.name) (compareOn fun t : TableSpec => t.family.rank)))

instance : Std.LawfulEqOrd TableSpec where
  eq_of_compare {a b} h := by
    obtain ⟨hname, hfamily⟩ : compare a.name b.name = .eq ∧
        compare a.family.rank b.family.rank = .eq := Ordering.then_eq_eq.1 h
    cases a; cases b
    simp only [Std.LawfulEqOrd.compare_eq_iff_eq] at hname hfamily
    simp only [TableSpec.mk.injEq]
    exact ⟨hname, Family.rank_inj hfamily⟩

end TableSpec

/-- The type of a base chain. -/
inductive ChainType where
  /-- Packet filtering. -/
  | filter
  /-- Changing the addresses of packets. -/
  | nat
  deriving DecidableEq, Repr

/-- The name of a chain type. -/
def ChainType.text : ChainType → String
  | filter => "filter"
  | nat => "nat"

/-- Where a base chain is attached. -/
inductive Hook where
  /-- Before routing. -/
  | prerouting
  /-- Packets for the host. -/
  | input
  /-- Routed packets. -/
  | forward
  /-- Packets from the host. -/
  | output
  /-- After routing. -/
  | postrouting
  deriving DecidableEq, Repr

namespace Hook

/-- The name of a hook. -/
def text : Hook → String
  | prerouting => "prerouting"
  | input => "input"
  | forward => "forward"
  | output => "output"
  | postrouting => "postrouting"

/-- Every hook. -/
def all : List Hook := [prerouting, input, forward, output, postrouting]

/-- The hook of a name. -/
def ofName? (name : String) : Option Hook := all.find? fun hook => hook.text = name

end Hook

/-- What becomes of packets that no rule of a base chain decides on. -/
inductive Policy where
  /-- They pass. -/
  | accept
  /-- They are dropped. -/
  | drop
  deriving DecidableEq, Repr

/-- The name of a policy. -/
def Policy.text : Policy → String
  | accept => "accept"
  | drop => "drop"

/-- How a base chain is attached. -/
structure BaseChain where
  /-- Its type. -/
  type : ChainType
  /-- Its hook. -/
  hook : Hook
  /-- Its priority at the hook. -/
  priority : Int
  /-- Its policy. -/
  policy : Policy
  deriving DecidableEq, Repr

/-- A request for a chain. A chain that exists satisfies it whatever its attachment; a missing one is
created only if `create` is set. -/
structure ChainRequest where
  /-- The name of the chain. -/
  name : String
  /-- The name of its table. -/
  table : String
  /-- Whether a missing chain is created. -/
  create : Bool
  /-- The attachment of a new chain, none for a regular chain. -/
  base : Option BaseChain := none
  deriving DecidableEq, Repr

namespace ChainRequest

/-- A chain that has to exist. -/
def existing (name table : String) : ChainRequest := ⟨name, table, false, none⟩

/-- A regular chain, created when missing. -/
def regular (name table : String) : ChainRequest := ⟨name, table, true, none⟩

/-- A base chain, created when missing. -/
def based (name table : String) (base : BaseChain) : ChainRequest := ⟨name, table, true, some base⟩

end ChainRequest

/-- A table together with the chains that it is to hold. -/
structure TableRequest where
  /-- The table. -/
  spec : TableSpec
  /-- The chains. -/
  chains : List ChainRequest
  deriving DecidableEq, Repr

/-! ## The standard tables -/

/-- The filter table. -/
def filterTable : String := "filter"
/-- The table in which addresses are changed. -/
def natTable : String := "nat"
/-- The chain of packets for the host. -/
def inputChain : String := "INPUT"
/-- The chain of routed packets. -/
def forwardChain : String := "FORWARD"
/-- The chain of packets from the host. -/
def outputChain : String := "OUTPUT"
/-- The chain before routing. -/
def preroutingChain : String := "PREROUTING"
/-- The chain after routing. -/
def postroutingChain : String := "POSTROUTING"

/-- `inet filter` with accepting chains for input, forwarding and output. -/
def standardFilter : TableRequest where
  spec := ⟨filterTable, .inet⟩
  chains := [
    .based inputChain filterTable ⟨.filter, .input, 0, .accept⟩,
    .based forwardChain filterTable ⟨.filter, .forward, 0, .accept⟩,
    .based outputChain filterTable ⟨.filter, .output, 0, .accept⟩]

/-- `ip nat` with accepting chains before and after routing. -/
def standardNat : TableRequest where
  spec := ⟨natTable, .ip⟩
  chains := [
    .based preroutingChain natTable ⟨.nat, .prerouting, -100, .accept⟩,
    .based postroutingChain natTable ⟨.nat, .postrouting, 100, .accept⟩]

/-- The family that is meant by a bare table name when several families have a table of it. -/
def preferredFamily (name : String) : Option Family :=
  if name = filterTable then some .inet else if name = natTable then some .ip else none

end WorkloadNet.Firewall
