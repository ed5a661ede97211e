import WorkloadNet.Action
import WorkloadNet.Firewall.Rule

/-!
# What the rule engine needs

`Backend σ` is the packet filter as the engine sees it, over a state `σ`.
-/

namespace WorkloadNet.Firewall

/-- A rule as it is installed. -/
structure InstalledRule where
  /-- The handle by which it is deleted. -/
  handle : Nat
  /-- Its comment: the fingerprint, for rules of this program. -/
  comment : Option String
  deriving DecidableEq, Repr

/-- The operations of a packet filter. -/
structure Backend (σ : Type) where
  /-- Lists the tables. -/
  tables : Action σ (List TableSpec)
  /-- Lists the chains of a table. -/
  chains : TableSpec → Action σ (List String)
  /-- Creates a table. -/
  createTable : TableSpec → Action σ Unit
  /-- Creates a chain of a table. -/
  createChain : TableSpec → ChainRequest → Action σ Unit
  /-- Appends a rule to its chain of a table, with the fingerprint as comment. -/
  appendRule : TableSpec → Rule → Action σ Unit
  /-- Lists the rules of a chain of a table. -/
  rules : TableSpec → String → Action σ (List InstalledRule)
  /-- Deletes the rule with a handle from a chain of a table. -/
  deleteRule : TableSpec → String → Nat → Action σ Unit

variable {σ κ : Type}

/-- The same operations on a part of a larger state. -/
def Backend.zoom (get : σ → κ) (put : κ → σ → σ) (backend : Backend κ) : Backend σ where
  tables := backend.tables.zoom get put
  chains table := (backend.chains table).zoom get put
  createTable table := (backend.createTable table).zoom get put
  createChain table chain := (backend.createChain table chain).zoom get put
  appendRule table rule := (backend.appendRule table rule).zoom get put
  rules table chain := (backend.rules table chain).zoom get put
  deleteRule table chain handle := (backend.deleteRule table chain handle).zoom get put

end WorkloadNet.Firewall
