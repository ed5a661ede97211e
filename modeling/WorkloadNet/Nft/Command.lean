import WorkloadNet.Firewall.Backend
import WorkloadNet.Nft.Statement

/-!
# Commands

The four commands that are sent to the packet filter tool.
-/

namespace WorkloadNet.Nft

open Firewall

/-- A command to the packet filter tool. -/
inductive Command where
  /-- Adds a table. -/
  | addTable (table : TableSpec)
  /-- Adds a chain to a table. -/
  | addChain (table : TableSpec) (request : ChainRequest)
  /-- Adds a rule to its chain of a table, with its fingerprint as comment. -/
  | addRule (table : TableSpec) (rule : Rule)
  /-- Deletes the rule with a handle from a chain of a table. -/
  | deleteRule (table : TableSpec) (chain : String) (handle : Nat)
  deriving DecidableEq, Repr

namespace Command

/-- The attachment of a base chain as members of its object. -/
def baseMembers (base : BaseChain) : List (String × Json) :=
  [("type", .text base.type.text), ("hook", .text base.hook.text), ("prio", .int base.priority),
    ("policy", .text base.policy.text)]

/-- The JSON form of a command. -/
def toJson : Command → Json
  | addTable table => .ofMembers [("add", .ofMembers [("table", .ofMembers
      [("family", .text table.family.text), ("name", .text table.name)])])]
  | addChain table request => .ofMembers [("add", .ofMembers [("chain", .ofMembers
      ([("family", .text table.family.text), ("table", .text table.name),
        ("name", .text request.name)] ++ (request.base.map baseMembers).getD []))])]
  | addRule table rule => .ofMembers [("add", .ofMembers [("rule", .ofMembers
      [("family", .text table.family.text), ("table", .text table.name),
        ("chain", .text rule.chain), ("expr", .array ((statements rule).map Statement.toJson)),
        ("comment", .text rule.fingerprint)])])]
  | deleteRule table chain handle => .ofMembers [("delete", .ofMembers [("rule", .ofMembers
      [("family", .text table.family.text), ("table", .text table.name), ("chain", .text chain),
        ("expr", .array []), ("handle", .nat handle)])])]

end Command

end WorkloadNet.Nft
