import WorkloadNet.Nft.Command
import WorkloadNet.Nft.Listing

/-!
# The packet filter tool

`Tool τ` is the external tool over a state `τ`: it lists the whole rule set and applies one command.
`Tool.backend` makes a packet filter of it. The tool has no query by table or chain, so every question
is answered from a new listing by filtering it by family, table and chain.
-/

namespace WorkloadNet.Nft

open Firewall

/-- Why a call of the tool failed. -/
inductive ToolFault where
  /-- There is no such program. -/
  | missing
  /-- It ended with a failure while doing this. -/
  | failed (activity : String)
  /-- What it printed is not UTF-8. -/
  | notText
  /-- What it printed is not a listing. -/
  | notListing
  deriving DecidableEq, Repr

/-- The wording of a fault. -/
def ToolFault.message : ToolFault → String
  | missing => "unable to execute \"nft\": " ++ (IoCause.system errNoEntry).text
  | failed activity => "\"nft\" did not return successfully while " ++ activity
  | notText => "\"nft\"'s output contained invalid utf8"
  | notListing => "got invalid json"

/-- The external tool. -/
structure Tool (τ : Type) where
  /-- Lists the rule set. -/
  list : StateM τ (Except ToolFault (List Listed))
  /-- Applies a command. -/
  apply : Command → StateM τ (Except ToolFault Unit)

variable {τ : Type}

/-! ## Questions to a listing -/

/-- The table that an object is, if it is one of a family of the engine. -/
def Listed.table? : Listed → Option TableSpec
  | table family name => family.family?.map fun family => ⟨name, family⟩
  | _ => none

/-- The name of the chain that an object is, if it belongs to a table. -/
def Listed.chainOf? (spec : TableSpec) : Listed → Option String
  | chain family owner name =>
    if family = .ofFamily spec.family ∧ owner = spec.name then some name else none
  | _ => none

/-- The rule that an object is, if it belongs to a chain of a table and has a handle. -/
def Listed.ruleOf? (spec : TableSpec) (name : String) : Listed → Option InstalledRule
  | rule family owner holder handle comment =>
    if family = .ofFamily spec.family ∧ owner = spec.name ∧ holder = name then
      handle.map fun handle => ⟨handle, comment⟩
    else none
  | _ => none

/-! ## The tool as a packet filter -/

namespace Tool

/-- The result of a call, as a failure of the operation that made it. -/
def call {α : Type} (operation : String) (action : StateM τ (Except ToolFault α)) : Action τ α :=
  .of fun t =>
    match action.run t with
    | (.ok a, t) => (.ok a, t)
    | (.error fault, t) => (.error (.kernel operation fault.message), t)

/-- Lists the rule set. -/
def ruleset (tool : Tool τ) : Action τ (List Listed) := call "read nftables ruleset" tool.list

/-- Deletes a rule; a handle that the tool cannot have given is refused. -/
def deleteRule (tool : Tool τ) (table : TableSpec) (chain : String) (handle : Nat) :
    Action τ Unit := do
  if maxHandle < handle then Action.fail (.config s!"rule handle {handle} out of range")
  call s!"delete rule {handle} from {chain}" (tool.apply (.deleteRule table chain handle))

/-- The packet filter that the tool drives. -/
def backend (tool : Tool τ) : Backend τ where
  tables := do return (← tool.ruleset).filterMap Listed.table?
  chains table := do return (← tool.ruleset).filterMap (Listed.chainOf? table)
  createTable table := call s!"create table {table.text}" (tool.apply (.addTable table))
  createChain table request :=
    call s!"create chain {request.name} in {table.text}" (tool.apply (.addChain table request))
  appendRule table rule :=
    call s!"append rule to {rule.chain}" (tool.apply (.addRule table rule))
  rules table chain := do return (← tool.ruleset).filterMap (Listed.ruleOf? table chain)
  deleteRule := tool.deleteRule

end Tool

end WorkloadNet.Nft
