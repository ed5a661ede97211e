import WorkloadNet.Firewall.Backend

/-!
# The rule engine

The engine ensures tables and chains, which are reused when present and never replaced, and installs
and removes lists of rules. Rules are not deduplicated: whoever installs a list removes it again, and
removal deletes the first installed rule of the same fingerprint. A list that fails half way leaves
what was done before the failure.
-/

namespace WorkloadNet.Firewall

variable {σ : Type}

/-- The table meant by a bare name among those listed: that of the preferred family if there is one,
the first otherwise. -/
def resolveTable (name : String) (tables : List TableSpec) : Option TableSpec :=
  let candidates := tables.filter fun t => t.name = name
  (candidates.find? fun t => some t.family = preferredFamily name).or candidates.head?

theorem name_of_resolveTable {name : String} {tables : List TableSpec} {table : TableSpec}
    (h : resolveTable name tables = some table) : table.name = name := by
  have hmem : table ∈ tables.filter fun t => t.name = name := by
    unfold resolveTable at h
    rcases Option.or_eq_some_iff.1 h with hfind | ⟨-, hhead⟩
    · exact List.mem_of_find?_eq_some hfind
    · exact List.mem_of_head? hhead
  simpa using (List.mem_filter.1 hmem).2

namespace Backend

/-- Finds the table meant by a bare name. -/
def findTable (fw : Backend σ) (name : String) : Action σ TableSpec := do
  match resolveTable name (← fw.tables) with
  | some table => return table
  | none => Action.fail (.notFound "table" name)

/-- Finds the handle of the first installed rule with the fingerprint of this rule. -/
def findInstalled (fw : Backend σ) (table : TableSpec) (rule : Rule) : Action σ (Option Nat) := do
  let installed ← fw.rules table rule.chain
  return (installed.find? fun r => r.comment = some rule.fingerprint).map InstalledRule.handle

/-! ## Tables and chains -/

/-- Makes sure that a chain exists, and answers with its table. -/
def newChain (fw : Backend σ) (request : ChainRequest) : Action σ TableSpec := do
  if request.name = "" ∨ request.table = "" then
    Action.fail (.config "chain name and table must be specified")
  let table ← fw.findTable request.table
  if request.name ∈ (← fw.chains table) then return table
  if ¬ request.create then
    Action.fail (.notFound "chain" s!"{request.name} in table {request.table}")
  fw.createChain table request
  return table

/-- Makes sure that chains exist, in order. -/
def newChains (fw : Backend σ) : List ChainRequest → Action σ Unit
  | [] => return ()
  | request :: rest => do
    let _ ← fw.newChain request
    fw.newChains rest

/-- Makes sure that a table and its chains exist. -/
def ensureTable (fw : Backend σ) (request : TableRequest) : Action σ Unit := do
  if request.spec ∉ (← fw.tables) then fw.createTable request.spec
  fw.newChains request.chains

/-- Makes sure that the standard tables and their chains exist. -/
def ensureStandardTables (fw : Backend σ) : Action σ Unit := do
  fw.ensureTable standardFilter
  fw.ensureTable standardNat

/-! ## Rules -/

/-- Makes one chain jump to another, which is created when missing. A jump that is installed is not
repeated. -/
def addJumpRule (fw : Backend σ) (source target table : String) : Action σ Unit := do
  let spec ← fw.newChain (.existing source table)
  let _ ← fw.newChain (.regular target table)
  let rule := Rule.jump source target table
  if (← fw.findInstalled spec rule).isNone then fw.appendRule spec rule

/-- Installs a rule. -/
def addRule (fw : Backend σ) (rule : Rule) : Action σ Unit := do
  let table ← fw.findTable rule.table
  (fw.appendRule table rule).annotate s!"failed to add rule `{rule.text}` to {rule.chain}"

/-- Installs rules in order, up to the first failure. -/
def addAll (fw : Backend σ) : List Rule → Action σ Unit
  | [] => return ()
  | rule :: rest => do
    fw.addRule rule
    fw.addAll rest

/-- Removes the first installed match of a rule from a table, if there is one. -/
def removeFrom (fw : Backend σ) (table : TableSpec) (rule : Rule) : Action σ Unit := do
  match ← fw.findInstalled table rule with
  | some handle =>
    (fw.deleteRule table rule.chain handle).annotate s!"failed to remove rule `{rule.text}`"
  | none => return ()

/-- Removes the first installed match of a rule. A missing table has no rules to remove. -/
def removeRule (fw : Backend σ) (rule : Rule) : Action σ Unit := do
  match ← (fw.findTable rule.table).attempt with
  | .ok table => fw.removeFrom table rule
  | .error failure => if failure.isNotFound then return () else Action.fail failure

/-- Removes the first installed match of each rule, up to the first failure. -/
def removeAll (fw : Backend σ) : List Rule → Action σ Unit
  | [] => return ()
  | rule :: rest => do
    fw.removeRule rule
    fw.removeAll rest

/-- Installs a set of rules in order. -/
def addRules (fw : Backend σ) (set : RuleSet) : Action σ Unit := fw.addAll set.rules

/-- Removes the first installed match of each rule of a set. -/
def removeRules (fw : Backend σ) (set : RuleSet) : Action σ Unit := fw.removeAll set.rules

end Backend

end WorkloadNet.Firewall
