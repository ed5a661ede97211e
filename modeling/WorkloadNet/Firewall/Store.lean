import WorkloadNet.Firewall.Backend

/-!
# A packet filter in memory

The store keeps tables in the order of their names, with their chains in the order of creation and
the rules of each chain in the order in which they were appended. Each append takes the next handle,
whether or not it then finds its chain. Operations can be made to fail once.
-/

namespace WorkloadNet.Firewall

/-- A chain of the store. -/
structure StoredChain where
  /-- Its name. -/
  name : String
  /-- Whether it is a base chain. -/
  base : Bool
  /-- Its rules: handle and fingerprint. -/
  rules : List (Nat × String)
  deriving DecidableEq, Repr

/-- The operations of a store that can be made to fail. -/
inductive StoreOp where
  /-- Listing the tables. -/
  | tables
  /-- Listing chains. -/
  | chains
  /-- Creating a table. -/
  | createTable
  /-- Creating a chain. -/
  | createChain
  /-- Appending a rule. -/
  | appendRule
  /-- Listing rules. -/
  | rules
  /-- Deleting a rule. -/
  | deleteRule
  deriving DecidableEq, Repr

namespace StoreOp

/-- The name that failures give to an operation. -/
def name : StoreOp → String
  | tables => "Tables"
  | chains => "Chains"
  | createTable => "CreateTable"
  | createChain => "CreateChain"
  | appendRule => "AppendRule"
  | rules => "Rules"
  | deleteRule => "DeleteRule"

/-- Every operation. -/
def all : List StoreOp :=
  [tables, chains, createTable, createChain, appendRule, rules, deleteRule]

/-- The operation of a name. -/
def ofName? (text : String) : Option StoreOp := all.find? fun op => op.name = text

end StoreOp

/-- A packet filter in memory. -/
structure Store where
  /-- The chains of each table. -/
  tables : Std.ExtTreeMap TableSpec (List StoredChain) := ∅
  /-- The handle given last. -/
  lastHandle : Nat := 0
  /-- The operations that fail when they are next called. -/
  pending : List StoreOp := []
  /-- The append that fails, counted from the next. -/
  appendCountdown : Option Nat := none
  deriving DecidableEq

namespace Store

/-- A store without tables. -/
def empty : Store := {}

/-- Makes the next call of an operation fail. -/
def failOnce (op : StoreOp) (s : Store) : Store := { s with pending := s.pending ++ [op] }

/-- Makes an append fail, counted from the next as the first. -/
def failOnAppend (nth : Nat) (s : Store) : Store := { s with appendCountdown := some nth }

/-- Fails when a failure is pending for this operation, which is then no longer pending. -/
def takeFailure (op : StoreOp) : Action Store Unit :=
  .of fun s =>
    if op ∈ s.pending then
      (.error (.kernel op.name "injected failure"), { s with pending := s.pending.erase op })
    else (.ok (), s)

/-- Counts an append down and fails when it is the one to fail. -/
def countAppend : Action Store Unit :=
  .of fun s =>
    match s.appendCountdown with
    | none => (.ok (), s)
    | some n =>
      if n ≤ 1 then
        (.error (.kernel "append rule" "injected failure"), { s with appendCountdown := none })
      else (.ok (), { s with appendCountdown := some (n - 1) })

/-- The chains of a table, which has to exist. -/
def chainsOf (table : TableSpec) : Action Store (List StoredChain) := do
  match (← get).tables[table]? with
  | some chains => return chains
  | none => Action.fail (.notFound "table" table.text)

/-- A chain of a table; both have to exist. -/
def chain (table : TableSpec) (name : String) : Action Store StoredChain := do
  match (← chainsOf table).find? fun c => c.name = name with
  | some chain => return chain
  | none => Action.fail (.notFound "chain" s!"{name} in table {table.name}")

/-- Changes the first chain of a name. -/
def editChain (name : String) (f : StoredChain → StoredChain) : List StoredChain → List StoredChain
  | [] => []
  | c :: rest => if c.name = name then f c :: rest else c :: editChain name f rest

/-- Changes the rules of a chain of a table. -/
def editRules (table : TableSpec) (name : String)
    (f : List (Nat × String) → List (Nat × String)) : Action Store Unit :=
  modify fun s => { s with
    tables := s.tables.modify table (editChain name fun c => { c with rules := f c.rules }) }

/-- Lists the tables. -/
def listTables : Action Store (List TableSpec) := do
  takeFailure .tables
  return (← get).tables.keys

/-- Lists the chains of a table; a missing table has none. -/
def listChains (table : TableSpec) : Action Store (List String) := do
  takeFailure .chains
  return (((← get).tables[table]?).getD []).map StoredChain.name

/-- Creates a table; an existing one stays as it is. -/
def createTable (table : TableSpec) : Action Store Unit := do
  takeFailure .createTable
  modify fun s => { s with tables := s.tables.insertIfNew table [] }

/-- Creates a chain; an existing one of the name stays as it is. -/
def createChain (table : TableSpec) (request : ChainRequest) : Action Store Unit := do
  takeFailure .createChain
  let chains ← chainsOf table
  if chains.all fun c => c.name ≠ request.name then
    let chain : StoredChain := ⟨request.name, request.base.isSome, []⟩
    modify fun s => { s with tables := s.tables.modify table (· ++ [chain]) }

/-- Takes the next handle. -/
def nextHandle : Action Store Nat :=
  .of fun s => (.ok (s.lastHandle + 1), { s with lastHandle := s.lastHandle + 1 })

/-- Appends a rule. -/
def appendRule (table : TableSpec) (rule : Rule) : Action Store Unit := do
  takeFailure .appendRule
  countAppend
  let handle ← nextHandle
  let _ ← chain table rule.chain
  editRules table rule.chain (· ++ [(handle, rule.fingerprint)])

/-- Lists the rules of a chain. -/
def listRules (table : TableSpec) (name : String) : Action Store (List InstalledRule) := do
  takeFailure .rules
  return (← chain table name).rules.map fun (handle, mark) => ⟨handle, some mark⟩

/-- Deletes the first rule with a handle from a chain. -/
def deleteRule (table : TableSpec) (name : String) (handle : Nat) : Action Store Unit := do
  takeFailure .deleteRule
  let chain ← chain table name
  if chain.rules.all fun r => r.1 ≠ handle then
    Action.fail (.notFound "rule" s!"handle {handle} in {name}")
  editRules table name (·.eraseP fun r => r.1 = handle)

/-- The store as a packet filter. -/
def backend : Backend Store where
  tables := listTables
  chains := listChains
  createTable := createTable
  createChain := createChain
  appendRule := appendRule
  rules := listRules
  deleteRule := deleteRule

/-! ## Views -/

/-- The rules of a chain, with their handles. -/
def rulesOf (s : Store) (table : TableSpec) (name : String) : List (Nat × String) :=
  match (s.tables[table]?).bind fun chains => chains.find? fun c => c.name = name with
  | some chain => chain.rules
  | none => []

/-- The fingerprints of a chain, in order. -/
def marks (s : Store) (table : TableSpec) (name : String) : List String :=
  (s.rulesOf table name).map Prod.snd

/-- The chains of every table with this name, in the order of tables. -/
def chainsNamed (s : Store) (table : String) : List StoredChain :=
  (s.tables.toList.filter fun t => t.1.name = table).flatMap Prod.snd

/-- Whether some table of this name holds a chain. -/
def hasChain (s : Store) (table chain : String) : Bool :=
  (s.chainsNamed table).any fun c => c.name = chain

/-- The fingerprints in the chains of this name of every table with this name. -/
def rulesIn (s : Store) (table chain : String) : List String :=
  ((s.chainsNamed table).filter fun c => c.name = chain).flatMap fun c => c.rules.map Prod.snd

/-- The lines that show a chain of a table. -/
def chainLines (table : TableSpec) (c : StoredChain) : List String :=
  let kind := if c.base then "base" else "regular"
  s!"chain {table.text} {c.name} {kind}" ::
    c.rules.map fun (_, mark) => s!"rule {table.text} {c.name} {mark}"

/-- The whole rule set as lines, without handles. -/
def snapshot (s : Store) : List String :=
  s.tables.toList.flatMap fun (table, chains) =>
    s!"table {table.text}" :: chains.flatMap (chainLines table)

end Store

end WorkloadNet.Firewall
