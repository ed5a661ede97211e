import WorkloadNet.Nft.Form.Object

/-!
# Listings

The packet filter tool lists a rule set as a JSON object whose member `nftables` is an array of
objects, each under the name of its kind. Tables, chains and rules are read; objects of other kinds and
commands are skipped. A listing with anything that has none of the forms is invalid as a whole.
-/

namespace WorkloadNet.Nft

/-- An object of a listing. -/
inductive Listed where
  /-- A table. -/
  | table (family : NftFamily) (name : String)
  /-- A chain of a table. -/
  | chain (family : NftFamily) (table name : String)
  /-- A rule of a chain of a table. -/
  | rule (family : NftFamily) (table chain : String) (handle : Option Nat)
      (comment : Option String)
  /-- Anything else. -/
  | other
  deriving DecidableEq, Repr

/-- The greatest handle. -/
def maxHandle : Nat := 4294967295

/-! ## Single objects -/

/-- The value of a field of a record with these fields. -/
def field? (fields : List (String × Form)) (name : String) (record : Json) : Option Json := do
  let values ← record.record? (fields.map fun (field, _) => field)
  ((fields.map fun (field, _) => field).zip values).lookup name |>.join

/-- The text of a field. -/
def textField? (fields : List (String × Form)) (name : String) (record : Json) : Option String :=
  (field? fields name record).bind Json.text?

/-- The family of a record. -/
def familyOf? (fields : List (String × Form)) (record : Json) : Option NftFamily := do
  NftFamily.ofName? (← (← field? fields "family" record).choice?)

/-- A table. -/
def tableOf? (record : Json) : Option Listed := do
  return .table (← familyOf? Form.tableFields record) (← textField? Form.tableFields "name" record)

/-- A chain. -/
def chainOf? (record : Json) : Option Listed := do
  let text? (name : String) := textField? Form.chainFields name record
  return .chain (← familyOf? Form.chainFields record) (← text? "table") (← text? "name")

/-- A rule. -/
def ruleOf? (record : Json) : Option Listed := do
  let text? (name : String) := textField? Form.ruleFields name record
  let handle := (field? Form.ruleFields "handle" record).bind (Json.nat? maxHandle)
  return .rule (← familyOf? Form.ruleFields record) (← text? "table") (← text? "chain") handle
    (text? "comment")

/-- A member of a listing: an object or a command. -/
def memberOf? (value : Json) : Option Listed := do
  if ¬ Form.schema.admits (.choice (Form.objects ++ Form.commands)) value then none
  match ← value.single? with
  | ("table", record) => tableOf? record
  | ("chain", record) => chainOf? record
  | ("rule", record) => ruleOf? record
  | _ => return .other

/-! ## Whole listings -/

mutual

/-- Whether every string and every member name of a value has a text and no number is out of range. -/
def isWellFormed : Json → Bool
  | .string content => content.isSome
  | .huge => false
  | .array items => areWellFormed items
  | .object members => areWellFormedMembers members
  | _ => true

/-- Whether this holds of every value. -/
def areWellFormed : List Json → Bool
  | [] => true
  | item :: rest => isWellFormed item && areWellFormed rest

/-- Whether this holds of every member. -/
def areWellFormedMembers : List (Option String × Json) → Bool
  | [] => true
  | (name, value) :: rest => name.isSome && isWellFormed value && areWellFormedMembers rest

end

/-- The deepest nesting of the objects of a listing that is read. -/
def maxDepth : Nat := 125

/-- The objects of a listing. -/
def listing? (document : Json) : Option (List Listed) := do
  match ← document.record? ["nftables"] with
  | [some (.array members)] =>
    if maxDepth < Json.depthOfItems members then none
    if ¬ areWellFormed members then none
    members.mapM memberOf?
  | _ => none

end WorkloadNet.Nft
