import WorkloadNet.Json.Value

/-!
# Typed views of JSON values

A setting, an option or an object of a listing is read from JSON by its type. A record is an
object in which each known member occurs at most once, with unknown members skipped, or an array of
the fields in their order. A choice without data is its name, or an object that gives `null` to its
name.
-/

namespace WorkloadNet.Json

/-- The text of a string. -/
def text? : Json → Option String
  | string content => content
  | _ => none

/-- A plain integer from `least` to `most`. -/
def int? (least most : Int) : Json → Option Int
  | number (some n) => if least ≤ n ∧ n ≤ most then some n else none
  | _ => none

/-- A plain natural number of at most `most`. -/
def nat? (most : Nat) (value : Json) : Option Nat :=
  (value.int? 0 most).map Int.toNat

/-- The members of an object with their names, when each name has a text. -/
def members? : Json → Option (List (String × Json))
  | object members => members.mapM fun (name, value) => name.map fun name => (name, value)
  | _ => none

/-- The fields of a record written as an object, in the order of `names`, missing ones as none.
A known member given twice makes the record invalid. -/
def fields? (names : List String) (value : Json) : Option (List (Option Json)) := do
  let members ← value.members?
  if names.any fun name => 1 < (members.filter (·.1 = name)).length then none
  return names.map fun name => members.lookup name

/-- The fields of a record written as an object or as an array of at most all of them. -/
def record? (names : List String) (value : Json) : Option (List (Option Json)) :=
  match value with
  | array items =>
    if items.length ≤ names.length then
      some (items.map some ++ List.replicate (names.length - items.length) none)
    else none
  | value => value.fields? names

/-- The name of a choice without data. -/
def choice? : Json → Option String
  | string content => content
  | object [(some name, null)] => some name
  | _ => none

/-- The value under the only member of an object, with the name of the member. -/
def single? : Json → Option (String × Json)
  | object [(some name, value)] => some (name, value)
  | _ => none

/-- A value that may be missing or `null`. -/
def optional? {α : Type} (decode : Json → Option α) : Option Json → Option (Option α)
  | none => some none
  | some null => some none
  | some value => (decode value).map some

end WorkloadNet.Json
