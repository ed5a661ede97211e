/-!
# JSON values

A `Json` keeps what a strict reader must be able to tell apart: the members of an object in their
written order with repetitions, numbers that are written as plain integers, and strings with an
escape that stands for half of a surrogate pair, which have no text, and numbers beyond the range of
double precision.
-/

namespace WorkloadNet

/-- A JSON value as it was written. -/
inductive Json where
  /-- The literal `null`. -/
  | null
  /-- One of the two truth values. -/
  | bool (b : Bool)
  /-- A number; the value is known when it is written as a plain integer other than minus zero. -/
  | number (value : Option Int)
  /-- A number beyond the range of double precision. -/
  | huge
  /-- A string; the text is missing when an escape names half of a surrogate pair. -/
  | string (content : Option String)
  /-- An array. -/
  | array (items : List Json)
  /-- An object, with its members as written. -/
  | object (members : List (Option String × Json))
  deriving Repr, BEq, Inhabited

namespace Json

/-- A string with this text. -/
def text (s : String) : Json := string (some s)

/-- A plain natural number. -/
def nat (n : Nat) : Json := number (some n)

/-- A plain integer. -/
def int (n : Int) : Json := number (some n)

/-- An object with these members. -/
def ofMembers (members : List (String × Json)) : Json :=
  object (members.map fun (name, value) => (some name, value))

mutual

/-- How deep arrays and objects are nested. -/
def depth : Json → Nat
  | array items => 1 + depthOfItems items
  | object members => 1 + depthOfMembers members
  | _ => 0

/-- The greatest depth among values. -/
def depthOfItems : List Json → Nat
  | [] => 0
  | item :: rest => max item.depth (depthOfItems rest)

/-- The greatest depth among the values of members. -/
def depthOfMembers : List (Option String × Json) → Nat
  | [] => 0
  | (_, value) :: rest => max value.depth (depthOfMembers rest)

end

end Json

end WorkloadNet
