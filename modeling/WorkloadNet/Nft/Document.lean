import WorkloadNet.Json.Reader
import WorkloadNet.Nft.Tool

/-!
# A tool that keeps a document

This tool keeps its rule set as a JSON document. Adding an object appends it with the next handle,
which is one more than the greatest handle in the document; deleting a rule removes every rule with its
handle. A document that is no object with an array `nftables` is listed as it is and never changed.

Single calls can be made to go wrong, and every call is recorded.
-/

namespace WorkloadNet.Nft

/-- How a call goes wrong. -/
inductive CallFault where
  /-- It ends with a failure. -/
  | exit
  /-- It prints something that is not UTF-8. -/
  | notText
  /-- It prints this text and does nothing. -/
  | prints (text : String)
  deriving DecidableEq, Repr

/-- A call of the tool. -/
inductive Call where
  /-- It listed the rule set. -/
  | list
  /-- It was given a command. -/
  | apply (command : Command)
  deriving DecidableEq, Repr

/-- A tool that keeps a document. -/
structure Document where
  /-- The document; none if its text is not JSON. -/
  content : Option Json
  /-- Whether there is such a program at all. -/
  present : Bool := true
  /-- The calls that go wrong, counted from one. -/
  faults : List (Nat × CallFault) := []
  /-- The calls made, last one first. -/
  calls : List Call := []

namespace Document

/-- A document that holds these objects. -/
def ofObjects (objects : List Json) : Option Json :=
  some (.ofMembers [("nftables", .array objects)])

/-- The greatest number that the tool counts handles with; a listing cannot have that many. -/
def maxCounted : Nat := 18446744073709551615

/-- The handle of an object of the document. -/
def handleOf (object : Json) : Option Nat := do
  let (_, data) ← object.single?
  let members ← data.members?
  (← members.lookup "handle").nat? maxCounted

/-- The handle that is given next. -/
def nextHandle (objects : List Json) : Nat :=
  (objects.filterMap handleOf).foldl max 0 + 1

/-- An object with a handle. -/
def withHandle (handle : Nat) : Json → Json
  | .object [(kind, .object members)] =>
    .object [(kind, .object (members ++ [(some "handle", .nat handle)]))]
  | value => value

/-- Whether an object is a rule with a handle. -/
def isRuleWith (handle : Nat) (object : Json) : Bool :=
  match object.single? with
  | some ("rule", _) => handleOf object = some handle
  | _ => false

/-- The objects after a command. -/
def changed (command : Command) (objects : List Json) : List Json :=
  match command with
  | .deleteRule _ _ handle => objects.filter fun object => !isRuleWith handle object
  | command =>
    match command.toJson.single? with
    | some ("add", object) => objects ++ [withHandle (nextHandle objects) object]
    | _ => objects

/-- The document after a command. -/
def applied (command : Command) : Json → Json
  | .object members => .object (members.map fun (name, value) =>
      match name, value with
      | some "nftables", .array objects => (name, .array (changed command objects))
      | _, _ => (name, value))
  | value => value

/-- Records a call, and answers with what goes wrong with it. -/
def record (call : Call) : StateM Document (Option CallFault) := fun d =>
  let number := d.calls.length + 1
  (d.faults.lookup number, { d with calls := call :: d.calls })

/-- The objects that a printed document lists. -/
def printed (content : Option Json) : Except ToolFault (List Listed) :=
  match content.bind listing? with
  | some objects => .ok objects
  | none => .error .notListing

/-- Lists the document. -/
def list : StateM Document (Except ToolFault (List Listed)) := do
  if ¬ (← get).present then return .error .missing
  match ← record .list with
  | some .exit => return .error (.failed "getting the current ruleset")
  | some .notText => return .error .notText
  | some (.prints text) => return printed (Json.ofText? text)
  | none => return printed (← get).content

/-- Applies a command to the document. -/
def apply (command : Command) : StateM Document (Except ToolFault Unit) := do
  if ¬ (← get).present then return .error .missing
  match ← record (.apply command) with
  | some .exit => return .error (.failed "applying ruleset")
  | some .notText => return .error .notText
  | some (.prints _) => return .ok ()
  | none =>
    modify fun d => { d with content := d.content.map (applied command) }
    return .ok ()

/-- The document as a tool. -/
def tool : Tool Document := ⟨list, apply⟩

end Document

end WorkloadNet.Nft
