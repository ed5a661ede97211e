import WorkloadNet.Firewall.Rule
import WorkloadNet.Json.Value

/-!
# Statements of a rule

The packet filter tool takes a rule as a list of statements: a match statement for each criterion, in
order, and the statement of the verdict at the end.
-/

namespace WorkloadNet.Nft

open Firewall

/-- An expression of a match statement. -/
inductive Expression where
  /-- A property of the packet's way through the host. -/
  | metaKey (key : String)
  /-- A property of the tracked connection. -/
  | conntrack (key : String)
  /-- A field of a header. -/
  | payload (protocol field : String)
  /-- A text. -/
  | text (s : String)
  /-- A number. -/
  | number (n : Nat)
  /-- A list of texts. -/
  | texts (items : List String)
  deriving DecidableEq, Repr

/-- How the two sides of a match statement are compared. -/
inductive Operator where
  /-- They are equal. -/
  | eq
  /-- The left side is among the right ones. -/
  | among
  deriving DecidableEq, Repr

/-- A statement of a rule. -/
inductive Statement where
  /-- A comparison. -/
  | compare (left : Expression) (op : Operator) (right : Expression)
  /-- Acceptance. -/
  | accept
  /-- A jump. -/
  | jump (target : String)
  /-- Masquerading. -/
  | masquerade
  deriving DecidableEq, Repr

/-- The statement of a criterion. -/
def statementOfMatch : Match → Statement
  | .inputInterface name => .compare (.metaKey "iifname") .eq (.text name)
  | .outputInterface name => .compare (.metaKey "oifname") .eq (.text name)
  | .connState states => .compare (.conntrack "state") .among (.texts (states.map ConnState.text))
  | .transport proto => .compare (.metaKey "l4proto") .eq (.text proto.text)
  | .destPort port => .compare (.payload "th" "dport") .eq (.number port.toNat)

/-- The statement of a verdict. -/
def statementOfVerdict : Verdict → Statement
  | .accept => .accept
  | .jump target => .jump target
  | .masquerade => .masquerade

/-- The statements of a rule. -/
def statements (rule : Rule) : List Statement :=
  rule.criteria.map statementOfMatch ++ [statementOfVerdict rule.verdict]

/-! ## JSON form -/

/-- The JSON form of an expression. -/
def Expression.toJson : Expression → Json
  | metaKey key => .ofMembers [("meta", .ofMembers [("key", .text key)])]
  | conntrack key => .ofMembers [("ct", .ofMembers [("key", .text key)])]
  | payload protocol field =>
    .ofMembers [("payload", .ofMembers [("protocol", .text protocol), ("field", .text field)])]
  | text s => .text s
  | number n => .nat n
  | texts items => .array (items.map Json.text)

/-- The symbol of an operator. -/
def Operator.text : Operator → String
  | eq => "=="
  | among => "in"

/-- The JSON form of a statement. -/
def Statement.toJson : Statement → Json
  | compare left op right => .ofMembers [("match", .ofMembers
      [("left", left.toJson), ("right", right.toJson), ("op", .text op.text)])]
  | accept => .ofMembers [("accept", .null)]
  | jump target => .ofMembers [("jump", .ofMembers [("target", .text target)])]
  | masquerade => .ofMembers [("masquerade", .null)]

end WorkloadNet.Nft
