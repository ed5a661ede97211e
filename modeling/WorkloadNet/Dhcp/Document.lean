import WorkloadNet.Dhcp.Settings
import WorkloadNet.Yaml.Scalar

/-!
# The document of a lease engine

The lease engine is told what to do by a document. Each directive is an entry with one key, and its value
is the arguments joined by single spaces.
-/

namespace WorkloadNet.Dhcp

/-- The port that the lease engine listens at. -/
def serverPort : Nat := 67

/-- How far the further lines of a directive are indented. -/
def directiveIndent : Nat := 6

/-- The arguments of a directive as one text. -/
def Directive.joined (d : Directive) : String := " ".intercalate d.arguments

/-- The line of a directive. -/
def Directive.line (d : Directive) : String :=
  "  - " ++ d.name ++ ": " ++ Yaml.scalar directiveIndent d.joined ++ "\n"

/-- The document for directives. -/
def documentOf (directives : List Directive) : String :=
  "server4:\n  listen:\n  - 0.0.0.0:" ++ Text.decimal serverPort ++ "\n  plugins:\n" ++
    String.join (directives.map Directive.line)

/-- The document for settings that do. -/
def document (s : LeaseSettings) : Except Failure String :=
  match refused s.directives with
  | .ok directives => .ok (documentOf directives)
  | .error failure => .error failure

end WorkloadNet.Dhcp
