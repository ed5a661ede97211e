import WorkloadNet.Json.Shape

/-!
# Forms of expressions

A `Form` is a shape of something in a listing of the packet filter tool. Expressions and statements contain
each other, so both are referred to by name. An expression is a text, a number, a truth value, a list of
expressions, or an object that says what is computed.
-/

namespace WorkloadNet.Nft

/-- What forms refer to by name. -/
inductive Part where
  /-- An expression. -/
  | expression
  /-- A statement. -/
  | statement
  deriving DecidableEq, Repr

/-- A shape of something in a listing. -/
abbrev Form := Json.Shape Part

namespace Form

/-! ## Common forms -/

/-- An expression. -/
def expression : Form := .ref .expression

/-- A statement. -/
def statement : Form := .ref .statement

/-- A number of 8 bits. -/
def word8 : Form := .nat 255

/-- A number of 16 bits. -/
def word16 : Form := .nat 65535

/-- A number of 32 bits. -/
def word32 : Form := .nat 4294967295

/-- A number of 64 bits. -/
def word64 : Form := .nat 18446744073709551615

/-- Flags: a list of them, or one that stands alone and is then written without spaces and dashes. -/
def flags (names : List String) : Form :=
  let joined (name : String) := String.ofList (name.toList.filter fun c => c ≠ ' ' && c ≠ '-')
  .either [.list (.word names), .literal (names.map joined)]

/-- The address families that an address can be of. -/
def addressFamily : Form := .word ["ip", "ip6"]

/-- Where a jump goes. -/
def target : Form := .record [("target", .text)]

/-- The data of a counter: its name, or what it has counted. -/
def counterData : Form :=
  .either [.text, .optional (.record [("packets", .optional word64), ("bytes", .optional word64)])]

/-! ## Expressions -/

/-- The operations on two operands. -/
def operation : Form :=
  let operands := Json.Shape.tuple [expression, expression]
  .choice [("&", operands), ("|", .list expression), ("^", operands), ("<<", operands),
    (">>", operands)]

/-- A verdict as an expression. -/
def verdict : Form :=
  .either [.word ["accept", "drop", "continue", "return"],
    .choice [("jump", target), ("goto", target)]]

/-- The keys of packet metadata. -/
def metaKeys : List String :=
  ["length", "protocol", "priority", "random", "mark", "iif", "iifname", "iiftype", "oif",
    "oifname", "oiftype", "skuid", "skgid", "nftrace", "rtclassid", "ibriport", "obriport",
    "ibridgename", "obridgename", "pkttype", "cpu", "iifgroup", "oifgroup", "cgroup", "nfproto",
    "l4proto", "secpath"]

/-- A field of a packet, by its place or by its name. -/
def payload : Form :=
  .either [
    .record [("base", .word ["ll", "nh", "th", "ih"]), ("offset", word32), ("len", word32)],
    .record [("protocol", .text), ("field", .text)]]

/-- An element of a set, which a map gives a verdict or a value. -/
def setItem : Form := .either [expression, .tuple [expression, statement]]

/-- The computations, by name. -/
def computations : List (String × Form) :=
  [("concat", .list expression),
    ("set", .list setItem),
    ("map", .record [("key", expression), ("data", expression)]),
    ("prefix", .record [("addr", expression), ("len", word32)]),
    ("payload", payload),
    ("exthdr", .record [("name", .text), ("field", .optional .text), ("offset", .optional word32)]),
    ("tcp option", .record [("name", .text), ("field", .optional .text)]),
    ("sctp chunk", .record [("name", .text), ("field", .text)]),
    ("meta", .record [("key", .word metaKeys)]),
    ("rt", .record [("key", .word ["classid", "nexthop", "mtu"]),
      ("family", .optional addressFamily)]),
    ("ct", .record [("key", .text), ("family", .optional addressFamily),
      ("dir", .optional (.word ["original", "reply"]))]),
    ("numgen", .record [("mode", .word ["inc", "random"]), ("mod", word32),
      ("offset", .optional word32)]),
    ("jhash", .record [("mod", word32), ("offset", .optional word32), ("expr", expression),
      ("seed", .optional word32)]),
    ("symhash", .record [("mod", word32), ("offset", .optional word32)]),
    ("fib", .record [("result", .word ["oif", "oifname", "type"]),
      ("flags", flags ["saddr", "daddr", "mark", "iif", "oif"])]),
    ("elem", .record [("val", expression), ("timeout", .optional word32),
      ("expires", .optional word32), ("comment", .optional .text),
      ("counter", .optional counterData)]),
    ("socket", .record [("key", .word ["transparent", "mark", "wildcard", "cgroupv2"])]),
    ("osf", .record [("key", .text), ("ttl", .word ["loose", "skip"])])]

/-- What an expression can be. -/
def expressionForms : Form :=
  .either [.text, word32, .truth, .list expression, operation,
    .record [("range", .tuple [expression, expression])], .choice computations, verdict]

end Form

end WorkloadNet.Nft
