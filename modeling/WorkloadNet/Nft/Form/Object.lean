import WorkloadNet.Nft.Family
import WorkloadNet.Nft.Form.Statement

/-!
# Forms of objects and commands

A listing consists of objects, each under the name of its kind, and of commands, which carry objects.
Tables, chains and rules have records of their own; everything else has a name in a table.
-/

namespace WorkloadNet.Nft

namespace Form

/-- A family. -/
def family : Form := .word (NftFamily.all.map NftFamily.text)

/-! ## Tables, chains and rules -/

/-- The fields of a table. -/
def tableFields : List (String × Form) :=
  [("family", family), ("name", .text), ("handle", .optional word32)]

/-- The fields of a chain. -/
def chainFields : List (String × Form) :=
  [("family", family), ("table", .text), ("name", .text), ("newname", .optional .text),
    ("handle", .optional word32),
    ("type", .optional (.word ["filter", "route", "nat"])),
    ("hook", .optional (.word ["ingress", "prerouting", "forward", "input", "output", "postrouting",
      "egress"])),
    ("prio", .optional (.int (-2147483648) 2147483647)),
    ("dev", .optional .text),
    ("policy", .optional (.word ["accept", "drop"]))]

/-- The fields of a rule. -/
def ruleFields : List (String × Form) :=
  [("family", family), ("table", .text), ("chain", .text), ("expr", .list statement),
    ("handle", .optional word32), ("index", .optional word32), ("comment", .optional .text)]

/-! ## What has a name in a table -/

/-- A record of something that has a name in a table, and a handle. -/
def named (fields : List (String × Form)) : Form :=
  .record ([("family", family), ("table", .text), ("name", .text),
    ("handle", .optional word32)] ++ fields)

/-- The type of the elements of a set: a type, or a list of types for concatenations. -/
def elementType : Form :=
  let type := Json.Shape.word
    ["ipv4_addr", "ipv6_addr", "ether_addr", "inet_proto", "inet_service", "mark", "ifname"]
  .either [type, .list type]

/-- The fields of a set after those that say what it holds. -/
def setFields : List (String × Form) :=
  [("policy", .optional (.word ["performance", "memory"])),
    ("flags", .defaulted (flags ["constant", "interval", "timeout", "dynamic"])),
    ("elem", .optional (.list expression)), ("timeout", .optional word32),
    ("gc-interval", .optional word32), ("size", .optional word32), ("comment", .optional .text)]

/-- The transport protocols that connection tracking knows. -/
def transport : Form :=
  .word ["tcp", "udp", "dccp", "sctp", "gre", "icmpv6", "icmp", "generic"]

/-- A counter. -/
def counter : Form := named [("packets", .optional word32), ("bytes", .optional word32)]

/-- A quota. -/
def quota : Form :=
  named [("bytes", .optional word32), ("used", .optional word32), ("inv", .optional .truth)]

/-- A set. -/
def set : Form := named (("type", elementType) :: setFields)

/-- A map. -/
def map : Form := named (("type", elementType) :: ("map", elementType) :: setFields)

/-- The objects, by the names of their kinds. -/
def objects : List (String × Form) :=
  [("table", .record tableFields), ("chain", .record chainFields), ("rule", .record ruleFields),
    ("set", set), ("map", map),
    ("element", .record [("family", family), ("table", .text), ("name", .text),
      ("elem", .list expression)]),
    ("flowtable", named [("hook", .optional (.word ["ingress", "prerouting", "forward", "input",
        "output", "postrouting", "egress"])), ("prio", .optional word32),
      ("dev", .defaulted (.either [.text, .list .text]))]),
    ("counter", counter), ("quota", quota),
    ("limit", named [("rate", .optional word32),
      ("per", .optional (.word ["second", "minute", "hour", "day", "week"])),
      ("burst", .optional word32), ("unit", .optional (.word ["packets", "bytes"])),
      ("inv", .optional .truth)]),
    ("ct helper", named [("type", .text), ("protocol", .optional .text),
      ("l3proto", .optional .text)]),
    ("cttimeout", named [("protocol", .optional transport), ("state", .optional .text),
      ("value", .optional word32), ("l3proto", .optional .text)]),
    ("ct expectation", named [("l3proto", .optional .text), ("protocol", .optional transport),
      ("dport", .optional word32), ("timeout", .optional word32), ("size", .optional word32)]),
    ("synproxy", named [("mss", .optional word16), ("wscale", .optional word8),
      ("flags", .defaulted (flags synproxyFlags))]),
    ("metainfo", .record [("version", .optional .text), ("release_name", .optional .text),
      ("json_schema_version", .optional word32)])]

/-! ## Commands -/

/-- The commands, by name. -/
def commands : List (String × Form) :=
  let object := Json.Shape.choice objects
  [("add", object), ("create", object), ("insert", object), ("delete", object), ("list", object),
    ("replace", .record ruleFields), ("rename", .record chainFields),
    ("reset", .choice [("counter", counter), ("counters", .list counter), ("quota", quota),
      ("quotas", .list quota)]),
    ("flush", .choice [("table", .record tableFields), ("chain", .record chainFields), ("set", set),
      ("map", map), ("meter", meterData), ("ruleset", nothing)])]

end Form

end WorkloadNet.Nft
