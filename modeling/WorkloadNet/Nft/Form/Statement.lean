import WorkloadNet.Nft.Form.Expression

/-!
# Forms of statements

A statement is an object with one member, under the name of its kind. The statement that turns connection
tracking off has no data and may be written as its name.
-/

namespace WorkloadNet.Nft

namespace Form

/-! ## Verdicts and comparisons -/

/-- The data of a statement that needs none. -/
def nothing : Form := .optional (.record [])

/-- The comparisons of a match statement. -/
def comparison : Form :=
  .word ["&", "|", "^", "<<", ">>", "==", "!=", "<", ">", "<=", ">=", "in"]

/-- The verdicts and the match statement. -/
def verdicts : List (String × Form) :=
  [("accept", nothing), ("drop", nothing), ("continue", nothing), ("return", nothing),
    ("jump", target), ("goto", target),
    ("match", .record [("left", expression), ("right", expression), ("op", comparison)])]

/-! ## Changes of addresses -/

/-- The data of a change of addresses. -/
def addressChange : Form :=
  .optional (.record [("addr", .optional expression), ("family", .optional addressFamily),
    ("port", .optional expression),
    ("flags", .optional (.list (.word ["random", "fully-random", "persistent"])))])

/-- The data of a rejection. -/
def rejection : Form :=
  .optional (.record [
    ("type", .optional (.word ["tcp reset", "icmpx", "icmp", "icmpv6"])),
    ("expr", .optional
      (.word ["admin-prohibited", "port-unreachable", "no-route", "host-unreachable"]))])

/-- The statements that send a packet elsewhere. -/
def diversions : List (String × Form) :=
  [("fwd", .optional (.record [("dev", .optional expression), ("family", .optional addressFamily),
      ("addr", .optional expression)])),
    ("dup", .record [("addr", expression), ("dev", .optional expression)]),
    ("snat", addressChange), ("dnat", addressChange), ("masquerade", addressChange),
    ("redirect", addressChange), ("reject", rejection),
    ("queue", .record [("num", expression),
      ("flags", .optional (.list (.word ["bypass", "fanout"])))]),
    ("tproxy", .record [("family", .optional .text), ("port", word16), ("addr", .optional .text)])]

/-! ## Accounts, sets and logs -/

/-- The data of a quota: its name, or the quota. -/
def quotaData : Form :=
  .either [.text, .record [("val", word32), ("val_unit", .text), ("used", .optional word32),
    ("used_unit", .optional .text), ("inv", .optional .truth)]]

/-- The data of a limit. -/
def limitData : Form :=
  .record [("rate", word32), ("rate_unit", .optional .text), ("per", .optional .text),
    ("burst", .optional word32), ("burst_unit", .optional .text), ("inv", .optional .truth)]

/-- The data of a log. -/
def logData : Form :=
  .optional (.record [("prefix", .optional .text), ("group", .optional word32),
    ("snaplen", .optional word32), ("queue-threshold", .optional word32),
    ("level", .optional
      (.word ["emerg", "alert", "crit", "err", "warn", "notice", "info", "debug", "audit"])),
    ("flags", .defaulted
      (flags ["tcp sequence", "tcp options", "ip options", "skuid", "ether", "all"]))])

/-- A meter. -/
def meterData : Form := .record [("name", .text), ("key", expression), ("stmt", statement)]

/-- The statements that keep accounts of packets, or change sets and packets. -/
def accounts : List (String × Form) :=
  [("counter", counterData), ("quota", quotaData), ("limit", limitData), ("log", logData),
    ("meter", meterData),
    ("mangle", .record [("key", expression), ("value", expression)]),
    ("flow", .record [("op", .word ["add", "update"]), ("flowtable", .text)]),
    ("set", .record [("op", .word ["add", "update"]), ("elem", expression), ("set", .text)]),
    ("vmap", .record [("key", expression), ("data", expression)])]

/-! ## Connections -/

/-- The words of a proxy for the opening of connections. -/
def synproxyFlags : List String := ["timestamp", "sack-perm"]

/-- The statements about connections, and those of other tools. -/
def connections : List (String × Form) :=
  [("ct helper", .text),
    ("ct count", .record [("val", expression), ("inv", .optional .truth)]),
    ("ct timeout", expression), ("ct expectation", expression),
    ("synproxy", .record [("mss", .optional word16), ("wscale", .optional word8),
      ("flags", .optional (.list (.word synproxyFlags)))]),
    ("xt", .any)]

/-- What a statement can be. -/
def statementForms : Form :=
  .either [.choice (verdicts ++ diversions ++ accounts ++ connections), .word ["notrack"]]

/-! ## Meaning of the names -/

/-- What a part of a listing can be. From one level of nesting to the next no more than eight forms
are looked into. -/
def schema : Json.Schema Part where
  meaning
    | .expression => expressionForms
    | .statement => statementForms
  stride := 8

end Form

end WorkloadNet.Nft
