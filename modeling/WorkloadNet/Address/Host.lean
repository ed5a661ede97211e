import WorkloadNet.Address.V6

/-!
# Hosts and endpoints

A host is an address of either family. An endpoint is a host with a port: `a.b.c.d:port` or
`[v6]:port`, where an IPv6 address may be followed by `%` and the number of a zone. A port has any
number of digits and is at most 65535.
-/

namespace WorkloadNet

/-- An address of either family. -/
inductive Host where
  /-- An IPv4 address. -/
  | v4 (address : V4)
  /-- An IPv6 address. -/
  | v6 (address : V6)
  deriving DecidableEq, Repr

namespace Host

/-- The text of a host. -/
def text : Host → String
  | v4 a => a.text
  | v6 a => a.text

/-- Reads a host off the front of a text, as IPv4 first. -/
def read (text : List Char) : Option (Host × List Char) :=
  match V4.read text with
  | some (a, rest) => some (v4 a, rest)
  | none => (V6.read text).map fun (a, rest) => (v6 a, rest)

/-- The host that a whole string spells. -/
def ofText? (text : String) : Option Host :=
  match read text.toList with
  | some (host, []) => some host
  | _ => none

end Host

/-- A host with a port. -/
structure Endpoint where
  /-- The host. -/
  host : Host
  /-- The zone of an IPv6 address, 0 when it has none. -/
  zone : Nat
  /-- The port. -/
  port : Nat
  deriving DecidableEq, Repr

namespace Endpoint

open Address Text

/-- The endpoint of an IPv4 address. -/
def ofV4 (address : V4) (port : Nat) : Endpoint := ⟨.v4 address, 0, port⟩

/-- The text of an endpoint. -/
def text (e : Endpoint) : String :=
  match e.host with
  | .v4 a => a.text ++ ":" ++ decimal e.port
  | .v6 a =>
    let zone := if e.zone = 0 then "" else "%" ++ decimal e.zone
    "[" ++ a.text ++ zone ++ "]:" ++ decimal e.port

/-- Reads a number of at most `most`, any number of digits. -/
def readBounded (most : Nat) (text : List Char) : Option (Nat × List Char) :=
  let (digits, rest) := digitRun digit? text
  let value := digitsValue 10 digits
  if digits = [] ∨ most < value then none else some (value, rest)

/-- Reads a colon and a port. -/
def readPort (text : List Char) : Option (Nat × List Char) := do
  readBounded 65535 (← readChar ':' text)

/-- Reads the zone of an IPv6 address; a text without one is left as it is. -/
def readZone (text : List Char) : Nat × List Char :=
  ((readChar '%' text).bind (readBounded 4294967295)).getD (0, text)

/-- Reads an IPv4 endpoint off the front of a text. -/
def readV4 (text : List Char) : Option (Endpoint × List Char) := do
  let (address, rest) ← V4.read text
  let (port, rest) ← readPort rest
  return (⟨.v4 address, 0, port⟩, rest)

/-- Reads an IPv6 endpoint off the front of a text. -/
def readV6 (text : List Char) : Option (Endpoint × List Char) := do
  let (address, rest) ← V6.read (← readChar '[' text)
  let (zone, rest) := readZone rest
  let (port, rest) ← readPort (← readChar ']' rest)
  return (⟨.v6 address, zone, port⟩, rest)

/-- The endpoint that a whole string spells. -/
def ofText? (text : String) : Option Endpoint :=
  match (readV4 text.toList).or (readV6 text.toList) with
  | some (e, []) => some e
  | _ => none

end Endpoint

end WorkloadNet
