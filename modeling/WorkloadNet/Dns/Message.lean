import WorkloadNet.Dns.Name

/-!
# Messages of the domain name system

A message is a query or a response. It asks questions and carries records in three sections. A record
of type OPT in the last section does not count as one: it extends the header, and `Message.edns` holds
it. The data of a record is a list of parts, so that the names in it can be told from other octets.

`Message.usable` says which responses end a search for an answer. How messages are spelled in octets is a
parameter of all that sends or receives them, a `Codec`.
-/

namespace WorkloadNet.Dns

/-- What a message is about. -/
inductive Opcode where
  /-- Ask for records. -/
  | query
  /-- Ask for the state of a server. -/
  | status
  /-- Tell that a zone has changed. -/
  | notify
  /-- Change a zone. -/
  | update
  deriving DecidableEq, Repr

namespace Opcode

/-- The number of an operation. -/
def number : Opcode → Nat
  | query => 0
  | status => 2
  | notify => 4
  | update => 5

/-- The operation of a number. -/
def ofNumber? : Nat → Option Opcode
  | 0 => some query
  | 2 => some status
  | 4 => some notify
  | 5 => some update
  | _ => none

theorem ofNumber?_number (o : Opcode) : ofNumber? o.number = some o := by cases o <;> rfl

end Opcode

/-- A question: which records are asked for. -/
structure Question where
  /-- Their owner. -/
  name : Name
  /-- Their type. -/
  type : UInt16
  /-- Their class. -/
  dnsClass : UInt16
  deriving DecidableEq, Repr

/-- A part of the data of a record. A part without names is written as a whole or not at all. -/
inductive Part where
  /-- Octets that stay as they are. -/
  | octets (octets : List UInt8)
  /-- A name. -/
  | name (name : Name)
  /-- The host of a service: a name that is written in full and in small letters. -/
  | target (name : Name)
  deriving DecidableEq, Repr

/-- A resource record. -/
structure Record where
  /-- The owner. -/
  owner : Name
  /-- The type. -/
  type : UInt16
  /-- The class. -/
  dnsClass : UInt16
  /-- For how many seconds it may be kept. -/
  ttl : UInt32
  /-- The data. -/
  data : List Part
  deriving DecidableEq, Repr

/-- The type of a record that holds an IPv4 address. -/
def typeA : UInt16 := 1

/-- The type of a record that extends the header. -/
def typeOpt : UInt16 := 41

/-- The class of the Internet. -/
def classInternet : UInt16 := 1

/-- An extension of the header. -/
structure Edns where
  /-- The largest datagram that the sender takes. -/
  payload : UInt16
  /-- The version of the extension. -/
  version : UInt8
  /-- Whether records of signatures are wanted. -/
  dnssecOk : Bool
  /-- The options, as they are written. -/
  options : List Part
  deriving DecidableEq, Repr

/-- Every sender takes datagrams of this size. -/
def leastPayload : UInt16 := 512

/-- The code of a response without an error. -/
def codeNoError : UInt16 := 0

/-- The code of a server that failed. -/
def codeServerFailure : UInt16 := 2

/-- A message. -/
structure Message where
  /-- The number that ties a response to its query. -/
  id : UInt16
  /-- Whether this is a response. -/
  response : Bool := false
  /-- What it is about. -/
  opcode : Opcode := .query
  /-- Whether the answer is from the server of the zone. -/
  authoritative : Bool := false
  /-- Whether something was left out for lack of room. -/
  truncated : Bool := false
  /-- Whether the server is to ask others. -/
  recursionDesired : Bool := false
  /-- Whether the server would ask others. -/
  recursionAvailable : Bool := false
  /-- Whether the answer is known to be authentic. -/
  authenticData : Bool := false
  /-- Whether the server is to leave signatures unchecked. -/
  checkingDisabled : Bool := false
  /-- The response code; its upper bits are written in the extension of the header. -/
  code : UInt16 := codeNoError
  /-- The questions. -/
  questions : List Question := []
  /-- The records that answer them. -/
  answers : List Record := []
  /-- The records that name servers of the zone. -/
  authority : List Record := []
  /-- Further records. -/
  additional : List Record := []
  /-- The extension of the header. -/
  edns : Option Edns := none
  deriving DecidableEq, Repr

namespace Message

/-- Whether a response ends the search: it reports no error and holds an answer. -/
def usable (m : Message) : Bool := m.code = codeNoError && !m.answers.isEmpty

/-- The response to a query that no server answered. -/
def serverFailure (query : Message) : Message where
  id := query.id
  response := true
  opcode := query.opcode
  recursionDesired := query.recursionDesired
  code := codeServerFailure
  questions := query.questions

end Message

/-- How messages are spelled in octets. Nothing is assumed of it: what it writes need not be what it
reads. -/
class Codec where
  /-- The octets of a message, if it can be written. -/
  write : Message → Option (List UInt8)
  /-- The message that octets spell, if they spell one. -/
  read : List UInt8 → Option Message

end WorkloadNet.Dns
