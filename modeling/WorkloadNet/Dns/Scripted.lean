import WorkloadNet.Dns.Failover
import WorkloadNet.Dns.Wire.Decode
import WorkloadNet.Dns.Wire.Encode

/-!
# Servers that follow a script

For dry runs, a script says how each server reacts when it is asked. A server without a script cannot be
asked. A server may also have other servers installed before it reacts. Messages are spelled as `Wire`
has it.
-/

namespace WorkloadNet.Dns

/-- The spelling of messages in dry runs. It takes the data of types that `Wire.layout` does not lay out
as they are, also where these have rules of their own, and so reads more than a library that knows those
types. -/
instance Wire.codec : Codec := ⟨Message.octets?, Message.ofOctets?⟩

/-- How a server reacts to a query. -/
inductive Reaction where
  /-- It never answers. -/
  | hang
  /-- It cannot be asked. -/
  | fail
  /-- It sends these octets. -/
  | reply (octets : List UInt8)
  /-- It responds with this code and these addresses. -/
  | respond (code : UInt16) (addresses : List V4)
  deriving Repr

/-- What a server does when it is asked. -/
structure Behaviour where
  /-- The servers that it has installed first. -/
  swap : Option (List Endpoint) := none
  /-- How it reacts. -/
  reaction : Reaction
  deriving Repr

/-- A world of scripted servers. -/
structure Scripted where
  /-- What each server does; the first entry of a server counts. -/
  script : List (Endpoint × Behaviour) := []
  /-- The servers that are installed. -/
  servers : List Endpoint := []
  deriving Repr

/-- The time that addresses of scripted responses may be kept, in seconds. -/
def scriptedTtl : UInt32 := 60

/-- The record of an address. -/
def addressRecord (owner : Name) (address : V4) : Record :=
  ⟨owner, typeA, classInternet, scriptedTtl, address.octets.map fun n => .octets [UInt8.ofNat n]⟩

/-- A response with a code and the addresses of the first name that was asked for. -/
def scriptedResponse (query : Message) (code : UInt16) (addresses : List V4) : Message where
  id := query.id
  response := true
  code := code
  questions := query.questions
  answers := addresses.map (addressRecord ((query.questions.head?.map (·.name)).getD Name.root))

/-- What a reaction comes to. -/
def Reaction.attempt (query : Message) : Reaction → Attempt
  | hang => .timedOut
  | fail => .failed
  | reply octets => ((Codec.read octets).map Attempt.answered).getD .failed
  | respond code addresses => .answered (scriptedResponse query code addresses)

namespace Scripted

/-- Adds to the script; the new entries count. -/
def merge (script : List (Endpoint × Behaviour)) (s : Scripted) : Scripted :=
  { s with script := script ++ s.script }

/-- Asks a scripted server. -/
def exchange (query : Message) (server : Endpoint) (_ : Transport) : StateM Scripted Attempt := fun s =>
  match s.script.lookup server with
  | none => (.failed, s)
  | some behaviour =>
    (behaviour.reaction.attempt query, { s with servers := behaviour.swap.getD s.servers })

/-- Scripted servers as servers to ask. -/
def client : Client Scripted := ⟨Scripted.servers, exchange⟩

end Scripted

end WorkloadNet.Dns
