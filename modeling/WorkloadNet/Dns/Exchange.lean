import WorkloadNet.Dns.Failover
import WorkloadNet.Dns.Frame

/-!
# Exchanges with a server

A query is put to a server by a datagram or over a stream. Datagrams that arrive are looked at in order:
the first that spells a message with the number of the query is the response, and the others are
discarded. Over a stream, the first frame is the response. A datagram that arrives has a largest size;
what exceeds it is lost.
-/

namespace WorkloadNet.Dns

/-- No datagram is taken with more octets than this. -/
def mostDatagramOctets : Nat := 4096

/-- What arrives when octets are sent to a server; nothing at all when it cannot be reached. -/
structure Peers where
  /-- The datagrams that arrive after one is sent. -/
  datagrams : Endpoint → List UInt8 → Option (List (List UInt8))
  /-- The octets that arrive, up to the end of the stream, after a frame is sent. -/
  stream : Endpoint → List UInt8 → Option (List UInt8)

/-- Servers that cannot be reached. -/
def Peers.unreachable : Peers := ⟨fun _ _ => none, fun _ _ => none⟩

/-- The response that a datagram spells, when it has this number. -/
def responseOf? [Codec] (id : UInt16) (datagram : List UInt8) : Option Message :=
  (Codec.read (datagram.take mostDatagramOctets)).filter (·.id = id)

/-- Asks by datagram. -/
def Peers.askByDatagram [Codec] (peers : Peers) (id : UInt16) (octets : List UInt8)
    (server : Endpoint) : Attempt :=
  match peers.datagrams server octets with
  | none => .failed
  | some arrived =>
    match arrived.findSome? (responseOf? id) with
    | some response => .answered response
    | none => .timedOut

/-- Asks over a stream. -/
def Peers.askByStream [Codec] (peers : Peers) (octets : List UInt8) (server : Endpoint) : Attempt :=
  match (Frame.of? octets).bind (peers.stream server) with
  | none => .failed
  | some arrived =>
    match (Frame.split? arrived).bind fun (message, _) => Codec.read message with
    | some response => .answered response
    | none => .failed

/-- Puts a query to a server. -/
def Peers.exchange [Codec] (peers : Peers) (query : Message) (server : Endpoint)
    (transport : Transport) : Attempt :=
  match Codec.write query, transport with
  | none, _ => .failed
  | some octets, .udp => peers.askByDatagram query.id octets server
  | some octets, .tcp => peers.askByStream octets server

end WorkloadNet.Dns
