import WorkloadNet.Address.Host
import WorkloadNet.Dns.Message
import WorkloadNet.Transport

/-!
# Failover among name servers

A query is put to the servers that are installed when it arrives, one after the other and each entry
once, until one gives a usable response. When none does, the answer is the last response that any of them
gave, or else that the server failed.

The world in which servers are asked is a parameter: a `Client` says which servers are installed in it and
what asking one of them does to it. Asking takes time, so it may also install other servers; the search
under way goes on with those that it started with.
-/

namespace WorkloadNet.Dns

/-- What asking a server came to. -/
inductive Attempt where
  /-- It gave a response. -/
  | answered (response : Message)
  /-- It could not be asked, or what it gave is no response. -/
  | failed
  /-- It gave nothing in time. -/
  | timedOut
  deriving DecidableEq, Repr

/-- A way to ask servers. -/
structure Client (σ : Type) where
  /-- The servers that are installed. -/
  servers : σ → List Endpoint
  /-- Asks a server. -/
  exchange : Message → Endpoint → Transport → StateM σ Attempt

/-- A world, and the servers that were asked in it, the latest first. -/
structure Asked (σ : Type) where
  /-- The world. -/
  world : σ
  /-- Who was asked, and how. -/
  calls : List (Endpoint × Transport) := []

namespace Client

variable {σ : Type}

/-- Asks a server, and keeps that it was asked. -/
def ask (c : Client σ) (query : Message) (server : Endpoint) (transport : Transport) :
    StateM (Asked σ) Attempt := fun s =>
  let (attempt, world) := c.exchange query server transport s.world
  (attempt, ⟨world, (server, transport) :: s.calls⟩)

/-- Asks servers in order until one gives a usable response; `last` is the last response so far. -/
def seek (c : Client σ) (query : Message) (transport : Transport) :
    List Endpoint → Option Message → StateM (Asked σ) Message
  | [], last => pure (last.getD query.serverFailure)
  | server :: rest, last => do
    match ← c.ask query server transport with
    | .answered response =>
      if response.usable then pure response else c.seek query transport rest (some response)
    | _ => c.seek query transport rest last

/-- The response to a query, from the servers that are installed now. -/
def resolve (c : Client σ) (query : Message) (transport : Transport) : StateM (Asked σ) Message :=
  fun s => c.seek query transport (c.servers s.world) none s

/-- The octets of the response to a packet. A packet that is no query gets none, and neither does one
whose response cannot be written. -/
def handle [Codec] (c : Client σ) (packet : List UInt8) (transport : Transport) :
    StateM (Asked σ) (Option (List UInt8)) :=
  match Codec.read packet with
  | none => pure none
  | some query =>
    if query.response then pure none
    else do return Codec.write (← c.resolve query transport)

end Client

end WorkloadNet.Dns
