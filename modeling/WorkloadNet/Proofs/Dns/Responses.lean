import WorkloadNet.Dns.Exchange
import WorkloadNet.Proofs.Dns.Framing

/-!
# Which response an exchange takes

Of the datagrams that arrive, an exchange takes the first that spells a message with the number of the
query, however many others come before it. Of a stream it takes the first frame, and does not look at the
number: whatever message is in there is the response. All this holds of every `Codec`; what a codec reads
or refuses only decides which datagrams spell a message.
-/

namespace WorkloadNet.Dns

section Taken

variable [Codec] {peers : Peers} {query response : Message} {server : Endpoint} {transport : Transport}
variable {id : UInt16} {octets datagram : List UInt8} {arrived : List (List UInt8)}

/-! ## Datagrams -/

/-- What a datagram spells, as far as it is taken. -/
def Message.ofDatagram? (datagram : List UInt8) : Option Message :=
  Codec.read (datagram.take mostDatagramOctets)

/-- A datagram is a response when it spells a message with the number. -/
theorem responseOf?_eq_some_iff :
    responseOf? id datagram = some response ↔
      Message.ofDatagram? datagram = some response ∧ response.id = id := by
  rw [responseOf?, Option.filter_eq_some_iff, decide_eq_true_iff, Message.ofDatagram?]

/-- It is discarded when it spells none, or one with another number. -/
theorem responseOf?_eq_none_iff :
    responseOf? id datagram = none ↔
      ∀ message, Message.ofDatagram? datagram = some message → message.id ≠ id := by
  rw [responseOf?, Option.filter_eq_none_iff]
  simp [Message.ofDatagram?]

/-- The first datagram that spells a message with a number spells this response. -/
def FirstReply (id : UInt16) (arrived : List (List UInt8)) (response : Message) : Prop :=
  ∃ early datagram late, arrived = early ++ datagram :: late ∧
    (∀ other ∈ early, ∀ message, Message.ofDatagram? other = some message → message.id ≠ id) ∧
    Message.ofDatagram? datagram = some response ∧ response.id = id

theorem findSome?_responseOf? :
    arrived.findSome? (responseOf? id) = some response ↔ FirstReply id arrived response := by
  rw [List.findSome?_eq_some_iff]
  constructor
  · rintro ⟨early, datagram, late, rfl, hreply, hearly⟩
    refine ⟨early, datagram, late, rfl, fun other hother => ?_, responseOf?_eq_some_iff.1 hreply⟩
    exact responseOf?_eq_none_iff.1 (hearly other hother)
  · rintro ⟨early, datagram, late, rfl, hearly, hreply⟩
    refine ⟨early, datagram, late, rfl, responseOf?_eq_some_iff.2 hreply, fun other hother => ?_⟩
    exact responseOf?_eq_none_iff.2 (hearly other hother)

/-- By datagram, the first reply that arrives is the response. -/
theorem askByDatagram_answered_iff :
    peers.askByDatagram id octets server = .answered response ↔
      ∃ arrived, peers.datagrams server octets = some arrived ∧ FirstReply id arrived response := by
  unfold Peers.askByDatagram
  cases peers.datagrams server octets with
  | none => simp
  | some arrived =>
    simp only [Option.some.injEq, exists_eq_left', ← findSome?_responseOf?]
    cases arrived.findSome? (responseOf? id) <;> simp

/-! ## Streams -/

/-- A stream begins with a frame that spells this message. -/
def FirstFrame (stream : List UInt8) (message : Message) : Prop :=
  ∃ octets rest, Frame.Fits octets ∧ stream = Frame.octets octets ++ rest ∧
    Codec.read octets = some message

theorem split?_bind_read {stream : List UInt8} :
    ((Frame.split? stream).bind fun (octets, _) => Codec.read octets) = some response ↔
      FirstFrame stream response := by
  rw [Option.bind_eq_some_iff]
  constructor
  · rintro ⟨⟨octets, rest⟩, hsplit, hresponse⟩
    obtain ⟨hfits, hstream⟩ := Frame.split?_eq_some_iff.1 hsplit
    exact ⟨octets, rest, hfits, hstream, hresponse⟩
  · rintro ⟨octets, rest, hfits, hstream, hresponse⟩
    exact ⟨(octets, rest), Frame.split?_eq_some_iff.2 ⟨hfits, hstream⟩, hresponse⟩

/-- Over a stream, the message in the first frame that arrives is the response. -/
theorem askByStream_answered_iff :
    peers.askByStream octets server = .answered response ↔
      Frame.Fits octets ∧ ∃ arrived, peers.stream server (Frame.octets octets) = some arrived ∧
        FirstFrame arrived response := by
  unfold Peers.askByStream
  by_cases hfits : Frame.Fits octets
  · rw [Frame.of?_of_fits hfits, Option.bind_some]
    cases peers.stream server (Frame.octets octets) with
    | none => simp
    | some arrived =>
      simp only [hfits, true_and, Option.some.injEq, exists_eq_left', ← split?_bind_read]
      cases (Frame.split? arrived).bind fun (octets, _) => Codec.read octets <;> simp
  · rw [Frame.of?_of_not_fits hfits]
    simp [hfits]

/-! ## Exchanges -/

/-- What arrives after a query was put to a server brings this response. -/
def Peers.Brings (peers : Peers) (query : Message) (server : Endpoint) (response : Message) :
    Transport → Prop
  | .udp => ∃ octets arrived, Codec.write query = some octets ∧
      peers.datagrams server octets = some arrived ∧ FirstReply query.id arrived response
  | .tcp => ∃ octets arrived, Codec.write query = some octets ∧ Frame.Fits octets ∧
      peers.stream server (Frame.octets octets) = some arrived ∧ FirstFrame arrived response

/-- An exchange has the response that is brought, and no other. -/
theorem exchange_answered_iff :
    peers.exchange query server transport = .answered response ↔
      peers.Brings query server response transport := by
  unfold Peers.exchange
  cases hoctets : Codec.write query with
  | none => cases transport <;> simp [Peers.Brings, hoctets]
  | some octets =>
    cases transport with
    | udp => simp [Peers.Brings, hoctets, askByDatagram_answered_iff]
    | tcp => simp [Peers.Brings, hoctets, askByStream_answered_iff]

end Taken

/-- With any codec, an exchange has a response exactly if one is brought: by datagram the first one with
the number of the query, over a stream the one in the first frame. So every response has the number of the
query by datagram; over a stream it has it exactly if the server keeps to it. -/
theorem exchange_matches_iff [Codec] (peers : Peers) (query : Message) (server : Endpoint)
    (transport : Transport) :
    (∀ response, peers.exchange query server transport = .answered response ↔
      peers.Brings query server response transport) ∧
    ((∀ response, peers.exchange query server transport = .answered response →
        response.id = query.id) ↔
      (transport = .tcp → ∀ octets arrived response, Codec.write query = some octets →
        peers.stream server (Frame.octets octets) = some arrived → Frame.Fits octets →
        FirstFrame arrived response → response.id = query.id)) := by
  refine ⟨fun response => exchange_answered_iff, ?_⟩
  simp only [exchange_answered_iff]
  cases transport with
  | udp =>
    refine iff_of_true ?_ nofun
    rintro response ⟨_, _, -, -, _, _, _, -, -, -, hid⟩
    exact hid
  | tcp =>
    constructor
    · intro h _ octets arrived response hoctets harrived hfits hfirst
      exact h response ⟨octets, arrived, hoctets, hfits, harrived, hfirst⟩
    · rintro h response ⟨octets, arrived, hoctets, hfits, harrived, hfirst⟩
      exact h rfl octets arrived response hoctets harrived hfits hfirst

/-- Asks for the addresses of a host. -/
def demoQuery : Message where
  id := 0x1234
  recursionDesired := true
  questions := [⟨[[101, 120, 97, 109, 112, 108, 101], [99, 111, 109]], typeA, classInternet⟩]

/-- A response to the same question under another number. -/
def demoStray : Message where
  id := 1
  response := true
  recursionDesired := true
  recursionAvailable := true
  questions := demoQuery.questions

/-- The octets of that response. -/
def demoStrayOctets : List UInt8 :=
  [0, 1, 0x81, 0x80, 0, 1, 0, 0, 0, 0, 0, 0, 7, 101, 120, 97, 109, 112, 108, 101, 3, 99, 111, 109, 0,
    0, 1, 0, 1]

/-- The octets of the query. -/
def demoQueryOctets : List UInt8 :=
  [0x12, 0x34, 1, 0, 0, 1, 0, 0, 0, 0, 0, 0, 7, 101, 120, 97, 109, 112, 108, 101, 3, 99, 111, 109, 0,
    0, 1, 0, 1]

/-- Writes the query and reads the response as the format has them, and knows no other message. -/
@[reducible]
def demoCodec : Codec where
  write message := if message = demoQuery then some demoQueryOctets else none
  read octets := if octets = demoStrayOctets then some demoStray else none

/-- A server that answers the query with that response, and nothing else. -/
def demoPeers : Peers where
  datagrams _ octets := if octets = demoQueryOctets then some [demoStrayOctets] else none
  stream _ octets :=
    if octets = Frame.octets demoQueryOctets then some (Frame.octets demoStrayOctets) else none

/-- What comes of putting the query to that server. -/
def demoExchange (transport : Transport) : Attempt :=
  @Peers.exchange demoCodec demoPeers demoQuery ⟨.v4 (.ofOctets 10 0 0 1), 0, 53⟩ transport

/-- A response with another number than the query is taken over a stream; by datagram it is discarded. -/
theorem stray_response_taken :
    demoExchange .tcp = .answered demoStray ∧ demoStray.id ≠ demoQuery.id ∧
      demoExchange .udp = .timedOut := by
  refine ⟨by decide +kernel, by decide, by decide +kernel⟩

end WorkloadNet.Dns
