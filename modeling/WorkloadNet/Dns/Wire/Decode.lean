import WorkloadNet.Dns.Wire.Layout

/-!
# Messages from octets

A message is a header of twelve octets, then the questions and the records that the header counts. What
follows the last record does not count. Octets that spell no message are refused as a whole.
-/

namespace WorkloadNet.Dns.Wire

namespace Reader

/-- A question. -/
def question : Reader Question := do
  let name ← name
  let type ← word
  let dnsClass ← word
  return ⟨name, type, dnsClass⟩

/-- A record. The class of a record that extends the header is a size, at least that which every sender
takes, and its owner is the root. -/
def record : Reader Record := do
  let owner ← name
  let type ← word
  if type = typeOpt ∧ owner ≠ Name.root then refuse
  let dnsClass ← word
  let ttl ← long
  let size := (← word).toNat
  if (← left) < size then refuse
  let data ← data type size
  return ⟨owner, type, if type = typeOpt then max dnsClass leastPayload else dnsClass, ttl, data⟩

end Reader

/-- A bit of a number. -/
def bit (n : UInt8) (mask : UInt8) : Bool := n &&& mask ≠ 0

/-- The extension of the header that a record spells. -/
def ednsOf (r : Record) : Edns where
  payload := r.dnsClass
  version := (r.ttl >>> 16).toUInt8
  dnssecOk := r.ttl &&& 0x8000 ≠ 0
  options := r.data

/-- The upper bits of the response code in an extension of the header. -/
def highCode (r : Record) : UInt16 := ((r.ttl >>> 24).toUInt16) <<< 4

/-- The message that follows at the position. -/
def message : Reader Message := do
  let id ← Reader.word
  let first ← Reader.octet
  let second ← Reader.octet
  let questionCount ← Reader.word
  let answerCount ← Reader.word
  let authorityCount ← Reader.word
  let additionalCount ← Reader.word
  match Opcode.ofNumber? ((first >>> 3) &&& 15).toNat with
  | none => Reader.refuse
  | some opcode =>
    let questions ← Reader.question.times questionCount.toNat
    let answers ← Reader.record.times answerCount.toNat
    let authority ← Reader.record.times authorityCount.toNat
    let further ← Reader.record.times additionalCount.toNat
    let (extensions, additional) := further.partition (·.type = typeOpt)
    if 1 < extensions.length then Reader.refuse
    let extension := extensions.head?
    return {
      id, opcode, questions, answers, authority, additional
      response := bit first 0x80
      authoritative := bit first 0x04
      truncated := bit first 0x02
      recursionDesired := bit first 0x01
      recursionAvailable := bit second 0x80
      authenticData := bit second 0x20
      checkingDisabled := bit second 0x10
      code := (extension.map highCode).getD 0 ||| (second &&& 15).toUInt16
      edns := extension.map ednsOf }

end Wire

/-- The message that octets spell; see `Wire.layout` for the data that are taken unchecked. -/
def Message.ofOctets? (octets : List UInt8) : Option Message :=
  (Wire.message octets.toArray 0).map (·.1)

end WorkloadNet.Dns
