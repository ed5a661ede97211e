import WorkloadNet.Dns.Wire.Layout

/-!
# Messages as octets

A message is written section by section. A suffix of a name that has been written before is not written
again: two octets point to it. A pointer has fourteen bits, so only suffixes near the front can be pointed
to.

A message has at most 65535 octets. A record that does not fit is left out with all that follow it in its
section, and the message is marked as truncated; questions must fit. What had been written of such a record
does not count, but it stays behind the message unless something is written over it.
-/

namespace WorkloadNet.Dns.Wire

/-- No message has more octets than this. -/
def mostOctets : Nat := 65535

/-- The octets of the header. -/
def headerSize : Nat := 12

/-- Only suffixes of names that end before this position are pointed to. -/
def pointerBound : Nat := 0x3fff

/-- What has been written after the header. -/
structure Written where
  /-- The octets that count, and those that were left behind. -/
  octets : Array UInt8 := #[]
  /-- How many octets count. -/
  size : Nat := 0
  /-- The suffixes that can be pointed to, with their positions. -/
  suffixes : List (Name × Nat) := []

namespace Written

/-- The position of the next octet. -/
def position (w : Written) : Nat := headerSize + w.size

/-- Octets with others written over them from an index on, which is not beyond their end. -/
def overwrite (octets : Array UInt8) (index : Nat) (new : List UInt8) : Array UInt8 :=
  if octets.size ≤ index then octets.appendList new
  else
    let behind := octets.extract (index + new.length) octets.size
    (octets.shrink index).appendList new ++ behind

/-- Writes octets. Where there is no room for them, the writing ends with what there is. -/
def put (octets : List UInt8) (w : Written) : Except Written Written :=
  if w.position + octets.length ≤ mostOctets then
    .ok { w with octets := overwrite w.octets w.size octets, size := w.size + octets.length }
  else .error w

/-- Goes back to a size; nothing is left behind it. -/
def back (size : Nat) (w : Written) : Written :=
  { w with octets := w.octets.shrink size, size }

/-- Leaves room for octets that are written later; nothing is left behind them. -/
def reserve (count : Nat) (w : Written) : Except Written Written :=
  if w.position + count ≤ mostOctets then
    let octets := w.octets.shrink (w.size + count)
    let missing := w.size + count - octets.size
    .ok { w with octets := octets.appendList (List.replicate missing 0), size := w.size + count }
  else .error w

/-- Writes labels, each after its length. -/
def putLabels : Name → Written → Except Written Written
  | [], w => .ok w
  | label :: rest, w => do putLabels rest (← (← w.put [UInt8.ofNat label.length]).put label)

/-- Ends a name whose labels have been written. From the first suffix on that has been written before, a
pointer is written in their place, unless the name is to stay in full. A suffix that begins at a size can be
pointed to afterwards. -/
def endName (full : Bool) (size : Nat) : Name → Written → Except Written Written
  | [], w => w.put [0]
  | label :: rest, w =>
    let next := size + (label.length + 1)
    match full, w.suffixes.lookup (label :: rest) with
    | false, some position => (w.back size).put (wordOctets (0xc000 ||| UInt16.ofNat position))
    | true, some _ => endName full next rest w
    | _, none =>
      if w.position < pointerBound then
        endName full next rest
          { w with suffixes := (label :: rest, headerSize + size) :: w.suffixes }
      else endName full next rest w

/-- Writes a name. There must be room for it in full. -/
def putName (full : Bool) (name : Name) (w : Written) : Except Written Written :=
  let size := w.size
  (w.putLabels name).bind (endName full size name)

/-- Writes a part of record data. -/
def putPart : Part → Written → Except Written Written
  | .octets octets, w => w.put octets
  | .name name, w => w.putName false name
  | .target name, w => w.putName true name.lowered

/-- Writes parts of record data. -/
def putParts : List Part → Written → Except Written Written
  | [], w => .ok w
  | part :: rest, w => (w.putPart part).bind (putParts rest)

/-- Writes a length over the two octets at an index. -/
def setLength (index length : Nat) (w : Written) : Written :=
  let octets := w.octets.setIfInBounds index (UInt8.ofNat (length / 256))
  { w with octets := octets.setIfInBounds (index + 1) (UInt8.ofNat length) }

/-- Writes a question. -/
def putQuestion (q : Question) (w : Written) : Except Written Written := do
  (← (← w.putName false q.name).put (wordOctets q.type)).put (wordOctets q.dnsClass)

/-- Writes a record. The length of the data is known only after the data. -/
def putRecord (r : Record) (w : Written) : Except Written Written := do
  let w ← w.putName false r.owner
  let w ← w.put (wordOctets r.type)
  let w ← w.put (wordOctets r.dnsClass)
  let w ← w.put (longOctets r.ttl)
  let index := w.size
  let w ← w.reserve 2
  let w ← w.putParts r.data
  return w.setLength index (w.size - (index + 2))

/-- Writes questions, which must all fit. -/
def putQuestions : List Question → Written → Except Written Written
  | [], w => .ok w
  | q :: rest, w => (w.putQuestion q).bind (putQuestions rest)

/-- Writes records up to the first that does not fit, and tells how many that were. -/
def putRecords : List Record → Written → Nat × Written
  | [], w => (0, w)
  | r :: rest, w =>
    let size := w.size
    let suffixes := w.suffixes
    match w.putRecord r with
    | .error w => (0, { w with size, suffixes })
    | .ok w => let (n, w) := putRecords rest w; (n + 1, w)

end Written

/-- The record that spells an extension of the header, with the upper bits of a response code. -/
def ednsRecord (e : Edns) (code : UInt16) : Record where
  owner := Name.root
  type := typeOpt
  dnsClass := max e.payload leastPayload
  ttl := (code >>> 4).toUInt32 <<< 24 ||| e.version.toUInt32 <<< 16
    ||| (if e.dnssecOk then 0x8000 else 0)
  data := e.options

/-- A number whose bits are those of the given masks that are set. -/
def flags (masks : List (Bool × UInt8)) : UInt8 :=
  masks.foldl (fun n (on, mask) => if on then n ||| mask else n) 0

/-- The header of a message, with its counts. -/
def header (m : Message) (truncated : Bool) (counts : List Nat) : List UInt8 :=
  wordOctets m.id ++
  [flags [(m.response, 0x80), (m.authoritative, 0x04), (truncated, 0x02), (m.recursionDesired, 0x01)]
      ||| UInt8.ofNat (m.opcode.number * 8),
    flags [(m.recursionAvailable, 0x80), (m.authenticData, 0x20), (m.checkingDisabled, 0x10)]
      ||| (m.code &&& 15).toUInt8] ++
  counts.flatMap fun n => wordOctets (UInt16.ofNat n)

end Wire

/-- The octets of a message. A message whose questions do not fit has none. -/
def Message.octets? (m : Message) : Option (List UInt8) := do
  let w ← (Wire.Written.putQuestions m.questions {}).toOption
  let (answers, w) := w.putRecords m.answers
  let (authority, w) := w.putRecords m.authority
  let (further, w) := w.putRecords m.additional
  let extension := (m.edns.map fun e => Wire.ednsRecord e m.code).toList
  let (extensions, w) := w.putRecords extension
  let truncated := m.truncated || answers < m.answers.length || authority < m.authority.length
    || further < m.additional.length || extensions < extension.length
  return Wire.header m truncated [m.questions.length, answers, authority, further + extensions]
    ++ w.octets.toList

end WorkloadNet.Dns
