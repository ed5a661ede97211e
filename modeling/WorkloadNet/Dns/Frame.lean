import WorkloadNet.Dns.Wire.Octets

/-!
# Frames of a stream

On a stream each message follows its length, which has sixteen bits. A server reads frame by frame: it
answers each message with a frame, and stops at the first that gets no answer, or whose answer does not
fit into a frame, or that is not there in full.
-/

namespace WorkloadNet.Dns.Frame

open Wire

/-- No frame holds more octets than this. -/
def mostOctets : Nat := 65535

/-- The frame of a message. -/
def of? (message : List UInt8) : Option (List UInt8) :=
  if message.length ≤ mostOctets then
    some (wordOctets (UInt16.ofNat message.length) ++ message)
  else none

/-- The message of the first frame of a stream, if that is there in full, and what follows it. -/
def split? : List UInt8 → Option (List UInt8 × List UInt8)
  | high :: low :: rest =>
    let size := (wordOf high low).toNat
    if size ≤ rest.length then some (rest.take size, rest.drop size) else none
  | _ => none

theorem length_of_split? {stream message rest : List UInt8}
    (h : split? stream = some (message, rest)) : rest.length < stream.length := by
  match stream, h with
  | high :: low :: tail, h =>
    simp only [split?] at h
    split at h
    · simp only [Option.some.injEq, Prod.mk.injEq] at h
      rw [← h.2]
      simp only [List.length_drop, List.length_cons]
      omega
    · cases h

/-- The messages of the frames that are there in full. -/
def messages (stream : List UInt8) : List (List UInt8) :=
  match _h : split? stream with
  | none => []
  | some (message, rest) => message :: messages rest
  termination_by stream.length
  decreasing_by exact length_of_split? _h

/-- What a server writes to a stream, given what it answers to a message. -/
def serve {σ : Type} (handle : List UInt8 → StateM σ (Option (List UInt8))) (stream : List UInt8) :
    StateM σ (List UInt8) :=
  match _h : split? stream with
  | none => pure []
  | some (message, rest) => do
    match (← handle message).bind of? with
    | none => return []
    | some frame => return frame ++ (← serve handle rest)
  termination_by stream.length
  decreasing_by exact length_of_split? _h

end WorkloadNet.Dns.Frame
