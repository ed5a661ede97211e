/-!
# Numbers as octets

Numbers of a message are written with the most significant octet first.
-/

namespace WorkloadNet.Dns.Wire

/-- The 16-bit number of two octets. -/
def wordOf (high low : UInt8) : UInt16 := high.toUInt16 <<< 8 ||| low.toUInt16

/-- The 32-bit number of two 16-bit ones. -/
def longOf (high low : UInt16) : UInt32 := high.toUInt32 <<< 16 ||| low.toUInt32

/-- The two octets of a 16-bit number. -/
def wordOctets (w : UInt16) : List UInt8 := [(w >>> 8).toUInt8, w.toUInt8]

/-- The four octets of a 32-bit number. -/
def longOctets (l : UInt32) : List UInt8 :=
  wordOctets (l >>> 16).toUInt16 ++ wordOctets l.toUInt16

end WorkloadNet.Dns.Wire
