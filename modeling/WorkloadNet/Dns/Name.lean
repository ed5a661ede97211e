/-!
# Domain names

A domain name is a list of labels, the most specific one first; the root has none. A label is a list of
octets. The names that end a name are its suffixes, and a message writes each suffix once.
-/

namespace WorkloadNet.Dns

/-- One part of a domain name. -/
abbrev Label := List UInt8

/-- A domain name. -/
abbrev Name := List Label

/-- An octet with the capital letters of ASCII made small. -/
def loweredOctet (o : UInt8) : UInt8 := if 65 ≤ o ∧ o ≤ 90 then o + 32 else o

namespace Name

/-- The name without labels. -/
def root : Name := []

/-- A name in small letters. -/
def lowered (name : Name) : Name := name.map (·.map loweredOctet)

/-- The octets of a name written out without its end mark: each label after its length. -/
def spelled (name : Name) : List UInt8 :=
  name.flatMap fun label => UInt8.ofNat label.length :: label

/-- How many octets a name takes when written out, its end mark included. -/
def wireSize (name : Name) : Nat := name.spelled.length + 1

/-- No name takes more octets than this. -/
def mostOctets : Nat := 255

/-- No label has more octets than this. -/
def mostLabelOctets : Nat := 63

end Name

end WorkloadNet.Dns
