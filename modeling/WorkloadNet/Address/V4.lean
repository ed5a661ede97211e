import WorkloadNet.Text.Decimal

/-!
# IPv4 addresses

An IPv4 address is a 32-bit number. Its text is four octets joined by dots; reading is strict, so
an octet has at most three digits, no leading zero and a value below 256. A reader takes the
address from the front of a text and returns what follows it, so that addresses inside longer
texts (an endpoint, the tail of an IPv6 address) are read by the same rule.
-/

namespace WorkloadNet

/-- An IPv4 address. -/
structure V4 where
  /-- The address as a number, first octet most significant. -/
  bits : UInt32
  deriving DecidableEq, Repr, Inhabited

namespace V4

/-- The number of addresses. -/
def count : Nat := 4294967296

/-- The address as a natural number below `count`. -/
def toNat (a : V4) : Nat := a.bits.toNat

/-- The address whose number is `n` modulo `count`. -/
def ofNat (n : Nat) : V4 := ⟨UInt32.ofNat n⟩

/-- The address with these octets. -/
def ofOctets (a b c d : Nat) : V4 := ofNat (((a * 256 + b) * 256 + c) * 256 + d)

/-- The four octets, first octet first. -/
def octets (a : V4) : List Nat :=
  [a.toNat / 16777216, a.toNat / 65536 % 256, a.toNat / 256 % 256, a.toNat % 256]

theorem toNat_lt (a : V4) : a.toNat < count := a.bits.toNat_lt

theorem toNat_ofNat {n : Nat} (h : n < count) : (ofNat n).toNat = n := by
  simp only [ofNat, toNat, UInt32.toNat_ofNat', Nat.reducePow]
  exact Nat.mod_eq_of_lt h

theorem ofNat_toNat (a : V4) : ofNat a.toNat = a := by
  simp [ofNat, toNat]

theorem toNat_inj {a b : V4} : a.toNat = b.toNat ↔ a = b :=
  ⟨fun h => by rw [← ofNat_toNat a, h, ofNat_toNat], fun h => h ▸ rfl⟩

/-- The dotted text of an address. -/
def text (a : V4) : String :=
  ".".intercalate (a.octets.map Text.decimal)

end V4

namespace Address

open Text

/-- The longest run of digits at the front of a text, as digit values, with the rest. -/
def digitRun (digit : Char → Option Nat) : List Char → List Nat × List Char
  | [] => ([], [])
  | c :: rest =>
    match digit c with
    | none => ([], c :: rest)
    | some d => let (more, after) := digitRun digit rest; (d :: more, after)

/-- The number that digit values stand for in a base. -/
def digitsValue (base : Nat) (digits : List Nat) : Nat :=
  digits.foldl (fun value d => base * value + d) 0

/-- Reads an octet: one to three digits, no leading zero, below 256. -/
def readOctet (text : List Char) : Option (Nat × List Char) :=
  let (digits, rest) := digitRun digit? text
  let value := digitsValue 10 digits
  if digits = [] ∨ 3 < digits.length ∨ (digits.head? = some 0 ∧ 1 < digits.length) ∨ 255 < value
  then none else some (value, rest)

/-- Takes one given character off the front of a text. -/
def readChar (c : Char) : List Char → Option (List Char)
  | [] => none
  | d :: rest => if d = c then some rest else none

end Address

namespace V4

open Address

/-- Reads an address off the front of a text. -/
def read (text : List Char) : Option (V4 × List Char) := do
  let (a, rest) ← readOctet text
  let (b, rest) ← readOctet (← readChar '.' rest)
  let (c, rest) ← readOctet (← readChar '.' rest)
  let (d, rest) ← readOctet (← readChar '.' rest)
  return (ofOctets a b c d, rest)

/-- The address that a whole text spells. -/
def ofChars? (text : List Char) : Option V4 :=
  match read text with
  | some (a, []) => some a
  | _ => none

/-- The address that a whole string spells. -/
def ofText? (text : String) : Option V4 := ofChars? text.toList

end V4

end WorkloadNet
