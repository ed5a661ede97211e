import WorkloadNet.Address.Host

/-!
# Subnets

A `Cidr` is an IPv4 address with a prefix length, written `a.b.c.d/n`. It serves both as the
address of an interface and as a subnet: the host bits of the address are kept and printed, and
the subnet is what the bits under the prefix say.

Main functions: `Cidr.contains`, `Cidr.firstUsable?` (the address after the base, when the subnet
has room for it) and `Cidr.isRange` (an ascending range inside the subnet).
-/

namespace WorkloadNet

/-- An IPv4 address with a prefix length. -/
structure Cidr where
  /-- The address, host bits included. -/
  address : V4
  /-- The number of leading bits that name the subnet. -/
  length : Nat
  /-- A prefix is no longer than the address. -/
  length_le : length ≤ 32
  deriving DecidableEq, Repr

/-- Why a text is no subnet. -/
inductive CidrFault where
  /-- More than one slash. -/
  | manySlashes (text : String)
  /-- The part before the slash is no IPv4 address. -/
  | badAddress (part : String)
  /-- The part after the slash is neither a length up to 32 nor a contiguous mask. -/
  | badLength
  deriving DecidableEq, Repr

/-- The wording of a fault. -/
def CidrFault.message : CidrFault → String
  | manySlashes text => "invalid cidr format: CIDR must contain a single '/': " ++ text
  | badAddress part => "invalid address: " ++ part
  | badLength => "invalid prefix"

namespace Cidr

/-- The text of an address with its prefix length. -/
def text (c : Cidr) : String := c.address.text ++ "/" ++ Text.decimal c.length

/-- The number of addresses in the subnet. -/
def size (c : Cidr) : Nat := Nat.pow 2 (32 - c.length)

/-- The lowest address of the subnet, as a number. -/
def base (c : Cidr) : Nat := c.address.toNat / c.size * c.size

/-- Whether the bits of an address under the prefix are those of the subnet. -/
def contains (c : Cidr) (a : V4) : Bool := a.toNat / c.size == c.address.toNat / c.size

/-- The address right after the base, when it is an address of the subnet. -/
def firstUsable? (c : Cidr) : Option V4 :=
  if c.base + 1 < V4.count ∧ c.contains (V4.ofNat (c.base + 1)) then some (V4.ofNat (c.base + 1))
  else none

/-- Whether two hosts are the ends of an ascending IPv4 range inside the subnet. -/
def isRange (c : Cidr) (first last : Host) : Bool :=
  match first, last with
  | .v4 first, .v4 last => c.contains first && c.contains last && first.toNat < last.toNat
  | _, _ => false

/-- The same prefix length for another address. -/
def withAddress (c : Cidr) (a : V4) : Cidr := { c with address := a }

/-- The prefix length that a contiguous mask stands for: ones, then zeros. -/
def lengthOfMask? (mask : V4) : Option Nat :=
  (List.range 33).find? fun n => mask.toNat = V4.count - Nat.pow 2 (32 - n)

/-- Reads a prefix length, given as a mask in dotted form or as a number. -/
def readLength? (text : List Char) : Option Nat :=
  match V4.ofChars? text with
  | some mask => lengthOfMask? mask
  | none => Text.unsigned? 32 text

/-- The address with a prefix length, when that is at most 32. -/
def ofLength? (address : V4) (length : Nat) : Option Cidr :=
  if h : length ≤ 32 then some ⟨address, length, h⟩ else none

/-- Reads an address with a prefix length; without a slash the length is 32. -/
def ofText (text : String) : Except CidrFault Cidr :=
  match text.toList.splitOnP (· = '/') with
  | [part] =>
    match V4.ofChars? part with
    | none => .error (.badAddress (String.ofList part))
    | some address => .ok ⟨address, 32, Nat.le_refl 32⟩
  | [part, length] =>
    match V4.ofChars? part with
    | none => .error (.badAddress (String.ofList part))
    | some address =>
      match (readLength? length).bind (ofLength? address) with
      | none => .error .badLength
      | some cidr => .ok cidr
  | _ => .error (.manySlashes text)

end Cidr

end WorkloadNet
