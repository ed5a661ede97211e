import WorkloadNet.Address.V4

/-!
# IPv6 addresses

An IPv6 address is eight 16-bit groups. In text, groups are one to four hexadecimal digits joined
by colons, one double colon stands for at least one group of zeros, and the last two groups may be
written as an IPv4 address. An address is printed in lower case with its first longest run of at
least two zero groups left out; an address that holds an IPv4 address (`::ffff:a.b.c.d`) shows it
in dotted form.
-/

namespace WorkloadNet

/-- An IPv6 address. -/
structure V6 where
  /-- The eight groups, first group first. -/
  groups : Vector UInt16 8
  deriving DecidableEq, Repr

namespace V6

/-- The address with these groups; missing ones are zero and those beyond the eighth are lost. -/
def ofGroups (groups : List Nat) : V6 :=
  ⟨Vector.ofFn fun i => UInt16.ofNat (groups.getD i.val 0)⟩

/-- The groups as numbers. -/
def toList (a : V6) : List Nat := a.groups.toList.map UInt16.toNat

/-- Groups in hexadecimal, joined by colons. -/
def groupsText (groups : List Nat) : String :=
  ":".intercalate (groups.map Text.hexadecimal)

/-- The length of the run of zeros at the front of a list. -/
def zeroRun (groups : List Nat) : Nat := (groups.takeWhile (· = 0)).length

/-- Start and length of the first longest run of zeros among the suffixes that begin at `start`. -/
def longestZeros (start : Nat) : List Nat → Nat × Nat
  | [] => (start, 0)
  | g :: rest =>
    let here := zeroRun (g :: rest)
    let later := longestZeros (start + 1) rest
    if later.2 ≤ here then (start, here) else later

/-- The text of an address. -/
def text (a : V6) : String :=
  let groups := a.toList
  if groups.take 6 = [0, 0, 0, 0, 0, 0xffff] then
    let embedded := V4.ofNat (groups.getD 6 0 * 65536 + groups.getD 7 0)
    "::ffff:" ++ embedded.text
  else
    let (start, length) := longestZeros 0 groups
    if 1 < length then
      groupsText (groups.take start) ++ "::" ++ groupsText (groups.drop (start + length))
    else groupsText groups

open Address Text

/-- Reads a group: one to four hexadecimal digits. -/
def readGroup (text : List Char) : Option (Nat × List Char) :=
  let (digits, rest) := digitRun hexDigit? text
  if digits = [] ∨ 4 < digits.length then none else some (digitsValue 16 digits, rest)

/-- What follows the colon between two groups; the first group has none before it. -/
def afterSeparator (first : Bool) (text : List Char) : Option (List Char) :=
  if first then some text else readChar ':' text

/-- Reads up to `room` groups. The flag says that the last two were an IPv4 address, which needs
room for two. -/
def readGroups (first : Bool) : Nat → List Char → List Nat × Bool × List Char
  | 0, text => ([], false, text)
  | room + 1, text =>
    match (afterSeparator first text).bind fun t => if room = 0 then none else V4.read t with
    | some (a, rest) => ([a.toNat / 65536, a.toNat % 65536], true, rest)
    | none =>
      match (afterSeparator first text).bind readGroup with
      | none => ([], false, text)
      | some (g, rest) =>
        let (more, embedded, after) := readGroups false room rest
        (g :: more, embedded, after)

/-- Reads an address off the front of a text. -/
def read (text : List Char) : Option (V6 × List Char) :=
  let (front, embedded, rest) := readGroups true 8 text
  if front.length = 8 then some (ofGroups front, rest)
  else if embedded then none
  else do
    let rest ← readChar ':' rest
    let rest ← readChar ':' rest
    let (back, _, rest) := readGroups true (7 - front.length) rest
    let zeros := List.replicate (8 - front.length - back.length) 0
    return (ofGroups (front ++ zeros ++ back), rest)

end V6

end WorkloadNet
