/-!
# Decimal numbers in text

`decimal?` reads a run of ASCII digits, leading zeros allowed. `unsigned?` also takes one plus
sign in front and refuses a number above a bound: that is how port numbers, prefix lengths and
counts are written on a command line.
-/

namespace WorkloadNet.Text

/-- The value of an ASCII digit. -/
def digit? (c : Char) : Option Nat :=
  if '0' ≤ c ∧ c ≤ '9' then some (c.toNat - '0'.toNat) else none

/-- The value of a hexadecimal digit of either case. -/
def hexDigit? (c : Char) : Option Nat :=
  if '0' ≤ c ∧ c ≤ '9' then some (c.toNat - '0'.toNat)
  else if 'a' ≤ c ∧ c ≤ 'f' then some (c.toNat - 'a'.toNat + 10)
  else if 'A' ≤ c ∧ c ≤ 'F' then some (c.toNat - 'A'.toNat + 10)
  else none

/-- Reads digits after a number already read. -/
def digitsAfter? (value : Nat) : List Char → Option Nat
  | [] => some value
  | c :: rest => (digit? c).bind fun d => digitsAfter? (10 * value + d) rest

/-- Reads a nonempty run of digits. -/
def decimal? : List Char → Option Nat
  | [] => none
  | text => digitsAfter? 0 text

/-- Reads a number of at most `most`, with an optional plus sign. -/
def unsigned? (most : Nat) (text : List Char) : Option Nat :=
  let digits := match text with
    | '+' :: rest => rest
    | _ => text
  (decimal? digits).filter (· ≤ most)

/-- The decimal digits of a number, without leading zeros. -/
def decimal (n : Nat) : String := toString n

/-- The lower-case hexadecimal digits of a number, without leading zeros. -/
def hexadecimal (n : Nat) : String := String.ofList (Nat.toDigits 16 n)

end WorkloadNet.Text
