import WorkloadNet.Json.Value
import WorkloadNet.Text.Decimal

/-!
# Reading JSON

The strict grammar: no byte order mark, no trailing comma, no comment, no control character in a
string, no leading zero, and nothing after the value but white space. A reader takes a value off
the front of a text and returns the rest; nesting is bounded only by the length of the text.
-/

namespace WorkloadNet.Json

open Text

/-- A text without the JSON white space at its front. -/
def skipSpace (text : List Char) : List Char :=
  text.dropWhile fun c => c = ' ' || c = '\t' || c = '\n' || c = '\r'

/-! ## Numbers -/

/-- The digits at the front of a text, with the rest. -/
def spanDigits (text : List Char) : List Char × List Char := text.span Char.isDigit

/-- An unsigned number as it is written. -/
structure Numeral where
  /-- The digits in front of the point. -/
  whole : List Char
  /-- The digits after the point, if there is one. -/
  fraction : Option (List Char)
  /-- The power of ten, if one is given. -/
  exponent : Option Int
  deriving DecidableEq, Repr

namespace Numeral

/-- The value of a plain integer. -/
def plain? (numeral : Numeral) : Option Nat :=
  if numeral.fraction.isSome ∨ numeral.exponent.isSome then none else decimal? numeral.whole

/-- The value of the first digits, as many as a word of 64 bits holds, and how many digits follow. -/
def leading (value : Nat) : List Char → Nat × Nat
  | [] => (value, 0)
  | c :: rest =>
    let next := 10 * value + (digit? c).getD 0
    if next ≤ 18446744073709551615 then leading next rest else (value, rest.length + 1)

/-- Whether a number is beyond the range of double precision. Its size is that of its first digits,
rounded, times a rounded power of ten. -/
def isHuge (numeral : Numeral) : Bool :=
  let fraction := numeral.fraction.getD []
  let (value, dropped) := leading 0 (numeral.whole ++ fraction)
  let power := numeral.exponent.getD 0 - fraction.length + dropped
  if value = 0 ∨ power < 0 then false
  else if 308 < power then true
  else (Float.ofNat value * Float.ofScientific 1 false power.toNat).isInf

end Numeral

/-- The digits after `.` at the front of a text, if there is a fraction, with the rest. -/
def readFraction : List Char → Option (Option (List Char) × List Char)
  | '.' :: rest =>
    match spanDigits rest with
    | ([], _) => none
    | (digits, after) => some (some digits, after)
  | rest => some (none, rest)

/-- The sign at the front of a text, as a factor, with the rest. -/
def readSign : List Char → Int × List Char
  | '+' :: rest => (1, rest)
  | '-' :: rest => (-1, rest)
  | rest => (1, rest)

/-- The exponent at the front of a text, if there is one, with the rest. -/
def readExponent : List Char → Option (Option Int × List Char)
  | [] => some (none, [])
  | c :: rest =>
    if c = 'e' ∨ c = 'E' then
      let (sign, rest) := readSign rest
      let (digits, after) := spanDigits rest
      (decimal? digits).map fun n => (some (sign * n), after)
    else some (none, c :: rest)

/-- Reads an unsigned number. -/
def readNumeral (text : List Char) : Option (Numeral × List Char) := do
  let (whole, rest) := spanDigits text
  if whole = [] ∨ (whole.head? = some '0' ∧ 1 < whole.length) then none
  let (fraction, rest) ← readFraction rest
  let (exponent, rest) ← readExponent rest
  return (⟨whole, fraction, exponent⟩, rest)

/-- The value of a numeral: `sign` gives the value of a plain integer its sign. -/
def ofNumeral (sign : Nat → Option Int) (numeral : Numeral) : Json :=
  if numeral.isHuge then .huge else .number (numeral.plain?.bind sign)

/-- Reads a number. -/
def readNumber : List Char → Option (Json × List Char)
  | '-' :: text => do
    let (numeral, rest) ← readNumeral text
    return (ofNumeral (fun n => if n = 0 then none else some (-(n : Int))) numeral, rest)
  | text => do
    let (numeral, rest) ← readNumeral text
    return (ofNumeral (fun n => some (n : Int)) numeral, rest)

/-! ## Strings -/

/-- A piece of a string: a character as it stands, or the code unit that an escape names. -/
inductive Piece where
  /-- A character. -/
  | char (c : Char)
  /-- A 16-bit code unit. -/
  | unit (n : Nat)
  deriving DecidableEq, Repr

/-- The character that a one-letter escape stands for. -/
def escaped? (c : Char) : Option Char :=
  match c with
  | '"' => some '"'
  | '\\' => some '\\'
  | '/' => some '/'
  | 'b' => some '\x08'
  | 'f' => some '\x0c'
  | 'n' => some '\n'
  | 'r' => some '\r'
  | 't' => some '\t'
  | _ => none

/-- Reads the pieces of a string up to its closing quote. -/
def readPieces : List Char → Option (List Piece × List Char)
  | [] => none
  | '"' :: rest => some ([], rest)
  | '\\' :: 'u' :: a :: b :: c :: d :: rest => do
    let a ← hexDigit? a
    let b ← hexDigit? b
    let c ← hexDigit? c
    let d ← hexDigit? d
    let (pieces, after) ← readPieces rest
    return (.unit (((a * 16 + b) * 16 + c) * 16 + d) :: pieces, after)
  | '\\' :: c :: rest => do
    let c ← escaped? c
    let (pieces, after) ← readPieces rest
    return (.char c :: pieces, after)
  | c :: rest => do
    if c.toNat < 0x20 then none
    let (pieces, after) ← readPieces rest
    return (.char c :: pieces, after)

/-- The code point of a surrogate pair, if the two units are one. -/
def pair? (high low : Nat) : Option Nat :=
  if 0xD800 ≤ high ∧ high ≤ 0xDBFF ∧ 0xDC00 ≤ low ∧ low ≤ 0xDFFF then
    some (0x10000 + (high - 0xD800) * 0x400 + (low - 0xDC00))
  else none

/-- The characters of a string; none when a code unit is half of a pair. -/
def assemble : List Piece → Option (List Char)
  | [] => some []
  | .char c :: rest => (assemble rest).map (c :: ·)
  | .unit high :: .unit low :: rest =>
    match pair? high low with
    | some n => (assemble rest).map (Char.ofNat n :: ·)
    | none =>
      if 0xD800 ≤ high ∧ high ≤ 0xDFFF then none
      else (assemble (.unit low :: rest)).map (Char.ofNat high :: ·)
  | .unit n :: rest =>
    if 0xD800 ≤ n ∧ n ≤ 0xDFFF then none else (assemble rest).map (Char.ofNat n :: ·)

/-- Reads a string whose opening quote was taken. -/
def readString (text : List Char) : Option (Option String × List Char) := do
  let (pieces, rest) ← readPieces text
  return ((assemble pieces).map String.ofList, rest)

/-! ## Values -/

/-- What follows a word at the front of a text. -/
def afterWord (word text : List Char) : Option (List Char) :=
  if word.isPrefixOf text then some (text.drop word.length) else none

/-- Reads a literal or a number. -/
def readScalar (text : List Char) : Option (Json × List Char) :=
  match afterWord "null".toList text with
  | some rest => some (.null, rest)
  | none =>
    match afterWord "true".toList text with
    | some rest => some (.bool true, rest)
    | none =>
      match afterWord "false".toList text with
      | some rest => some (.bool false, rest)
      | none => readNumber text

mutual

/-- Reads a value, within `fuel` steps. -/
def readValue : Nat → List Char → Option (Json × List Char)
  | 0, _ => none
  | fuel + 1, text =>
    match skipSpace text with
    | '"' :: rest => do
      let (content, rest) ← readString rest
      return (.string content, rest)
    | '[' :: rest =>
      match skipSpace rest with
      | ']' :: rest => some (.array [], rest)
      | rest => do
        let (items, rest) ← readItems fuel rest
        return (.array items, rest)
    | '\x7b' :: rest =>
      match skipSpace rest with
      | '\x7d' :: rest => some (.object [], rest)
      | rest => do
        let (members, rest) ← readMembers fuel rest
        return (.object members, rest)
    | rest => readScalar rest

/-- Reads the items of an array up to its closing bracket. -/
def readItems : Nat → List Char → Option (List Json × List Char)
  | 0, _ => none
  | fuel + 1, text => do
    let (item, rest) ← readValue fuel text
    match skipSpace rest with
    | ',' :: rest =>
      let (items, rest) ← readItems fuel rest
      return (item :: items, rest)
    | ']' :: rest => return ([item], rest)
    | _ => none

/-- Reads the members of an object up to its closing brace. -/
def readMembers : Nat → List Char → Option (List (Option String × Json) × List Char)
  | 0, _ => none
  | fuel + 1, text =>
    match skipSpace text with
    | '"' :: rest => do
      let (name, rest) ← readString rest
      match skipSpace rest with
      | ':' :: rest =>
        let (value, rest) ← readValue fuel rest
        match skipSpace rest with
        | ',' :: rest =>
          let (members, rest) ← readMembers fuel rest
          return ((name, value) :: members, rest)
        | '\x7d' :: rest => return ([(name, value)], rest)
        | _ => none
      | _ => none
    | _ => none

end

/-- The value that a whole text spells. Each step but the first takes a character, so the length of
the text bounds the steps. -/
def ofChars? (text : List Char) : Option Json :=
  match readValue (2 * text.length + 2) text with
  | some (value, rest) => if skipSpace rest = [] then some value else none
  | none => none

/-- The value that a whole string spells. -/
def ofText? (text : String) : Option Json := ofChars? text.toList

end WorkloadNet.Json
