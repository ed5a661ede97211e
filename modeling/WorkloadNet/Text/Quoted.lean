import WorkloadNet.Text.Decimal
import WorkloadNet.Text.Printable

/-!
# Quoted names

Error texts show names that may hold anything between double quotes. The quote and the backslash
are escaped, four control characters have letters, and any other character that is not printable
is written by its code point.
-/

namespace WorkloadNet.Text

/-- The written form of one character of a quoted name. -/
def quotedChar (c : Char) : List Char :=
  if c = '\x00' then ['\\', '0']
  else if c = '\t' then ['\\', 't']
  else if c = '\r' then ['\\', 'r']
  else if c = '\n' then ['\\', 'n']
  else if c = '"' ∨ c = '\\' then ['\\', c]
  else if isPrintable c then [c]
  else ['\\', 'u', '\x7b'] ++ (hexadecimal c.toNat).toList ++ ['\x7d']

/-- A name between double quotes. -/
def quoted (name : String) : String :=
  String.ofList ('"' :: name.toList.flatMap quotedChar ++ ['"'])

end WorkloadNet.Text
