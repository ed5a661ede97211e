import WorkloadNet.Text.Decimal

/-!
# Scalars of a YAML document

A text is written plain when it reads back as itself that way. Otherwise it is written between single
quotes, with quotes doubled; or between double quotes, with escapes, when it has a character that does not
print, or a space next to a line break. A text with line feeds is written as a block of lines, if it can be.
Lines are not folded.

`Traits` says what matters about a text, and `style` chooses.
-/

namespace WorkloadNet.Yaml

/-- Characters that end a line. -/
def isBreak (c : Char) : Bool := ['\n', '\r', '\x85', '\u2028', '\u2029'].contains c

/-- Characters that end a word, the end mark of a text included. -/
def isBlank (c : Char) : Bool := c = ' ' || c = '\t' || c = '\x00' || isBreak c

/-- Characters that print. -/
def prints (c : Char) : Bool :=
  c = '\n' || (' ' ≤ c && c ≤ '~') ||
    ('\xa0' ≤ c && c ≠ '\ufeff' && c ≠ '\ufffe' && c ≠ '\uffff')

/-- Characters that mean something at the front of a scalar. -/
def isFrontMark (c : Char) : Bool :=
  ['#', ',', '[', ']', '\x7b', '\x7d', '&', '*', '!', '|', '>', '\'', '"', '%', '@', '\x60'].contains c

/-- Whether the text that follows a character begins with a blank or is empty. -/
def blankNext (rest : List Char) : Bool := (rest.head?.map isBlank).getD true

/-- Whether the front of a text means something other than the text. -/
def frontMarked : List Char → Bool
  | [] => false
  | c :: rest =>
    isFrontMark c || (['?', ':', '-'].contains c && blankNext rest) ||
      ['-', '-', '-'].isPrefixOf (c :: rest) || ['.', '.', '.'].isPrefixOf (c :: rest)

/-- Whether a text after its first character, `before`, holds a mark: a colon before a blank, or a number
sign after one. -/
def innerMarked (before : Char) : List Char → Bool
  | [] => false
  | c :: rest =>
    (c = ':' && blankNext rest) || (c = '#' && isBlank before) || innerMarked c rest

/-- Whether two characters follow each other somewhere, the first of one kind and the second of another. -/
def hasPair (first second : Char → Bool) (text : List Char) : Bool :=
  (text.zip text.tail).any fun (a, b) => first a && second b

/-- What matters about a text when it is written. -/
structure Traits where
  /-- It holds a mark. -/
  marked : Bool
  /-- It holds a character that does not print. -/
  special : Bool
  /-- It holds a line break. -/
  broken : Bool
  /-- It begins or ends with a space or a line break. -/
  padded : Bool
  /-- It ends with a space. -/
  spaceAtEnd : Bool
  /-- It has a space after a line break. -/
  spaceAfterBreak : Bool
  /-- It has a space before a line break. -/
  spaceBeforeBreak : Bool

/-- The traits of a text. -/
def traits (text : List Char) : Traits :=
  let isSpace (c : Char) : Bool := c = ' '
  let pads (c : Option Char) : Bool := (c.map fun c => isSpace c || isBreak c).getD false
  { marked := frontMarked text || (text.head?.map fun c => innerMarked c text.tail).getD false
    special := text.any fun c => !prints c
    broken := text.any isBreak
    padded := pads text.head? || pads text.getLast?
    spaceAtEnd := text.getLast? = some ' '
    spaceAfterBreak := hasPair isBreak isSpace text
    spaceBeforeBreak := hasPair isSpace isBreak text }

/-- How a scalar is written. -/
inductive Style where
  /-- As it is. -/
  | plain
  /-- Between single quotes. -/
  | single
  /-- Between double quotes. -/
  | double
  /-- As a block of lines. -/
  | block
  deriving DecidableEq, Repr

/-- How a text is written. -/
def style (text : List Char) : Style :=
  let t := traits text
  let unprintable := t.special || t.spaceBeforeBreak
  if text.contains '\n' then
    if unprintable || t.spaceAtEnd then .double else .block
  else if unprintable || t.spaceAfterBreak then .double
  else if t.marked || t.padded || t.broken then .single
  else .plain

/-- Writes the code point of a character in hexadecimal, with at least this many digits. -/
def codePoint (digits : Nat) (c : Char) : List Char :=
  let hex := (Text.hexadecimal c.toNat).toList.map Char.toUpper
  List.replicate (digits - hex.length) '0' ++ hex

/-- The letter that stands for a character after a backslash. -/
def escapeLetter? (c : Char) : Option Char :=
  [('\x00', '0'), ('\x07', 'a'), ('\x08', 'b'), ('\t', 't'), ('\n', 'n'), ('\x0b', 'v'), ('\x0c', 'f'),
    ('\r', 'r'), ('\x1b', 'e'), ('"', '"'), ('\\', '\\'), ('\x85', 'N'), ('\u2028', 'L'),
    ('\u2029', 'P')].lookup c

/-- A character between double quotes. -/
def doubleChar (c : Char) : List Char :=
  match escapeLetter? c with
  | some letter => ['\\', letter]
  | none =>
    if prints c then [c]
    else if c.toNat ≤ 0xff then '\\' :: 'x' :: codePoint 2 c
    else if c.toNat ≤ 0xffff then '\\' :: 'u' :: codePoint 4 c
    else '\\' :: 'U' :: codePoint 8 c

/-- Writes text line by line; each line that is not empty is indented when it follows a break. -/
def indented (indent : Nat) (write : Char → List Char) (afterBreak : Bool) : List Char → List Char
  | [] => []
  | c :: rest =>
    if isBreak c then c :: indented indent write true rest
    else
      (if afterBreak then List.replicate indent ' ' else []) ++ write c ++
        indented indent write false rest

/-- The head of a block: how far it is indented, when its text does not show that, and that no line break
follows it. -/
def blockHead (text : List Char) : List Char :=
  if (text.head?.map fun c => c = ' ' || isBreak c).getD false then ['|', '2', '-'] else ['|', '-']

/-- A text as a scalar whose further lines are indented. -/
def scalarChars (indent : Nat) (text : List Char) : List Char :=
  match style text with
  | .plain => text
  | .single =>
    let quote (c : Char) := if c = '\'' then ['\'', '\''] else [c]
    '\'' :: indented indent quote false text ++ ['\'']
  | .double => '"' :: text.flatMap doubleChar ++ ['"']
  | .block => blockHead text ++ '\n' :: indented indent (fun c => [c]) true text

/-- A text as a scalar whose further lines are indented. -/
def scalar (indent : Nat) (text : String) : String := String.ofList (scalarChars indent text.toList)

end WorkloadNet.Yaml
