import WorkloadNet.Dns.Message
import WorkloadNet.Dns.Wire.Reader

/-!
# Layout of record data

The types that are known by their number have data of a known layout: numbers of a fixed width, texts
after their length, names. Data of every other type is taken as it is, at any length and unchecked, also
that of types with a layout of their own (TLSA, CAA, NAPTR, SSHFP, SVCB, CSYNC). Data must have exactly the
length that its record tells.

The options of an OPT record are each a code, a length and that many octets. A later option replaces an
earlier one of its code; a list that ends inside an option counts as empty. The data of most options are
taken as they are, but a client subnet has to tell one.
-/

namespace WorkloadNet.Dns.Wire

/-- A field of record data. -/
inductive Field where
  /-- A number of this many octets. -/
  | number (width : Nat)
  /-- A text after its length. -/
  | text
  /-- Texts up to the end of the data. -/
  | texts
  /-- A name. -/
  | name
  /-- The host of a service. -/
  | target
  /-- Options up to the end of the data. -/
  | options
  /-- Everything up to the end of the data. -/
  | rest
  deriving DecidableEq, Repr

/-- The layout of the data of a type; none for types that have no data. -/
def layout (type : UInt16) : Option (List Field) :=
  match type.toNat with
  | 0 | 251 | 252 | 255 => none
  | 1 => some (List.replicate 4 (.number 1))
  | 2 | 5 | 12 => some [.name]
  | 6 => some ([.name, .name] ++ List.replicate 5 (.number 4))
  | 13 => some [.text, .text]
  | 15 => some [.number 2, .name]
  | 16 => some [.texts]
  | 28 => some (List.replicate 8 (.number 2))
  | 33 => some (List.replicate 3 (.number 2) ++ [.target])
  | 41 => some [.options]
  | _ => some [.rest]

/-- An option of an extended header: a code and octets. -/
abbrev HeaderOption := UInt16 × List UInt8

/-- The code of a client subnet. -/
def clientSubnet : UInt16 := 8

/-- The longest prefix of an address of a family. -/
def mostPrefix? (family : UInt16) : Option Nat :=
  match family.toNat with
  | 1 => some 32
  | 2 => some 128
  | _ => none

/-- A client subnet: a family, the length of a prefix, a length of the answer's, and as many octets of an
address as the prefix takes. Further octets do not count. -/
def subnetOctets? : List UInt8 → Option (List UInt8)
  | high :: low :: length :: scope :: address => do
    let most ← mostPrefix? (wordOf high low)
    let size := (length.toNat + 7) / 8
    if most < length.toNat ∨ address.length < size then none
    return high :: low :: length :: scope :: address.take size
  | _ => none

/-- What is kept of the data of an option, unless they are no data of that option. -/
def optionData? (code : UInt16) (octets : List UInt8) : Option (List UInt8) :=
  if code = clientSubnet then subnetOctets? octets else some octets

/-- An option as it is written: its code, its length and its data. -/
def optionParts (option : HeaderOption) : List Part :=
  [.octets (wordOctets option.1), .octets (wordOctets (UInt16.ofNat option.2.length)),
    .octets option.2]

/-- An option put in the place of those of its code. -/
def putOption (options : List HeaderOption) (option : HeaderOption) : List HeaderOption :=
  options.filter (·.1 ≠ option.1) ++ [option]

namespace Reader

/-- A text after its length, with the length in front. -/
def text : Reader (List Part) := do
  let size ← octet
  return [.octets [size], .octets (← take size.toNat)]

/-- Texts up to a position; each takes at least one octet. -/
def texts (end_ : Nat) : Nat → Reader (List Part)
  | 0 => pure []
  | fuel + 1 => do
    if end_ ≤ (← position) then return []
    let first ← text
    return first ++ (← texts end_ fuel)

/-- Options up to a position, after those already read. An option takes at least four octets. -/
def options (end_ size : Nat) (before : List HeaderOption) : Nat → Reader (List HeaderOption)
  | 0 => pure before
  | fuel + 1 => do
    if end_ ≤ (← position) then return before
    let code ← word
    if end_ ≤ (← position) then return []
    let length ← word
    if size < length.toNat then refuse
    else
      let available := end_ - (← position)
      let octets ← take (min length.toNat available)
      if available < length.toNat then return []
      match optionData? code octets with
      | some octets => options end_ size (putOption before (code, octets)) fuel
      | none => refuse

/-- A field of data that goes up to a position. -/
def field (end_ size : Nat) : Field → Reader (List Part)
  | .number width => return [.octets (← take width)]
  | .text => text
  | .texts => texts end_ size
  | .name => return [.name (← name)]
  | .target => return [.target (← name)]
  | .options => return (← options end_ size [] size).flatMap optionParts
  | .rest => return [.octets (← take size)]

/-- The fields of a layout. -/
def fields (end_ size : Nat) : List Field → Reader (List Part)
  | [] => pure []
  | f :: rest => do
    let parts ← field end_ size f
    return parts ++ (← fields end_ size rest)

/-- The data of a record of this type: it takes exactly `size` octets. A record without octets has no
parts, whatever its type. -/
def data (type : UInt16) (size : Nat) : Reader (List Part) :=
  if size = 0 then pure []
  else
    match layout type with
    | none => refuse
    | some layout => do
      let end_ := (← position) + size
      let parts ← fields end_ size layout
      if (← position) = end_ then return parts else refuse

end Reader

end WorkloadNet.Dns.Wire
