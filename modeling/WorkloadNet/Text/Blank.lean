/-!
# Blank characters

The characters that count as white space in resolver files and listen addresses are those with the
property White_Space of the Unicode character database. `blankFields` cuts a text into the
maximal runs without blanks, `trimBlanks` takes blanks off both ends.

Texts are handled as lists of characters here, so that each function is a plain recursion.
-/

namespace WorkloadNet.Text

/-- A character with the property White_Space. -/
def isBlank (c : Char) : Bool :=
  (9 ≤ c.toNat && c.toNat ≤ 13) || c.toNat == 0x20 || c.toNat == 0x85 || c.toNat == 0xA0
    || c.toNat == 0x1680 || (0x2000 ≤ c.toNat && c.toNat ≤ 0x200A) || c.toNat == 0x2028
    || c.toNat == 0x2029 || c.toNat == 0x202F || c.toNat == 0x205F || c.toNat == 0x3000

/-- Spaces, tabs and line ends are blank. -/
theorem isBlank_of_mem {c : Char} (h : c ∈ [' ', '\t', '\n', '\r']) : isBlank c = true := by
  simp only [List.mem_cons, List.not_mem_nil, or_false] at h
  obtain rfl | rfl | rfl | rfl := h <;> rfl

/-- What stands between the space and the end of ASCII is not blank. -/
theorem not_isBlank_of_visible {c : Char} (hlow : 0x20 < c.toNat) (hhigh : c.toNat < 0x80) :
    isBlank c = false := by
  simp only [isBlank, Bool.or_eq_false_iff, Bool.and_eq_false_iff, decide_eq_false_iff_not,
    beq_eq_false_iff_ne]
  omega

/-- The fields of a text: its maximal runs of characters that are not blank. -/
def blankFields (text : List Char) : List (List Char) :=
  (text.splitOnP isBlank).filter (· ≠ [])

/-- A text without the blanks at either end. -/
def trimBlanks (text : List Char) : List Char :=
  ((text.dropWhile isBlank).reverse.dropWhile isBlank).reverse

/-- A text without the blanks at either end, as a string. -/
def trimmed (text : String) : String :=
  String.ofList (trimBlanks text.toList)

/-- No field is empty. -/
theorem ne_nil_of_mem_blankFields {text field : List Char} (h : field ∈ blankFields text) :
    field ≠ [] := by
  simpa using (List.mem_filter.1 h).2

end WorkloadNet.Text
