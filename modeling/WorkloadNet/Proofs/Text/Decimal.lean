import Mathlib.Data.List.Induction
import WorkloadNet.Address.V4

/-!
# Decimal texts

The decimal text of a number is a run of digits with that value that has no zero in front of further digits.
It is the only such run.
-/

namespace WorkloadNet.Text

open Address

variable {n : Nat} {c : Char} {digits rest text : List Char}

theorem toList_decimal (n : Nat) : (decimal n).toList = Nat.toDigits 10 n := Nat.toList_repr

theorem decimal_ne_nil (n : Nat) : (decimal n).toList ≠ [] := by
  rw [toList_decimal]
  exact Nat.toDigits_ne_nil

theorem isDigit_of_mem_decimal (h : c ∈ (decimal n).toList) : c.isDigit = true := by
  rw [toList_decimal] at h
  exact Nat.isDigit_of_mem_toDigits (by omega) (by omega) h

/-! ## The values of digits -/

/-- The value of a digit. -/
def digitValue (c : Char) : Nat := c.toNat - '0'.toNat

theorem isDigit_iff : c.isDigit = true ↔ '0' ≤ c ∧ c ≤ '9' := by
  simp [Char.isDigit, Char.le_def]

theorem digit?_eq (c : Char) : digit? c = if c.isDigit then some (digitValue c) else none := by
  simp only [digit?, isDigit_iff, digitValue]

theorem toNat_of_isDigit (h : c.isDigit = true) : c.toNat = 48 + digitValue c ∧ digitValue c < 10 := by
  obtain ⟨hlow, hhigh⟩ := isDigit_iff.1 h
  have hlow : 48 ≤ c.toNat := hlow
  have hhigh : c.toNat ≤ 57 := hhigh
  have hvalue : digitValue c = c.toNat - 48 := rfl
  omega

theorem digitChar_digitValue (h : c.isDigit = true) : (digitValue c).digitChar = c := by
  obtain ⟨hc, hlt⟩ := toNat_of_isDigit h
  rw [← Char.toNat_inj, Nat.toNat_digitChar_of_lt_ten hlt, hc]

theorem digitsValue_map : digitsValue 10 (digits.map digitValue) = Nat.ofDigitChars 10 digits 0 :=
  List.foldl_map

theorem digitsValue_decimal (n : Nat) : digitsValue 10 ((decimal n).toList.map digitValue) = n := by
  rw [digitsValue_map, toList_decimal, Nat.ofDigitChars_ten_toDigits]

/-- The longest run of digits at the front of a text. -/
theorem digitRun_eq (text : List Char) :
    digitRun digit? text = ((text.takeWhile Char.isDigit).map digitValue, text.dropWhile Char.isDigit) := by
  induction text with
  | nil => rfl
  | cons c rest ih => cases hc : c.isDigit <;> simp [digitRun, digit?_eq, hc, ih]

/-- A run of digits ends where no further digit follows. -/
theorem digitRun_append (hdigits : ∀ c ∈ digits, c.isDigit = true)
    (hrest : ∀ c ∈ rest.head?, c.isDigit = false) :
    digitRun digit? (digits ++ rest) = (digits.map digitValue, rest) := by
  rw [digitRun_eq, List.takeWhile_append_of_pos hdigits, List.dropWhile_append_of_pos hdigits]
  cases rest with
  | nil => simp
  | cons c rest => simp [hrest c rfl]

theorem digitRun_decimal (n : Nat) (hrest : ∀ c ∈ rest.head?, c.isDigit = false) :
    digitRun digit? ((decimal n).toList ++ rest) = ((decimal n).toList.map digitValue, rest) :=
  digitRun_append (fun _ => isDigit_of_mem_decimal) hrest

theorem digitsAfter?_eq (value : Nat) (hdigits : ∀ c ∈ digits, c.isDigit = true) :
    digitsAfter? value digits = some (Nat.ofDigitChars 10 digits value) := by
  induction digits generalizing value with
  | nil => rfl
  | cons c rest ih =>
    obtain ⟨hc, hmore⟩ := List.forall_mem_cons.1 hdigits
    rw [digitsAfter?, digit?_eq, if_pos hc, Option.bind_some, ih _ hmore, Nat.ofDigitChars_cons]
    rfl

/-- The decimal text of a number reads as the number. -/
theorem decimal?_decimal (n : Nat) : decimal? (decimal n).toList = some n := by
  have hread : decimal? (decimal n).toList = digitsAfter? 0 (decimal n).toList := by
    cases h : (decimal n).toList with
    | nil => exact absurd h (decimal_ne_nil n)
    | cons => rfl
  rw [hread, digitsAfter?_eq 0 fun _ => isDigit_of_mem_decimal, toList_decimal,
    Nat.ofDigitChars_ten_toDigits]

/-! ## Zeros in front -/

/-- Digits without a zero in front of further digits. -/
def Plain (digits : List Char) : Prop := digits ≠ [] ∧ (digits.head? = some '0' → digits.length = 1)

theorem head?_decimal_of_pos (h : 0 < n) : (decimal n).toList.head? ≠ some '0' := by
  rw [toList_decimal]
  induction n using Nat.base_induction 10 (by omega) with
  | single m hm =>
    rw [Nat.toDigits_of_lt_base hm]
    simp
    omega
  | digit m k hk hm ih =>
    rw [← Nat.toDigits_append_toDigits (by omega) hm hk, List.head?_append]
    cases hhead : (Nat.toDigits 10 m).head? with
    | none => exact absurd (List.head?_eq_none_iff.1 hhead) Nat.toDigits_ne_nil
    | some c =>
      rw [Option.some_or, ← hhead]
      exact ih hm

theorem plain_decimal (n : Nat) : Plain (decimal n).toList := by
  refine ⟨decimal_ne_nil n, fun hzero => ?_⟩
  obtain rfl | hpos := Nat.eq_zero_or_pos n
  · rfl
  · exact absurd hzero (head?_decimal_of_pos hpos)

theorem plain_of_snoc (hne : digits ≠ []) (h : Plain (digits ++ [c])) :
    Plain digits ∧ digits.head? ≠ some '0' := by
  have hzero : digits.head? ≠ some '0' := by
    intro hzero
    have hlength := h.2 (by rw [List.head?_append, hzero, Option.some_or])
    rw [List.length_append, List.length_singleton] at hlength
    exact hne (List.length_eq_zero_iff.1 (by omega))
  exact ⟨⟨hne, fun h => absurd h hzero⟩, hzero⟩

/-- Such digits are the decimal text of their value. -/
theorem decimal_ofDigitChars (hdigits : ∀ c ∈ digits, c.isDigit = true) (hplain : Plain digits) :
    (decimal (Nat.ofDigitChars 10 digits 0)).toList = digits := by
  induction digits using List.reverseRecOn with
  | nil => exact absurd rfl hplain.1
  | append_singleton digits c ih =>
    obtain ⟨hfront, hlast⟩ := List.forall_mem_append.1 hdigits
    have hc : c.isDigit = true := hlast c (List.mem_singleton_self c)
    have hvalue : Nat.ofDigitChars 10 (digits ++ [c]) 0 =
        10 * Nat.ofDigitChars 10 digits 0 + digitValue c := by
      rw [Nat.ofDigitChars_append, Nat.ofDigitChars_cons, Nat.ofDigitChars_nil]
      rfl
    have htext : Nat.toDigits 10 (digitValue c) = [c] := by
      rw [Nat.toDigits_of_lt_base (toNat_of_isDigit hc).2, digitChar_digitValue hc]
    rw [hvalue, toList_decimal]
    by_cases hnil : digits = []
    · simpa [hnil] using htext
    · obtain ⟨hbefore, hzero⟩ := plain_of_snoc hnil hplain
      have hdecimal := ih hfront hbefore
      -- What stands before the last digit is not zero, since it does not begin with one.
      have hpos : 0 < Nat.ofDigitChars 10 digits 0 := by
        by_contra hnot
        rw [Nat.eq_zero_of_not_pos hnot] at hdecimal
        exact hzero (hdecimal ▸ rfl)
      rw [← Nat.toDigits_append_toDigits (by omega) hpos (toNat_of_isDigit hc).2, htext,
        ← toList_decimal, hdecimal]

end WorkloadNet.Text
