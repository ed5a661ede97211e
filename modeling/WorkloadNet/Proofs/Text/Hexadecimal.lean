import WorkloadNet.Address.V4
import WorkloadNet.Proofs.Text.Decimal
import WorkloadNet.Text.Blank

/-!
# Hexadecimal texts

The hexadecimal text of a number is a run of hexadecimal digits with that value. Decimal digits are among
these digits, and a colon, a dot or a blank is not.
-/

namespace WorkloadNet.Text

open Address

variable {n : Nat} {c : Char} {rest text : List Char}

/-- A text that consists of hexadecimal digits. -/
def Hexadecimal (text : List Char) : Prop := ∀ c ∈ text, (hexDigit? c).isSome = true

theorem toList_hexadecimal (n : Nat) : (hexadecimal n).toList = Nat.toDigits 16 n :=
  String.toList_ofList

theorem hexadecimal_ne_nil (n : Nat) : (hexadecimal n).toList ≠ [] := by
  rw [toList_hexadecimal]
  exact Nat.toDigits_ne_nil

/-! ## The values of digits -/

theorem hexDigit?_digitChar : ∀ d < 16, hexDigit? d.digitChar = some d := by decide

theorem hexDigit?_of_isDigit (h : c.isDigit = true) : (hexDigit? c).isSome = true := by
  rw [hexDigit?, if_pos (isDigit_iff.1 h)]
  rfl

theorem isDigit_eq_false_of_hexDigit? (h : hexDigit? c = none) : c.isDigit = false := by
  rw [Bool.eq_false_iff]
  intro hdigit
  exact Option.isSome_iff_ne_none.1 (hexDigit?_of_isDigit hdigit) h

theorem not_isBlank_of_hexDigit? (h : (hexDigit? c).isSome = true) : isBlank c = false := by
  have hrange : ∀ {low high : Char}, low ≤ c ∧ c ≤ high → 0x20 < low.toNat → high.toNat < 0x80 →
      isBlank c = false := by
    rintro low high ⟨hlow, hhigh⟩ hlow' hhigh'
    have hlow : low.toNat ≤ c.toNat := hlow
    have hhigh : c.toNat ≤ high.toNat := hhigh
    exact not_isBlank_of_visible (by omega) (by omega)
  unfold hexDigit? at h
  split at h
  · rename_i hc
    exact hrange hc (by decide) (by decide)
  · split at h
    · rename_i hc
      exact hrange hc (by decide) (by decide)
    · split at h
      · rename_i hc
        exact hrange hc (by decide) (by decide)
      · cases h

/-- The values of the digits of a number. -/
theorem exists_toDigits (n : Nat) : ∃ digits : List Nat, Nat.toDigits 16 n = digits.map Nat.digitChar ∧
    (∀ d ∈ digits, d < 16) ∧ digitsValue 16 digits = n := by
  induction n using Nat.base_induction 16 (by omega) with
  | single m hm =>
    refine ⟨[m], Nat.toDigits_of_lt_base hm, by simpa using hm, ?_⟩
    simp [digitsValue]
  | digit m k hk hm ih =>
    obtain ⟨digits, htext, hdigits, hvalue⟩ := ih
    refine ⟨digits ++ [k], ?_, ?_, ?_⟩
    · rw [← Nat.toDigits_append_toDigits (by omega) hm hk, htext, Nat.toDigits_of_lt_base hk,
        List.map_append, List.map_singleton]
    · simpa [or_imp, forall_and] using ⟨hdigits, hk⟩
    · rw [digitsValue, List.foldl_append, ← digitsValue, hvalue]
      rfl

theorem hexadecimal_hexadecimal (n : Nat) : Hexadecimal (hexadecimal n).toList := by
  obtain ⟨digits, htext, hdigits, -⟩ := exists_toDigits n
  rw [toList_hexadecimal, htext]
  intro c hc
  obtain ⟨d, hd, rfl⟩ := List.mem_map.1 hc
  rw [hexDigit?_digitChar d (hdigits d hd)]
  rfl

/-- A run of digits ends where no further digit follows. -/
theorem digitRun_hexadecimal (n : Nat) (hrest : ∀ c ∈ rest.head?, hexDigit? c = none) :
    ∃ digits, digitRun hexDigit? ((hexadecimal n).toList ++ rest) = (digits, rest) ∧
      digits.length = (hexadecimal n).toList.length ∧ digitsValue 16 digits = n := by
  obtain ⟨digits, htext, hdigits, hvalue⟩ := exists_toDigits n
  refine ⟨digits, ?_, by rw [toList_hexadecimal, htext, List.length_map], hvalue⟩
  rw [toList_hexadecimal, htext]
  clear htext hvalue
  induction digits with
  | nil =>
    cases rest with
    | nil => rfl
    | cons c rest => simp [digitRun, hrest c rfl]
  | cons d digits ih =>
    obtain ⟨hd, hmore⟩ := List.forall_mem_cons.1 hdigits
    simp [digitRun, hexDigit?_digitChar d hd, ih hmore]

end WorkloadNet.Text
