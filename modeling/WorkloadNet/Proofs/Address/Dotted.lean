import WorkloadNet.Address.Host
import WorkloadNet.Proofs.Text.Decimal
import WorkloadNet.Proofs.Text.Fields

/-!
# Dotted addresses

An IPv4 address is read back from its text, and the text is the only one that is read as the address.
-/

namespace WorkloadNet

open Text

variable {n : Nat} {digits rest text : List Char} {a : V4}

theorem Text.not_isBlank_of_isDigit {c : Char} (h : c.isDigit = true) : isBlank c = false := by
  obtain ⟨hc, hlt⟩ := toNat_of_isDigit h
  exact not_isBlank_of_visible (by omega) (by omega)

namespace Address

/-! ## Octets -/

/-- A text that no digit begins. -/
def NoDigit (text : List Char) : Prop := ∀ c ∈ text.head?, c.isDigit = false

theorem map_digitValue_head?_iff (hdigits : ∀ c ∈ digits, c.isDigit = true) :
    (digits.map digitValue).head? = some 0 ↔ digits.head? = some '0' := by
  cases digits with
  | nil => simp
  | cons c rest =>
    have hc := hdigits c List.mem_cons_self
    simp only [List.map_cons, List.head?_cons, Option.some.injEq]
    constructor
    · intro hzero
      rw [← digitChar_digitValue hc, hzero]
      rfl
    · rintro rfl
      rfl

theorem plain_iff (hdigits : ∀ c ∈ digits, c.isDigit = true) :
    Plain digits ↔ digits.map digitValue ≠ [] ∧
      ¬ ((digits.map digitValue).head? = some 0 ∧ 1 < (digits.map digitValue).length) := by
  rw [map_digitValue_head?_iff hdigits, List.length_map, Ne, List.map_eq_nil_iff]
  unfold Plain
  have hlength : digits ≠ [] → 0 < digits.length := List.length_pos_iff.2
  constructor
  · rintro ⟨hne, hzero⟩
    exact ⟨hne, fun hlead => by have := hzero hlead.1; omega⟩
  · rintro ⟨hne, hlead⟩
    refine ⟨hne, fun hzero => ?_⟩
    have hshort : ¬ 1 < digits.length := fun hlong => hlead ⟨hzero, hlong⟩
    have hpos := hlength hne
    omega

/-- An octet is read exactly from the decimal text of a number below 256 that no further digit follows. -/
theorem readOctet_eq_some_iff :
    readOctet text = some (n, rest) ↔ n < 256 ∧ text = (decimal n).toList ++ rest ∧ NoDigit rest := by
  constructor
  · intro h
    obtain ⟨digits, after, rfl, hdigits, hafter⟩ := exists_span Char.isDigit text
    simp only [readOctet, digitRun_append hdigits hafter, digitsValue_map] at h
    obtain ⟨hok, hread⟩ := Option.ite_none_left_eq_some.1 h
    simp only [not_or] at hok
    obtain ⟨hne, hlong, hlead, hhigh⟩ := hok
    obtain ⟨rfl, rfl⟩ := Prod.mk.inj (Option.some.inj hread)
    have hdecimal := decimal_ofDigitChars hdigits ((plain_iff hdigits).2 ⟨hne, hlead⟩)
    exact ⟨by omega, by rw [hdecimal], hafter⟩
  · rintro ⟨hn, rfl, hrest⟩
    have hplain := (plain_iff fun _ => isDigit_of_mem_decimal).1 (plain_decimal n)
    have hlength : (decimal n).toList.length ≤ 3 := by
      rw [toList_decimal, Nat.length_toDigits_le_iff (by omega) (by omega)]
      omega
    simp only [readOctet, digitRun_decimal n hrest, digitsValue_decimal]
    rw [if_neg]
    rintro (hnil | hlong | hlead | hhigh)
    · exact hplain.1 hnil
    · rw [List.length_map] at hlong
      omega
    · exact hplain.2 hlead
    · omega

theorem readChar_eq_some_iff {c : Char} : readChar c text = some rest ↔ text = c :: rest := by
  cases text with
  | nil => simp [readChar]
  | cons d text =>
    rw [readChar, Option.ite_none_right_eq_some, Option.some.injEq, List.cons.injEq]

end Address

namespace V4

open Address

/-! ## Addresses -/

/-- The octets of an address, joined by dots. -/
def dotted (o₁ o₂ o₃ o₄ : Nat) : List Char :=
  (decimal o₁).toList ++ '.' :: ((decimal o₂).toList ++ '.' :: ((decimal o₃).toList ++ '.' ::
    (decimal o₄).toList))

theorem toList_text (a : V4) :
    a.text.toList = dotted (a.toNat / 16777216) (a.toNat / 65536 % 256) (a.toNat / 256 % 256)
      (a.toNat % 256) := by
  simp [text, octets, dotted, String.intercalate_cons_cons]

theorem ofOctets_octets (a : V4) :
    ofOctets (a.toNat / 16777216) (a.toNat / 65536 % 256) (a.toNat / 256 % 256) (a.toNat % 256) = a := by
  rw [ofOctets, ← ofNat_toNat a]
  congr 1
  rw [ofNat_toNat]
  omega

theorem toNat_ofOctets {o₁ o₂ o₃ o₄ : Nat} (h₁ : o₁ < 256) (h₂ : o₂ < 256) (h₃ : o₃ < 256)
    (h₄ : o₄ < 256) : (ofOctets o₁ o₂ o₃ o₄).toNat = ((o₁ * 256 + o₂) * 256 + o₃) * 256 + o₄ :=
  toNat_ofNat (by unfold count; omega)

theorem toList_text_ofOctets {o₁ o₂ o₃ o₄ : Nat} (h₁ : o₁ < 256) (h₂ : o₂ < 256) (h₃ : o₃ < 256)
    (h₄ : o₄ < 256) : (ofOctets o₁ o₂ o₃ o₄).text.toList = dotted o₁ o₂ o₃ o₄ := by
  rw [toList_text, toNat_ofOctets h₁ h₂ h₃ h₄]
  congr 1 <;> omega

/-- An address is read exactly from its text that no further digit follows. -/
theorem read_eq_some_iff : read text = some (a, rest) ↔ text = a.text.toList ++ rest ∧ NoDigit rest := by
  constructor
  · intro h
    obtain ⟨⟨o₁, rest₁⟩, hread₁, h⟩ := Option.bind_eq_some_iff.1 h
    obtain ⟨after₁, hdot₁, h⟩ := Option.bind_eq_some_iff.1 h
    obtain ⟨⟨o₂, rest₂⟩, hread₂, h⟩ := Option.bind_eq_some_iff.1 h
    obtain ⟨after₂, hdot₂, h⟩ := Option.bind_eq_some_iff.1 h
    obtain ⟨⟨o₃, rest₃⟩, hread₃, h⟩ := Option.bind_eq_some_iff.1 h
    obtain ⟨after₃, hdot₃, h⟩ := Option.bind_eq_some_iff.1 h
    obtain ⟨⟨o₄, rest₄⟩, hread₄, h⟩ := Option.bind_eq_some_iff.1 h
    obtain ⟨rfl, rfl⟩ := Prod.mk.inj (Option.some.inj h)
    obtain ⟨h₁, rfl, -⟩ := readOctet_eq_some_iff.1 hread₁
    obtain rfl := readChar_eq_some_iff.1 hdot₁
    obtain ⟨h₂, rfl, -⟩ := readOctet_eq_some_iff.1 hread₂
    obtain rfl := readChar_eq_some_iff.1 hdot₂
    obtain ⟨h₃, rfl, -⟩ := readOctet_eq_some_iff.1 hread₃
    obtain rfl := readChar_eq_some_iff.1 hdot₃
    obtain ⟨h₄, rfl, hrest⟩ := readOctet_eq_some_iff.1 hread₄
    rw [toList_text_ofOctets h₁ h₂ h₃ h₄]
    exact ⟨by simp [dotted], hrest⟩
  · rintro ⟨rfl, hrest⟩
    have hlt := a.toNat_lt
    unfold count at hlt
    have hoctet {o : Nat} {after : List Char} (ho : o < 256) (hafter : NoDigit after) :
        readOctet ((decimal o).toList ++ after) = some (o, after) :=
      readOctet_eq_some_iff.2 ⟨ho, rfl, hafter⟩
    have hdot (after : List Char) : NoDigit ('.' :: after) ∧ readChar '.' ('.' :: after) = some after :=
      ⟨by simp [NoDigit], readChar_eq_some_iff.2 rfl⟩
    simp only [toList_text, dotted, List.append_assoc, List.cons_append, read, Option.bind_eq_bind]
    rw [hoctet (by omega) (hdot _).1, Option.bind_some, (hdot _).2, Option.bind_some,
      hoctet (by omega) (hdot _).1, Option.bind_some, (hdot _).2, Option.bind_some,
      hoctet (by omega) (hdot _).1, Option.bind_some, (hdot _).2, Option.bind_some,
      hoctet (by omega) hrest, Option.bind_some, ofOctets_octets]
    rfl

theorem ofChars?_eq_some_iff : ofChars? text = some a ↔ text = a.text.toList := by
  have hread : ofChars? text = some a ↔ read text = some (a, []) := by
    unfold ofChars?
    split
    · rename_i b hb
      rw [hb]
      simp
    · rename_i hnot
      exact ⟨nofun, fun h => absurd h (hnot a)⟩
  rw [hread, read_eq_some_iff, List.append_nil]
  simp [NoDigit]

theorem ofText?_text (a : V4) : ofText? a.text = some a := ofChars?_eq_some_iff.2 rfl

/-- The text of an address is made of digits and dots. -/
theorem isDigit_or_eq_dot {c : Char} (h : c ∈ a.text.toList) : c.isDigit = true ∨ c = '.' := by
  rw [toList_text] at h
  simp only [dotted, List.mem_append, List.mem_cons] at h
  rcases h with h | rfl | h | rfl | h | rfl | h
  · exact .inl (isDigit_of_mem_decimal h)
  · exact .inr rfl
  · exact .inl (isDigit_of_mem_decimal h)
  · exact .inr rfl
  · exact .inl (isDigit_of_mem_decimal h)
  · exact .inr rfl
  · exact .inl (isDigit_of_mem_decimal h)

/-- The text of an address is one word. -/
theorem word_text (a : V4) : Word a.text.toList := by
  refine ⟨by simp [toList_text, dotted], fun c hc => ?_⟩
  rcases isDigit_or_eq_dot hc with hdigit | rfl
  · exact not_isBlank_of_isDigit hdigit
  · decide

end V4

namespace Host

/-- A text that spells an IPv6 address, or no address at all, spells no IPv4 address. -/
theorem ofText?_eq_v4_iff {s : String} : ofText? s = some (.v4 a) ↔ V4.ofText? s = some a := by
  unfold ofText? V4.ofText? V4.ofChars? read
  cases V4.read s.toList with
  | none => cases V6.read s.toList with
    | none => simp
    | some found =>
      obtain ⟨b, rest⟩ := found
      cases rest <;> simp
  | some found =>
    obtain ⟨b, rest⟩ := found
    cases rest <;> simp

end Host

end WorkloadNet
