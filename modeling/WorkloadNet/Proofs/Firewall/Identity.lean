import Mathlib.Data.List.Basic
import Std.Data.String.ToNat
import WorkloadNet.Proofs.Firewall.Fingerprint

/-!
# What a fingerprint tells

A fingerprint is an unquoted text, in which keywords, operands and blanks follow each other. It can be
taken apart nevertheless. The first two letters tell one kind of criterion from the others, and from the
verdicts. An operand ends at the next blank, as long as no interface name holds one. What a jump leads to
may hold anything, because it comes last. So rules with the same fingerprint have the same criteria and
the same verdict.
-/

namespace WorkloadNet.Firewall

/-! ## Lists of states -/

theorem ConnState.text_injective {a b : ConnState} (h : a.text = b.text) : a = b := by
  revert h
  cases a <;> cases b <;> decide

theorem ConnState.comma_not_mem_text (state : ConnState) : ',' ∉ state.text.toList := by
  cases state <;> decide

theorem ConnState.blank_not_mem_text (state : ConnState) : ' ' ∉ state.text.toList := by
  cases state <;> decide

/-- A list of states in the text of a criterion. -/
def statesText (states : List ConnState) : String := ",".intercalate (states.map ConnState.text)

theorem toList_statesText (states : List ConnState) :
    (statesText states).toList = [','].intercalate (states.map fun state => state.text.toList) := by
  rw [statesText, String.toList_intercalate, List.map_map]
  rfl

theorem splitOn_statesText {states : List ConnState} (h : states ≠ []) :
    (statesText states).toList.splitOn ',' = states.map fun state => state.text.toList := by
  rw [toList_statesText, List.splitOn_intercalate]
  · simpa using fun state _ => state.comma_not_mem_text
  · simpa using h

theorem statesText_eq_empty {states : List ConnState} (h : statesText states = "") : states = [] := by
  by_contra hne
  have hsplit := splitOn_statesText hne
  rw [h] at hsplit
  -- Nothing is split into one empty piece, and no state has an empty name.
  have hpiece : ([] : List Char) ∈ states.map fun state => state.text.toList := by
    rw [← hsplit]
    decide
  obtain ⟨state, -, hempty⟩ := List.mem_map.1 hpiece
  revert hempty
  cases state <;> decide

theorem statesText_injective {states states' : List ConnState}
    (h : statesText states = statesText states') : states = states' := by
  by_cases hempty : states = []
  · subst hempty
    exact (statesText_eq_empty h.symm).symm
  · have hempty' : states' ≠ [] := by
      rintro rfl
      exact hempty (statesText_eq_empty h)
    have hpieces : (states.map fun state => state.text.toList) =
        states'.map fun state => state.text.toList := by
      rw [← splitOn_statesText hempty, ← splitOn_statesText hempty', h]
    exact List.map_inj_right (fun a b hab => ConnState.text_injective (String.toList_inj.1 hab))
      |>.1 hpieces

theorem blank_not_mem_statesText (states : List ConnState) : ' ' ∉ (statesText states).toList := by
  rw [toList_statesText]
  induction states with
  | nil => decide
  | cons state rest ih =>
    cases rest with
    | nil =>
      rw [List.map_cons, List.map_nil, List.intercalate_singleton]
      exact state.blank_not_mem_text
    | cons next rest =>
      rw [List.map_cons] at ih
      rw [List.map_cons, List.map_cons, List.intercalate_cons_cons]
      simp only [List.mem_append, not_or]
      exact ⟨⟨state.blank_not_mem_text, by decide⟩, ih⟩

/-! ## Operands -/

theorem Transport.text_injective {a b : Transport} (h : a.text = b.text) : a = b := by
  revert h
  cases a <;> cases b <;> decide

theorem Text.decimal_injective {m n : Nat} (h : Text.decimal m = Text.decimal n) : m = n :=
  Nat.repr_injective h

theorem Text.blank_not_mem_decimal (n : Nat) : ' ' ∉ (Text.decimal n).toList := by
  intro h
  have hdigits : ' ' ∈ Nat.toDigits 10 n := by
    have hrepr : Text.decimal n = String.ofList (Nat.toDigits 10 n) := Nat.repr_eq_ofList_toDigits
    rwa [hrepr, String.toList_ofList] at h
  have hdigit := Nat.isDigit_of_mem_toDigits (by omega) (by omega) hdigits
  revert hdigit
  decide

namespace Match

/-- The word or words that a criterion begins with. -/
def keyword : Match → String
  | inputInterface _ => "iifname "
  | outputInterface _ => "oifname "
  | connState _ => "ct state "
  | transport _ => "meta l4proto "
  | destPort _ => "th dport "

/-- What a criterion asks for. -/
def operand : Match → String
  | inputInterface name => name
  | outputInterface name => name
  | connState states => statesText states
  | transport proto => proto.text
  | destPort port => Text.decimal port.toNat

theorem toList_text (m : Match) :
    m.text.toList = m.keyword.toList ++ (m.operand.toList ++ [' ']) := by
  have htext : m.text = m.keyword ++ m.operand ++ " " := by cases m <;> rfl
  rw [htext, String.toList_append, String.toList_append, List.append_assoc]
  rfl

/-- A criterion about an interface whose name holds no blank, or about something else. -/
def Unspaced : Match → Prop
  | inputInterface name => ' ' ∉ name.toList
  | outputInterface name => ' ' ∉ name.toList
  | _ => True

variable {m m' : Match}

theorem Unspaced.operand (h : m.Unspaced) : ' ' ∉ m.operand.toList := by
  cases m with
  | inputInterface name => exact h
  | outputInterface name => exact h
  | connState states => exact blank_not_mem_statesText states
  | transport proto => cases proto <;> decide
  | destPort port => exact Text.blank_not_mem_decimal port.toNat

/-- A criterion is its keyword and its operand. -/
theorem eq_of_keyword_of_operand (hkeyword : m.keyword = m'.keyword)
    (hoperand : m.operand = m'.operand) : m = m' := by
  cases m with
  | inputInterface name =>
    cases m' with
    | inputInterface name' => exact congrArg inputInterface hoperand
    | _ => simp [keyword] at hkeyword
  | outputInterface name =>
    cases m' with
    | outputInterface name' => exact congrArg outputInterface hoperand
    | _ => simp [keyword] at hkeyword
  | connState states =>
    cases m' with
    | connState states' => exact congrArg connState (statesText_injective hoperand)
    | _ => simp [keyword] at hkeyword
  | transport proto =>
    cases m' with
    | transport proto' => exact congrArg transport (Transport.text_injective hoperand)
    | _ => simp [keyword] at hkeyword
  | destPort port =>
    cases m' with
    | destPort port' =>
      exact congrArg destPort (UInt16.toNat_inj.1 (Text.decimal_injective hoperand))
    | _ => simp [keyword] at hkeyword

/-! ## Openings -/

/-- Every keyword. -/
def keywords : List String := ["iifname ", "oifname ", "ct state ", "meta l4proto ", "th dport "]

theorem keyword_mem (m : Match) : m.keyword ∈ keywords := by
  cases m <;> simp [keyword, keywords]

/-- Keywords differ within their first two letters. -/
theorem keywords_differ : ∀ k ∈ keywords, 2 ≤ k.toList.length ∧
    ∀ k' ∈ keywords, k.toList.take 2 = k'.toList.take 2 → k = k' := by decide

/-- The first two letters of a text that begins with a criterion are those of its keyword. -/
theorem take_text (m : Match) (rest : List Char) :
    (m.text.toList ++ rest).take 2 = m.keyword.toList.take 2 := by
  have hlong : 2 ≤ m.keyword.toList.length := (keywords_differ _ m.keyword_mem).1
  rw [toList_text, List.append_assoc, List.take_append_of_le_length hlong]

end Match

namespace Verdict

variable {v v' : Verdict}

/-- No verdict begins like a criterion. -/
theorem take_text_not_keyword (v : Verdict) :
    ∀ k ∈ Match.keywords, v.text.toList.take 2 ≠ k.toList.take 2 := by
  cases v with
  | accept => decide
  | masquerade => decide
  | jump chain =>
    have htake : (jump chain).text.toList.take 2 = ['j', 'u'] := by simp [text]
    rw [htake]
    decide

theorem text_injective (h : v.text = v'.text) : v = v' := by
  have hletters := congrArg String.toList h
  cases v with
  | accept =>
    cases v' with
    | accept => rfl
    | jump chain => simp [text] at hletters
    | masquerade => simp [text] at hletters
  | jump chain =>
    cases v' with
    | jump chain' =>
      rw [text, text, String.toList_append, String.toList_append] at hletters
      exact congrArg jump (String.toList_inj.1 (List.append_cancel_left hletters))
    | accept => simp [text] at hletters
    | masquerade => simp [text] at hletters
  | masquerade =>
    cases v' with
    | masquerade => rfl
    | accept => simp [text] at hletters
    | jump chain => simp [text] at hletters

end Verdict

/-! ## Whole rules -/

namespace Rule

variable {a b : Rule}

/-- No interface name of a rule holds a blank. -/
def Unspaced (rule : Rule) : Prop := ∀ m ∈ rule.criteria, m.Unspaced

/-- Two rules do the same to the same packets. -/
def Alike (a b : Rule) : Prop := a.criteria = b.criteria ∧ a.verdict = b.verdict

theorem toList_text (rule : Rule) :
    rule.text.toList =
      rule.criteria.flatMap (fun m => m.text.toList) ++ rule.verdict.text.toList := by
  rw [text, String.toList_append, String.toList_join, List.flatMap_map]

end Rule

/-- Criteria and a verdict can be read off the text that they make. -/
theorem criteria_verdict_of_text {ms ms' : List Match} {v v' : Verdict}
    (hms : ∀ m ∈ ms, m.Unspaced) (hms' : ∀ m ∈ ms', m.Unspaced)
    (h : ms.flatMap (fun m => m.text.toList) ++ v.text.toList =
      ms'.flatMap (fun m => m.text.toList) ++ v'.text.toList) : ms = ms' ∧ v = v' := by
  -- Where the text of one side goes on with a criterion, that of the other cannot go on with a verdict.
  have hclash : ∀ (m : Match) (rest : List Char) (v : Verdict), m.text.toList ++ rest ≠ v.text.toList := by
    intro m rest v heq
    have htake := congrArg (List.take 2) heq
    rw [m.take_text] at htake
    exact v.take_text_not_keyword _ m.keyword_mem htake.symm
  induction ms generalizing ms' with
  | nil =>
    cases ms' with
    | nil => exact ⟨rfl, Verdict.text_injective (String.toList_inj.1 h)⟩
    | cons m' rest' =>
      rw [List.flatMap_cons, List.append_assoc] at h
      exact absurd h.symm (hclash m' _ v)
  | cons m rest ih =>
    cases ms' with
    | nil =>
      rw [List.flatMap_cons, List.append_assoc] at h
      exact absurd h (hclash m _ v')
    | cons m' rest' =>
      obtain ⟨hm, hrest⟩ := List.forall_mem_cons.1 hms
      obtain ⟨hm', hrest'⟩ := List.forall_mem_cons.1 hms'
      rw [List.flatMap_cons, List.flatMap_cons, List.append_assoc, List.append_assoc] at h
      have hkeyword : m.keyword = m'.keyword := by
        have htake := congrArg (List.take 2) h
        rw [m.take_text, m'.take_text] at htake
        exact (Match.keywords_differ _ m.keyword_mem).2 _ m'.keyword_mem htake
      rw [m.toList_text, m'.toList_text, hkeyword] at h
      simp only [List.append_assoc] at h
      have hoperands := List.append_cancel_left h
      have hoperand := append_blank_inj hm.operand hm'.operand hoperands
      obtain rfl := Match.eq_of_keyword_of_operand hkeyword (String.toList_inj.1 hoperand)
      have htail := List.append_cancel_left (List.append_cancel_left hoperands)
      obtain ⟨rfl, hv⟩ := ih hrest hrest' htail
      exact ⟨rfl, hv⟩

/-- Rules without blanks in their interface names have the same fingerprint exactly if they do the
same. -/
theorem fingerprint_inj {a b : Rule} (ha : a.Unspaced) (hb : b.Unspaced) :
    a.fingerprint = b.fingerprint ↔ a.Alike b := by
  constructor
  · intro h
    have htext := congrArg String.toList h
    rw [Rule.fingerprint, Rule.fingerprint, String.toList_append, String.toList_append] at htext
    have htexts := List.append_cancel_left htext
    rw [a.toList_text, b.toList_text] at htexts
    exact criteria_verdict_of_text ha hb htexts
  · rintro ⟨hcriteria, hverdict⟩
    rw [Rule.fingerprint, Rule.fingerprint, Rule.text, Rule.text, hcriteria, hverdict]

end WorkloadNet.Firewall
