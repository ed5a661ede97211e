import Mathlib.Data.List.Basic
import WorkloadNet.Text.Blank

/-!
# Fields of a text

The fields of a text are its words: a word stands between blanks or the ends of the text, and how many
blanks there are, and which, makes no difference. Words joined by single spaces are given back.
-/

namespace WorkloadNet.Text

variable {c : Char} {gap rest text word : List Char}

/-- A run of blanks. -/
def Blanks (gap : List Char) : Prop := ∀ c ∈ gap, isBlank c = true

/-- A nonempty run of characters that are not blank. -/
def Word (word : List Char) : Prop := word ≠ [] ∧ ∀ c ∈ word, isBlank c = false

instance (word : List Char) : Decidable (Word word) :=
  decidable_of_iff (word ≠ [] ∧ word.all (!isBlank ·) = true) (by simp [Word])

/-- A text that can follow a word: it is empty or begins with a blank. -/
def Gapped (rest : List Char) : Prop := ∀ c ∈ rest.head?, isBlank c = true

/-- A text splits where a condition first fails. -/
theorem exists_span (p : Char → Bool) (text : List Char) :
    ∃ front rest, text = front ++ rest ∧ (∀ c ∈ front, p c = true) ∧ ∀ c ∈ rest.head?, p c = false := by
  refine ⟨text.takeWhile p, text.dropWhile p, List.takeWhile_append_dropWhile.symm, fun c hc => ?_,
    fun c hc => ?_⟩
  · exact List.all_eq_true.1 List.all_takeWhile c hc
  · have hnot := List.head?_dropWhile_not p text
    rw [hc] at hnot
    exact hnot

/-- A text splits in one way at the first character for which a condition holds. -/
theorem append_cons_inj_of_first {p : Char → Bool} {front front' rest' : List Char} {c' : Char}
    (hfront : ∀ c ∈ front, p c = false) (hfront' : ∀ c ∈ front', p c = false) (hc : p c = true)
    (hc' : p c' = true) (h : front ++ c :: rest = front' ++ c' :: rest') :
    front = front' ∧ c = c' ∧ rest = rest' := by
  induction front generalizing front' with
  | nil =>
    cases front' with
    | nil => exact ⟨rfl, List.cons.inj h⟩
    | cons d front' =>
      obtain ⟨rfl, -⟩ := List.cons.inj h
      rw [hfront' c (List.mem_cons_self ..)] at hc
      cases hc
  | cons d front ih =>
    obtain ⟨hd, hmore⟩ := List.forall_mem_cons.1 hfront
    cases front' with
    | nil =>
      obtain ⟨rfl, -⟩ := List.cons.inj h
      rw [hd] at hc'
      cases hc'
    | cons d' front' =>
      obtain ⟨rfl, htail⟩ := List.cons.inj h
      obtain ⟨rfl, heq⟩ := ih hmore (List.forall_mem_cons.1 hfront').2 htail
      exact ⟨rfl, heq⟩

/-- A text has a piece more than separators. -/
theorem length_splitOnP (p : Char → Bool) (text : List Char) :
    (text.splitOnP p).length = text.countP p + 1 := by
  induction text with
  | nil => simp
  | cons c text ih =>
    rw [List.splitOnP_cons_eq_if_modifyHead]
    by_cases hc : p c = true
    · simp [hc, ih]
    · simp [hc, ih]

theorem blankFields_nil : blankFields [] = [] := by simp [blankFields]

theorem blankFields_append_cons (hc : isBlank c = true) (text rest : List Char) :
    blankFields (text ++ c :: rest) = blankFields text ++ blankFields rest := by
  rw [blankFields, List.splitOnP_append_cons text rest hc, List.filter_append]
  rfl

theorem blankFields_word (h : Word word) : blankFields word = [word] := by
  rw [blankFields, List.splitOnP_eq_singleton h.2]
  simp [h.1]

/-- Blanks in front make no difference. -/
theorem blankFields_blanks_append (h : Blanks gap) (text : List Char) :
    blankFields (gap ++ text) = blankFields text := by
  induction gap with
  | nil => rfl
  | cons c gap ih =>
    obtain ⟨hc, hmore⟩ := List.forall_mem_cons.1 h
    rw [List.cons_append, ← List.nil_append (c :: (gap ++ text)), blankFields_append_cons hc,
      blankFields_nil, List.nil_append, ih hmore]

theorem blankFields_blanks (h : Blanks gap) : blankFields gap = [] := by
  rw [← List.append_nil gap, blankFields_blanks_append h, blankFields_nil]

/-- A word in front is the first field. -/
theorem blankFields_word_append (h : Word word) (hrest : Gapped rest) :
    blankFields (word ++ rest) = word :: blankFields rest := by
  cases rest with
  | nil => rw [List.append_nil, blankFields_word h, blankFields_nil]
  | cons c rest =>
    have hc : isBlank c = true := hrest c rfl
    rw [blankFields_append_cons hc, blankFields_word h, List.singleton_append,
      ← List.nil_append (c :: rest), blankFields_append_cons hc, blankFields_nil, List.nil_append]

theorem not_of_mem_splitOnP {α : Type} {p : α → Bool} {l piece : List α} (h : piece ∈ l.splitOnP p) :
    ∀ a ∈ piece, p a = false := by
  induction l generalizing piece with
  | nil =>
    rw [List.splitOnP_nil, List.mem_singleton] at h
    simp [h]
  | cons b l ih =>
    rw [List.splitOnP_cons_eq_if_modifyHead] at h
    split at h
    · obtain rfl | h := List.mem_cons.1 h
      · nofun
      · exact ih h
    · rename_i hb
      obtain ⟨first, more, hsplit⟩ := List.exists_cons_of_ne_nil (List.splitOnP_ne_nil p l)
      rw [hsplit] at h ih
      obtain rfl | h := List.mem_cons.1 h
      · exact List.forall_mem_cons.2 ⟨Bool.eq_false_iff.2 hb, ih List.mem_cons_self⟩
      · exact ih (List.mem_cons_of_mem _ h)

theorem word_of_mem_blankFields (h : word ∈ blankFields text) : Word word :=
  ⟨ne_nil_of_mem_blankFields h, not_of_mem_splitOnP (List.mem_filter.1 h).1⟩

/-- A text is its only field exactly when it is a word. -/
theorem blankFields_eq_singleton_iff : blankFields text = [text] ↔ Word text :=
  ⟨fun h => word_of_mem_blankFields (h ▸ List.mem_singleton_self text), blankFields_word⟩

/-- Words joined by single spaces are the fields. -/
theorem blankFields_intercalate {words : List String} (h : ∀ word ∈ words, Word word.toList) :
    blankFields (" ".intercalate words).toList = words.map String.toList := by
  induction words with
  | nil => rw [String.intercalate_nil, String.toList_empty, blankFields_nil, List.map_nil]
  | cons word words ih =>
    obtain ⟨hword, hmore⟩ := List.forall_mem_cons.1 h
    cases words with
    | nil => rw [String.intercalate_singleton, blankFields_word hword, List.map_singleton]
    | cons next words =>
      have hspace : isBlank ' ' = true := isBlank_of_mem List.mem_cons_self
      rw [String.intercalate_cons_cons, String.toList_append, String.toList_append, List.append_assoc,
        blankFields_word_append hword (by simp [Gapped, hspace]),
        blankFields_blanks_append (by simp [Blanks, hspace]), ih hmore]
      rfl

end WorkloadNet.Text
