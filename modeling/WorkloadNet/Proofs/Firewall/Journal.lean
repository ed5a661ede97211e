import Mathlib.Data.Nat.SuccPred
import WorkloadNet.Proofs.Firewall.Marks

/-!
# Journals of rules

The engine removes by fingerprint, so rules with one fingerprint in one chain are copies of each
other, whoever installed them. A journal lists the rules that were placed and withdrawn. How many
copies of a rule there are follows from the journal: a withdrawal takes one away, and does nothing
when there is none. `Held` says when the journal leaves a copy.
-/

namespace WorkloadNet.Firewall

open WorkloadNet.Action

/-- The engine cannot tell two rules apart: they have one fingerprint in one chain. -/
structure Rule.Twin (r r' : Rule) : Prop where
  table : r.table = r'.table
  chain : r.chain = r'.chain
  fingerprint : r.fingerprint = r'.fingerprint

instance (r r' : Rule) : Decidable (r.Twin r') :=
  decidable_of_iff (r.table = r'.table ∧ r.chain = r'.chain ∧ r.fingerprint = r'.fingerprint)
    ⟨fun h => ⟨h.1, h.2.1, h.2.2⟩, fun h => ⟨h.table, h.chain, h.fingerprint⟩⟩

theorem Rule.Twin.refl (r : Rule) : r.Twin r := ⟨rfl, rfl, rfl⟩

/-! ## Entries -/

/-- An entry of a journal. -/
inductive Entry where
  /-- A rule was installed. -/
  | placed (rule : Rule)
  /-- The first match of a rule was removed, if there was one. -/
  | withdrawn (rule : Rule)
  deriving DecidableEq, Repr

namespace Entry

/-- Whether a twin of a rule was installed. -/
def places (rule : Rule) : Entry → Bool
  | placed r => r.Twin rule
  | withdrawn _ => false

/-- Whether a twin of a rule was removed. -/
def withdraws (rule : Rule) : Entry → Bool
  | placed _ => false
  | withdrawn r => r.Twin rule

/-- The number of copies of a rule after an entry. -/
def tally (rule : Rule) (n : Nat) : Entry → Nat
  | placed r => if r.Twin rule then n + 1 else n
  | withdrawn r => if r.Twin rule then n - 1 else n

end Entry

section Held

variable {rule : Rule} {n : Nat} {entries : List Entry}

/-- How often a twin of a rule was installed. -/
def installs (rule : Rule) (entries : List Entry) : Nat := entries.countP (Entry.places rule)

/-- How often a twin of a rule was removed. -/
def withdrawals (rule : Rule) (entries : List Entry) : Nat := entries.countP (Entry.withdraws rule)

/-- Of a rule that has `n` copies, the entries leave one: there are fewer withdrawals than copies and
installs, or so it is from some entry on, where withdrawals of earlier entries no longer count. -/
def Held (rule : Rule) (n : Nat) (entries : List Entry) : Prop :=
  withdrawals rule entries < n + installs rule entries ∨
    ∃ late, late <:+ entries ∧ withdrawals rule late < installs rule late

/-- A run of entries that starts with the first one needs no case of its own. -/
theorem held_cons {e : Entry} :
    Held rule n (e :: entries) ↔
      withdrawals rule (e :: entries) < n + installs rule (e :: entries) ∨
        ∃ late, late <:+ entries ∧ withdrawals rule late < installs rule late := by
  unfold Held
  constructor
  · rintro (hall | ⟨late, hlate, hcount⟩)
    · exact Or.inl hall
    · rcases List.suffix_cons_iff.1 hlate with rfl | hlate
      · left
        omega
      · exact Or.inr ⟨late, hlate, hcount⟩
  · rintro (hall | ⟨late, hlate, hcount⟩)
    · exact Or.inl hall
    · exact Or.inr ⟨late, hlate.trans (List.suffix_cons _ _), hcount⟩

theorem held_placed {r : Rule} (h : r.Twin rule) :
    Held rule n (.placed r :: entries) ↔ Held rule (n + 1) entries := by
  have hinstalls : installs rule (.placed r :: entries) = installs rule entries + 1 :=
    List.countP_cons_of_pos (by simpa [Entry.places] using h)
  have hwithdrawals : withdrawals rule (.placed r :: entries) = withdrawals rule entries :=
    List.countP_cons_of_neg (by simp [Entry.withdraws])
  rw [held_cons, hinstalls, hwithdrawals]
  exact or_congr_left (by omega)

theorem held_withdrawn {r : Rule} (h : r.Twin rule) :
    Held rule n (.withdrawn r :: entries) ↔ Held rule (n - 1) entries := by
  have hinstalls : installs rule (.withdrawn r :: entries) = installs rule entries :=
    List.countP_cons_of_neg (by simp [Entry.places])
  have hwithdrawals : withdrawals rule (.withdrawn r :: entries) = withdrawals rule entries + 1 :=
    List.countP_cons_of_pos (by simpa [Entry.withdraws] using h)
  rw [held_cons, hinstalls, hwithdrawals]
  rcases Nat.eq_zero_or_pos n with rfl | hpos
  · -- Without a copy the withdrawal does nothing, so it is the entries after it that count.
    constructor
    · rintro (hall | hlate)
      · left
        omega
      · exact Or.inr hlate
    · rintro (hall | hlate)
      · exact Or.inr ⟨entries, List.suffix_refl _, by omega⟩
      · exact Or.inr hlate
  · exact or_congr_left (by omega)

theorem held_cons_of_not {e : Entry} (hplaces : ¬ e.places rule) (hwithdraws : ¬ e.withdraws rule) :
    Held rule n (e :: entries) ↔ Held rule n entries := by
  have hinstalls : installs rule (e :: entries) = installs rule entries :=
    List.countP_cons_of_neg hplaces
  have hwithdrawals : withdrawals rule (e :: entries) = withdrawals rule entries :=
    List.countP_cons_of_neg hwithdraws
  rw [held_cons, hinstalls, hwithdrawals]
  rfl

/-- The journal leaves a copy exactly when it is held. -/
theorem tally_pos_iff : 0 < entries.foldl (Entry.tally rule) n ↔ Held rule n entries := by
  induction entries generalizing n with
  | nil =>
    unfold Held
    simp [installs, withdrawals]
  | cons e rest ih =>
    rw [List.foldl_cons, ih]
    cases e with
    | placed r =>
      by_cases h : r.Twin rule
      · rw [held_placed h, Entry.tally, if_pos h]
      · rw [held_cons_of_not (by simpa [Entry.places] using h) (by simp [Entry.withdraws]),
          Entry.tally, if_neg h]
    | withdrawn r =>
      by_cases h : r.Twin rule
      · rw [held_withdrawn h, Entry.tally, if_pos h]
      · rw [held_cons_of_not (by simp [Entry.places]) (by simpa [Entry.withdraws] using h),
          Entry.tally, if_neg h]

/-- Where the entries of a list of rules all change the count in one way, it is changed once for each
twin. -/
theorem foldl_tally {entry : Rule → Entry} {f : Nat → Nat}
    (hentry : ∀ r n, (entry r).tally rule n = if r.Twin rule then f n else n) (rules : List Rule)
    (n : Nat) : (rules.map entry).foldl (Entry.tally rule) n = f^[rules.countP (·.Twin rule)] n := by
  induction rules generalizing n with
  | nil => rfl
  | cons r rest ih =>
    rw [List.map_cons, List.foldl_cons, ih, hentry]
    by_cases h : r.Twin rule
    · have hcount : (r :: rest).countP (·.Twin rule) = rest.countP (·.Twin rule) + 1 :=
        List.countP_cons_of_pos (decide_eq_true h)
      rw [if_pos h, hcount, Function.iterate_succ_apply]
    · have hcount : (r :: rest).countP (·.Twin rule) = rest.countP (·.Twin rule) :=
        List.countP_cons_of_neg (by simpa using h)
      rw [if_neg h, hcount]

theorem foldl_placed (rules : List Rule) (rule : Rule) (n : Nat) :
    (rules.map Entry.placed).foldl (Entry.tally rule) n = n + rules.countP (·.Twin rule) := by
  rw [foldl_tally (f := Nat.succ) (fun _ _ => rfl), Nat.succ_iterate]

theorem foldl_withdrawn (rules : List Rule) (rule : Rule) (n : Nat) :
    (rules.map Entry.withdrawn).foldl (Entry.tally rule) n = n - rules.countP (·.Twin rule) := by
  rw [foldl_tally (f := Nat.pred) (fun _ _ => rfl), Nat.pred_iterate]

end Held

namespace Store

variable {s s' : Store} {rule r : Rule}

/-! ## Copies -/

/-- The number of copies of a rule in its chain. -/
def copies (s : Store) (rule : Rule) : Nat :=
  ((s.home rule.table).map fun table => (s.marks table rule.chain).count rule.fingerprint).getD 0

theorem installed_iff_copies : s.Installed rule ↔ 0 < s.copies rule := by
  unfold Installed copies
  cases s.home rule.table with
  | none => simp
  | some table => simp [List.count_pos_iff]

theorem copies_of_tables (h : s'.tables = s.tables) (rule : Rule) : s'.copies rule = s.copies rule := by
  unfold copies home marks rulesOf
  rw [h]

theorem layout_of_tables (h : s'.tables = s.tables) : s'.layout = s.layout := by
  unfold layout
  rw [h]

theorem name_of_home {name : String} {table : TableSpec} (h : s.home name = some table) :
    table.name = name :=
  name_of_resolveTable h

/-- A change of one chain changes the copies of the twins of a rule, and of no other rule. -/
theorem copies_of_marks {f : List String → List String} {g : Nat → Nat} (hlayout : s'.layout = s.layout)
    (hmarks : ∀ t c, s'.marks t c = if s.home rule.table = some t ∧ c = rule.chain
      then f (s.marks t c) else s.marks t c)
    (hhome : rule.Twin r → s.home rule.table = none → g 0 = 0)
    (hcount : ∀ marks : List String, (f marks).count r.fingerprint =
      if rule.fingerprint = r.fingerprint then g (marks.count r.fingerprint)
      else marks.count r.fingerprint) :
    s'.copies r = if rule.Twin r then g (s.copies r) else s.copies r := by
  have hhomes : s'.home r.table = s.home r.table := home_eq_of_layout hlayout _
  unfold copies
  rw [hhomes]
  cases hr : s.home r.table with
  | none =>
    by_cases htwin : rule.Twin r
    · rw [if_pos htwin]
      exact (hhome htwin (by rw [htwin.table, hr])).symm
    · rw [if_neg htwin]
      rfl
  | some table =>
    simp only [Option.map_some, Option.getD_some]
    rw [hmarks]
    by_cases hplace : s.home rule.table = some table ∧ r.chain = rule.chain
    · have htable : rule.table = r.table := (name_of_home hplace.1).symm.trans (name_of_home hr)
      have htwin : rule.fingerprint = r.fingerprint ↔ rule.Twin r :=
        ⟨fun h => ⟨htable, hplace.2.symm, h⟩, Rule.Twin.fingerprint⟩
      rw [if_pos hplace, hcount]
      simp only [htwin]
    · have htwin : ¬ rule.Twin r := fun h => hplace ⟨by rw [h.table, hr], h.chain.symm⟩
      rw [if_neg hplace, if_neg htwin]

/-- Installing a rule is on the count what its entry is. -/
theorem Added.copies (h : Added rule s s') (r : Rule) :
    s'.copies r = (Entry.placed rule).tally r (s.copies r) := by
  refine copies_of_marks (f := (· ++ [rule.fingerprint])) (g := (· + 1)) h.layout h.marks ?_ ?_
  · intro _ hnone
    obtain ⟨table, hhome, -⟩ := h.housed
    rw [hnone] at hhome
    cases hhome
  · intro marks
    rw [List.count_append, List.count_singleton]
    by_cases hmark : rule.fingerprint = r.fingerprint
    · simp [hmark]
    · simp [hmark]

/-- So is removing one. -/
theorem Removed.copies (h : Removed rule s s') (r : Rule) :
    s'.copies r = (Entry.withdrawn rule).tally r (s.copies r) := by
  refine copies_of_marks (f := (·.erase rule.fingerprint)) (g := (· - 1)) h.layout h.marks ?_ ?_
  · exact fun _ _ => rfl
  · intro marks
    by_cases hmark : rule.fingerprint = r.fingerprint
    · rw [if_pos hmark, hmark, List.count_erase_self]
    · rw [if_neg hmark, List.count_erase_of_ne (Ne.symm hmark)]

/-! ## Stores that follow a journal -/

/-- From one store to another, tables and chains stay, the copies of every rule are what the entries
make of them, and a fingerprint that was not in a chain before is one of a rule that was placed. -/
structure Follows (entries : List Entry) (s s' : Store) : Prop where
  layout : s'.layout = s.layout
  copies : ∀ rule, s'.copies rule = entries.foldl (Entry.tally rule) (s.copies rule)
  origin : ∀ t c mark, mark ∈ s'.marks t c → mark ∈ s.marks t c ∨
    ∃ rule, .placed rule ∈ entries ∧ s.home rule.table = some t ∧ rule.chain = c ∧
      rule.fingerprint = mark

theorem follows_of_tables (h : s'.tables = s.tables) : Follows [] s s' := by
  refine ⟨layout_of_tables h, copies_of_tables h, fun t c mark hmark => Or.inl ?_⟩
  unfold marks rulesOf at hmark ⊢
  rwa [h] at hmark

/-- Journals of two runs in a row make the journal of both. -/
theorem Follows.append {s₁ s₂ : Store} {early late : List Entry} (h : Follows early s s₁)
    (h' : Follows late s₁ s₂) : Follows (early ++ late) s s₂ := by
  refine ⟨h'.layout.trans h.layout, fun rule => ?_, fun t c mark hmark => ?_⟩
  · rw [h'.copies, h.copies, List.foldl_append]
  · rcases h'.origin t c mark hmark with hmark | ⟨rule, hplaced, hhome, hrule⟩
    · rcases h.origin t c mark hmark with hold | ⟨rule, hplaced, hrule⟩
      · exact Or.inl hold
      · exact Or.inr ⟨rule, List.mem_append_left _ hplaced, hrule⟩
    · rw [home_eq_of_layout h.layout] at hhome
      exact Or.inr ⟨rule, List.mem_append_right _ hplaced, hhome, hrule⟩

/-- A rule is left exactly when the entries hold it. -/
theorem Follows.installed_iff {entries : List Entry} (h : Follows entries s s') :
    s'.Installed rule ↔ Held rule (s.copies rule) entries := by
  rw [installed_iff_copies, h.copies, tally_pos_iff]

/-- A rule that was installed follows from its entry. -/
theorem Added.follows (h : Added rule s s') : Follows [.placed rule] s s' := by
  refine ⟨h.layout, h.copies, fun t c mark hmark => ?_⟩
  rw [h.marks] at hmark
  split at hmark
  · rename_i hplace
    rcases List.mem_append.1 hmark with hold | hnew
    · exact Or.inl hold
    · exact Or.inr ⟨rule, List.mem_singleton_self _, hplace.1, hplace.2.symm,
        (List.mem_singleton.1 hnew).symm⟩
  · exact Or.inl hmark

/-- A rule that was removed follows from its entry. -/
theorem Removed.follows (h : Removed rule s s') : Follows [.withdrawn rule] s s' := by
  refine ⟨h.layout, h.copies, fun t c mark hmark => Or.inl ?_⟩
  rw [h.marks] at hmark
  split at hmark
  · exact List.mem_of_mem_erase hmark
  · exact hmark

/-! ## Lists of rules -/

theorem addAll_eq (rules : List Rule) : backend.addAll rules = forM rules backend.addRule := by
  induction rules with
  | nil => rfl
  | cons rule rest ih =>
    rw [List.forM_cons, ← ih]
    rfl

theorem removeAll_eq (rules : List Rule) : backend.removeAll rules = forM rules backend.removeRule := by
  induction rules with
  | nil => rfl
  | cons rule rest ih =>
    rw [List.forM_cons, ← ih]
    rfl

/-- The rules of a list that an action got through before its first failure. -/
def completed (act : Rule → Action Store Unit) : List Rule → Store → List Rule
  | [], _ => []
  | rule :: rest, s =>
    match (act rule).on s with
    | (.ok _, s') => rule :: completed act rest s'
    | (.error _, _) => []

/-- An action that makes an entry when it succeeds, and none when it fails. -/
def Enters (action : Action Store Unit) (entry : Entry) : Prop :=
  ∀ s : Store, s.WellFormed → Ends action s
    (fun _ s' => s'.WellFormed ∧ Follows [entry] s s') (fun _ s' => s'.tables = s.tables)

/-- Adding a rule enters it as placed when it succeeds. -/
theorem enters_addRule (rule : Rule) : Enters (backend.addRule rule) (.placed rule) := fun _ hwf =>
  Ends.mono ends_addRule (fun _ _ h => ⟨h.evolves.wellFormed hwf, h.follows⟩) fun _ _ h => h.1

/-- Removing a rule enters it as withdrawn when it succeeds. -/
theorem enters_removeRule (rule : Rule) : Enters (backend.removeRule rule) (.withdrawn rule) :=
  fun _ hwf =>
    Ends.mono (ends_removeRule hwf) (fun _ _ h => ⟨h.evolves.wellFormed hwf, h.follows⟩)
      fun _ _ h => h.1

section Completed

variable {act : Rule → Action Store Unit} {entry : Rule → Entry} {rules : List Rule}

theorem completed_of_ok (hon : (forM rules act).on s = (.ok (), s')) :
    completed act rules s = rules := by
  induction rules generalizing s with
  | nil => rfl
  | cons rule rest ih =>
    rw [List.forM_cons, on_bind] at hon
    unfold completed
    rcases hact : (act rule).on s with ⟨failure | _, s₁⟩
    · rw [hact] at hon
      cases hon
    · rw [hact] at hon
      dsimp only at hon ⊢
      rw [ih hon]

theorem completed_prefix : completed act rules s <+: rules := by
  induction rules generalizing s with
  | nil => exact List.nil_prefix
  | cons rule rest ih =>
    unfold completed
    split
    · exact (List.prefix_cons_inj rule).2 ih
    · exact List.nil_prefix

/-- A list of rules makes the entries that it gets through, whether it fails or not. -/
theorem follows_completed (rules : List Rule) (henters : ∀ rule, Enters (act rule) (entry rule))
    (hwf : s.WellFormed) :
    Follows ((completed act rules s).map entry) s ((forM rules act).on s).2 := by
  induction rules generalizing s with
  | nil => exact follows_of_tables rfl
  | cons rule rest ih =>
    have hends := henters rule s hwf
    rw [List.forM_cons, on_bind]
    unfold completed
    rcases hact : (act rule).on s with ⟨failure | _, s₁⟩
    · exact follows_of_tables (hends.of_error hact)
    · obtain ⟨hwf₁, hfollows⟩ := hends.of_ok hact
      exact hfollows.append (ih hwf₁)

end Completed

end Store

end WorkloadNet.Firewall
