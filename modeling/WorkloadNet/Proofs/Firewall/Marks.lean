import WorkloadNet.Proofs.Firewall.Handles

/-!
# What the engine does to the rules of a chain

Installing a rule puts it at the end of the chain that it belongs to, with the next handle; removing it
takes the first rule with its fingerprint away, if there is one, whoever installed it. A failure changes
no rule. The rules here say so of one rule, together with what can make it fail: `Placed` and `Withdrawn`
with the handles, `Added` and `Removed` for the fingerprints alone.
-/

namespace WorkloadNet.Firewall.Store

open WorkloadNet.Action

variable {s s' : Store} {rule : Rule}

/-! ## Conditions -/

/-- Nothing is set to fail. -/
structure Quiet (s : Store) : Prop where
  pending : s.pending = []
  countdown : s.appendCountdown = none

/-- Nothing is set to fail that a removal calls. -/
structure Unhindered (s : Store) : Prop where
  tables : .tables ∉ s.pending
  rules : .rules ∉ s.pending
  deleteRule : .deleteRule ∉ s.pending

theorem Quiet.unhindered (h : s.Quiet) : s.Unhindered := by
  refine ⟨?_, ?_, ?_⟩
  all_goals
    rw [h.pending]
    exact List.not_mem_nil

theorem unhindered_of_pending (h : s'.pending = s.pending) (hs : s.Unhindered) : s'.Unhindered := by
  refine ⟨?_, ?_, ?_⟩
  all_goals rw [h]
  · exact hs.tables
  · exact hs.rules
  · exact hs.deleteRule

/-- The chain that a rule belongs to exists. -/
def Housed (s : Store) (rule : Rule) : Prop :=
  ∃ table, s.home rule.table = some table ∧ (s.chain? table rule.chain).isSome

/-- The fingerprint of a rule is in its chain. -/
def Installed (s : Store) (rule : Rule) : Prop :=
  ∃ table, s.home rule.table = some table ∧ rule.fingerprint ∈ s.marks table rule.chain

instance (s : Store) (rule : Rule) : Decidable (s.Housed rule) :=
  decidable_of_iff ((s.home rule.table).any fun table => (s.chain? table rule.chain).isSome)
    (Option.any_eq_true _ _)

instance (s : Store) (rule : Rule) : Decidable (s.Installed rule) :=
  decidable_of_iff
    ((s.home rule.table).any fun table => rule.fingerprint ∈ s.marks table rule.chain)
    (by simp only [Option.any_eq_true, decide_eq_true_eq, Installed])

/-- How many appends go through before one fails as it was set to; `none` when none is. -/
def appendLimit (s : Store) : Option Nat :=
  if .appendRule ∈ s.pending then some 0 else s.appendCountdown.map (· - 1)

/-- The rule can be appended to its chain. -/
def Admits (s : Store) (rule : Rule) : Prop := s.Housed rule ∧ s.appendLimit ≠ some 0

theorem Quiet.admits (h : s.Quiet) (hhoused : s.Housed rule) : s.Admits rule := by
  refine ⟨hhoused, ?_⟩
  rw [appendLimit, h.pending, h.countdown]
  simp

theorem housed_of_layout (h : s'.layout = s.layout) : s'.Housed rule ↔ s.Housed rule := by
  unfold Housed
  simp only [home_eq_of_layout h, isSome_chain?_of_layout h]

theorem Installed.housed (h : s.Installed rule) : s.Housed rule := by
  obtain ⟨table, hhome, hmem⟩ := h
  refine ⟨table, hhome, ?_⟩
  rw [marks, rulesOf_eq] at hmem
  cases hchain : s.chain? table rule.chain with
  | none => simp [hchain] at hmem
  | some _ => rfl

/-! ## Installing -/

/-- The store after a rule was put at the end of its chain, with the next handle. -/
structure Placed (rule : Rule) (s s' : Store) : Prop where
  admits : s.Admits rule
  rules : ∀ t c, s'.rulesOf t c = if s.home rule.table = some t ∧ c = rule.chain
    then s.rulesOf t c ++ [(s.lastHandle + 1, rule.fingerprint)] else s.rulesOf t c
  layout : s'.layout = s.layout
  pending : s'.pending = s.pending
  countdown : s'.appendCountdown = s.appendCountdown.map (· - 1)
  evolves : Evolves s s'

/-- The store after a rule was installed. -/
structure Added (rule : Rule) (s s' : Store) : Prop where
  housed : s.Housed rule
  marks : ∀ t c, s'.marks t c = if s.home rule.table = some t ∧ c = rule.chain
    then s.marks t c ++ [rule.fingerprint] else s.marks t c
  layout : s'.layout = s.layout
  pending : s'.pending = s.pending
  countdown : s.appendCountdown = none → s'.appendCountdown = none
  evolves : Evolves s s'

theorem Placed.added (h : Placed rule s s') : Added rule s s' := by
  refine ⟨h.admits.1, fun t c => ?_, h.layout, h.pending, fun hnone => ?_, h.evolves⟩
  · unfold marks
    rw [h.rules]
    split
    · rw [List.map_append]
      rfl
    · rfl
  · rw [h.countdown, hnone]
    rfl

theorem Added.quiet (h : Added rule s s') (hs : s.Quiet) : s'.Quiet :=
  ⟨h.pending.trans hs.pending, h.countdown hs.countdown⟩

theorem ends_findTable {name : String} {R : TableSpec → Store → Prop} {E : Failure → Store → Prop}
    (hinjected : .tables ∈ s.pending → E (injected .tables) (s.spend .tables))
    (hmissing : s.home name = none → E (.notFound "table" name) s)
    (hok : ∀ table, .tables ∉ s.pending → s.home name = some table → R table s) :
    Ends (backend.findTable name) s R E := by
  refine Ends.bind (P := fun tables s₁ => s = s₁ ∧ tables = s.tables.keys ∧ .tables ∉ s.pending)
    (ends_listTables hinjected fun hcalm => ⟨rfl, rfl, hcalm⟩) ?_
  rintro _ _ ⟨rfl, rfl, hcalm⟩
  unfold home at hmissing hok
  cases htable : resolveTable name s.tables.keys with
  | none => exact ends_fail (hmissing htable)
  | some table => exact ends_pure (hok table hcalm htable)

/-- Appending a rule to the table that it belongs to, or why that fails. -/
theorem ends_placeHome {table : TableSpec} (hhome : s.home rule.table = some table) :
    Ends (backend.appendRule table rule) s (fun _ => Placed rule s)
      (fun _ s' => s'.tables = s.tables ∧ s'.pending ⊆ s.pending ∧ ¬ s.Admits rule) := by
  refine ends_appendRule ?_ ?_ ?_ ?_
  · intro hpending
    refine ⟨rfl, List.erase_subset, fun ⟨_, hlimit⟩ => hlimit ?_⟩
    rw [appendLimit, if_pos hpending]
  · intro n hcountdown hn
    refine ⟨rfl, List.Subset.refl _, fun ⟨_, hlimit⟩ => hlimit ?_⟩
    rw [appendLimit, hcountdown, Option.map_some, Nat.sub_eq_zero_of_le hn, ite_self]
  · intro _ hnone
    refine ⟨rfl, List.Subset.refl _, fun ⟨⟨other, hother, hchain⟩, _⟩ => ?_⟩
    obtain rfl := Option.some.inj (hhome.symm.trans hother)
    rw [hnone] at hchain
    cases hchain
  · intro hcalm hlater hchain
    refine ⟨⟨⟨table, hhome, hchain⟩, ?_⟩, fun t c => ?_, layout_withRules _, rfl, rfl,
      evolves_withRules rfl (Nat.le_succ _) fun c hc => hc.append _⟩
    · rw [appendLimit, if_neg hcalm]
      intro hzero
      obtain ⟨n, hn, hone⟩ := Option.map_eq_some_iff.1 hzero
      have hlt := hlater n hn
      omega
    · have hrules := rulesOf_withRules (s := s.counted)
        (· ++ [(s.lastHandle + 1, rule.fingerprint)]) t c hchain
      rw [hrules, hhome]
      by_cases heq : (t, c) = (table, rule.chain)
      · obtain ⟨rfl, rfl⟩ := Prod.mk.inj heq
        rw [if_pos rfl, if_pos ⟨rfl, rfl⟩]
        rfl
      · rw [if_neg heq, if_neg fun h => heq (by rw [Option.some.inj h.1, h.2])]
        rfl

theorem ends_placeRule :
    Ends (backend.addRule rule) s (fun _ => Placed rule s)
      (fun _ s' => s'.tables = s.tables ∧ s'.pending ⊆ s.pending ∧
        ¬ (.tables ∉ s.pending ∧ s.Admits rule)) := by
  refine Ends.bind (P := fun table s₁ => s = s₁ ∧ s.home rule.table = some table)
    (ends_findTable ?_ ?_ fun table _ h => ⟨rfl, h⟩) ?_
  · intro hpending
    exact ⟨rfl, List.erase_subset, fun h => h.1 hpending⟩
  · intro hmissing
    refine ⟨rfl, List.Subset.refl _, fun ⟨_, ⟨table, hhome, _⟩, _⟩ => ?_⟩
    rw [hmissing] at hhome
    cases hhome
  · rintro table _ ⟨rfl, hhome⟩
    exact Ends.annotate (Ends.mono (ends_placeHome hhome) (fun _ _ h => h)
      fun _ _ h => ⟨h.1, h.2.1, fun hadmits => h.2.2 hadmits.2⟩)

theorem ends_appendHome {table : TableSpec} (hhome : s.home rule.table = some table) :
    Ends (backend.appendRule table rule) s (fun _ => Added rule s)
      (fun _ s' => s'.tables = s.tables ∧ ¬ (s.Quiet ∧ s.Housed rule)) :=
  Ends.mono (ends_placeHome hhome) (fun _ _ h => h.added)
    fun _ _ h => ⟨h.1, fun ⟨hquiet, hhoused⟩ => h.2.2 (hquiet.admits hhoused)⟩

theorem ends_addRule :
    Ends (backend.addRule rule) s (fun _ => Added rule s)
      (fun _ s' => s'.tables = s.tables ∧ ¬ (s.Quiet ∧ s.Housed rule)) :=
  Ends.mono ends_placeRule (fun _ _ h => h.added) fun _ _ h =>
    ⟨h.1, fun ⟨hquiet, hhoused⟩ => h.2.2 ⟨hquiet.unhindered.tables, hquiet.admits hhoused⟩⟩

/-! ## Removing -/

section Erase

variable {α κ β : Type} [DecidableEq κ] {key : α → κ} {value : α → β} {items : List α}

/-- With different keys, only one item is filtered out by its key. -/
theorem filter_eq_eraseP (hnodup : (items.map key).Nodup) (k : κ) :
    items.filter (fun a => !decide (key a = k)) = items.eraseP fun a => key a = k := by
  induction items with
  | nil => rfl
  | cons head rest ih =>
    rw [List.map_cons, List.nodup_cons] at hnodup
    by_cases hkey : key head = k
    · rw [List.filter_cons_of_neg (by simpa using hkey),
        List.eraseP_cons_of_pos (by simpa using hkey), List.filter_eq_self]
      intro a ha
      have hne : key a ≠ k := fun heq => hnodup.1 (hkey ▸ heq ▸ List.mem_map_of_mem ha)
      simpa using hne
    · rw [List.filter_cons_of_pos (by simpa using hkey),
        List.eraseP_cons_of_neg (by simpa using hkey), ih hnodup.2]

variable [DecidableEq β]

/-- The first item with a value is the only one with its key, so deleting by the key takes away the
first item with the value. -/
theorem eraseP_key {v : β} {x : α} (hnodup : (items.map key).Nodup)
    (hfind : items.find? (fun a => value a = v) = some x) :
    (items.eraseP fun a => key a = key x) = items.eraseP fun a => value a = v := by
  induction items with
  | nil => cases hfind
  | cons head rest ih =>
    by_cases hvalue : value head = v
    · obtain rfl : head = x := by simpa [hvalue] using hfind
      simp [hvalue]
    · have hfind : rest.find? (fun a => value a = v) = some x := by simpa [hvalue] using hfind
      rw [List.map_cons, List.nodup_cons] at hnodup
      have hne : key head ≠ key x := by
        intro heq
        refine hnodup.1 ?_
        rw [heq]
        exact List.mem_map_of_mem (List.mem_of_find?_eq_some hfind)
      rw [List.eraseP_cons_of_neg (by simpa using hne), List.eraseP_cons_of_neg (by simpa using hvalue),
        ih hnodup.2 hfind]

variable [BEq β] [LawfulBEq β]

theorem map_eraseP_value (v : β) :
    (items.eraseP fun a => value a = v).map value = (items.map value).erase v := by
  induction items with
  | nil => rfl
  | cons head rest ih =>
    by_cases hvalue : value head = v
    · simp [hvalue]
    · rw [List.eraseP_cons_of_neg (by simpa using hvalue), List.map_cons, List.map_cons,
        List.erase_cons_tail (by simpa using hvalue), ih]

/-- Deleting by the key of the first item with a value takes away the first copy of the value. -/
theorem map_eraseP_key {v : β} {x : α} (hnodup : (items.map key).Nodup)
    (hfind : items.find? (fun a => value a = v) = some x) :
    (items.eraseP fun a => key a = key x).map value = (items.map value).erase v := by
  rw [eraseP_key hnodup hfind, map_eraseP_value]

end Erase

/-- The store after the first match of a rule was deleted from its chain, if there was one. -/
structure Withdrawn (rule : Rule) (s s' : Store) : Prop where
  rules : ∀ t c, s'.rulesOf t c = if s.home rule.table = some t ∧ c = rule.chain
    then (s.rulesOf t c).eraseP fun r => r.2 = rule.fingerprint else s.rulesOf t c
  layout : s'.layout = s.layout
  pending : s'.pending = s.pending
  countdown : s'.appendCountdown = s.appendCountdown
  unhindered : s.Installed rule → s.Unhindered
  evolves : Evolves s s'

/-- The store after a rule was removed, or was not there to be removed. -/
structure Removed (rule : Rule) (s s' : Store) : Prop where
  marks : ∀ t c, s'.marks t c = if s.home rule.table = some t ∧ c = rule.chain
    then (s.marks t c).erase rule.fingerprint else s.marks t c
  layout : s'.layout = s.layout
  pending : s'.pending = s.pending
  countdown : s'.appendCountdown = s.appendCountdown
  unhindered : s.Installed rule → s.Unhindered
  evolves : Evolves s s'

/-- There is no table that the rule belongs to, or its chain exists. -/
def Findable (s : Store) (rule : Rule) : Prop :=
  ∀ table, s.home rule.table = some table → (s.chain? table rule.chain).isSome

theorem findable_of_layout (h : s'.layout = s.layout) : s'.Findable rule ↔ s.Findable rule := by
  unfold Findable
  simp only [home_eq_of_layout h, isSome_chain?_of_layout h]

theorem Housed.findable (h : s.Housed rule) : s.Findable rule := by
  obtain ⟨table, hhome, hchain⟩ := h
  intro other hother
  rwa [Option.some.inj (hother.symm.trans hhome)]

theorem Withdrawn.removed (h : Withdrawn rule s s') : Removed rule s s' := by
  refine ⟨fun t c => ?_, h.layout, h.pending, h.countdown, h.unhindered, h.evolves⟩
  unfold marks
  rw [h.rules]
  split
  · exact map_eraseP_value _
  · rfl

/-- Nothing changes when there is no copy to be removed. -/
theorem withdrawn_of_not_installed (h : ¬ s.Installed rule) : Withdrawn rule s s := by
  refine ⟨fun t c => ?_, rfl, rfl, rfl, fun hinstalled => absurd hinstalled h, .refl s⟩
  split
  · rename_i hplace
    obtain ⟨hhome, rfl⟩ := hplace
    refine (List.eraseP_of_forall_not fun r hr hmark => h ⟨t, hhome, ?_⟩).symm
    exact List.mem_map.2 ⟨r, hr, by simpa using hmark⟩
  · rfl

/-- Deleting by the handle of the first match removes the rule. -/
theorem withdrawn_of_handle (hwf : s.WellFormed) (hunhindered : s.Unhindered) {table : TableSpec}
    (hhome : s.home rule.table = some table) (hchain : (s.chain? table rule.chain).isSome)
    {r : Nat × String}
    (hfind : (s.rulesOf table rule.chain).find? (fun r => r.2 = rule.fingerprint) = some r) :
    Withdrawn rule s (s.withRules table rule.chain (·.eraseP fun x => x.1 = r.1)) := by
  refine ⟨fun t c => ?_, layout_withRules _, rfl, rfl, fun _ => hunhindered,
    evolves_withRules rfl (Nat.le_refl _) fun c hc => hc.eraseP _⟩
  rw [rulesOf_withRules _ t c hchain, hhome]
  by_cases heq : (t, c) = (table, rule.chain)
  · obtain ⟨rfl, rfl⟩ := Prod.mk.inj heq
    rw [if_pos rfl, if_pos ⟨rfl, rfl⟩, eraseP_key (hwf.nodup t rule.chain) hfind]
  · rw [if_neg heq, if_neg fun h => heq (by rw [Option.some.inj h.1, h.2])]

/-- Only an injected failure keeps the first match of a rule from being deleted. -/
theorem ends_deleteHome (hwf : s.WellFormed) (htables : .tables ∉ s.pending)
    (hrules : .rules ∉ s.pending) {table : TableSpec} (hhome : s.home rule.table = some table)
    {r : Nat × String}
    (hfind : (s.rulesOf table rule.chain).find? (fun r => r.2 = rule.fingerprint) = some r) :
    Ends (backend.deleteRule table rule.chain r.1) s (fun _ => Withdrawn rule s)
      (fun _ s' => s'.tables = s.tables ∧ .deleteRule ∈ s.pending) := by
  refine ends_deleteRule ?_ ?_ ?_
  · exact fun hpending => ⟨rfl, hpending⟩
  · intro _ hmissing
    exact absurd (List.mem_of_find?_eq_some hfind) (hmissing r.2)
  · intro hdelete hchain _
    exact withdrawn_of_handle hwf ⟨htables, hrules, hdelete⟩ hhome hchain hfind

/-- The first match of a rule in its table is removed, if there is one. -/
theorem ends_removeFrom (hwf : s.WellFormed) (htables : .tables ∉ s.pending) {table : TableSpec}
    (hhome : s.home rule.table = some table) :
    Ends (backend.removeFrom table rule) s (fun _ => Withdrawn rule s)
      (fun _ s' => s'.tables = s.tables ∧ ¬ (s.Unhindered ∧ s.Findable rule)) := by
  refine Ends.bind (P := fun found s₁ => s = s₁ ∧ .rules ∉ s.pending ∧
    (s.chain? table rule.chain).isSome ∧ found = ((s.rulesOf table rule.chain).find?
      (fun r => r.2 = rule.fingerprint)).map Prod.fst) ?_ ?_
  · refine Ends.bind (P := fun installed s₁ => s = s₁ ∧ .rules ∉ s.pending ∧
      (s.chain? table rule.chain).isSome ∧ installed = (s.rulesOf table rule.chain).map
        fun r => ⟨r.1, some r.2⟩) (ends_listRules ?_ ?_ fun hcalm hchain => ⟨rfl, hcalm, hchain, rfl⟩)
      ?_
    · intro hpending
      exact ⟨rfl, fun ⟨hunhindered, _⟩ => hunhindered.rules hpending⟩
    · intro _ hnone
      refine ⟨rfl, fun ⟨_, hfindable⟩ => ?_⟩
      have hchain := hfindable table hhome
      rw [hnone] at hchain
      cases hchain
    · rintro _ _ ⟨rfl, hcalm, hchain, rfl⟩
      refine ends_pure ⟨rfl, hcalm, hchain, ?_⟩
      simp only [List.find?_map, Option.map_map, Function.comp_def, Option.some.injEq]
  · rintro _ _ ⟨rfl, hrules, hchain, rfl⟩
    cases hfind : (s.rulesOf table rule.chain).find? (fun r => r.2 = rule.fingerprint) with
    | none =>
      refine ends_pure (withdrawn_of_not_installed ?_)
      rintro ⟨other, hother, hmem⟩
      obtain rfl := Option.some.inj (hhome.symm.trans hother)
      obtain ⟨r, hr, hmark⟩ := List.mem_map.1 hmem
      have hnone := List.find?_eq_none.1 hfind r hr
      simp [hmark] at hnone
    | some r =>
      refine Ends.annotate (Ends.mono (ends_deleteHome hwf htables hrules hhome hfind)
        (fun _ _ h => h) fun _ _ hfailed => ⟨hfailed.1, fun ⟨hunhindered, _⟩ => ?_⟩)
      exact hunhindered.deleteRule hfailed.2

/-- A rule is removed from the table that it belongs to. Without one there is nothing to remove. -/
theorem ends_searched {R : Unit → Store → Prop} {E : Failure → Store → Prop}
    (hinjected : .tables ∈ s.pending → E (injected .tables) (s.spend .tables))
    (hmissing : s.home rule.table = none → R () s)
    (hfound : ∀ table, .tables ∉ s.pending → s.home rule.table = some table →
      Ends (backend.removeFrom table rule) s R E) : Ends (backend.removeRule rule) s R E := by
  refine Ends.bind (Ends.attempt (P := Outcome
    (fun table s₁ => s = s₁ ∧ .tables ∉ s.pending ∧ s.home rule.table = some table)
    fun failure s₁ => if failure.isNotFound then s = s₁ ∧ s.home rule.table = none
      else E failure s₁) (ends_findTable hinjected ?_ ?_)) ?_
  · exact fun hmissing => ⟨rfl, hmissing⟩
  · exact fun table hcalm hhome => ⟨rfl, hcalm, hhome⟩
  · rintro (failure | table) s₁ h
    · dsimp only [Outcome] at h ⊢
      split
      · rename_i hnotFound
        rw [if_pos hnotFound] at h
        obtain ⟨rfl, hhome⟩ := h
        exact ends_pure (hmissing hhome)
      · rename_i hother
        rw [if_neg hother] at h
        exact ends_fail h
    · obtain ⟨rfl, hcalm, hhome⟩ := h
      exact hfound table hcalm hhome

theorem ends_withdrawRule (hwf : s.WellFormed) :
    Ends (backend.removeRule rule) s (fun _ => Withdrawn rule s)
      (fun _ s' => s'.tables = s.tables ∧ ¬ (s.Unhindered ∧ s.Findable rule)) := by
  refine ends_searched ?_ ?_ fun table hcalm hhome => ends_removeFrom hwf hcalm hhome
  · intro hpending
    exact ⟨rfl, fun ⟨hunhindered, _⟩ => hunhindered.tables hpending⟩
  · intro hhome
    refine withdrawn_of_not_installed ?_
    rintro ⟨table, htable, _⟩
    rw [hhome] at htable
    cases htable

theorem ends_removeRule (hwf : s.WellFormed) :
    Ends (backend.removeRule rule) s (fun _ => Removed rule s)
      (fun _ s' => s'.tables = s.tables ∧ ¬ (s.Unhindered ∧ s.Findable rule)) :=
  Ends.mono (ends_withdrawRule hwf) (fun _ _ h => h.removed) fun _ _ h => h

end WorkloadNet.Firewall.Store
