import Mathlib.Data.List.TakeWhile
import WorkloadNet.Proofs.Firewall.Ledger
import WorkloadNet.Proofs.Firewall.Reach

/-!
# A batch of rules and its undoing

A batch that is installed goes as far as its rules have chains and the injected failure lets it, and puts
each rule at the end of its own chain. Removing what was installed takes rules away from the front, by
fingerprint: each chain has the fingerprints that it had, and where none of those that arrived was there
before, it has its rules in their order, with their handles.
-/

namespace WorkloadNet.Firewall.Store

open WorkloadNet.Action

variable {s s' s₁ : Store} {rule : Rule} {rules : List Rule}

/-! ## What is installed -/

/-- The rules that an installation gets through: those before the first without a chain, and no more than
an injected failure lets through. -/
def addable (s : Store) (rules : List Rule) : List Rule :=
  let housed := rules.takeWhile fun rule => s.Housed rule
  match s.appendLimit with
  | none => housed
  | some n => housed.take n

/-- The store after a list of rules was installed: nothing but the ends of chains has changed. -/
structure Extended (rules : List Rule) (s s' : Store) : Prop where
  layout : s'.layout = s.layout
  pending : s'.pending ⊆ s.pending
  rules : ∀ t c, ∃ new, s'.rulesOf t c = s.rulesOf t c ++ new ∧
    new.map Prod.snd = s.arriving rules t c

theorem addable_prefix (s : Store) (rules : List Rule) : s.addable rules <+: rules := by
  unfold addable
  dsimp only
  split
  · exact List.takeWhile_prefix _
  · exact (List.take_prefix _ _).trans (List.takeWhile_prefix _)

theorem housed_of_mem_addable (h : rule ∈ s.addable rules) : s.Housed rule := by
  have hhoused : ∀ rule ∈ rules.takeWhile fun rule => s.Housed rule, s.Housed rule := by
    intro rule hmem
    simpa using List.mem_takeWhile_imp hmem
  unfold addable at h
  dsimp only at h
  split at h
  · exact hhoused rule h
  · exact hhoused rule (List.mem_of_mem_take h)

theorem addable_cons_of_not_admits (h : ¬ s.Admits rule) : s.addable (rule :: rules) = [] := by
  unfold addable
  dsimp only
  by_cases hhoused : s.Housed rule
  · have hlimit : s.appendLimit = some 0 := by
      by_contra hne
      exact h ⟨hhoused, hne⟩
    rw [hlimit]
    exact List.take_zero
  · rw [List.takeWhile_cons_of_neg (by simpa using hhoused)]
    split
    · rfl
    · exact List.take_nil

/-- Once a rule was placed, one append less is let through. -/
theorem Placed.appendLimit (h : Placed rule s s₁) : s₁.appendLimit = s.appendLimit.map (· - 1) := by
  unfold Store.appendLimit
  rw [h.pending, h.countdown]
  split
  · rfl
  · rfl

theorem Placed.addable (h : Placed rule s s₁) :
    s.addable (rule :: rules) = rule :: s₁.addable rules := by
  have hhoused : (fun rule => decide (s₁.Housed rule)) = fun rule => decide (s.Housed rule) := by
    funext rule
    rw [decide_eq_decide]
    exact housed_of_layout h.layout
  unfold Store.addable
  dsimp only
  rw [List.takeWhile_cons_of_pos (by simpa using h.admits.1), h.appendLimit, hhoused]
  cases hlimit : s.appendLimit with
  | none => rfl
  | some n =>
    cases n with
    | zero => exact absurd hlimit h.admits.2
    | succ n => rfl

theorem extended_nil (htables : s'.tables = s.tables) (hpending : s'.pending ⊆ s.pending) :
    Extended [] s s' := by
  refine ⟨?_, hpending, fun t c => ⟨[], ?_, rfl⟩⟩
  · unfold Store.layout
    rw [htables]
  · unfold rulesOf
    rw [htables, List.append_nil]

theorem Placed.extended (h : Placed rule s s₁) (hrest : Extended rules s₁ s') :
    Extended (rule :: rules) s s' := by
  refine ⟨hrest.layout.trans h.layout, h.pending ▸ hrest.pending, fun t c => ?_⟩
  obtain ⟨new, hrules, hnew⟩ := hrest.rules t c
  rw [hrules, h.rules, arriving_cons, ← arriving_of_layout h.layout, ← hnew]
  split
  · exact ⟨(s.lastHandle + 1, rule.fingerprint) :: new, List.append_assoc _ _ _, rfl⟩
  · exact ⟨new, rfl, rfl⟩

/-- An installation that only an append can make fail. -/
theorem ends_addAll_extended (hcalm : .tables ∉ s.pending) :
    Ends (backend.addAll rules) s
      (fun _ s' => s.addable rules = rules ∧ Extended (s.addable rules) s s')
      (fun _ s' => s.addable rules ≠ rules ∧ Extended (s.addable rules) s s') := by
  induction rules generalizing s with
  | nil =>
    have hnil : s.addable [] = [] := List.prefix_nil.1 (s.addable_prefix [])
    rw [hnil]
    exact ends_pure ⟨rfl, extended_nil rfl (List.Subset.refl _)⟩
  | cons rule rest ih =>
    refine Ends.bind (Ends.mono ends_placeRule (fun _ _ h => h) ?_) ?_
    · rintro _ s' ⟨htables, hpending, hfails⟩
      rw [addable_cons_of_not_admits fun hadmits => hfails ⟨hcalm, hadmits⟩]
      exact ⟨(List.cons_ne_nil rule rest).symm, extended_nil htables hpending⟩
    · intro _ s₁ hplaced
      rw [hplaced.addable]
      refine Ends.mono (ih (hplaced.pending ▸ hcalm)) ?_ ?_
      · rintro _ s' ⟨hall, hextended⟩
        exact ⟨congrArg (rule :: ·) hall, hplaced.extended hextended⟩
      · rintro _ s' ⟨hpart, hextended⟩
        exact ⟨fun heq => hpart (List.cons.inj heq).2, hplaced.extended hextended⟩

/-! ## What is removed -/

/-- The rules of a chain without the first match of each fingerprint. -/
def withdraw (marks : List String) (items : List (Nat × String)) : List (Nat × String) :=
  marks.foldl (fun items mark => items.eraseP fun r => r.2 = mark) items

/-- Taking away what was appended leaves what was there, if nothing of it was there before. -/
theorem withdraw_append {old new : List (Nat × String)}
    (hnew : ∀ mark ∈ new.map Prod.snd, mark ∉ old.map Prod.snd) :
    withdraw (new.map Prod.snd) (old ++ new) = old := by
  induction new with
  | nil => exact List.append_nil old
  | cons r rest ih =>
    have hold : ∀ x ∈ old, ¬ decide (x.2 = r.2) = true := by
      intro x hx hmark
      refine hnew r.2 List.mem_cons_self ?_
      rw [← of_decide_eq_true hmark]
      exact List.mem_map_of_mem hx
    have hfirst : (old ++ r :: rest).eraseP (fun x => x.2 = r.2) = old ++ rest := by
      rw [List.eraseP_append_right _ hold, List.eraseP_cons_of_pos (by simp)]
    calc withdraw ((r :: rest).map Prod.snd) (old ++ r :: rest)
        = withdraw (rest.map Prod.snd) ((old ++ r :: rest).eraseP fun x => x.2 = r.2) := rfl
      _ = withdraw (rest.map Prod.snd) (old ++ rest) := by rw [hfirst]
      _ = old := ih fun mark hmark => hnew mark (List.mem_cons_of_mem _ hmark)

/-- A removal takes from each chain the first match of each rule that belongs to it. -/
theorem ends_removeAll_withdraw (hwf : s.WellFormed) :
    Ends (backend.removeAll rules) s
      (fun _ s' => ∀ t c, s'.rulesOf t c = withdraw (s.arriving rules t c) (s.rulesOf t c))
      (fun _ _ => True) := by
  induction rules generalizing s with
  | nil => exact ends_pure fun t c => rfl
  | cons rule rest ih =>
    refine Ends.bind (Ends.mono (ends_withdrawRule hwf) (fun _ _ h => h) fun _ _ _ => trivial) ?_
    intro _ s₁ hwithdrawn
    refine Ends.mono (ih (hwithdrawn.evolves.wellFormed hwf)) ?_ fun _ _ h => h
    intro _ s₂ hrules t c
    rw [hrules, hwithdrawn.rules, arriving_of_layout hwithdrawn.layout, arriving_cons]
    split
    · rfl
    · rfl

/-! ## Both -/

/-- The store after a list of rules was installed and removed again. -/
structure Restored (rules : List Rule) (s s' : Store) : Prop where
  layout : s'.layout = s.layout
  marks : ∀ t c, (s'.marks t c).Perm (s.marks t c)
  rules : ∀ t c, (∀ mark ∈ s.arriving rules t c, mark ∉ s.marks t c) →
    s'.rulesOf t c = s.rulesOf t c

theorem unhindered_of_appends (h : ∀ op ∈ s.pending, op = .appendRule) : s.Unhindered := by
  refine ⟨?_, ?_, ?_⟩
  all_goals
    intro hmem
    cases h _ hmem

/-- Removing what a store was extended by. -/
theorem Extended.ends_removeAll (h : Extended rules s s₁) (hwf : s₁.WellFormed)
    (hunhindered : s₁.Unhindered) (hhoused : ∀ rule ∈ rules, s.Housed rule) :
    Ends (backend.removeAll rules) s₁ (fun _ => Restored rules s) (fun _ _ => False) := by
  have hhoused₁ : ∀ rule ∈ rules, s₁.Housed rule :=
    fun rule hrule => (housed_of_layout h.layout).2 (hhoused rule hrule)
  have hcounts := ends_removeAll_unhindered hunhindered hwf hhoused₁
  refine Ends.mono (Ends.and hcounts (ends_removeAll_withdraw hwf)) ?_ fun _ _ h => h.1
  rintro _ s₂ ⟨⟨hlayout, -, -, hmarks⟩, hrules⟩
  refine ⟨hlayout.trans h.layout, fun t c => ?_, fun t c habsent => ?_⟩
  · obtain ⟨new, hnew, harrived⟩ := h.rules t c
    have hmarks₁ : s₁.marks t c = s.marks t c ++ s.arriving rules t c := by
      unfold marks
      rw [hnew, List.map_append, harrived]
    have hsub := hmarks t c
    rw [belonging_of_layout h.layout, belonging_eq, hmarks₁, ← Multiset.coe_add] at hsub
    rw [← Multiset.coe_eq_coe, hsub, Multiset.add_sub_cancel_right]
  · obtain ⟨new, hnew, harrived⟩ := h.rules t c
    rw [hrules, arriving_of_layout h.layout, hnew, ← harrived]
    refine withdraw_append fun mark hmark => habsent mark ?_
    rwa [← harrived]

/-- Installing a batch puts exactly the rules before the failing one at the ends of their chains, and
removing what was installed gives every chain its fingerprints back; a chain to which nothing came that it
had before gets its rules back in their order. An append may be set to fail, and nothing else. -/
theorem removeRules_undoes_addRules (s : Store) (set : RuleSet) (hs : Reaches empty s)
    (hpending : ∀ op ∈ s.pending, op = .appendRule) :
    ∃ part : RuleSet, part.rules = s.addable set.rules ∧
      (((backend.addRules set).on s).1 = .ok () ↔ part.rules = set.rules) ∧
      Extended part.rules s ((backend.addRules set).on s).2 ∧
      ∃ s₂, (backend.removeRules part).on ((backend.addRules set).on s).2 = (.ok (), s₂) ∧
        Restored part.rules s s₂ := by
  have hunhindered : s.Unhindered := unhindered_of_appends hpending
  have hfaultless : ∀ rule ∈ s.addable set.rules, rule.fault? = none :=
    fun rule hrule => set.faultless rule ((s.addable_prefix set.rules).subset hrule)
  have hwf : ((backend.addRules set).on s).2.WellFormed :=
    wellFormed_of_reaches (hs.trans (stepwise_addAll set.rules s))
  have hadded : Ends (backend.addAll set.rules) s
      (fun _ s' => s.addable set.rules = set.rules ∧ Extended (s.addable set.rules) s s')
      (fun _ s' => s.addable set.rules ≠ set.rules ∧ Extended (s.addable set.rules) s s') :=
    ends_addAll_extended hunhindered.tables
  have hextended : Extended (s.addable set.rules) s ((backend.addRules set).on s).2 :=
    ends_state (Ends.mono hadded (fun _ _ h => h.2) fun _ _ h => h.2)
  have hunhindered₁ : ((backend.addRules set).on s).2.Unhindered :=
    unhindered_of_appends fun op hop => hpending op (hextended.pending hop)
  have hremoved := hextended.ends_removeAll hwf hunhindered₁ fun _ => housed_of_mem_addable
  refine ⟨⟨s.addable set.rules, hfaultless⟩, rfl, ?_, hextended, ?_⟩
  · show ((backend.addAll set.rules).on s).1 = .ok () ↔ s.addable set.rules = set.rules
    rcases hon : (backend.addAll set.rules).on s with ⟨failure | _, s₁⟩
    · refine iff_of_false (fun hok => ?_) (hadded.of_error hon).1
      cases hok
    · exact iff_of_true rfl (hadded.of_ok hon).1
  · obtain ⟨_, s₂, hon, hrestored⟩ := hremoved.succeeds
    exact ⟨s₂, hon, hrestored⟩

/-- A batch with a rule twice. -/
def demoBatch : RuleSet where
  rules := [.masquerade postroutingChain natTable "eth0",
    .acceptPort 22 .tcp forwardChain filterTable, .masquerade postroutingChain natTable "eth0"]
  faultless := by decide +kernel

/-- The third append is set to fail: two rules are installed behind an older one and removed again. -/
theorem removeRules_undoes_addRules_demo :
    let older := Rule.masquerade postroutingChain natTable "eth1"
    let s := ((backend.addRule older).on (backend.ensureStandardTables.on empty).2).2.failOnAppend 3
    ∃ part : RuleSet, part.rules = demoBatch.rules.take 2 ∧
      ((backend.addRules demoBatch).on s).1 ≠ .ok () ∧
      ∃ s₂, (backend.removeRules part).on ((backend.addRules demoBatch).on s).2 = (.ok (), s₂) ∧
        s₂.rulesOf standardNat.spec postroutingChain = [(1, older.fingerprint)] := by
  intro older s
  have hs : Reaches empty s := by
    refine Relation.ReflTransGen.tail ?_ (Move.extra (.failAppend 3) _)
    exact (stepwise_ensureStandardTables empty).trans (stepwise_addRule older _)
  have hpending : ∀ op ∈ s.pending, op = .appendRule := by
    have hnone : s.pending = [] := by decide +kernel
    rw [hnone]
    exact fun op hop => absurd hop List.not_mem_nil
  have haddable : s.addable demoBatch.rules = demoBatch.rules.take 2 := by decide +kernel
  obtain ⟨part, hpart, hok, -, s₂, hon, hrestored⟩ :=
    removeRules_undoes_addRules s demoBatch hs hpending
  have hnat : ∀ mark ∈ s.arriving part.rules standardNat.spec postroutingChain,
      mark ∉ s.marks standardNat.spec postroutingChain := by
    rw [hpart, haddable]
    decide +kernel
  have hrules : s.rulesOf standardNat.spec postroutingChain = [(1, older.fingerprint)] := by
    decide +kernel
  refine ⟨part, hpart.trans haddable, fun hall => ?_, s₂, hon, (hrestored.rules _ _ hnat).trans hrules⟩
  have hwhole := (hpart.trans haddable).symm.trans (hok.1 hall)
  exact absurd (congrArg List.length hwhole) (by decide)

end WorkloadNet.Firewall.Store
