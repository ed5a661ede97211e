import Mathlib.Data.Multiset.AddSub
import WorkloadNet.Proofs.Firewall.Marks

/-!
# Lists of rules and multisets of fingerprints

Where nothing is set to fail, installing a list of rules adds the fingerprints that belong to a chain
to the multiset of that chain, and removing the list subtracts them. The order in a chain may change
on the way, the tables and chains do not.
-/

namespace WorkloadNet.Firewall.Store

open WorkloadNet.Action

variable {s s' : Store} {rules : List Rule}

/-- The fingerprints of those rules of a list that belong to a chain, in order. -/
def arriving (s : Store) (rules : List Rule) (table : TableSpec) (chain : String) : List String :=
  (rules.filter fun r => s.home r.table = some table ∧ chain = r.chain).map Rule.fingerprint

/-- The fingerprints of those rules of a list that belong to a chain. -/
def belonging (s : Store) (rules : List Rule) (table : TableSpec) (chain : String) :
    Multiset String :=
  ((rules.filter fun r => s.home r.table = some table ∧ chain = r.chain).map Rule.fingerprint :
    List String)

theorem belonging_eq (s : Store) (rules : List Rule) (table : TableSpec) (chain : String) :
    s.belonging rules table chain = (s.arriving rules table chain : Multiset String) := rfl

theorem arriving_of_layout (h : s'.layout = s.layout) (rules : List Rule) (t : TableSpec)
    (c : String) : s'.arriving rules t c = s.arriving rules t c := by
  unfold arriving
  simp only [home_eq_of_layout h]

theorem arriving_cons (rule : Rule) (rest : List Rule) (t : TableSpec) (c : String) :
    s.arriving (rule :: rest) t c =
      if s.home rule.table = some t ∧ c = rule.chain then rule.fingerprint :: s.arriving rest t c
      else s.arriving rest t c := by
  unfold arriving
  rw [List.filter_cons]
  split
  · rename_i h
    rw [if_pos (by simpa using h), List.map_cons]
  · rename_i h
    rw [if_neg (by simpa using h)]

theorem belonging_of_layout (h : s'.layout = s.layout) (rules : List Rule) (table : TableSpec)
    (chain : String) : s'.belonging rules table chain = s.belonging rules table chain := by
  rw [belonging_eq, belonging_eq, arriving_of_layout h]

theorem belonging_cons (rule : Rule) (rest : List Rule) (t : TableSpec) (c : String) :
    s.belonging (rule :: rest) t c =
      if s.home rule.table = some t ∧ c = rule.chain then
        rule.fingerprint ::ₘ s.belonging rest t c
      else s.belonging rest t c := by
  rw [belonging_eq, belonging_eq, arriving_cons]
  split
  · rfl
  · rfl

/-- Installing a list where nothing is set to fail. -/
theorem ends_addAll_quiet (hquiet : s.Quiet) (hhoused : ∀ rule ∈ rules, s.Housed rule) :
    Ends (backend.addAll rules) s
      (fun _ s' => s'.layout = s.layout ∧ s'.Quiet ∧ ∀ t c,
        (s'.marks t c : Multiset String) = s.marks t c + s.belonging rules t c)
      (fun _ _ => False) := by
  induction rules generalizing s with
  | nil => exact ends_pure ⟨rfl, hquiet, fun t c => (Multiset.add_zero _).symm⟩
  | cons rule rest ih =>
    refine Ends.bind (Ends.mono ends_addRule (fun _ _ h => h) ?_) ?_
    · rintro _ _ ⟨-, hfails⟩
      exact hfails ⟨hquiet, hhoused rule List.mem_cons_self⟩
    · intro _ s₁ hadded
      have hhoused₁ : ∀ r ∈ rest, s₁.Housed r := fun r hr =>
        (housed_of_layout hadded.layout).2 (hhoused r (List.mem_cons_of_mem _ hr))
      refine Ends.mono (ih (hadded.quiet hquiet) hhoused₁) ?_ fun _ _ h => h
      rintro _ s₂ ⟨hlayout, hquiet₂, hmarks⟩
      refine ⟨hlayout.trans hadded.layout, hquiet₂, fun t c => ?_⟩
      rw [hmarks, hadded.marks, belonging_of_layout hadded.layout, belonging_cons]
      split
      · rw [← Multiset.coe_add, Multiset.coe_singleton, Multiset.add_assoc, Multiset.singleton_add]
      · rfl

/-- Removing a list where nothing is set to fail that a removal calls. -/
theorem ends_removeAll_unhindered (hunhindered : s.Unhindered) (hwf : s.WellFormed)
    (hhoused : ∀ rule ∈ rules, s.Housed rule) :
    Ends (backend.removeAll rules) s
      (fun _ s' => s'.layout = s.layout ∧ s'.pending = s.pending ∧
        s'.appendCountdown = s.appendCountdown ∧ ∀ t c,
          (s'.marks t c : Multiset String) = s.marks t c - s.belonging rules t c)
      (fun _ _ => False) := by
  induction rules generalizing s with
  | nil => exact ends_pure ⟨rfl, rfl, rfl, fun t c => (Multiset.sub_zero _).symm⟩
  | cons rule rest ih =>
    refine Ends.bind (Ends.mono (ends_removeRule hwf) (fun _ _ h => h) ?_) ?_
    · rintro _ _ ⟨-, hfails⟩
      exact hfails ⟨hunhindered, (hhoused rule List.mem_cons_self).findable⟩
    · intro _ s₁ hremoved
      have hhoused₁ : ∀ r ∈ rest, s₁.Housed r := fun r hr =>
        (housed_of_layout hremoved.layout).2 (hhoused r (List.mem_cons_of_mem _ hr))
      have hunhindered₁ := unhindered_of_pending hremoved.pending hunhindered
      refine Ends.mono (ih hunhindered₁ (hremoved.evolves.wellFormed hwf) hhoused₁) ?_
        fun _ _ h => h
      rintro _ s₂ ⟨hlayout, hpending, hcountdown, hmarks⟩
      refine ⟨hlayout.trans hremoved.layout, hpending.trans hremoved.pending,
        hcountdown.trans hremoved.countdown, fun t c => ?_⟩
      rw [hmarks, hremoved.marks, belonging_of_layout hremoved.layout, belonging_cons]
      split
      · rw [← Multiset.coe_erase, Multiset.sub_cons]
      · rfl

/-- When the first rule of a list is installed, its removal is the only one that can fail. -/
theorem ends_removeAll_installed {rule : Rule} (hinstalled : s.Installed rule) (hwf : s.WellFormed)
    (hhoused : ∀ r ∈ rules, s.Housed r) :
    Ends (backend.removeAll (rule :: rules)) s (fun _ _ => True)
      (fun _ s' => s'.tables = s.tables) := by
  refine Ends.bind (Ends.mono (ends_removeRule hwf) (fun _ _ h => h) fun _ _ h => h.1) ?_
  intro _ s₁ hremoved
  have hunhindered := unhindered_of_pending hremoved.pending (hremoved.unhindered hinstalled)
  have hhoused₁ : ∀ r ∈ rules, s₁.Housed r := fun r hr =>
    (housed_of_layout hremoved.layout).2 (hhoused r hr)
  exact Ends.mono (ends_removeAll_unhindered hunhindered (hremoved.evolves.wellFormed hwf) hhoused₁)
    (fun _ _ _ => trivial) fun _ _ h => h.elim

end WorkloadNet.Firewall.Store
