import WorkloadNet.Proofs.Firewall.Preparation

/-!
# Stores with standard chains or with nothing

A packet filter that is only used through the standard tables, through bridges and through networks
has either nothing in it or every standard chain (`Grounded`). Over a store with nothing in it,
whatever looks for a table fails or does nothing.
-/

namespace WorkloadNet.Firewall.Store

open WorkloadNet.Action

variable {s : Store} {α : Type}

/-- Nothing is in the store, or the standard chains are. -/
def Grounded (s : Store) : Prop := s = empty ∨ s.Standing

/-! ## Stores with the standard chains -/

/-- Every action that is made of operations of the store keeps the standard chains. -/
theorem ends_standing {action : Action Store α} (h : Stepwise action) (hs : s.Standing) :
    Ends action s (fun _ => Standing) (fun _ => Standing) := by
  have hlater : (action.on s).2.Standing := hs.evolves (h s).evolves
  exact Ends.of_on rfl (fun _ _ => hlater) fun _ _ => hlater

/-! ## The store with nothing in it -/

/-- Ensured in a store with nothing in it, the standard tables stand with all their chains. -/
theorem ends_ensureStandardTables_empty :
    Ends backend.ensureStandardTables empty (fun _ => Standing) (fun _ => Standing) := by
  have hstanding : ((backend.ensureStandardTables).on empty).2.Standing :=
    ⟨by decide +kernel, by decide +kernel⟩
  exact Ends.of_on rfl (fun _ _ => hstanding) fun _ _ => hstanding

theorem ends_prepareBridgeChains_empty (mark : String) :
    Ends (backend.prepareBridgeChains mark) empty (fun _ => Standing) (fun _ => Standing) := by
  refine Ends.bind ends_ensureStandardTables_empty fun _ s₁ hs₁ => ends_standing ?_ hs₁
  exact Stepwise.bind (stepwise_addJumpRule _ _ _) fun _ => stepwise_addJumpRule _ _ _

theorem home_empty (name : String) : empty.home name = none := by
  simp [home, resolveTable, empty]

/-- No table is found, and nothing changes. -/
theorem ends_findTable_empty (name : String) :
    Ends (backend.findTable name) empty (fun _ _ => False)
      (fun _ s' => s' = empty) := by
  refine ends_findTable ?_ ?_ ?_
  · intro hpending
    cases hpending
  · exact fun _ => rfl
  · intro table _ hhome
    rw [home_empty] at hhome
    cases hhome

/-- A chain needs a table, so none is created. -/
theorem ends_newChain_empty (request : ChainRequest) :
    Ends (backend.newChain request) empty (fun _ _ => False) (fun _ s' => s' = empty) := by
  unfold Backend.newChain
  dsimp only
  split
  · exact Ends.bind (P := fun _ _ => False) rfl fun _ _ hfalse => hfalse.elim
  · exact Ends.bind (ends_findTable_empty request.table) fun _ _ hfalse => hfalse.elim

theorem ends_addJumpRule_empty (source target table : String) :
    Ends (backend.addJumpRule source target table) empty (fun _ _ => False)
      (fun _ s' => s' = empty) :=
  Ends.bind (ends_newChain_empty _) fun _ _ hfalse => hfalse.elim

/-- No rule gets in, since none has a table to go to. -/
theorem ends_addAll_empty (rules : List Rule) :
    Ends (backend.addAll rules) empty (fun _ s' => s' = empty) (fun _ s' => s' = empty) := by
  cases rules with
  | nil => exact ends_pure rfl
  | cons rule rest =>
    refine Ends.bind (P := fun _ _ => False) ?_ fun _ _ hfalse => hfalse.elim
    exact Ends.bind (ends_findTable_empty rule.table) fun _ _ hfalse => hfalse.elim

/-- No rule is there to be removed. -/
theorem ends_removeAll_empty (rules : List Rule) :
    Ends (backend.removeAll rules) empty (fun _ s' => s' = empty) (fun _ s' => s' = empty) := by
  induction rules with
  | nil => exact ends_pure rfl
  | cons rule rest ih =>
    refine Ends.bind (P := fun _ s₁ => s₁ = empty)
      (ends_searched (fun hpending => ?_) (fun _ => rfl) fun table _ hhome => ?_) ?_
    · cases hpending
    · rw [home_empty] at hhome
      cases hhome
    · rintro _ _ rfl
      exact ih

end WorkloadNet.Firewall.Store
