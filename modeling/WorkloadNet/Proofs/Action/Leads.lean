import WorkloadNet.Proofs.Action.Ends

/-!
# Actions that lead along a relation

`Leads R action` says that the state an action leaves is related by `R` to the state it began in,
whichever way it ends. For a relation that holds of every state with itself and can be composed, an
action leads along it when its parts do.
-/

namespace WorkloadNet.Action

variable {σ α β : Type} {R : σ → σ → Prop}

/-- Whichever way the action ends, `R` leads from the state before it to the state after it. -/
def Leads (R : σ → σ → Prop) (action : Action σ α) : Prop := ∀ s, R s (action.on s).2

section Rules

variable (hrefl : ∀ s, R s s) (htrans : ∀ s t u, R s t → R t u → R s u)

include hrefl in
theorem leads_pure (a : α) : Leads R (pure a) := fun s => hrefl s

include hrefl in
theorem leads_fail (failure : Failure) : Leads R (fail failure : Action σ α) := fun s => hrefl s

include hrefl in
theorem leads_ofExcept (result : Except Failure α) : Leads R (ofExcept result) := by
  intro s
  rw [on_ofExcept]
  exact hrefl s

include hrefl in
theorem leads_get : Leads R (get : Action σ σ) := fun s => hrefl s

include htrans in
/-- Two actions that lead along a transitive relation do so one after the other. -/
theorem Leads.bind {action : Action σ α} {next : α → Action σ β} (h : Leads R action)
    (hnext : ∀ a, Leads R (next a)) : Leads R (action >>= next) := by
  intro s
  have hfirst := h s
  rw [on_bind]
  rcases hon : action.on s with ⟨result, s'⟩
  rw [hon] at hfirst
  cases result with
  | ok a => exact htrans s s' _ hfirst (hnext a s')
  | error failure => exact hfirst

include hrefl in
/-- What follows a result known beforehand only matters for its value. -/
theorem leads_ofExcept_bind {result : Except Failure α} {next : α → Action σ β}
    (hnext : ∀ a, result = .ok a → Leads R (next a)) : Leads R (ofExcept result >>= next) := by
  intro s
  rw [on_bind, on_ofExcept]
  cases result with
  | ok a => exact hnext a rfl s
  | error failure => exact hrefl s

include hrefl in
theorem leads_fail_bind {failure : Failure} {next : α → Action σ β} :
    Leads R (fail failure >>= next) := fun s => hrefl s

end Rules

/-- An annotation of the failure makes no difference to the state. -/
theorem Leads.annotate {action : Action σ α} {step : String} (h : Leads R action) :
    Leads R (action.annotate step) := by
  intro s
  have hstate := h s
  rw [on_annotate]
  rcases hon : action.on s with ⟨result, s'⟩
  rw [hon] at hstate
  cases result <;> exact hstate

theorem Leads.attempt {action : Action σ α} (h : Leads R action) : Leads R action.attempt := h

/-- What is made of the value of an action makes no difference to the state. -/
theorem Leads.of_value {action : Action σ α} {value : α → β}
    (h : Leads R (do return value (← action))) : Leads R action := by
  intro s
  have hstate := h s
  rw [on_bind] at hstate
  rcases hon : action.on s with ⟨result, s'⟩
  rw [hon] at hstate
  cases result <;> exact hstate

end WorkloadNet.Action
