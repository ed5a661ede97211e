import Mathlib.Data.List.Basic

/-!
# Runs of moves

A machine makes moves, each of which may or may not be possible. A run is a list of moves, each possible in
its turn; what one move keeps, a run keeps. Where every move of a kind leaves less to do, a run of such
moves is no longer than what there is to do, and from every state some run of them leads to a state in which
none is possible.
-/

namespace WorkloadNet.Runs

variable {σ μ : Type} (move? : σ → μ → Option σ) {s s' : σ} {moves : List μ}

/-- What holds of a state and the moves up to it, and is kept by every further move, holds after a run. -/
theorem of_move {P : List μ → σ → Prop}
    (hmove : ∀ {past s m s'}, P past s → move? s m = some s' → P (past ++ [m]) s')
    {past : List μ} (h : P past s) (hrun : moves.foldlM move? s = some s') : P (past ++ moves) s' := by
  induction moves generalizing past s with
  | nil =>
    obtain rfl := Option.some.inj hrun
    rwa [List.append_nil]
  | cons m rest ih =>
    obtain ⟨s₁, hfirst, hrest⟩ := Option.bind_eq_some_iff.1 hrun
    have hlater := ih (hmove h hfirst) hrest
    rwa [List.append_assoc] at hlater

/-! ## Coming to rest -/

variable {own : μ → Prop} {work : σ → Nat}

/-- A run of moves that each leave less to do is no longer than what there was to do. -/
theorem length_le (hless : ∀ {s m s'}, move? s m = some s' → own m → work s' < work s)
    (hown : ∀ m ∈ moves, own m) (hrun : moves.foldlM move? s = some s') : moves.length ≤ work s := by
  induction moves generalizing s with
  | nil => exact Nat.zero_le _
  | cons m rest ih =>
    obtain ⟨s₁, hfirst, hrest⟩ := Option.bind_eq_some_iff.1 hrun
    have hlt := hless hfirst (hown m List.mem_cons_self)
    have hle := ih (fun n hn => hown n (List.mem_cons_of_mem m hn)) hrest
    rw [List.length_cons]
    omega

/-- When every move leaves less to do, some run comes to a state without a further one. -/
theorem exists_rest (hless : ∀ {s m s'}, move? s m = some s' → own m → work s' < work s) (s : σ) :
    ∃ (more : List μ) (s' : σ), (∀ m ∈ more, own m) ∧ more.foldlM move? s = some s' ∧
      ∀ m, own m → move? s' m = none := by
  induction hn : work s using Nat.strongRecOn generalizing s with
  | ind n ih =>
    by_cases hrest : ∀ m, own m → move? s m = none
    · exact ⟨[], s, nofun, rfl, hrest⟩
    · push Not at hrest
      obtain ⟨m, hm, hsome⟩ := hrest
      obtain ⟨s₁, hmove⟩ := Option.ne_none_iff_exists'.1 hsome
      obtain ⟨more, s', hown, hrun, hdone⟩ := ih (work s₁) (hn ▸ hless hmove hm) s₁ rfl
      refine ⟨m :: more, s', List.forall_mem_cons.2 ⟨hm, hown⟩, ?_, hdone⟩
      exact Option.bind_eq_some_iff.2 ⟨s₁, hmove, hrun⟩

end WorkloadNet.Runs
