import WorkloadNet.Proofs.Action.Ends

/-!
# Actions that do the same

`Alike` compares an action on one kind of state with an action on another kind. Where the first
ends with a value, so does the second, and the two values and states satisfy `Q`; where the first
fails, the second fails with the same failure, in states that are related by `R`. The first may
also leave a state that is `beyond` the comparison, and then nothing is said.
-/

namespace WorkloadNet.Action

variable {τ σ α β γ δ : Type} {R R' : τ → σ → Prop} {beyond : τ → Prop}
variable {a : Action τ α} {b : Action σ β} {t : τ} {s : σ}

/-- The second action does what the first one does. -/
def Alike (R : τ → σ → Prop) (beyond : τ → Prop) (a : Action τ α) (b : Action σ β) (t : τ) (s : σ)
    (Q : α → β → τ → σ → Prop) : Prop :=
  Ends a t (fun x t' => ∃ y s', b.on s = (.ok y, s') ∧ Q x y t' s')
    (fun failure t' => beyond t' ∨ ∃ s', b.on s = (.error failure, s') ∧ R t' s')

section Rules

variable {Q Q' : α → β → τ → σ → Prop}

theorem Alike.mono (h : Alike R beyond a b t s Q) (hQ : ∀ x y t' s', Q x y t' s' → Q' x y t' s') :
    Alike R beyond a b t s Q' := by
  refine Ends.mono h ?_ fun _ _ h => h
  rintro x t' ⟨y, s', hon, h⟩
  exact ⟨y, s', hon, hQ x y t' s' h⟩

theorem alike_pure {x : α} {y : β} (h : Q x y t s) :
    Alike R beyond (pure x) (pure y) t s Q := ⟨y, s, rfl, h⟩

theorem alike_fail {failure : Failure} (h : R t s) :
    Alike R beyond (fail failure) (fail failure) t s Q := Or.inr ⟨s, rfl, h⟩

theorem alike_ofExcept {result : Except Failure α} {Q : α → α → τ → σ → Prop} (h : R t s)
    (hok : ∀ x, result = .ok x → Q x x t s) :
    Alike R beyond (ofExcept result) (ofExcept result) t s Q := by
  cases result with
  | ok x => exact alike_pure (hok x rfl)
  | error failure => exact alike_fail h

theorem Alike.bind {next : α → Action τ γ} {next' : β → Action σ δ} {P : γ → δ → τ → σ → Prop}
    (h : Alike R beyond a b t s Q)
    (hnext : ∀ x y t' s', Q x y t' s' → Alike R beyond (next x) (next' y) t' s' P) :
    Alike R beyond (a >>= next) (b >>= next') t s P := by
  -- The second action has ended like the first, so its sequence goes on like that of the first.
  refine Ends.bind (P := fun x t' => ∃ y s', b.on s = (.ok y, s') ∧ Q x y t' s')
    (Ends.mono h (fun _ _ h => h) ?_) ?_
  · rintro failure t' (hbeyond | ⟨s', hon, hR⟩)
    · exact Or.inl hbeyond
    · refine Or.inr ⟨s', ?_, hR⟩
      rw [on_bind, hon]
  · rintro x t' ⟨y, s', hon, hQ⟩
    have hsame : (b >>= next').on s = (next' y).on s' := by rw [on_bind, hon]
    rw [hsame]
    exact hnext x y t' s' hQ

theorem Alike.annotate {step : String} (h : Alike R beyond a b t s Q) :
    Alike R beyond (a.annotate step) (b.annotate step) t s Q := by
  refine Ends.annotate (Ends.mono h ?_ ?_)
  · rintro x t' ⟨y, s', hon, hQ⟩
    refine ⟨y, s', ?_, hQ⟩
    rw [on_annotate, hon]
  · rintro failure t' (hbeyond | ⟨s', hon, hR⟩)
    · exact Or.inl hbeyond
    · refine Or.inr ⟨s', ?_, hR⟩
      rw [on_annotate, hon]

/-- A failure that becomes a value can no longer be told from one, so the comparison has to hold
without exception. -/
theorem Alike.attempt {P : Except Failure α → Except Failure β → τ → σ → Prop}
    (h : Alike R (fun _ => False) a b t s fun x y => P (.ok x) (.ok y))
    (hfail : ∀ failure t' s', R t' s' → P (.error failure) (.error failure) t' s') :
    Alike R' beyond a.attempt b.attempt t s P := by
  refine Ends.attempt (Ends.mono h ?_ ?_)
  · rintro x t' ⟨y, s', hon, hP⟩
    refine ⟨.ok y, s', ?_, hP⟩
    rw [on_attempt, hon]
  · rintro failure t' (hbeyond | ⟨s', hon, hR⟩)
    · cases hbeyond
    · refine ⟨.error failure, s', ?_, hfail failure t' s' hR⟩
      rw [on_attempt, hon]

/-- What is known of the second action alone. -/
theorem Alike.and_ends {P : β → σ → Prop} {E : Failure → σ → Prop}
    (h : Alike R beyond a b t s Q) (hb : Ends b s P E) :
    Alike R beyond a b t s (fun x y t' s' => Q x y t' s' ∧ P y s') := by
  refine Ends.mono h ?_ fun _ _ h => h
  rintro x t' ⟨y, s', hon, hQ⟩
  exact ⟨y, s', hon, hQ, hb.of_ok hon⟩

theorem Alike.and_on (h : Alike R beyond a b t s Q) :
    Alike R beyond a b t s (fun x y t' s' => Q x y t' s' ∧ b.on s = (.ok y, s')) := by
  refine Ends.mono h ?_ fun _ _ h => h
  rintro x t' ⟨y, s', hon, hQ⟩
  exact ⟨y, s', hon, hQ, hon⟩

end Rules

/-- Two actions that do not fail. -/
theorem alike_of_ends {P : α → τ → Prop} {P' : β → σ → Prop} {Q : α → β → τ → σ → Prop}
    (ha : Ends a t P fun _ _ => False) (hb : Ends b s P' fun _ _ => False)
    (h : ∀ x t' y s', P x t' → P' y s' → Q x y t' s') : Alike R beyond a b t s Q := by
  refine Ends.mono ha (fun x t' hP => ?_) fun _ _ h => h.elim
  rcases hon : b.on s with ⟨failure | y, s'⟩
  · exact (hb.of_error hon).elim
  · exact ⟨y, s', rfl, h x t' y s' hP (hb.of_ok hon)⟩

/-- Both end with the same result, in related states. -/
theorem Alike.agree {b : Action σ α} (h : Alike R beyond a b t s fun x y t' s' => x = y ∧ R t' s')
    (hcompared : ¬ beyond (a.on t).2) : (a.on t).1 = (b.on s).1 ∧ R (a.on t).2 (b.on s).2 := by
  rcases hon : a.on t with ⟨failure | x, t'⟩
  · rw [hon] at hcompared
    obtain ⟨s', hon', hR⟩ := (h.of_error hon).resolve_left hcompared
    rw [hon']
    exact ⟨rfl, hR⟩
  · obtain ⟨y, s', hon', rfl, hR⟩ := h.of_ok hon
    rw [hon']
    exact ⟨rfl, hR⟩

end WorkloadNet.Action
