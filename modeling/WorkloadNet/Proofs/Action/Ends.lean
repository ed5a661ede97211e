import WorkloadNet.Action

/-!
# How an action ends

`Ends action s Q E` says how an action ends when it is run on the state `s`: a value and the state
with it satisfy `Q`, a failure and the state that it leaves behind satisfy `E`. Both ways are
described, because cleanup is about the states that failures leave.

The rules below follow the construction of the action. In a sequence the failure side `E` is the
same for every step, so a proof about a sequence is one statement `E` that every step keeps and one
state after each step that succeeds.
-/

namespace WorkloadNet.Action

variable {σ κ α β : Type} {Q Q' : α → σ → Prop} {E E' : Failure → σ → Prop}

/-- A value of the action and its state satisfy `Q`, a failure and its state satisfy `E`. -/
def Ends (action : Action σ α) (s : σ) (Q : α → σ → Prop) (E : Failure → σ → Prop) : Prop :=
  match action.on s with
  | (.ok a, s') => Q a s'
  | (.error failure, s') => E failure s'

theorem Ends.of_ok {action : Action σ α} {s s' : σ} {a : α} (h : Ends action s Q E)
    (hon : action.on s = (.ok a, s')) : Q a s' := by
  unfold Ends at h
  rwa [hon] at h

theorem Ends.of_error {action : Action σ α} {s s' : σ} {failure : Failure}
    (h : Ends action s Q E) (hon : action.on s = (.error failure, s')) : E failure s' := by
  unfold Ends at h
  rwa [hon] at h

/-- Used to state an action by its two ways to end. -/
theorem ends_iff {action : Action σ α} {s : σ} :
    Ends action s Q E ↔
      (∀ a s', action.on s = (.ok a, s') → Q a s') ∧
        ∀ failure s', action.on s = (.error failure, s') → E failure s' := by
  constructor
  · intro h
    exact ⟨fun _ _ => h.of_ok, fun _ _ => h.of_error⟩
  · rintro ⟨hok, herror⟩
    unfold Ends
    rcases hon : action.on s with ⟨result, s'⟩
    cases result with
    | ok a => exact hok a s' hon
    | error failure => exact herror failure s' hon

theorem Ends.mono {action : Action σ α} {s : σ} (h : Ends action s Q E)
    (hQ : ∀ a s', Q a s' → Q' a s') (hE : ∀ failure s', E failure s' → E' failure s') :
    Ends action s Q' E' := by
  rw [ends_iff] at h ⊢
  exact ⟨fun a s' hon => hQ a s' (h.1 a s' hon), fun f s' hon => hE f s' (h.2 f s' hon)⟩

theorem Ends.and {action : Action σ α} {s : σ} (h : Ends action s Q E) (h' : Ends action s Q' E') :
    Ends action s (fun a s' => Q a s' ∧ Q' a s')
      (fun failure s' => E failure s' ∧ E' failure s') := by
  rw [ends_iff] at h h' ⊢
  exact ⟨fun a s' hon => ⟨h.1 a s' hon, h'.1 a s' hon⟩,
    fun failure s' hon => ⟨h.2 failure s' hon, h'.2 failure s' hon⟩⟩

/-- An action of which only the effect is known. -/
theorem Ends.of_on {action : Action σ α} {s s' : σ} {result : Except Failure α}
    (hon : action.on s = (result, s')) (hok : ∀ a, result = .ok a → Q a s')
    (herror : ∀ failure, result = .error failure → E failure s') : Ends action s Q E := by
  rw [ends_iff, hon]
  constructor
  · rintro a _ ⟨⟩
    exact hok a rfl
  · rintro failure _ ⟨⟩
    exact herror failure rfl

/-- An action that cannot fail succeeds. -/
theorem Ends.succeeds {action : Action σ α} {s : σ} (h : Ends action s Q fun _ _ => False) :
    ∃ a s', action.on s = (.ok a, s') ∧ Q a s' := by
  rcases hon : action.on s with ⟨failure | a, s'⟩
  · exact (h.of_error hon).elim
  · exact ⟨a, s', rfl, h.of_ok hon⟩

/-- What is shown of the ends of an action may speak of the run itself. -/
theorem Ends.run {action : Action σ α} {s : σ} (h : Ends action s Q E) :
    Ends action s (fun a s' => action.on s = (.ok a, s') ∧ Q a s')
      (fun failure s' => action.on s = (.error failure, s') ∧ E failure s') := by
  rw [ends_iff] at h ⊢
  exact ⟨fun a s' hon => ⟨hon, h.1 a s' hon⟩, fun failure s' hon => ⟨hon, h.2 failure s' hon⟩⟩

/-- A run of an action, seen from the state that it leaves. -/
theorem ends_state {action : Action σ α} {s : σ} {P : σ → Prop}
    (h : Ends action s (fun _ => P) (fun _ => P)) : P (action.on s).2 := by
  unfold Ends at h
  rcases hon : action.on s with ⟨result, s'⟩
  rw [hon] at h
  cases result with
  | ok _ => exact h
  | error _ => exact h

/-- A run that is known to succeed, by what it leads to. -/
theorem on_eq_ok (action : Action σ α) (s : σ) (h : (action.on s).1.isOk = true) :
    ∃ a s', action.on s = (.ok a, s') := by
  rcases hon : action.on s with ⟨failure | a, s'⟩
  · rw [hon] at h
    cases h
  · exact ⟨a, s', rfl⟩

/-- A run that is known to fail, by what it leads to. -/
theorem on_eq_error (action : Action σ α) (s : σ) (h : (action.on s).1.isOk = false) :
    ∃ failure s', action.on s = (.error failure, s') := by
  rcases hon : action.on s with ⟨failure | a, s'⟩
  · exact ⟨failure, s', rfl⟩
  · rw [hon] at h
    cases h

/-! ## Rules -/

theorem ends_pure {a : α} {s : σ} (h : Q a s) : Ends (pure a) s Q E := h

theorem ends_fail {failure : Failure} {s : σ} (h : E failure s) :
    Ends (fail failure : Action σ α) s Q E := h

theorem ends_ofExcept {result : Except Failure α} {s : σ}
    (hok : ∀ a, result = .ok a → Q a s) (herror : ∀ failure, result = .error failure → E failure s) :
    Ends (ofExcept result) s Q E := by
  cases result with
  | ok a => exact hok a rfl
  | error failure => exact herror failure rfl

theorem Ends.bind {action : Action σ α} {next : α → Action σ β} {s : σ} {P : α → σ → Prop}
    {R : β → σ → Prop} (h : Ends action s P E) (hnext : ∀ a s', P a s' → Ends (next a) s' R E) :
    Ends (action >>= next) s R E := by
  unfold Ends
  rw [on_bind]
  rcases hon : action.on s with ⟨result, s'⟩
  cases result with
  | ok a => exact hnext a s' (h.of_ok hon)
  | error failure => exact h.of_error hon

theorem Ends.annotate {action : Action σ α} {step : String} {s : σ}
    (h : Ends action s Q fun failure => E (.context step failure)) :
    Ends (action.annotate step) s Q E := by
  unfold Ends
  rw [on_annotate]
  rcases hon : action.on s with ⟨result, s'⟩
  cases result with
  | ok a => exact h.of_ok hon
  | error failure => exact h.of_error hon

/-- Both ways to end become values. -/
theorem Ends.attempt {action : Action σ α} {s : σ} {P : Except Failure α → σ → Prop}
    (h : Ends action s (fun a => P (.ok a)) fun failure => P (.error failure)) :
    Ends action.attempt s P E := by
  unfold Ends
  rw [on_attempt]
  rcases hon : action.on s with ⟨result, s'⟩
  cases result with
  | ok a => exact h.of_ok hon
  | error failure => exact h.of_error hon

/-- One relation on results out of the two ways to end. -/
def Outcome (Q : α → σ → Prop) (E : Failure → σ → Prop) : Except Failure α → σ → Prop
  | .ok a, s => Q a s
  | .error failure, s => E failure s

theorem Ends.outcome {action : Action σ α} {s : σ} (h : Ends action s Q E') :
    Ends action.attempt s (Outcome Q E') E :=
  Ends.attempt h

/-! ## Reading and changing the state -/

@[simp] theorem on_get (s : σ) : (get : Action σ σ).on s = (.ok s, s) := rfl

@[simp] theorem on_set (s s' : σ) : (set s' : Action σ PUnit).on s = (.ok (), s') := rfl

@[simp] theorem on_modify (f : σ → σ) (s : σ) :
    (modify f : Action σ PUnit).on s = (.ok (), f s) := rfl

@[simp] theorem on_ofExcept (result : Except Failure α) (s : σ) :
    (ofExcept result).on s = (result, s) := by
  cases result <;> rfl

theorem on_map (f : α → β) (action : Action σ α) (s : σ) :
    (f <$> action).on s = ((action.on s).1.map f, (action.on s).2) := by
  rw [← bind_pure_comp, on_bind]
  rcases action.on s with ⟨result, s'⟩
  cases result <;> rfl

@[simp] theorem on_ite (c : Prop) [Decidable c] (yes no : Action σ α) (s : σ) :
    (if c then yes else no).on s = if c then yes.on s else no.on s := by
  split <;> rfl

end WorkloadNet.Action
