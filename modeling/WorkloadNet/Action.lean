import WorkloadNet.Failure

/-!
# Actions on a state

An `Action σ α` changes a state and ends with a value or a failure. A failure does not undo the
changes made before it: what a failed action leaves behind is part of its meaning, and the
statements about cleanup are statements about that state.

A body that runs inside a namespace may also panic; `Ending` adds that third way to end.
-/

namespace WorkloadNet

/-- A change of state that ends with a value or a failure. -/
abbrev Action (σ α : Type) := ExceptT Failure (StateM σ) α

namespace Action

variable {σ κ α β : Type}

/-- An action from its effect. -/
def of (f : σ → Except Failure α × σ) : Action σ α := f

/-- The result of an action and the state that it leaves. -/
def on (action : Action σ α) (s : σ) : Except Failure α × σ := action.run.run s

/-- Ends with a failure. -/
def fail (failure : Failure) : Action σ α := throw failure

/-- Annotates the failure of an action with the step that it belongs to. -/
def annotate (step : String) (action : Action σ α) : Action σ α :=
  of fun s =>
    match action.on s with
    | (.ok a, s') => (.ok a, s')
    | (.error failure, s') => (.error (.context step failure), s')

/-- Runs an action on a part of a larger state. -/
def zoom (get : σ → κ) (put : κ → σ → σ) (action : Action κ α) : Action σ α :=
  of fun s => let (result, part) := action.on (get s); (result, put part s)

/-- The result of an action as a value: what failed is handed on and not raised. -/
def attempt (action : Action σ α) : Action σ (Except Failure α) :=
  of fun s => let (result, s') := action.on s; (.ok result, s')

/-- Ends with the given result. -/
def ofExcept : Except Failure α → Action σ α
  | .ok a => pure a
  | .error failure => throw failure

/-! ## What each operation does, read through `on` -/

@[simp] theorem on_of (f : σ → Except Failure α × σ) (s : σ) : (of f).on s = f s := rfl

@[simp] theorem on_pure (a : α) (s : σ) : (pure a : Action σ α).on s = (.ok a, s) := rfl

@[simp] theorem on_fail (failure : Failure) (s : σ) :
    (fail failure : Action σ α).on s = (.error failure, s) := rfl

@[simp] theorem on_throw (failure : Failure) (s : σ) :
    (throw failure : Action σ α).on s = (.error failure, s) := rfl

theorem on_bind (action : Action σ α) (next : α → Action σ β) (s : σ) :
    (action >>= next).on s =
      match action.on s with
      | (.ok a, s') => (next a).on s'
      | (.error failure, s') => (.error failure, s') := by
  change (ExceptT.bindCont next (action.on s).1 : StateM σ (Except Failure β)) (action.on s).2 = _
  cases action.on s with
  | mk result s' => cases result <;> rfl

theorem on_annotate (step : String) (action : Action σ α) (s : σ) :
    (annotate step action).on s =
      match action.on s with
      | (.ok a, s') => (.ok a, s')
      | (.error failure, s') => (.error (.context step failure), s') := rfl

@[simp] theorem on_attempt (action : Action σ α) (s : σ) :
    (attempt action).on s = (.ok (action.on s).1, (action.on s).2) := rfl

@[simp] theorem on_zoom (get : σ → κ) (put : κ → σ → σ) (action : Action κ α) (s : σ) :
    (zoom get put action).on s = ((action.on (get s)).1, put (action.on (get s)).2 s) := rfl

end Action

/-- How a body ended. -/
inductive Ending (α : Type) where
  /-- With a value. -/
  | value (a : α)
  /-- With a failure. -/
  | failed (failure : Failure)
  /-- By a panic. -/
  | panicked
  deriving Repr

/-- The ending of an action. -/
def Ending.ofExcept {α : Type} : Except Failure α → Ending α
  | .ok a => .value a
  | .error failure => .failed failure

end WorkloadNet
