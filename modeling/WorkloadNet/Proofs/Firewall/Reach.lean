import Mathlib.Logic.Relation
import WorkloadNet.Proofs.Firewall.Handles
import WorkloadNet.Session.Dry

/-!
# The stores that are reached

A store is changed by the operations of a packet filter and by injections of failures; `Reaches` is
any number of these moves. Whatever the engine does is made of operations of the store, so it reaches
no other stores.
-/

namespace WorkloadNet.Firewall.Store

open WorkloadNet.Action

variable {s s' : Store}

/-! ## Moves -/

/-- A move of a store: an operation of the packet filter, or a step that only a store has. -/
inductive Move : Store → Store → Prop
  | filter (step : Session.FilterStep) (s : Store) : Move s ((step.run backend).on s).2
  | extra (step : Session.StoreStep) (s : Store) : Move s (step.run.on s).2

/-- Any number of moves. -/
def Reaches : Store → Store → Prop := Relation.ReflTransGen Move

theorem ends_silent {action : Action Store Unit} {P : Store → Prop}
    (h : Ends action s (fun _ => P) (fun _ => P)) :
    Ends (Session.silent action) s (fun _ => P) (fun _ => P) :=
  Ends.bind h fun _ _ hP => ends_pure hP

theorem evolves_spend (op : StoreOp) : Evolves s (s.spend op) := evolves_of_tables rfl (Nat.le_refl _)

/-- Every operation of a packet filter leaves an evolved store, whichever way it ends. -/
theorem evolves_filter (step : Session.FilterStep) (s : Store) :
    Ends (step.run backend) s (fun _ => Evolves s) (fun _ => Evolves s) := by
  cases step with
  | tables =>
    refine Ends.bind (P := fun _ => Evolves s) (ends_listTables ?_ ?_) fun _ _ h => ends_pure h
    · exact fun _ => evolves_spend _
    · exact fun _ => .refl s
  | chains table =>
    refine Ends.bind (P := fun _ => Evolves s) (ends_listChains ?_ ?_) fun _ _ h => ends_pure h
    · exact fun _ => evolves_spend _
    · exact fun _ _ => .refl s
  | createTable table =>
    exact ends_silent (ends_createTable (fun _ => evolves_spend _) evolves_createTable)
  | createChain table request =>
    refine ends_silent (ends_createChain (fun _ => evolves_spend _) ?_ ?_ ?_)
    · exact fun _ => .refl s
    · exact fun _ => .refl s
    · exact fun chains htable hnew => evolves_withChain htable hnew rfl
  | appendRule table rule =>
    refine ends_silent (ends_appendRule (fun _ => evolves_spend _) ?_ ?_ ?_)
    · exact fun _ _ _ => evolves_of_tables rfl (Nat.le_refl _)
    · exact fun _ _ => evolves_of_tables rfl (Nat.le_succ _)
    · exact fun _ _ _ => evolves_withRules rfl (Nat.le_succ _) fun c hc => hc.append _
  | listRules table chain =>
    refine Ends.bind (P := fun _ => Evolves s) (ends_listRules ?_ ?_ ?_) fun _ _ h => ends_pure h
    · exact fun _ => evolves_spend _
    · exact fun _ _ => .refl s
    · exact fun _ _ => .refl s
  | deleteRule table chain handle =>
    refine ends_silent (ends_deleteRule (fun _ => evolves_spend _) ?_ ?_)
    · exact fun _ _ => .refl s
    · exact fun _ _ _ => evolves_withRules rfl (Nat.le_refl _) fun c hc => hc.eraseP _

/-- So does every operation that only stores have. -/
theorem evolves_extra (step : Session.StoreStep) (s : Store) : Evolves s (step.run.on s).2 := by
  cases step <;> exact evolves_of_tables rfl (Nat.le_refl _)

/-- Stores evolve along every run. -/
theorem Reaches.evolves (h : Reaches s s') : Evolves s s' := by
  induction h with
  | refl => exact .refl s
  | tail _ hmove ih =>
    refine ih.trans ?_
    cases hmove with
    | filter step => exact ends_state (evolves_filter step _)
    | extra step => exact evolves_extra step _

/-- Every store that is reached from the empty one is well-formed. -/
theorem wellFormed_of_reaches (h : Reaches empty s) : s.WellFormed :=
  h.evolves.wellFormed wellFormed_empty

/-! ## The engine -/

section Engine

variable {α β : Type}

/-- An action that is made of operations of the store. -/
def Stepwise (action : Action Store α) : Prop := ∀ s, Reaches s (action.on s).2

theorem stepwise_pure (a : α) : Stepwise (pure a) := fun _ => .refl

theorem stepwise_fail (failure : Failure) : Stepwise (fail failure : Action Store α) := fun _ => .refl

theorem stepwise_ofExcept (result : Except Failure α) : Stepwise (Action.ofExcept result) := by
  intro s
  rw [on_ofExcept]
  exact .refl

/-- Two actions made of operations of the store make another one. -/
theorem Stepwise.bind {action : Action Store α} {next : α → Action Store β} (h : Stepwise action)
    (hnext : ∀ a, Stepwise (next a)) : Stepwise (action >>= next) := by
  intro s
  have hfirst := h s
  rw [on_bind]
  rcases hon : action.on s with ⟨result, s₁⟩
  rw [hon] at hfirst
  cases result with
  | ok a => exact hfirst.trans (hnext a s₁)
  | error _ => exact hfirst

theorem Stepwise.annotate {action : Action Store α} {step : String} (h : Stepwise action) :
    Stepwise (action.annotate step) := by
  intro s
  have hfirst := h s
  rw [on_annotate]
  rcases hon : action.on s with ⟨result, s₁⟩
  rw [hon] at hfirst
  cases result <;> exact hfirst

theorem Stepwise.attempt {action : Action Store α} (h : Stepwise action) :
    Stepwise action.attempt := h

/-- The answer of a step is a function of what its operation answers. -/
theorem Stepwise.of_filter {action : Action Store α} {f : α → Session.Value}
    (step : Session.FilterStep) (h : step.run backend = action >>= fun a => pure (f a)) :
    Stepwise action := by
  intro s
  have hmove := Move.filter step s
  rw [h, on_bind] at hmove
  rcases hon : action.on s with ⟨result, s₁⟩
  rw [hon] at hmove
  cases result <;> exact .single hmove

theorem stepwise_tables : Stepwise backend.tables := .of_filter .tables rfl

theorem stepwise_chains (table : TableSpec) : Stepwise (backend.chains table) :=
  .of_filter (.chains table) rfl

theorem stepwise_createTable (table : TableSpec) : Stepwise (backend.createTable table) :=
  .of_filter (.createTable table) rfl

theorem stepwise_createChain (table : TableSpec) (request : ChainRequest) :
    Stepwise (backend.createChain table request) := .of_filter (.createChain table request) rfl

theorem stepwise_appendRule (table : TableSpec) (rule : Rule) :
    Stepwise (backend.appendRule table rule) := .of_filter (.appendRule table rule) rfl

theorem stepwise_rules (table : TableSpec) (name : String) : Stepwise (backend.rules table name) :=
  .of_filter (.listRules table name) rfl

theorem stepwise_deleteRule (table : TableSpec) (name : String) (handle : Nat) :
    Stepwise (backend.deleteRule table name handle) := .of_filter (.deleteRule table name handle) rfl

theorem stepwise_findTable (name : String) : Stepwise (backend.findTable name) := by
  refine Stepwise.bind stepwise_tables fun tables => ?_
  split
  · exact stepwise_pure _
  · exact stepwise_fail _

theorem stepwise_findInstalled (table : TableSpec) (rule : Rule) :
    Stepwise (backend.findInstalled table rule) :=
  Stepwise.bind (stepwise_rules _ _) fun _ => stepwise_pure _

theorem stepwise_newChain (request : ChainRequest) : Stepwise (backend.newChain request) := by
  have hrest : Stepwise (do
      let table ← backend.findTable request.table
      if request.name ∈ (← backend.chains table) then return table
      if ¬ request.create then
        Action.fail (.notFound "chain" s!"{request.name} in table {request.table}")
      backend.createChain table request
      return table) := by
    refine Stepwise.bind (stepwise_findTable _) fun table => ?_
    refine Stepwise.bind (stepwise_chains _) fun names => ?_
    have hcreate : Stepwise (backend.createChain table request >>= fun _ => pure table) :=
      Stepwise.bind (stepwise_createChain _ _) fun _ => stepwise_pure _
    dsimp only
    split
    · exact stepwise_pure _
    · split
      · exact Stepwise.bind (stepwise_fail _) fun _ => hcreate
      · exact hcreate
  unfold Backend.newChain
  dsimp only
  split
  · exact Stepwise.bind (stepwise_fail _) fun _ => hrest
  · exact hrest

/-- Chains are created by operations of the store, one after the other. -/
theorem stepwise_newChains (requests : List ChainRequest) :
    Stepwise (backend.newChains requests) := by
  induction requests with
  | nil => exact stepwise_pure _
  | cons request rest ih => exact Stepwise.bind (stepwise_newChain request) fun _ => ih

/-- So are tables with their chains. -/
theorem stepwise_ensureTable (request : TableRequest) : Stepwise (backend.ensureTable request) := by
  refine Stepwise.bind stepwise_tables fun tables => ?_
  dsimp only
  split
  · exact Stepwise.bind (stepwise_createTable _) fun _ => stepwise_newChains _
  · exact stepwise_newChains _

theorem stepwise_ensureStandardTables : Stepwise backend.ensureStandardTables :=
  Stepwise.bind (stepwise_ensureTable _) fun _ => stepwise_ensureTable _

theorem stepwise_addJumpRule (source target table : String) :
    Stepwise (backend.addJumpRule source target table) := by
  refine Stepwise.bind (stepwise_newChain _) fun spec => ?_
  refine Stepwise.bind (stepwise_newChain _) fun _ => ?_
  refine Stepwise.bind (stepwise_findInstalled _ _) fun found => ?_
  split
  · exact stepwise_appendRule _ _
  · exact stepwise_pure _

theorem stepwise_addRule (rule : Rule) : Stepwise (backend.addRule rule) :=
  Stepwise.bind (stepwise_findTable _) fun _ => Stepwise.annotate (stepwise_appendRule _ _)

/-- Rules are added by operations of the store. -/
theorem stepwise_addAll (rules : List Rule) : Stepwise (backend.addAll rules) := by
  induction rules with
  | nil => exact stepwise_pure _
  | cons rule rest ih => exact Stepwise.bind (stepwise_addRule rule) fun _ => ih

theorem stepwise_removeRule (rule : Rule) : Stepwise (backend.removeRule rule) := by
  refine Stepwise.bind (Stepwise.attempt (stepwise_findTable _)) fun result => ?_
  split
  · refine Stepwise.bind (stepwise_findInstalled _ _) fun found => ?_
    split
    · exact Stepwise.annotate (stepwise_deleteRule _ _ _)
    · exact stepwise_pure _
  · split
    · exact stepwise_pure _
    · exact stepwise_fail _

/-- And they are removed by such operations. -/
theorem stepwise_removeAll (rules : List Rule) : Stepwise (backend.removeAll rules) := by
  induction rules with
  | nil => exact stepwise_pure _
  | cons rule rest ih => exact Stepwise.bind (stepwise_removeRule rule) fun _ => ih

theorem stepwise_prepareBridgeChains (mark : String) :
    Stepwise (backend.prepareBridgeChains mark) :=
  Stepwise.bind stepwise_ensureStandardTables fun _ =>
    Stepwise.bind (stepwise_addJumpRule _ _ _) fun _ => stepwise_addJumpRule _ _ _

theorem stepwise_detachBridge (hostIf : Option String) (bridge mark : String) :
    Stepwise (backend.detachBridge hostIf bridge mark) := by
  unfold Backend.detachBridge
  split
  · exact stepwise_pure _
  · exact Stepwise.bind (stepwise_ofExcept _) fun set => stepwise_removeAll set.rules

/-- A bridge is attached by operations of the store. -/
theorem stepwise_attachBridge (hostIf : Option String) (bridge mark : String) :
    Stepwise (backend.attachBridge hostIf bridge mark) := by
  unfold Backend.attachBridge
  split
  · exact stepwise_pure _
  · exact Stepwise.bind (stepwise_ofExcept _) fun set => stepwise_addAll set.rules

theorem stepwise_silent {action : Action Store Unit} (h : Stepwise action) :
    Stepwise (Session.silent action) := Stepwise.bind h fun _ => stepwise_pure _

/-- Sessions that use the engine reach no other stores than those that use the operations. -/
theorem stepwise_engine (step : Session.EngineStep) : Stepwise (step.run backend) := by
  cases step with
  | ensureStandardTables => exact stepwise_silent stepwise_ensureStandardTables
  | ensureTable request => exact stepwise_silent (stepwise_ensureTable request)
  | newChain request => exact Stepwise.bind (stepwise_newChain request) fun _ => stepwise_pure _
  | addJumpRule source target table =>
    exact stepwise_silent (stepwise_addJumpRule source target table)
  | addRules rules =>
    exact Stepwise.bind (stepwise_ofExcept _) fun set => stepwise_silent (stepwise_addAll set.rules)
  | removeRules rules =>
    exact Stepwise.bind (stepwise_ofExcept _) fun set =>
      stepwise_silent (stepwise_removeAll set.rules)
  | configureBridge bridge hostIf mark =>
    refine stepwise_silent (Stepwise.bind (stepwise_prepareBridgeChains mark) fun _ => ?_)
    exact Stepwise.bind (stepwise_ofExcept _) fun set => stepwise_addAll set.rules
  | switchHostInterface old new bridge mark =>
    refine stepwise_silent (Stepwise.bind (stepwise_prepareBridgeChains mark) fun _ => ?_)
    exact Stepwise.bind (stepwise_detachBridge _ _ _) fun _ => stepwise_attachBridge _ _ _

end Engine

end WorkloadNet.Firewall.Store
