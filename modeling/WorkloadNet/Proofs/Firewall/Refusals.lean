import WorkloadNet.Proofs.Firewall.Reach
import WorkloadNet.Proofs.Firewall.Journal
import WorkloadNet.Proofs.Firewall.Standard

/-!
# Operations that refuse their settings

A failure about a setting is raised by the engine before it calls the packet filter for the thing
that the setting belongs to; the packet filter itself never raises one. So an operation that checks
its settings first changes nothing when it refuses them. Two kinds of operation check later: a list
of chains is checked one by one, each when its turn comes, and the rules of a bridge are checked
when their chains have been prepared. For these the exact condition is here under which nothing has
changed.
-/

namespace WorkloadNet

/-- Whether the failure, or the one it annotates, is about a setting. -/
def Failure.isConfiguration : Failure → Bool
  | .config _ => true
  | .context _ cause => cause.isConfiguration
  | _ => false

namespace Firewall.Store

open WorkloadNet.Action

variable {s s' : Store} {α β : Type}

/-! ## Actions that raise no failure about a setting -/

/-- An action that never fails on account of a setting. -/
def Unrefusing (action : Action Store α) : Prop :=
  ∀ s, Ends action s (fun _ _ => True) (fun failure _ => failure.isConfiguration = false)

theorem unrefusing_pure (a : α) : Unrefusing (pure a) := fun _ => trivial

theorem unrefusing_fail {failure : Failure} (h : failure.isConfiguration = false) :
    Unrefusing (fail failure : Action Store α) := fun _ => h

/-- Two actions that refuse no setting refuse none one after the other. -/
theorem Unrefusing.bind {action : Action Store α} {next : α → Action Store β} (h : Unrefusing action)
    (hnext : ∀ a, Unrefusing (next a)) : Unrefusing (action >>= next) :=
  fun s => Ends.bind (h s) fun a s' _ => hnext a s'

theorem Unrefusing.annotate {action : Action Store α} {step : String} (h : Unrefusing action) :
    Unrefusing (action.annotate step) := fun s => Ends.annotate (h s)

theorem Unrefusing.of_error {action : Action Store α} {failure : Failure} (h : Unrefusing action)
    (hon : action.on s = (.error failure, s')) : failure.isConfiguration = false :=
  (h s).of_error hon

/-! ### The packet filter -/

/-- An injected failure is not about a setting. -/
theorem unrefusing_takeFailure (op : StoreOp) : Unrefusing (takeFailure op) := by
  intro s
  unfold Ends
  rw [on_takeFailure]
  by_cases h : op ∈ s.pending
  · rw [if_pos h]
    rfl
  · rw [if_neg h]
    trivial

theorem unrefusing_get : Unrefusing (get : Action Store Store) := fun _ => trivial

theorem unrefusing_modify (f : Store → Store) : Unrefusing (modify f : Action Store PUnit) :=
  fun _ => trivial

theorem unrefusing_chainsOf (table : TableSpec) : Unrefusing (chainsOf table) := by
  refine Unrefusing.bind unrefusing_get fun s => ?_
  split
  · exact unrefusing_pure _
  · exact unrefusing_fail rfl

theorem unrefusing_chain (table : TableSpec) (name : String) : Unrefusing (chain table name) := by
  refine Unrefusing.bind (unrefusing_chainsOf table) fun chains => ?_
  split
  · exact unrefusing_pure _
  · exact unrefusing_fail rfl

theorem unrefusing_countAppend : Unrefusing countAppend := by
  intro s
  unfold countAppend Ends
  rw [on_of]
  cases s.appendCountdown with
  | none => trivial
  | some n =>
    by_cases hn : n ≤ 1
    · simp only [hn, if_true]
      rfl
    · simp only [hn, if_false]

theorem unrefusing_tables : Unrefusing backend.tables :=
  Unrefusing.bind (unrefusing_takeFailure _) fun _ =>
    Unrefusing.bind unrefusing_get fun _ => unrefusing_pure _

theorem unrefusing_chains (table : TableSpec) : Unrefusing (backend.chains table) :=
  Unrefusing.bind (unrefusing_takeFailure _) fun _ =>
    Unrefusing.bind unrefusing_get fun _ => unrefusing_pure _

theorem unrefusing_createTable (table : TableSpec) : Unrefusing (backend.createTable table) :=
  Unrefusing.bind (unrefusing_takeFailure _) fun _ => unrefusing_modify _

/-- Creating a chain fails in several ways, none of them on account of a setting. -/
theorem unrefusing_createChain (table : TableSpec) (request : ChainRequest) :
    Unrefusing (backend.createChain table request) := by
  refine Unrefusing.bind (unrefusing_takeFailure _) fun _ => ?_
  refine Unrefusing.bind (unrefusing_chainsOf table) fun chains => ?_
  split
  · exact unrefusing_modify _
  · exact unrefusing_pure _

theorem unrefusing_appendRule (table : TableSpec) (rule : Rule) :
    Unrefusing (backend.appendRule table rule) := by
  refine Unrefusing.bind (unrefusing_takeFailure _) fun _ => ?_
  refine Unrefusing.bind unrefusing_countAppend fun _ => ?_
  refine Unrefusing.bind (fun _ => trivial) fun handle => ?_
  exact Unrefusing.bind (unrefusing_chain table _) fun _ => unrefusing_modify _

theorem unrefusing_rules (table : TableSpec) (name : String) :
    Unrefusing (backend.rules table name) :=
  Unrefusing.bind (unrefusing_takeFailure _) fun _ =>
    Unrefusing.bind (unrefusing_chain table name) fun _ => unrefusing_pure _

theorem unrefusing_deleteRule (table : TableSpec) (name : String) (handle : Nat) :
    Unrefusing (backend.deleteRule table name handle) := by
  refine Unrefusing.bind (unrefusing_takeFailure _) fun _ => ?_
  refine Unrefusing.bind (unrefusing_chain table name) fun chain => ?_
  dsimp only
  split
  · exact Unrefusing.bind (unrefusing_fail rfl) fun _ => unrefusing_modify _
  · exact unrefusing_modify _

/-! ### The engine -/

theorem unrefusing_findTable (name : String) : Unrefusing (backend.findTable name) := by
  refine Unrefusing.bind unrefusing_tables fun tables => ?_
  split
  · exact unrefusing_pure _
  · exact unrefusing_fail rfl

theorem unrefusing_findInstalled (table : TableSpec) (rule : Rule) :
    Unrefusing (backend.findInstalled table rule) :=
  Unrefusing.bind (unrefusing_rules _ _) fun _ => unrefusing_pure _

/-- Adding rules refuses no setting. -/
theorem unrefusing_addAll (rules : List Rule) : Unrefusing (backend.addAll rules) := by
  induction rules with
  | nil => exact unrefusing_pure _
  | cons rule rest ih =>
    refine Unrefusing.bind ?_ fun _ => ih
    exact Unrefusing.bind (unrefusing_findTable _) fun _ =>
      Unrefusing.annotate (unrefusing_appendRule _ _)

theorem unrefusing_removeRule (rule : Rule) : Unrefusing (backend.removeRule rule) := by
  have hremove : ∀ table, Unrefusing (backend.removeFrom table rule) := by
    intro table
    refine Unrefusing.bind (unrefusing_findInstalled table rule) fun found => ?_
    split
    · exact Unrefusing.annotate (unrefusing_deleteRule _ _ _)
    · exact unrefusing_pure _
  exact fun s => ends_searched (fun _ => rfl) (fun _ => trivial) fun table _ _ => hremove table s

/-- Neither does removing them. -/
theorem unrefusing_removeAll (rules : List Rule) : Unrefusing (backend.removeAll rules) := by
  induction rules with
  | nil => exact unrefusing_pure _
  | cons rule rest ih => exact Unrefusing.bind (unrefusing_removeRule rule) fun _ => ih

/-! ## Chains -/

/-- A request with the names of a chain and a table. -/
def Named (request : ChainRequest) : Prop := ¬ (request.name = "" ∨ request.table = "")

instance (request : ChainRequest) : Decidable (Named request) :=
  inferInstanceAs (Decidable (¬ _))

/-- Only the names of a request are refused, and before anything is done. -/
theorem newChain_refuses {request : ChainRequest} :
    Ends (backend.newChain request) s (fun _ _ => Named request)
      (fun failure s' => failure.isConfiguration → s' = s ∧ ¬ Named request) := by
  have hrest : Unrefusing (do
      let table ← backend.findTable request.table
      if request.name ∈ (← backend.chains table) then return table
      if ¬ request.create then
        Action.fail (.notFound "chain" s!"{request.name} in table {request.table}")
      backend.createChain table request
      return table) := by
    refine Unrefusing.bind (unrefusing_findTable _) fun table => ?_
    refine Unrefusing.bind (unrefusing_chains table) fun names => ?_
    have hcreate : Unrefusing (backend.createChain table request >>= fun _ => pure table) :=
      Unrefusing.bind (unrefusing_createChain _ _) fun _ => unrefusing_pure _
    dsimp only
    split
    · exact unrefusing_pure _
    · split
      · exact Unrefusing.bind (unrefusing_fail rfl) fun _ => hcreate
      · exact hcreate
  unfold Backend.newChain
  dsimp only
  split
  · rename_i hunnamed
    exact fun _ => ⟨rfl, fun hnamed => hnamed hunnamed⟩
  · rename_i hnamed
    refine Ends.mono (hrest s) (fun _ _ _ => hnamed) fun failure _ h hconfig => ?_
    rw [h] at hconfig
    cases hconfig

theorem not_configuration {failure : Failure} {P : Prop} (h : failure.isConfiguration = false) :
    failure.isConfiguration → P := by
  intro hconfig
  rw [h] at hconfig
  cases hconfig

theorem chain?_eq_none_of_new {request : ChainRequest} {table : TableSpec}
    {chains : List StoredChain} (htable : s.tables[table]? = some chains)
    (hnew : ∀ c ∈ chains, c.name ≠ request.name) : s.chain? table request.name = none := by
  unfold chain?
  rw [htable, Option.bind_some, List.find?_eq_none]
  exact fun c hc => by simpa using hnew c hc

theorem chain?_of_tables (h : s'.tables = s.tables) (table : TableSpec) (name : String) :
    s'.chain? table name = s.chain? table name := by
  unfold chain?
  rw [h]

/-- A list of chains is refused at the first request without names. Nothing has changed by then exactly
if the chains before it were there already. -/
theorem newChains_refuses (requests : List ChainRequest) :
    Ends (backend.newChains requests) s (fun _ _ => True)
      (fun failure s' => failure.isConfiguration → Evolves s s' ∧
        (s'.tables = s.tables ↔ ∀ request ∈ requests.takeWhile Named, Present s request)) := by
  induction requests generalizing s with
  | nil => exact ends_pure trivial
  | cons request rest ih =>
    refine Ends.bind (Ends.mono (Ends.and ends_newChain newChain_refuses) (fun _ _ h => h) ?_) ?_
    · intro failure s' h hconfig
      obtain ⟨rfl, hunnamed⟩ := h.2 hconfig
      refine ⟨.refl s', fun _ r hr => ?_, fun _ => rfl⟩
      rw [List.takeWhile_cons_of_neg (by simpa using hunnamed)] at hr
      cases hr
    · rintro table s₁ ⟨⟨hhome, hensured⟩, hnamed⟩
      have hwhile : (request :: rest).takeWhile Named = request :: rest.takeWhile Named :=
        List.takeWhile_cons_of_pos (by simpa using hnamed)
      refine Ends.mono (ih (s := s₁)) (fun _ _ h => h) fun failure s' h hconfig => ?_
      obtain ⟨hevolves, hiff⟩ := h hconfig
      refine ⟨hensured.evolves.trans hevolves, ?_⟩
      rw [hwhile, List.forall_mem_cons]
      have hchain := hevolves.chains _ _ hensured.chain
      cases hensured with
      | found hthere => rw [hiff, and_iff_right ⟨table, hhome, hthere⟩]
      | created hcreate htable hnew =>
        have hmissing := chain?_eq_none_of_new htable hnew
        refine iff_of_false (fun htables => ?_) fun ⟨⟨other, hother, hthere⟩, _⟩ => ?_
        · rw [chain?_of_tables htables, hmissing] at hchain
          cases hchain
        · obtain rfl := Option.some.inj (hhome.symm.trans hother)
          rw [hmissing] at hthere
          cases hthere

/-- A table is created before its chains are looked at. -/
theorem ensureTable_refuses (request : TableRequest) :
    Ends (backend.ensureTable request) s (fun _ _ => True)
      (fun failure s' => failure.isConfiguration → (s'.tables = s.tables ↔
        request.spec ∈ s.tables ∧ ∀ chain ∈ request.chains.takeWhile Named, Present s chain)) := by
  refine Ends.bind (P := fun tables s₁ => s = s₁ ∧ tables = s.tables.keys)
    (ends_listTables (fun _ => not_configuration rfl) fun _ => ⟨rfl, rfl⟩) ?_
  rintro _ _ ⟨rfl, rfl⟩
  dsimp only
  split
  · rename_i hmissing
    have hmissing : request.spec ∉ s.tables := by simpa using hmissing
    refine Ends.bind (P := fun _ s₁ => request.spec ∈ s₁.tables)
      (ends_createTable (fun _ => not_configuration rfl) Std.ExtTreeMap.mem_insertIfNew_self) ?_
    intro _ s₁ hmem
    refine Ends.mono (newChains_refuses request.chains) (fun _ _ h => h) fun failure s' h hconfig => ?_
    have hstays := (h hconfig).1.tables _ hmem
    refine iff_of_false (fun htables => ?_) fun hthere => hmissing hthere.1
    rw [htables] at hstays
    exact hmissing hstays
  · rename_i hthere
    have hthere : request.spec ∈ s.tables := by simpa using hthere
    refine Ends.mono (newChains_refuses request.chains) (fun _ _ h => h) fun failure s' h hconfig => ?_
    rw [(h hconfig).2, and_iff_right hthere]

/-- A chain that has to exist is not created. -/
theorem Ensured.eq_of_existing {source name : String} {table : TableSpec}
    (h : Ensured (.existing source name) table s s') : s' = s := by
  cases h with
  | found _ => rfl
  | created hcreate _ _ => cases hcreate

/-- The names of a jump are checked before the target is created. -/
theorem addJumpRule_refuses (source target table : String) :
    Ends (backend.addJumpRule source target table) s (fun _ _ => True)
      (fun failure s' => failure.isConfiguration →
        s' = s ∧ ¬ (source ≠ "" ∧ target ≠ "" ∧ table ≠ "")) := by
  refine Ends.bind (Ends.mono (Ends.and ends_newChain newChain_refuses)
    (fun _ s₁ h => h.1.2.eq_of_existing) fun _ _ h hconfig => ?_) ?_
  · refine ⟨(h.2 hconfig).1, fun ⟨hsource, _, htable⟩ => (h.2 hconfig).2 ?_⟩
    exact not_or.2 ⟨hsource, htable⟩
  rintro spec s₁ rfl
  refine Ends.bind (Ends.mono newChain_refuses (fun _ _ _ => trivial)
    fun _ _ h hconfig => ?_) ?_
  · refine ⟨(h hconfig).1, fun ⟨_, htarget, htable⟩ => (h hconfig).2 ?_⟩
    exact not_or.2 ⟨htarget, htable⟩
  intro _ s₂ _
  have hrest : Unrefusing (do
      if (← backend.findInstalled spec (Rule.jump source target table)).isNone then
        backend.appendRule spec (Rule.jump source target table)) := by
    refine Unrefusing.bind (unrefusing_findInstalled _ _) fun found => ?_
    split
    · exact unrefusing_appendRule _ _
    · exact unrefusing_pure _
  exact Ends.mono (hrest s₂) (fun _ _ h => h) fun _ _ h => not_configuration h

/-- The standard tables have names throughout. -/
theorem unrefusing_ensureStandardTables : Unrefusing backend.ensureStandardTables := by
  have hensure : ∀ request : TableRequest, (∀ chain ∈ request.chains, Named chain) →
      Unrefusing (backend.ensureTable request) := by
    intro request hnamed
    have hchains : ∀ chains : List ChainRequest, (∀ chain ∈ chains, Named chain) →
        Unrefusing (backend.newChains chains) := by
      intro chains hchains
      induction chains with
      | nil => exact unrefusing_pure _
      | cons chain rest ih =>
        refine Unrefusing.bind (fun s => ?_) fun _ =>
          ih fun later hlater => hchains later (List.mem_cons_of_mem _ hlater)
        refine Ends.mono newChain_refuses (fun _ _ _ => trivial) fun failure _ h => ?_
        by_contra hconfig
        exact (h (by simpa using hconfig)).2 (hchains chain List.mem_cons_self)
    refine Unrefusing.bind unrefusing_tables fun tables => ?_
    dsimp only
    split
    · exact Unrefusing.bind (unrefusing_createTable _) fun _ => hchains _ hnamed
    · exact hchains _ hnamed
  exact Unrefusing.bind (hensure _ (by decide)) fun _ => hensure _ (by decide)

end Firewall.Store

end WorkloadNet
