import WorkloadNet.Proofs.Firewall.Grounds
import WorkloadNet.Proofs.Network.Refusals
import WorkloadNet.Proofs.Nft.Simulation

/-!
# The packet filter tool and the packet filter in memory

What is found out with a packet filter in memory holds of the packet filter tool: a list of
operations that goes through the standard tables, through bridges and through networks has the same
results over both, and after each operation both hold the same tables, chains and comments. The
tool is any one that keeps what it is given.

The operations left out are those on tables and on lists of rules at will. With them, a chain can
be missing in a table that is there, and then a removal fails over the store and does nothing over
the tool.
-/

namespace WorkloadNet.Network

open WorkloadNet.Action Firewall Nft Store

variable {σ τ : Type} {tool : Tool τ} {shown : τ → List Listed} {beyond : τ → Prop}
variable {t : τ} {s : Store}

/-! ## Runs of operations -/

namespace Operation

/-- Runs operations one after another, whatever fails: each result with the state after it. -/
def trace (fw : Backend σ) : List Operation → σ → List (Session.Result × σ)
  | [], _ => []
  | op :: rest, s => (op.run fw).on s :: trace fw rest ((op.run fw).on s).2

/-- An operation on the standard tables, on chains and jumps, on a bridge or on a network. -/
def IsStandard : Operation → Prop
  | engine (.ensureTable _) => False
  | engine (.addRules _) => False
  | engine (.removeRules _) => False
  | _ => True

end Operation

/-! ## What an operation leaves in the store -/

theorem stepwise_operation (op : Operation) : Stepwise (op.run Store.backend) := by
  cases op with
  | engine step => exact stepwise_engine step
  | connect net hostIf => exact stepwise_silent (stepwise_connect net hostIf)
  | disconnect net hostIf => exact stepwise_silent (stepwise_disconnect net hostIf)

theorem grounded_operation {op : Operation} (hop : op.IsStandard) (h : Grounded s) :
    Grounded ((op.run Store.backend).on s).2 := by
  rcases h with rfl | hstanding
  · have hstays : ∀ {action : Action Store Session.Value},
        Ends action empty (fun _ s' => s' = empty) (fun _ s' => s' = empty) →
          Grounded (action.on empty).2 := fun hends => Or.inl (ends_state hends)
    have hgrows : ∀ {action : Action Store Session.Value},
        Ends action empty (fun _ => Standing) (fun _ => Standing) →
          Grounded (action.on empty).2 := fun hends => Or.inr (ends_state hends)
    cases op with
    | connect net hostIf =>
      exact hstays (ends_silent (ends_uplink (fun _ => rfl) (fun _ _ => rfl)
        fun _ => ends_addAll_empty _))
    | disconnect net hostIf =>
      exact hstays (ends_silent (ends_uplink (fun _ => rfl) (fun _ _ => rfl)
        fun _ => ends_removeAll_empty _))
    | engine step =>
      cases step with
      | ensureStandardTables => exact hgrows (ends_silent ends_ensureStandardTables_empty)
      | newChain request =>
        exact hstays (Ends.bind (ends_newChain_empty request) fun _ _ hfalse => hfalse.elim)
      | addJumpRule source target table =>
        exact hstays (Ends.bind (ends_addJumpRule_empty _ _ _) fun _ _ hfalse => hfalse.elim)
      | configureBridge bridge hostIf mark =>
        refine hgrows (ends_silent (Ends.bind (ends_prepareBridgeChains_empty mark)
          fun _ s₁ hs₁ => ends_standing ?_ hs₁))
        exact Stepwise.bind (stepwise_ofExcept _) fun set => stepwise_addAll set.rules
      | switchHostInterface old new bridge mark =>
        refine hgrows (ends_silent (Ends.bind (ends_prepareBridgeChains_empty mark)
          fun _ s₁ hs₁ => ends_standing ?_ hs₁))
        exact Stepwise.bind (stepwise_detachBridge _ _ _) fun _ => stepwise_attachBridge _ _ _
      | ensureTable request => cases hop
      | addRules rules => cases hop
      | removeRules rules => cases hop
  · exact Or.inr (hstanding.evolves (stepwise_operation op s).evolves)

/-- The rules of a network belong to standard chains, or to no table at all. -/
theorem findable_uplink {net : Network} {hostIf : String} (hgrounded : Grounded s) :
    ∀ rule ∈ net.uplinkRuleList hostIf, s.Findable rule := by
  intro rule hrule
  rcases hgrounded with rfl | hstanding
  · intro table hhome
    rw [home_empty] at hhome
    cases hhome
  · have hforward : s.home filterTable = some standardFilter.spec ∧
        (s.chain? standardFilter.spec forwardChain).isSome :=
      ⟨hstanding.carries.home_filter, hstanding.carries.forward⟩
    simp only [uplinkRuleList, List.mem_cons, List.not_mem_nil, or_false] at hrule
    rcases hrule with rfl | rfl | rfl
    · exact Housed.findable ⟨_, hforward⟩
    · exact Housed.findable ⟨_, hforward⟩
    · exact Housed.findable ⟨_, hstanding.carries.home_nat, hstanding.carries.postrouting⟩

/-! ## Operations over a tool and over a store -/

/-- A list of rules is checked the same way over both. -/
theorem alike_checked {α : Type} {rules : List Rule} {next : RuleSet → Action τ α}
    {next' : RuleSet → Action Store α} {Q : α → α → τ → Store → Prop}
    (h : Mirrors (shown t) s)
    (hnext : ∀ set, set.rules = rules →
      Alike (Mirrored shown) beyond (next set) (next' set) t s Q) :
    Alike (Mirrored shown) beyond (Action.ofExcept (RuleSet.ofList rules) >>= next)
      (Action.ofExcept (RuleSet.ofList rules) >>= next') t s Q := by
  refine Alike.bind (Q := fun set set' t' s' => set = set' ∧ set.rules = rules ∧ t = t' ∧ s = s')
    (alike_ofExcept h fun set hset => ⟨rfl, RuleSet.rules_of_ofList hset, rfl, rfl⟩) ?_
  rintro set _ _ _ ⟨rfl, hrules, rfl, rfl⟩
  exact hnext set hrules

theorem alike_silent {a : Action τ Unit} {b : Action Store Unit}
    (hab : Alike (Mirrored shown) beyond a b t s fun _ _ t' s' => Mirrors (shown t') s') :
    Alike (Mirrored shown) beyond (Session.silent a) (Session.silent b) t s
      (fun x y t' s' => x = y ∧ Mirrors (shown t') s') :=
  Alike.bind hab fun _ _ _ _ h => alike_pure ⟨rfl, h⟩

section Kept

variable (hkeeps : tool.Keeps shown) (h : Mirrors (shown t) s)
include hkeeps h

theorem alike_ensureStandardTables (hgrounded : Grounded s) :
    Alike (Mirrored shown) beyond tool.backend.ensureStandardTables
      Store.backend.ensureStandardTables t s (fun _ _ t' s' => Mirrors (shown t') s') := by
  refine Alike.bind (alike_ensureTable hkeeps h fun hnew => ?_).and_on ?_
  · rcases hgrounded with rfl | hstanding
    · exact fun other hother => absurd hother Std.ExtTreeMap.not_mem_empty
    · exact absurd (mem_of_chain? hstanding.carries.forward) hnew
  · rintro _ _ t₁ s₁ ⟨h₁, hon⟩
    refine alike_ensureTable hkeeps h₁ fun hnew => ?_
    have hs₁ : ((Store.backend.ensureTable standardFilter).on s).2 = s₁ := by rw [hon]
    rcases hgrounded with rfl | hstanding
    · have hkeys : ∀ other ∈ ((Store.backend.ensureTable standardFilter).on empty).2.tables.keys,
          compare other standardNat.spec = .lt := by decide +kernel
      rw [hs₁] at hkeys
      exact fun other hother => hkeys other (Std.ExtTreeMap.mem_keys.2 hother)
    · have hevolves := (stepwise_ensureTable standardFilter s).evolves
      rw [hs₁] at hevolves
      exact absurd (hevolves.tables _ (mem_of_chain? hstanding.carries.postrouting)) hnew

theorem alike_prepareBridgeChains (hgrounded : Grounded s) (mark : String) :
    Alike (Mirrored shown) beyond (tool.backend.prepareBridgeChains mark)
      (Store.backend.prepareBridgeChains mark) t s
      (fun _ _ t' s' => Mirrors (shown t') s' ∧ Prepared mark s') := by
  have halike : Alike (Mirrored shown) beyond (tool.backend.prepareBridgeChains mark)
      (Store.backend.prepareBridgeChains mark) t s (fun _ _ t' s' => Mirrors (shown t') s') := by
    refine Alike.bind (alike_ensureStandardTables hkeeps h hgrounded) fun _ _ t₁ s₁ h₁ => ?_
    refine Alike.bind (alike_addJumpRule hkeeps h₁ _ _ _) fun _ _ t₂ s₂ h₂ => ?_
    exact alike_addJumpRule hkeeps h₂ _ _ _
  exact Alike.mono (halike.and_ends ends_prepareBridgeChains) fun _ _ _ _ hboth =>
    ⟨hboth.1, hboth.2.1⟩

theorem alike_configureBridge (hgrounded : Grounded s) (bridge hostIf mark : String) :
    Alike (Mirrored shown) beyond (tool.backend.configureBridge bridge hostIf mark)
      (Store.backend.configureBridge bridge hostIf mark) t s
      (fun _ _ t' s' => Mirrors (shown t') s') := by
  refine Alike.bind (alike_prepareBridgeChains hkeeps h hgrounded mark) ?_
  rintro _ _ t₁ s₁ ⟨h₁, hprepared⟩
  refine alike_checked h₁ fun set hset => alike_addAll hkeeps set.rules h₁ ?_
  rw [hset]
  exact fun rule hrule => hprepared.findable hrule

theorem alike_switchHostInterface (hgrounded : Grounded s) (old new : Option String)
    (bridge mark : String) :
    Alike (Mirrored shown) (Overflown shown) (tool.backend.switchHostInterface old new bridge mark)
      (Store.backend.switchHostInterface old new bridge mark) t s
      (fun _ _ t' s' => Mirrors (shown t') s') := by
  refine Alike.bind (alike_prepareBridgeChains hkeeps h hgrounded mark) ?_
  rintro _ _ t₁ s₁ ⟨h₁, hprepared⟩
  refine Alike.bind (Q := fun _ _ t' s' => Mirrors (shown t') s' ∧ s'.layout = s₁.layout) ?_ ?_
  · unfold Backend.detachBridge
    split
    · exact alike_pure ⟨h₁, rfl⟩
    · refine alike_checked h₁ fun set hset => alike_removeAll hkeeps set.rules h₁ ?_
      rw [hset]
      exact fun rule hrule => hprepared.findable hrule
  · rintro _ _ t₂ s₂ ⟨h₂, hlayout⟩
    unfold Backend.attachBridge
    split
    · exact alike_pure h₂
    · refine alike_checked h₂ fun set hset => alike_addAll hkeeps set.rules h₂ ?_
      rw [hset]
      exact fun rule hrule => (findable_of_layout hlayout).2 (hprepared.findable hrule)

theorem alike_connect (hgrounded : Grounded s) (net : Network) (hostIf : String) :
    Alike (Mirrored shown) beyond (net.connect tool.backend hostIf)
      (net.connect Store.backend hostIf) t s (fun _ _ t' s' => Mirrors (shown t') s') := by
  refine Alike.bind (Q := fun _ _ t' s' => t = t' ∧ s = s')
    (alike_ofExcept h fun _ _ => ⟨rfl, rfl⟩) ?_
  rintro _ _ _ _ ⟨rfl, rfl⟩
  refine alike_checked h fun set hset => alike_addAll hkeeps set.rules h ?_
  rw [hset]
  exact findable_uplink hgrounded

theorem alike_disconnect (hgrounded : Grounded s) (net : Network) (hostIf : String) :
    Alike (Mirrored shown) (Overflown shown) (net.disconnect tool.backend hostIf)
      (net.disconnect Store.backend hostIf) t s (fun _ _ t' s' => Mirrors (shown t') s') := by
  refine Alike.bind (Q := fun _ _ t' s' => t = t' ∧ s = s')
    (alike_ofExcept h fun _ _ => ⟨rfl, rfl⟩) ?_
  rintro _ _ _ _ ⟨rfl, rfl⟩
  refine alike_checked h fun set hset => ?_
  refine Alike.mono (alike_removeAll hkeeps set.rules h ?_) fun _ _ _ _ hboth => hboth.1
  rw [hset]
  exact findable_uplink hgrounded

/-- Each operation ends alike over the tool and over the store. -/
theorem alike_operation {op : Operation} (hop : op.IsStandard) (hgrounded : Grounded s) :
    Alike (Mirrored shown) (Overflown shown) (op.run tool.backend) (op.run Store.backend) t s
      (fun x y t' s' => x = y ∧ Mirrors (shown t') s') := by
  cases op with
  | connect net hostIf => exact alike_silent (alike_connect hkeeps h hgrounded net hostIf)
  | disconnect net hostIf => exact alike_silent (alike_disconnect hkeeps h hgrounded net hostIf)
  | engine step =>
    cases step with
    | ensureStandardTables => exact alike_silent (alike_ensureStandardTables hkeeps h hgrounded)
    | newChain request =>
      refine Alike.bind (alike_newChain hkeeps h request) ?_
      rintro table _ t' s' ⟨rfl, h'⟩
      exact alike_pure ⟨rfl, h'⟩
    | addJumpRule source target table =>
      exact alike_silent (alike_addJumpRule hkeeps h source target table)
    | configureBridge bridge hostIf mark =>
      exact alike_silent (alike_configureBridge hkeeps h hgrounded bridge hostIf mark)
    | switchHostInterface old new bridge mark =>
      exact alike_silent (alike_switchHostInterface hkeeps h hgrounded old new bridge mark)
    | ensureTable request => cases hop
    | addRules rules => cases hop
    | removeRules rules => cases hop

end Kept

/-! ## Runs over a tool and over a store -/

/-- Started with nothing, the same operations have the same results over a tool that keeps what it is
given and over a store, and after each of them both hold the same tables, chains and comments. -/
theorem backends_agree (tool : Tool τ) (shown : τ → List Listed) (t : τ) (ops : List Operation)
    (hkeeps : tool.Keeps shown) (hempty : ∀ object ∈ shown t, object = .other)
    (hops : ∀ op ∈ ops, op.IsStandard)
    (hhandles : ∀ x ∈ Operation.trace tool.backend ops t, Nameable (shown x.2)) :
    List.Forall₂ (fun x y => x.1 = y.1 ∧ SameRules (shown x.2) y.2)
      (Operation.trace tool.backend ops t) (Operation.trace Store.backend ops Store.empty) := by
  have hmirrors : Mirrors (shown t) Store.empty := .empty hempty
  have hgrounded : Grounded Store.empty := Or.inl rfl
  clear hempty
  -- By induction on the operations, for any listing and store of which these two hold.
  generalize Store.empty = s at hmirrors hgrounded ⊢
  induction ops generalizing t s with
  | nil => exact .nil
  | cons op rest ih =>
    have hop := hops op List.mem_cons_self
    have hnameable := hhandles _ List.mem_cons_self
    obtain ⟨hresult, hnext⟩ :=
      (alike_operation hkeeps hmirrors hop hgrounded).agree (not_not_intro hnameable)
    refine .cons ⟨hresult, hnext.toSameRules⟩ ?_
    refine ih _ ?_ ?_ _ hnext (grounded_operation hop hgrounded)
    · exact fun later hlater => hops later (List.mem_cons_of_mem _ hlater)
    · exact fun x hx => hhandles x (List.mem_cons_of_mem _ hx)

/-- Two networks and a bridge that changes its host interface, with a connect that is refused and a
disconnect that is repeated. -/
def demoOperations : List Operation :=
  [.connect ⟨"vm1", .ready⟩ "eth0", .engine .ensureStandardTables,
    .connect ⟨"vm1", .ready⟩ "eth0", .connect ⟨"vm2", .ready⟩ "eth0", .connect ⟨"vm2", .ready⟩ "",
    .engine (.configureBridge "br0" "eth0" "QEMU-"), .disconnect ⟨"vm1", .ready⟩ "eth0",
    .disconnect ⟨"vm1", .ready⟩ "eth0",
    .engine (.switchHostInterface (some "eth0") (some "eth1") "br0" "QEMU-"),
    .engine (.newChain (.regular "EXTRA" "filter")),
    .engine (.addJumpRule "INPUT" "EXTRA" "filter"),
    .engine (.newChain (.existing "MISSING" "nat"))]

/-- A tool in memory and a store go through these operations alike. -/
theorem backends_agree_demo :
    List.Forall₂ (fun x y => x.1 = y.1 ∧ SameRules (Keeper.objects x.2) y.2)
      (Operation.trace Keeper.tool.backend demoOperations Keeper.empty)
      (Operation.trace Store.backend demoOperations Store.empty) := by
  have hlast : ∀ x ∈ Operation.trace Keeper.tool.backend demoOperations Keeper.empty,
      Keeper.last x.2 ≤ maxHandle := by decide +kernel
  refine backends_agree Keeper.tool Keeper.objects .empty demoOperations Keeper.keeps ?_ ?_ ?_
  · exact fun _ hobject => absurd hobject List.not_mem_nil
  · simp [demoOperations, Operation.IsStandard]
  · intro x hx spec name handle comment hmem
    exact Nat.le_trans (Keeper.given x.2 spec name handle comment hmem) (hlast x hx)

end WorkloadNet.Network
