import WorkloadNet.Proofs.Firewall.Preparation
import WorkloadNet.Proofs.Network.Calls

/-!
# What a refused operation leaves

An operation that fails on account of a setting should leave tables, chains and rules as they were.
Those that check a name or a list of rules before they use it do: ensuring one chain or one jump,
installing and removing rules, connecting and disconnecting. A table is created before its chains
are checked, and the chains of a bridge are prepared, and the rules for its old host interface
removed, before its rules are checked. `refusal_changes_nothing_iff` is the exact condition for
each.
-/

namespace WorkloadNet.Network

open WorkloadNet.Action Firewall Store

/-- An operation on the packet filter: one of the rule engine, or a use of a network. -/
inductive Operation where
  /-- An operation of the rule engine. -/
  | engine (step : Session.EngineStep)
  /-- Connects a network through a host interface. -/
  | connect (net : Network) (hostIf : String)
  /-- Disconnects a network from a host interface. -/
  | disconnect (net : Network) (hostIf : String)
  deriving DecidableEq, Repr

/-- No rule of a bridge behind its old host interface is installed. -/
def Detached (old : Option String) (bridge mark : String) (s : Store) : Prop :=
  ∀ hostIf set, old.filter (· ≠ "") = some hostIf → bridgeRules hostIf bridge mark = .ok set →
    ∀ rule ∈ set.rules, ¬ s.Installed rule

namespace Operation

/-- Runs an operation. -/
def run {σ : Type} (fw : Backend σ) : Operation → Action σ Session.Value
  | engine step => step.run fw
  | connect net hostIf => Session.silent (net.connect fw hostIf)
  | disconnect net hostIf => Session.silent (net.disconnect fw hostIf)

/-- All that an operation does before it checks its settings has been done already. -/
def Settled (s : Store) : Operation → Prop
  | engine (.ensureTable request) =>
    request.spec ∈ s.tables ∧ ∀ chain ∈ request.chains.takeWhile Named, s.Present chain
  | engine (.configureBridge _ _ mark) => Prepared mark s
  | engine (.switchHostInterface old _ bridge mark) =>
    Prepared mark s ∧ Detached old bridge mark s
  | _ => True

end Operation

variable {s : Store} {α : Type} {settled : Prop}

/-- When the action is refused, nothing has changed exactly if it was settled. -/
def Refuses (settled : Prop) (action : Action Store α) (s : Store) : Prop :=
  Ends action s (fun _ _ => True)
    (fun failure s' => failure.isConfiguration → (s'.tables = s.tables ↔ settled))

theorem refuses_silent {action : Action Store Unit} (h : Refuses settled action s) :
    Refuses settled (Session.silent action) s := Ends.bind h fun _ _ _ => ends_pure trivial

/-- An action that checks first. -/
theorem refuses_of_unchanged {action : Action Store α}
    (h : Ends action s (fun _ _ => True) (fun failure s' => failure.isConfiguration → s' = s)) :
    Refuses True action s :=
  Ends.mono h (fun _ _ h => h) fun _ _ h hconfig => iff_of_true (by rw [h hconfig]) trivial

theorem refuses_of_unrefusing {action : Action Store α} (h : Unrefusing action) :
    Refuses settled action s :=
  Ends.mono (h s) (fun _ _ h => h) fun _ _ h => not_configuration h

/-- A list of rules is checked before any of them is used. -/
theorem refuses_rules {rules : List Rule} {next : RuleSet → Action Store α}
    (hnext : ∀ set, Unrefusing (next set)) :
    Refuses True (Action.ofExcept (RuleSet.ofList rules) >>= next) s := by
  refine refuses_of_unchanged (Ends.bind (P := fun _ _ => True)
    (ends_ofExcept (fun _ _ => trivial) fun _ _ _ => rfl) fun set s₁ _ => ?_)
  exact Ends.mono (hnext set s₁) (fun _ _ h => h) fun _ _ h => not_configuration h

theorem refuses_uplink {net : Network} {hostIf : String} {next : RuleSet → Action Store Unit}
    {use : List Rule → Action Store Unit} (hnext : ∀ set, next set = use set.rules)
    (huse : ∀ rules, Unrefusing (use rules)) :
    Refuses True (do
      Action.ofExcept net.ensureAlive
      next (← Action.ofExcept (net.uplinkRules hostIf))) s := by
  refine refuses_of_unchanged (ends_uplink hnext (fun _ _ _ => rfl) fun _ => ?_)
  exact Ends.mono (huse _ s) (fun _ _ h => h) fun _ _ h => not_configuration h

/-! ## Bridges -/

section Bridge

variable {bridge hostIf mark : String} {old new : Option String}

theorem rules_of_bridgeRules {set : RuleSet} (h : bridgeRules hostIf bridge mark = .ok set) :
    set.rules = bridgeRuleList hostIf bridge mark := RuleSet.rules_of_ofList h

/-- The preparation itself is not refused. -/
theorem ends_prepared {E : Failure → Store → Prop}
    (hE : ∀ failure s', failure.isConfiguration = false → E failure s') :
    Ends (backend.prepareBridgeChains mark) s
      (fun _ s₁ => Prepared mark s₁ ∧ (Prepared mark s → s₁ = s)) E :=
  Ends.mono (Ends.and ends_prepareBridgeChains (unrefusing_prepareBridgeChains s))
    (fun _ _ h => h.1) fun _ _ h => hE _ _ h.2

theorem prepared_iff {s₁ : Store} (hprepared : Prepared mark s₁) (hsame : Prepared mark s → s₁ = s) :
    s₁.tables = s.tables ↔ Prepared mark s :=
  ⟨fun htables => hprepared.of_tables htables.symm, fun h => by rw [hsame h]⟩

theorem refuses_configureBridge :
    Refuses (Prepared mark s) (backend.configureBridge bridge hostIf mark) s := by
  refine Ends.bind (ends_prepared fun _ _ => not_configuration) ?_
  rintro _ s₁ ⟨hprepared, hsame⟩
  refine Ends.bind (P := fun _ _ => True) (ends_ofExcept (fun _ _ => trivial) fun _ _ _ => ?_) ?_
  · exact prepared_iff hprepared hsame
  · intro set s₂ _
    exact Ends.mono (unrefusing_addAll set.rules s₂) (fun _ _ h => h) fun _ _ h =>
      not_configuration h

/-- After the rules of the old host interface were removed, the chains are still prepared, and nothing
has changed exactly if there was none. -/
theorem ends_detachBridge (hwf : s.WellFormed) (hprepared : Prepared mark s) :
    Ends (backend.detachBridge old bridge mark) s
      (fun _ s' => Prepared mark s' ∧ (s'.tables = s.tables ↔ Detached old bridge mark s))
      (fun failure s' => failure.isConfiguration → s' = s ∧ Detached old bridge mark s) := by
  unfold Backend.detachBridge
  cases hold : old.filter (· ≠ "") with
  | none =>
    refine ends_pure ⟨hprepared, iff_of_true rfl fun hostIf _ hsome => ?_⟩
    rw [hold] at hsome
    cases hsome
  | some hostIf =>
    refine Ends.bind (P := fun set s₁ => s₁ = s ∧ bridgeRules hostIf bridge mark = .ok set)
      (ends_ofExcept (fun _ h => ⟨rfl, h⟩) fun failure herror _ => ⟨rfl, fun other set hsome hok => ?_⟩)
      ?_
    · rw [hold] at hsome
      obtain rfl := Option.some.inj hsome
      rw [herror] at hok
      cases hok
    · rintro set _ ⟨rfl, hset⟩
      have hrules := rules_of_bridgeRules hset
      refine ends_iff.2 ⟨fun _ s' hon => ?_, fun failure s' hon => ?_⟩
      · have hfollows := (ends_removeAll_follows set.rules hwf).of_ok hon
        refine ⟨hprepared.of_removal (hrules ▸ hfollows), fun htables => ?_, fun hdetached => ?_⟩
        · intro other set' hsome hok rule hrule hinstalled
          rw [hold] at hsome
          obtain rfl := Option.some.inj hsome
          obtain rfl : set = set' := Except.ok.inj (hset.symm.trans hok)
          -- A rule of the list that is installed loses a copy.
          have hcopies := hfollows.copies rule
          have htwin : 0 < set.rules.countP (·.Twin rule) :=
            List.countP_pos_iff.2 ⟨rule, hrule, decide_eq_true (Rule.Twin.refl rule)⟩
          have hpos := installed_iff_copies.1 hinstalled
          rw [copies_of_tables htables, foldl_withdrawn] at hcopies
          omega
        · obtain ⟨hsame, -⟩ :=
            (ends_removeAll_absent set.rules (hdetached hostIf set hold hset)).of_ok hon
          rw [hsame]
      · exact not_configuration ((unrefusing_removeAll set.rules).of_error hon)

theorem refuses_switchHostInterface (hwf : s.WellFormed) :
    Refuses (Prepared mark s ∧ Detached old bridge mark s)
      (backend.switchHostInterface old new bridge mark) s := by
  refine Ends.bind (P := fun _ s₁ => s₁.WellFormed ∧ Prepared mark s₁ ∧ (Prepared mark s → s₁ = s))
    ?_ ?_
  · have hstep : Ends (backend.prepareBridgeChains mark) s (fun _ s₁ => s₁.WellFormed)
        (fun _ _ => True) := by
      refine Ends.of_on rfl (fun _ _ => ?_) fun _ _ => trivial
      exact (stepwise_prepareBridgeChains mark s).evolves.wellFormed hwf
    exact Ends.mono (Ends.and hstep (ends_prepared fun _ _ => not_configuration)) (fun _ _ h => h)
      fun _ _ h => h.2
  · rintro _ s₁ ⟨hwf₁, hprepared, hsame⟩
    have hiff := prepared_iff hprepared hsame
    refine Ends.bind (Ends.mono (ends_detachBridge hwf₁ hprepared) (fun _ _ h => h) ?_) ?_
    · intro failure s' h hconfig
      obtain ⟨rfl, hdetached⟩ := h hconfig
      rw [hiff]
      refine ⟨fun hs => ⟨hs, ?_⟩, And.left⟩
      rwa [hsame hs] at hdetached
    · rintro _ s₂ ⟨hprepared₂, hdetached⟩
      have hfinal : s₂.tables = s.tables ↔ Prepared mark s ∧ Detached old bridge mark s := by
        constructor
        · intro htables
          have hs : Prepared mark s := hprepared₂.of_tables htables.symm
          obtain rfl := hsame hs
          exact ⟨hs, hdetached.1 htables⟩
        · rintro ⟨hs, hnone⟩
          obtain rfl := hsame hs
          exact hdetached.2 hnone
      unfold Backend.attachBridge
      split
      · exact ends_pure trivial
      · refine Ends.bind (P := fun _ _ => True) (ends_ofExcept (fun _ _ => trivial)
          fun _ _ _ => hfinal) fun set s₃ _ => ?_
        exact Ends.mono (unrefusing_addAll set.rules s₃) (fun _ _ h => h) fun _ _ h =>
          not_configuration h

end Bridge

/-- Whatever an operation did before it was refused, tables, chains and rules are the same exactly if
the operation was settled: always, but for a table whose chains are refused, and a bridge whose rules
are refused. -/
theorem refusal_changes_nothing_iff (op : Operation) (s s' : Store) (failure : Failure)
    (hreached : Reaches empty s) (hon : (op.run backend).on s = (.error failure, s'))
    (hrefused : failure.isConfiguration) : s'.tables = s.tables ↔ op.Settled s := by
  have hwf := wellFormed_of_reaches hreached
  suffices h : Refuses (op.Settled s) (op.run backend) s from h.of_error hon hrefused
  cases op with
  | connect net hostIf =>
    exact refuses_silent (refuses_uplink (fun _ => rfl) unrefusing_addAll)
  | disconnect net hostIf =>
    exact refuses_silent (refuses_uplink (fun _ => rfl) unrefusing_removeAll)
  | engine step =>
    cases step with
    | ensureStandardTables =>
      exact refuses_silent (refuses_of_unrefusing unrefusing_ensureStandardTables)
    | ensureTable request => exact refuses_silent (ensureTable_refuses request)
    | newChain request =>
      refine Ends.bind (P := fun _ _ => True) (refuses_of_unchanged ?_) fun _ _ _ => ends_pure trivial
      exact Ends.mono newChain_refuses (fun _ _ _ => trivial) fun _ _ h hconfig => (h hconfig).1
    | addJumpRule source target table =>
      refine refuses_silent (refuses_of_unchanged ?_)
      exact Ends.mono (addJumpRule_refuses source target table) (fun _ _ h => h)
        fun _ _ h hconfig => (h hconfig).1
    | addRules rules =>
      exact refuses_rules fun set =>
        Unrefusing.bind (unrefusing_addAll set.rules) fun _ => unrefusing_pure _
    | removeRules rules =>
      exact refuses_rules fun set =>
        Unrefusing.bind (unrefusing_removeAll set.rules) fun _ => unrefusing_pure _
    | configureBridge bridge hostIf mark => exact refuses_silent refuses_configureBridge
    | switchHostInterface old new bridge mark =>
      exact refuses_silent (refuses_switchHostInterface hwf)

/-- Whether a result is a refusal. -/
def refused : Except Failure α → Bool
  | .ok _ => false
  | .error failure => failure.isConfiguration

theorem exists_refused (action : Action Store α) (s : Store)
    (h : refused (action.on s).1 = true) :
    ∃ failure, action.on s = (.error failure, (action.on s).2) ∧ failure.isConfiguration := by
  rcases hon : action.on s with ⟨failure | a, s'⟩
  · rw [hon] at h
    exact ⟨failure, rfl, h⟩
  · rw [hon] at h
    cases h

/-- The store in which a bridge has its rules for the prefix `QEMU-`. -/
def demoBridged : Store :=
  (((Session.EngineStep.configureBridge "br0" "eth0" "QEMU-").run backend).on empty).2

/-- A connect that is refused, and a second bridge that is refused where the chains were prepared for
a first one: both leave everything as it was. -/
theorem refusal_changes_nothing_iff_demo :
    (∃ failure s', ((Operation.connect ⟨"vm1", .ready⟩ "").run backend).on demoBridged =
      (.error failure, s') ∧ s'.tables = demoBridged.tables) ∧
    ∃ failure s', ((Operation.engine (.configureBridge "br1" "" "QEMU-")).run backend).on demoBridged =
      (.error failure, s') ∧ s'.tables = demoBridged.tables := by
  have hreached : Reaches empty demoBridged := stepwise_engine _ empty
  constructor
  · obtain ⟨failure, hon, hrefused⟩ := exists_refused
      ((Operation.connect ⟨"vm1", .ready⟩ "").run backend) demoBridged (by decide +kernel)
    exact ⟨failure, _, hon,
      (refusal_changes_nothing_iff _ _ _ failure hreached hon hrefused).2 trivial⟩
  · have hprepared : Prepared "QEMU-" demoBridged := by
      refine ⟨⟨by decide +kernel, by decide +kernel⟩, by decide +kernel, by decide +kernel, ?_, ?_⟩
      · exact installed_iff_copies.2 (by decide +kernel)
      · exact installed_iff_copies.2 (by decide +kernel)
    obtain ⟨failure, hon, hrefused⟩ := exists_refused
      ((Operation.engine (.configureBridge "br1" "" "QEMU-")).run backend) demoBridged
      (by decide +kernel)
    exact ⟨failure, _, hon,
      (refusal_changes_nothing_iff _ _ _ failure hreached hon hrefused).2 hprepared⟩

/-- On an empty packet filter the rules of a bridge without a host interface are refused, and the
standard tables have been created. -/
theorem refusal_leaves_tables :
    ¬ ∀ (op : Operation) (s s' : Store) (failure : Failure), Reaches empty s →
      (op.run backend).on s = (.error failure, s') → failure.isConfiguration →
      s'.tables = s.tables := by
  intro hunchanged
  obtain ⟨failure, hon, hrefused⟩ := exists_refused
    ((Operation.engine (.configureBridge "br0" "" "QEMU-")).run backend) empty (by decide +kernel)
  have htables := hunchanged _ _ _ failure .refl hon hrefused
  have hmem : standardFilter.spec ∈
      (((Operation.engine (.configureBridge "br0" "" "QEMU-")).run backend).on empty).2.tables := by
    decide +kernel
  rw [htables] at hmem
  exact Std.ExtTreeMap.not_mem_empty hmem

end WorkloadNet.Network
