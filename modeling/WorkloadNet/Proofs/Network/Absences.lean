import WorkloadNet.Proofs.Firewall.Preparation
import WorkloadNet.Proofs.Network.Calls
import WorkloadNet.Proofs.Nft.Keeping

/-!
# Removing what is not installed

Rules of which none is installed are removed without a change. A tool lists no rules for a chain that is
missing, as it does for a table that is missing, and the removal succeeds. A store knows of no rules in a
table that is missing either, but fails to list those of a missing chain: there the removal succeeds only
when each rule has its chain, or not even its table.
-/

namespace WorkloadNet.Nft

open WorkloadNet.Action Firewall

variable {τ : Type} {tool : Tool τ} {shown : τ → List Listed} {rule : Rule} {rules : List Rule}

/-- Some rule with the fingerprint is listed in the chain that a rule belongs to. -/
def Lists (objects : List Listed) (rule : Rule) : Prop :=
  ∃ spec handle, resolveTable rule.table (objects.filterMap Listed.table?) = some spec ∧
    .ofRule spec rule.chain handle (some rule.fingerprint) ∈ objects

theorem ends_findTable_listed (hshows : tool.Shows shown) (name : String) (t : τ) :
    Ends (tool.backend.findTable name) t
      (fun spec t' => resolveTable name ((shown t).filterMap Listed.table?) = some spec ∧
        shown t' = shown t)
      (fun failure t' => failure.isNotFound ∧ shown t' = shown t) := by
  refine Ends.bind (Ends.mono (ends_question hshows (·.filterMap Listed.table?) t) (fun _ _ h => h)
    fun _ _ h => h.elim) ?_
  rintro _ t' ⟨rfl, hshown⟩
  cases hfound : resolveTable name ((shown t).filterMap Listed.table?) with
  | some spec => exact ends_pure ⟨rfl, hshown⟩
  | none => exact ends_fail ⟨rfl, hshown⟩

theorem ends_findInstalled_unlisted (hshows : tool.Shows shown) {spec : TableSpec} {t : τ}
    (habsent : ∀ handle, .ofRule spec rule.chain handle (some rule.fingerprint) ∉ shown t) :
    Ends (tool.backend.findInstalled spec rule) t
      (fun found t' => found = none ∧ shown t' = shown t) fun _ _ => False := by
  refine Ends.bind (ends_question hshows (·.filterMap (Listed.ruleOf? spec rule.chain)) t) ?_
  rintro _ t' ⟨rfl, hshown⟩
  refine ends_pure ⟨?_, hshown⟩
  have hnone : ((shown t).filterMap (Listed.ruleOf? spec rule.chain)).find?
      (fun r => r.comment = some rule.fingerprint) = none := by
    refine List.find?_eq_none.2 fun r hr hmark => ?_
    obtain ⟨object, hobject, hrule⟩ := List.mem_filterMap.1 hr
    obtain rfl := Listed.ruleOf?_eq_some_iff.1 hrule
    refine habsent r.handle ?_
    rwa [← of_decide_eq_true hmark]
  rw [hnone]
  rfl

/-- A rule that is not listed is removed from a tool without a change, whether it is its table, its chain
or only the rule that is missing. -/
theorem ends_removeRule_unlisted (hshows : tool.Shows shown) {t : τ} (habsent : ¬ Lists (shown t) rule) :
    Ends (tool.backend.removeRule rule) t (fun _ t' => shown t' = shown t) fun _ _ => False := by
  refine Ends.bind (Ends.outcome (ends_findTable_listed hshows rule.table t)) ?_
  rintro (failure | spec) t₁ h
  · obtain ⟨hmissing, hshown⟩ := h
    dsimp only
    rw [if_pos hmissing]
    exact ends_pure hshown
  · obtain ⟨hspec, hshown⟩ := h
    have hunlisted : ∀ handle,
        .ofRule spec rule.chain handle (some rule.fingerprint) ∉ shown t₁ := by
      intro handle hmem
      rw [hshown] at hmem
      exact habsent ⟨spec, handle, hspec, hmem⟩
    refine Ends.bind (ends_findInstalled_unlisted hshows hunlisted) ?_
    rintro _ t₂ ⟨rfl, hshown₂⟩
    exact ends_pure (hshown₂.trans hshown)

theorem ends_removeAll_unlisted (hshows : tool.Shows shown) {t : τ}
    (habsent : ∀ rule ∈ rules, ¬ Lists (shown t) rule) :
    Ends (tool.backend.removeAll rules) t (fun _ t' => shown t' = shown t) fun _ _ => False := by
  induction rules generalizing t with
  | nil => exact ends_pure rfl
  | cons rule rest ih =>
    refine Ends.bind (ends_removeRule_unlisted hshows (habsent rule List.mem_cons_self)) ?_
    intro _ t₁ hshown
    refine Ends.mono (ih fun later hlater => ?_) (fun _ _ h => h.trans hshown) fun _ _ h => h
    rw [hshown]
    exact habsent later (List.mem_cons_of_mem _ hlater)

end WorkloadNet.Nft

namespace WorkloadNet.Network

open WorkloadNet.Action Firewall Nft

/-! ## Removals -/

/-- A removal of rules: of a batch, or of those of an uplink through a usable handle. -/
inductive Removal where
  /-- Removes a batch. -/
  | batch (set : RuleSet)
  /-- Disconnects a network from a host interface. -/
  | uplink (net : Network) (hostIf : String) (usable : net.Usable hostIf)

namespace Removal

/-- The rules that are removed. -/
def rules : Removal → List Rule
  | batch set => set.rules
  | uplink net hostIf _ => net.uplinkRuleList hostIf

/-- Runs a removal on a packet filter. -/
def run {σ : Type} (fw : Backend σ) : Removal → Action σ Unit
  | batch set => fw.removeRules set
  | uplink net hostIf _ => net.disconnect fw hostIf

/-- Over any packet filter a removal removes its rules and does nothing else. -/
theorem run_eq {σ : Type} (fw : Backend σ) (removal : Removal) :
    removal.run fw = fw.removeAll removal.rules := by
  cases removal with
  | batch set => rfl
  | uplink net hostIf usable =>
    have halive : net.ensureAlive = .ok () := if_neg usable.live
    have hfaultless := faultless_uplinkRuleList usable.hostIf usable.hostLink
    have hrules : net.uplinkRules hostIf = .ok ⟨net.uplinkRuleList hostIf, hfaultless⟩ := by
      rw [uplinkRules, RuleSet.ofList, RuleSet.check_of_faultless hfaultless]
    show net.disconnect fw hostIf = fw.removeAll (net.uplinkRuleList hostIf)
    rw [disconnect, halive, hrules, Action.ofExcept, Action.ofExcept, pure_bind, pure_bind,
      Backend.removeRules]

end Removal

/-- Removing rules of which none is installed changes neither a store nor what a tool lists. Over a tool
that lists what it holds it succeeds; over a store it does so exactly when the chain of each rule exists
or the rule has no table. -/
theorem removal_of_absent_rules (removal : Removal) :
    (∀ s : Store, s.pending = [] → (∀ rule ∈ removal.rules, ¬ s.Installed rule) →
      ∃ result, (removal.run Store.backend).on s = (result, s) ∧
        (result = .ok () ↔ ∀ rule ∈ removal.rules, s.Findable rule)) ∧
    ∀ (τ : Type) (tool : Tool τ) (shown : τ → List Listed) (t : τ), tool.Shows shown →
      (∀ rule ∈ removal.rules, ¬ Lists (shown t) rule) →
        ∃ t', (removal.run tool.backend).on t = (.ok (), t') ∧ shown t' = shown t := by
  constructor
  · intro s hpending habsent
    have hunhindered : s.Unhindered := by
      refine ⟨?_, ?_, ?_⟩
      all_goals
        rw [hpending]
        exact List.not_mem_nil
    have hends := Store.ends_removeAll_absent removal.rules habsent
    rw [Removal.run_eq]
    rcases hon : (Store.backend.removeAll removal.rules).on s with ⟨failure | _, s'⟩
    · obtain ⟨rfl, hlost⟩ := hends.of_error hon hunhindered
      refine ⟨_, rfl, iff_of_false (fun hok => ?_) hlost⟩
      cases hok
    · obtain ⟨rfl, hfindable⟩ := hends.of_ok hon
      exact ⟨_, rfl, iff_of_true rfl hfindable⟩
  · intro τ tool shown t hshows habsent
    rw [Removal.run_eq]
    obtain ⟨_, t', hon, hshown⟩ := (ends_removeAll_unlisted hshows habsent).succeeds
    exact ⟨t', hon, hshown⟩

/-- A network that was never connected is disconnected. -/
theorem removal_of_absent_rules_demo :
    let removal := Removal.uplink ⟨"vm1", .ready⟩ "eth0" (by decide)
    let s := ((Store.backend.ensureStandardTables).on Store.empty).2
    (removal.run Store.backend).on s = (.ok (), s) ∧
      ∃ keeper, (removal.run Keeper.tool.backend).on (Keeper.empty.addTable standardFilter.spec) =
          (.ok (), keeper) ∧ keeper.objects = [.ofTable standardFilter.spec] := by
  intro removal s
  obtain ⟨hstore, htool⟩ := removal_of_absent_rules removal
  constructor
  · obtain ⟨result, hon, hresult⟩ := hstore s (by decide +kernel) (by decide +kernel)
    have hhoused : ∀ rule ∈ removal.rules, s.Housed rule := by decide +kernel
    rw [hon, hresult.2 fun rule hrule => (hhoused rule hrule).findable]
  · refine htool Keeper Keeper.tool Keeper.objects _ Keeper.keeps.list ?_
    rintro rule - ⟨spec, handle, -, hmem⟩
    cases List.mem_singleton.1 hmem

/-- Without its chain in its table, a rule that is not installed stops the removal over a store, and does
not over a tool. -/
theorem missing_chain_stops_removal :
    let set : RuleSet := ⟨[.outbound forwardChain filterTable "eth0" "vm1-host"], by decide +kernel⟩
    let s := ((Store.backend.createTable standardFilter.spec).on Store.empty).2
    s.pending = [] ∧ (∀ rule ∈ set.rules, ¬ s.Installed rule) ∧
      (Store.backend.removeRules set).on s =
        (.error (.notFound "chain" s!"{forwardChain} in table {filterTable}"), s) ∧
      ((Keeper.tool.backend.removeRules set).on (Keeper.empty.addTable standardFilter.spec)).1 =
        .ok () := by
  intro set s
  refine ⟨by decide +kernel, by decide +kernel, rfl, rfl⟩

end WorkloadNet.Network
