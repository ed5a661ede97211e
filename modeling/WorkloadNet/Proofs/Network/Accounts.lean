import Mathlib.Data.Multiset.Bind
import WorkloadNet.Proofs.Firewall.Ledger
import WorkloadNet.Proofs.Firewall.Standard
import WorkloadNet.Proofs.Network.Calls

/-!
# Accounts of connects

Networks share the standard chains, and the masquerading rules of different networks behind one host
interface even share a fingerprint. Removal takes the first match, so what can be said is said of
multisets: as long as every disconnect closes a connect that is open, the fingerprints of each chain
are those of the beginning and one copy for each open connect.
-/

namespace WorkloadNet.Network

open WorkloadNet.Action Firewall Store

/-- The fingerprints that an open connect has in a chain. -/
def uplinkMarks (network hostIf : String) (table : TableSpec) (chain : String) : Multiset String :=
  if (table, chain) = (standardFilter.spec, forwardChain) then
    {(Rule.outbound forwardChain filterTable hostIf (hostLinkName network)).fingerprint,
      (Rule.returnTraffic forwardChain filterTable hostIf (hostLinkName network)).fingerprint}
  else if (table, chain) = (standardNat.spec, postroutingChain) then
    {(Rule.masquerade postroutingChain natTable hostIf).fingerprint}
  else 0

section Store

variable {s : Store} {net : Network} {hostIf : String}

theorem housed_uplink (hcarries : s.Carries) :
    ∀ rule ∈ net.uplinkRuleList hostIf, s.Housed rule := by
  intro rule hrule
  simp only [uplinkRuleList, List.mem_cons, List.not_mem_nil, or_false] at hrule
  rcases hrule with rfl | rfl | rfl
  · exact ⟨_, hcarries.home_filter, hcarries.forward⟩
  · exact ⟨_, hcarries.home_filter, hcarries.forward⟩
  · exact ⟨_, hcarries.home_nat, hcarries.postrouting⟩

theorem belonging_uplink (hcarries : s.Carries) (t : TableSpec) (c : String) :
    s.belonging (net.uplinkRuleList hostIf) t c = uplinkMarks net.name hostIf t c := by
  have hfilter := hcarries.home_filter
  have hnat := hcarries.home_nat
  have hne : (standardFilter.spec, forwardChain) ≠ (standardNat.spec, postroutingChain) := by decide
  have hfilterIff : (s.home filterTable = some t ∧ c = forwardChain) ↔
      (t, c) = (standardFilter.spec, forwardChain) := by
    rw [hfilter, Option.some_inj, Prod.mk.injEq, eq_comm]
  have hnatIff : (s.home natTable = some t ∧ c = postroutingChain) ↔
      (t, c) = (standardNat.spec, postroutingChain) := by
    rw [hnat, Option.some_inj, Prod.mk.injEq, eq_comm]
  unfold uplinkRuleList uplinkMarks
  simp only [belonging_cons, Rule.outbound, Rule.returnTraffic, Rule.masquerade, hfilterIff, hnatIff]
  by_cases hforward : (t, c) = (standardFilter.spec, forwardChain)
  · have hother : ¬ (t, c) = (standardNat.spec, postroutingChain) := by
      rw [hforward]
      exact hne
    simp only [hforward, hne, if_true, if_false]
    rfl
  · simp only [hforward, if_false]
    split <;> rfl

/-- A connect where nothing is set to fail. -/
theorem ends_connect_quiet (net : Network) (hostIf : String) (hquiet : s.Quiet) (hcarries : s.Carries) :
    Ends (net.connect backend hostIf) s
      (fun _ s' => net.Usable hostIf ∧ s'.layout = s.layout ∧ s'.Quiet ∧ ∀ t c,
        (s'.marks t c : Multiset String) = s.marks t c + uplinkMarks net.name hostIf t c)
      (fun _ s' => s' = s ∧ ¬ net.Usable hostIf) := by
  refine ends_uplink (fun _ => rfl) (fun _ h => ⟨rfl, h⟩) fun husable => ?_
  refine Ends.mono (ends_addAll_quiet hquiet (housed_uplink hcarries)) ?_ fun _ _ h => h.elim
  rintro _ s' ⟨hlayout, hquiet', hmarks⟩
  simp only [belonging_uplink hcarries] at hmarks
  exact ⟨husable, hlayout, hquiet', hmarks⟩

/-- A disconnect where nothing is set to fail. -/
theorem ends_disconnect_quiet (net : Network) (hostIf : String) (hquiet : s.Quiet)
    (hcarries : s.Carries) (hwf : s.WellFormed) :
    Ends (net.disconnect backend hostIf) s
      (fun _ s' => net.Usable hostIf ∧ s'.layout = s.layout ∧ s'.Quiet ∧ ∀ t c,
        (s'.marks t c : Multiset String) = s.marks t c - uplinkMarks net.name hostIf t c)
      (fun _ s' => s' = s ∧ ¬ net.Usable hostIf) := by
  refine ends_uplink (fun _ => rfl) (fun _ h => ⟨rfl, h⟩) fun husable => ?_
  refine Ends.mono (ends_removeAll_unhindered hquiet.unhindered hwf (housed_uplink hcarries)) ?_
    fun _ _ h => h.elim
  rintro _ s' ⟨hlayout, hpending, hcountdown, hmarks⟩
  simp only [belonging_uplink hcarries] at hmarks
  exact ⟨husable, hlayout, ⟨hpending.trans hquiet.pending, hcountdown.trans hquiet.countdown⟩, hmarks⟩

end Store

/-! ## The balance -/

/-- The books agree with the store: what is in the chains is what was there in the beginning and what
is open. -/
structure Balanced (s : Store) (b : Books) : Prop where
  layout : b.store.layout = s.layout
  quiet : b.store.Quiet
  carries : b.store.Carries
  wellFormed : b.store.WellFormed
  marks : ∀ t c, (b.store.marks t c : Multiset String) =
    s.marks t c + b.opened.bind fun o => uplinkMarks o.1 o.2 t c

variable {s : Store} {b b' : Books} {net : Network} {hostIf : String}

theorem balanced_start (hquiet : s.Quiet) (hcarries : s.Carries) (hwf : s.WellFormed) :
    Balanced s ⟨s, 0⟩ := by
  refine ⟨rfl, hquiet, hcarries, hwf, fun t c => ?_⟩
  rw [Multiset.zero_bind, Multiset.add_zero]

/-- A call that fails leaves the store as it is, and it fails exactly when it is not usable. -/
theorem Balanced.run_error (h : Balanced s b) (call : Call) :
    (∀ failure s', call.run.on b.store = (.error failure, s') →
      s' = b.store ∧ ¬ call.net.Usable call.hostIf) ∧
    ∀ s', call.run.on b.store = (.ok (), s') → call.net.Usable call.hostIf := by
  cases call with
  | connect net hostIf =>
    have hends := ends_connect_quiet net hostIf h.quiet h.carries
    exact ⟨fun _ _ hon => hends.of_error hon, fun _ hon => (hends.of_ok hon).1⟩
  | disconnect net hostIf =>
    have hends := ends_disconnect_quiet net hostIf h.quiet h.carries h.wellFormed
    exact ⟨fun _ _ hon => hends.of_error hon, fun _ hon => (hends.of_ok hon).1⟩

/-- Every call keeps the balance, as long as it closes only what is open. -/
theorem Balanced.book {call : Call} (h : Balanced s b) (hbooked : Booked b call b')
    (hopen : ∀ net hostIf, call = .disconnect net hostIf → (net.name, hostIf) ∈ b.opened) :
    Balanced s b' := by
  have hwf := hbooked.evolves.wellFormed h.wellFormed
  have hcarries := h.carries.evolves hbooked.evolves
  cases hbooked with
  | failed hon =>
    obtain ⟨rfl, -⟩ := (h.run_error call).1 _ _ hon
    exact h
  | @connected net hostIf s' hon =>
    obtain ⟨-, hlayout, hquiet, hmarks⟩ :=
      (ends_connect_quiet net hostIf h.quiet h.carries).of_ok hon
    refine ⟨hlayout.trans h.layout, hquiet, hcarries, hwf, fun t c => ?_⟩
    dsimp only
    rw [hmarks, h.marks, Multiset.cons_bind, Multiset.add_assoc,
      Multiset.add_comm (Multiset.bind _ _)]
  | @disconnected net hostIf s' hon =>
    obtain ⟨-, hlayout, hquiet, hmarks⟩ :=
      (ends_disconnect_quiet net hostIf h.quiet h.carries h.wellFormed).of_ok hon
    refine ⟨hlayout.trans h.layout, hquiet, hcarries, hwf, fun t c => ?_⟩
    -- The entry that is closed is among those that the multiset counts.
    have hsplit : (b.opened.bind fun o => uplinkMarks o.1 o.2 t c) =
        ((b.opened.erase (net.name, hostIf)).bind fun o => uplinkMarks o.1 o.2 t c) +
          uplinkMarks net.name hostIf t c := by
      calc (b.opened.bind fun o => uplinkMarks o.1 o.2 t c)
        _ = ((net.name, hostIf) ::ₘ b.opened.erase (net.name, hostIf)).bind
              fun o => uplinkMarks o.1 o.2 t c := by rw [Multiset.cons_erase (hopen net hostIf rfl)]
        _ = _ := by rw [Multiset.cons_bind, Multiset.add_comm]
    dsimp only
    rw [hmarks, h.marks, hsplit, ← Multiset.add_assoc, Multiset.add_sub_cancel_right]

theorem Balanced.run {calls : List Call} (h : Balanced s b) (hlegal : Legal b calls) :
    Balanced s (calls.foldl Books.book b) := by
  induction calls generalizing b with
  | nil => exact h
  | cons call rest ih =>
    have hbooked := booked_book b call
    cases call with
    | connect net hostIf =>
      refine ih (h.book hbooked fun net' hostIf' heq => ?_) hlegal
      cases heq
    | disconnect net hostIf =>
      refine ih (h.book hbooked fun net' hostIf' heq => ?_) hlegal.2
      cases heq
      exact hlegal.1

/-- While the books are balanced, every rule of every open connect is installed, whichever networks
share it. -/
theorem Balanced.installed (h : Balanced s b) (hopen : (net.name, hostIf) ∈ b.opened) :
    ∀ rule ∈ net.uplinkRuleList hostIf, b.store.Installed rule := by
  have hmem : ∀ t c mark, mark ∈ uplinkMarks net.name hostIf t c → mark ∈ b.store.marks t c := by
    intro t c mark hmark
    rw [← Multiset.mem_coe, h.marks, Multiset.mem_add]
    exact Or.inr (Multiset.mem_bind.2 ⟨_, hopen, hmark⟩)
  have hfilter := h.carries.home_filter
  have hnat := h.carries.home_nat
  have hne : (standardNat.spec, postroutingChain) ≠ (standardFilter.spec, forwardChain) := by decide
  intro rule hrule
  simp only [uplinkRuleList, List.mem_cons, List.not_mem_nil, or_false] at hrule
  rcases hrule with rfl | rfl | rfl
  · refine ⟨_, hfilter, hmem _ forwardChain _ ?_⟩
    unfold uplinkMarks
    rw [if_pos rfl]
    exact Multiset.mem_cons_self _ _
  · refine ⟨_, hfilter, hmem _ forwardChain _ ?_⟩
    unfold uplinkMarks
    rw [if_pos rfl]
    exact Multiset.mem_cons_of_mem (Multiset.mem_singleton_self _)
  · refine ⟨_, hnat, hmem _ postroutingChain _ ?_⟩
    unfold uplinkMarks
    rw [if_neg hne, if_pos rfl]
    exact Multiset.mem_singleton_self _

/-- Once the standard tables have been ensured and nothing is set to fail, any run of connects and
disconnects in which every disconnect closes an open connect keeps tables and chains, and every chain
has the fingerprints of the beginning with one copy for each connect that is open. A call fails
exactly when its handle is destroyed or an interface name does not fit, and then changes nothing. -/
theorem run_accounts (s₀ s₁ s : Store) (calls : List Call) (hreached : Reaches empty s₀)
    (hensured : backend.ensureStandardTables.on s₀ = (.ok (), s₁)) (hlater : Reaches s₁ s)
    (hquiet : s.Quiet) (hlegal : Legal ⟨s, 0⟩ calls) :
    let b := calls.foldl Books.book ⟨s, 0⟩
    b.store.layout = s.layout ∧
    (∀ t c, (b.store.marks t c : Multiset String) =
      s.marks t c + b.opened.bind fun o => uplinkMarks o.1 o.2 t c) ∧
    (b.opened = 0 → ∀ t c, (b.store.marks t c).Perm (s.marks t c)) ∧
    ∀ call : Call,
      (∀ failure s', call.run.on b.store = (.error failure, s') →
        s' = b.store ∧ ¬ call.net.Usable call.hostIf) ∧
      ∀ s', call.run.on b.store = (.ok (), s') → call.net.Usable call.hostIf := by
  intro b
  have hcarries : s₁.Carries := ends_ensureStandardTables.of_ok hensured
  have hensures : Reaches s₀ s₁ := by
    have hsteps := stepwise_ensureStandardTables s₀
    rwa [hensured] at hsteps
  have hwf : s.WellFormed := wellFormed_of_reaches ((hreached.trans hensures).trans hlater)
  have h : Balanced s b :=
    (balanced_start hquiet (hcarries.evolves hlater.evolves) hwf).run hlegal
  refine ⟨h.layout, h.marks, fun hclosed t c => ?_, h.run_error⟩
  rw [← Multiset.coe_eq_coe, h.marks, hclosed, Multiset.zero_bind, Multiset.add_zero]

/-- Two networks connect through one interface and one of them disconnects: the shared masquerading
rule is left once. -/
theorem run_accounts_demo :
    let s := (backend.ensureStandardTables.on empty).2
    let calls : List Call := [.connect ⟨"vm1", .ready⟩ "eth0", .connect ⟨"vm2", .ready⟩ "eth0",
      .disconnect ⟨"vm1", .ready⟩ "eth0"]
    let b := calls.foldl Books.book ⟨s, 0⟩
    Legal ⟨s, 0⟩ calls ∧ b.store.layout = s.layout ∧
      (b.store.marks standardNat.spec postroutingChain : Multiset String) =
        {"guestnet: oifname eth0 masquerade"} := by
  intro s calls b
  have hensured : backend.ensureStandardTables.on empty = (.ok (), s) := by
    have hok : (backend.ensureStandardTables.on empty).1.isOk = true := by decide +kernel
    rcases hon : backend.ensureStandardTables.on empty with ⟨failure | _, s'⟩
    · rw [hon] at hok
      cases hok
    · exact congrArg _ (congrArg Prod.snd hon).symm
  have hquiet : s.Quiet := ⟨by decide +kernel, by decide +kernel⟩
  have hlegal : Legal ⟨s, 0⟩ calls := ⟨by decide +kernel, trivial⟩
  have h := run_accounts empty s s calls .refl hensured .refl hquiet hlegal
  refine ⟨hlegal, h.1, ?_⟩
  have hopened : b.opened = {("vm2", "eth0")} := by decide +kernel
  have hnone : s.marks standardNat.spec postroutingChain = [] := by decide +kernel
  have hmarks := h.2.1 standardNat.spec postroutingChain
  rw [show calls.foldl Books.book ⟨s, 0⟩ = b from rfl, hopened, hnone,
    Multiset.singleton_bind] at hmarks
  rw [hmarks]
  decide +kernel

end WorkloadNet.Network
