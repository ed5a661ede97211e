import Mathlib.Data.Multiset.AddSub
import WorkloadNet.Network.Uplink
import WorkloadNet.Proofs.Firewall.Reach

/-!
# Calls on uplinks

Any number of handles connect and disconnect host interfaces on one store. `Books` is the store
with the connects that are open: a connect that succeeds opens an entry of its network and
interface, a disconnect that succeeds closes one. Whether a call gets as far as the store depends
on its handle and its names only.
-/

namespace WorkloadNet.Network

open WorkloadNet.Action Firewall Store

/-! ## What gets as far as the store -/

section Usable

variable {s : Store} {net : Network} {hostIf : String}

/-- The handle is live, and both interface names of its rules fit. -/
structure Usable (net : Network) (hostIf : String) : Prop where
  live : net.state ≠ .destroyed
  hostIf : isLinkName hostIf
  hostLink : isLinkName net.hostLink

instance : Decidable (net.Usable hostIf) :=
  decidable_of_iff (net.state ≠ .destroyed ∧ isLinkName hostIf ∧ isLinkName net.hostLink)
    ⟨fun h => ⟨h.1, h.2.1, h.2.2⟩, fun h => ⟨h.live, h.hostIf, h.hostLink⟩⟩

theorem faultless_uplinkRuleList (hhostIf : isLinkName hostIf) (hhostLink : isLinkName net.hostLink) :
    ∀ rule ∈ net.uplinkRuleList hostIf, rule.fault? = none := by
  have hforward : ¬ (filterTable = "" ∨ forwardChain = "") := by decide
  have hpostrouting : ¬ (natTable = "" ∨ postroutingChain = "") := by decide
  intro rule hrule
  simp only [uplinkRuleList, List.mem_cons, List.not_mem_nil, or_false] at hrule
  rcases hrule with rfl | rfl | rfl
  · rw [Rule.fault?, if_neg (by exact hforward)]
    simp [Rule.outbound, Match.fault?, hhostIf, hhostLink, Verdict.fault?]
  · rw [Rule.fault?, if_neg (by exact hforward)]
    simp [Rule.returnTraffic, Match.fault?, hhostIf, hhostLink, Verdict.fault?]
  · rw [Rule.fault?, if_neg (by exact hpostrouting)]
    simp [Rule.masquerade, Match.fault?, hhostIf, Verdict.fault?]

theorem usable_of_faultless (hlive : net.state ≠ .destroyed)
    (h : ∀ rule ∈ net.uplinkRuleList hostIf, rule.fault? = none) : net.Usable hostIf := by
  have houtbound := h (.outbound forwardChain filterTable hostIf net.hostLink) List.mem_cons_self
  have hforward : ¬ (filterTable = "" ∨ forwardChain = "") := by decide
  rw [Rule.fault?, if_neg (by exact hforward)] at houtbound
  have hnames : isLinkName net.hostLink ∧ isLinkName hostIf := by
    simpa [Rule.outbound, Match.fault?, Verdict.fault?, Option.or_eq_none_iff] using houtbound
  exact ⟨hlive, hnames.2, hnames.1⟩

/-- A call that is not usable ends before the store; a usable one hands its rules on. -/
theorem ends_uplink {next : RuleSet → Action Store Unit} {use : List Rule → Action Store Unit}
    {Q : Unit → Store → Prop} {E : Failure → Store → Prop} (hnext : ∀ set, next set = use set.rules)
    (hunusable : ∀ failure, ¬ net.Usable hostIf → E failure s)
    (husable : net.Usable hostIf → Ends (use (net.uplinkRuleList hostIf)) s Q E) :
    Ends (do
      Action.ofExcept net.ensureAlive
      next (← Action.ofExcept (net.uplinkRules hostIf))) s Q E := by
  refine Ends.bind (P := fun _ s₁ => s = s₁ ∧ net.state ≠ .destroyed)
    (ends_ofExcept (fun _ halive => ⟨rfl, ?_⟩) fun failure hdead => hunusable failure fun h => ?_) ?_
  · intro hstate
    unfold ensureAlive at halive
    rw [if_pos hstate] at halive
    cases halive
  · unfold ensureAlive at hdead
    rw [if_neg h.live] at hdead
    cases hdead
  rintro _ _ ⟨rfl, hlive⟩
  refine ends_ofList (fun failure hfaulty => hunusable failure fun h => ?_)
    fun set hrules hfaultless => ?_
  · exact hfaulty (faultless_uplinkRuleList h.hostIf h.hostLink)
  · rw [hnext, hrules]
    exact husable (usable_of_faultless hlive hfaultless)

theorem stepwise_uplink {next : RuleSet → Action Store Unit} (hnext : ∀ set, Stepwise (next set)) :
    Stepwise (do
      Action.ofExcept net.ensureAlive
      next (← Action.ofExcept (net.uplinkRules hostIf))) :=
  Stepwise.bind (stepwise_ofExcept _) fun _ => Stepwise.bind (stepwise_ofExcept _) hnext

theorem stepwise_connect (net : Network) (hostIf : String) :
    Stepwise (net.connect backend hostIf) := stepwise_uplink fun set => stepwise_addAll set.rules

theorem stepwise_disconnect (net : Network) (hostIf : String) :
    Stepwise (net.disconnect backend hostIf) :=
  stepwise_uplink fun set => stepwise_removeAll set.rules

end Usable

/-! ## Calls -/

/-- A call of a handle. -/
inductive Call where
  /-- Connects a network through a host interface. -/
  | connect (net : Network) (hostIf : String)
  /-- Disconnects a network from a host interface. -/
  | disconnect (net : Network) (hostIf : String)
  deriving DecidableEq, Repr

namespace Call

/-- The handle of a call. -/
def net : Call → Network
  | connect net _ => net
  | disconnect net _ => net

/-- The host interface of a call. -/
def hostIf : Call → String
  | connect _ hostIf => hostIf
  | disconnect _ hostIf => hostIf

/-- Runs a call on a store. -/
def run : Call → Action Store Unit
  | connect net hostIf => net.connect backend hostIf
  | disconnect net hostIf => net.disconnect backend hostIf

/-- A call reaches no other stores than operations of the store do. -/
theorem stepwise_run (call : Call) : Stepwise call.run := by
  cases call with
  | connect net hostIf => exact stepwise_connect net hostIf
  | disconnect net hostIf => exact stepwise_disconnect net hostIf

/-- Whatever a call does, the store it leaves has evolved. -/
theorem evolves_run (call : Call) (s : Store) : Evolves s (call.run.on s).2 :=
  (call.stepwise_run s).evolves

end Call

/-- A store together with the connects that are open: network and host interface. -/
structure Books where
  /-- The store. -/
  store : Store
  /-- The open connects. -/
  opened : Multiset (String × String) := 0

/-- The books after a call: a connect that succeeds is opened, a disconnect that succeeds closes. -/
def Books.book (b : Books) (call : Call) : Books :=
  match call, call.run.on b.store with
  | .connect net hostIf, (.ok _, s) => ⟨s, (net.name, hostIf) ::ₘ b.opened⟩
  | .disconnect net hostIf, (.ok _, s) => ⟨s, b.opened.erase (net.name, hostIf)⟩
  | _, (.error _, s) => ⟨s, b.opened⟩

/-- What a call makes of the books, case by case. -/
inductive Booked (b : Books) : Call → Books → Prop
  | connected {net : Network} {hostIf : String} {s : Store}
      (hon : (Call.connect net hostIf).run.on b.store = (.ok (), s)) :
      Booked b (.connect net hostIf) ⟨s, (net.name, hostIf) ::ₘ b.opened⟩
  | disconnected {net : Network} {hostIf : String} {s : Store}
      (hon : (Call.disconnect net hostIf).run.on b.store = (.ok (), s)) :
      Booked b (.disconnect net hostIf) ⟨s, b.opened.erase (net.name, hostIf)⟩
  | failed {call : Call} {failure : Failure} {s : Store}
      (hon : call.run.on b.store = (.error failure, s)) : Booked b call ⟨s, b.opened⟩

/-- The books after a call are one of the cases of `Booked`. -/
theorem booked_book (b : Books) (call : Call) : Booked b call (b.book call) := by
  unfold Books.book
  rcases hon : call.run.on b.store with ⟨failure | _, s⟩
  · cases call with
    | connect net hostIf => exact .failed hon
    | disconnect net hostIf => exact .failed hon
  · cases call with
    | connect net hostIf => exact .connected hon
    | disconnect net hostIf => exact .disconnected hon

/-- Whatever a call does, its store has evolved. -/
theorem Booked.evolves {b b' : Books} {call : Call} (h : Booked b call b') :
    Evolves b.store b'.store := by
  have hevolves := call.evolves_run b.store
  cases h with
  | connected hon => rwa [hon] at hevolves
  | disconnected hon => rwa [hon] at hevolves
  | failed hon => rwa [hon] at hevolves

/-- Every disconnect of a list of calls closes a connect that is open. -/
def Legal (b : Books) : List Call → Prop
  | [] => True
  | .connect net hostIf :: rest => Legal (b.book (.connect net hostIf)) rest
  | .disconnect net hostIf :: rest =>
    (net.name, hostIf) ∈ b.opened ∧ Legal (b.book (.disconnect net hostIf)) rest

end WorkloadNet.Network
