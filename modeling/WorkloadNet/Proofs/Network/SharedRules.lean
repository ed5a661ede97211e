import WorkloadNet.Proofs.Firewall.Fingerprint
import WorkloadNet.Proofs.Firewall.Journal
import WorkloadNet.Proofs.Firewall.Ledger
import WorkloadNet.Proofs.Network.Calls

/-!
# Rules that uplinks share

Handles connect and disconnect in any order, and failures are set up at any time in between. The
outbound rule of a network has a text of its own, so as long as a connect of the network is open the
rule stays. The other rules may have copies of other networks: the masquerading rule names the host
interface only, and two rules for return traffic can have the same text when a host interface has a
blank in its name. These stay exactly as long as the journal of all calls holds them.
-/

namespace WorkloadNet.Network

open WorkloadNet.Action Firewall Store

/-! ## Events and their journal -/

/-- What happens to a store that is shared. -/
inductive Event where
  /-- A handle calls. -/
  | call (call : Call)
  /-- A failure is set up, or the store is looked at. -/
  | fault (step : Session.StoreStep)
  deriving DecidableEq, Repr

namespace Call

/-- What a call does with each of its rules. -/
def act : Call → Rule → Action Store Unit
  | connect _ _ => backend.addRule
  | disconnect _ _ => backend.removeRule

/-- The entry that a call makes for a rule. -/
def entry : Call → Rule → Entry
  | connect _ _ => .placed
  | disconnect _ _ => .withdrawn

/-- The rules of a call. -/
def rules (call : Call) : List Rule := call.net.uplinkRuleList call.hostIf

/-- The entries that a call makes: its rules up to the first failure. -/
def entries (call : Call) (s : Store) : List Entry :=
  if call.net.Usable call.hostIf then (completed call.act call.rules s).map call.entry else []

end Call

/-- The entries that an event makes. -/
def Event.entries : Event → Store → List Entry
  | .call c, s => c.entries s
  | .fault _, _ => []

/-- The books after an event. -/
def Books.react (b : Books) : Event → Books
  | .call call => b.book call
  | .fault step => { b with store := (step.run.on b.store).2 }

/-- What an event makes of the books, case by case. -/
inductive Step (b : Books) : Event → Books → Prop
  | call {call : Call} {b' : Books} (hbooked : Booked b call b') : Step b (.call call) b'
  | fault {step : Session.StoreStep} : Step b (.fault step) ⟨(step.run.on b.store).2, b.opened⟩

theorem step_react (b : Books) (event : Event) : Step b event (b.react event) := by
  cases event with
  | call call => exact .call (booked_book b call)
  | fault step => exact .fault

/-- The entries of a run, in order. -/
def journal : Books → List Event → List Entry
  | _, [] => []
  | b, event :: rest => event.entries b.store ++ journal (b.react event) rest

section Journal

variable {s : Store} {b b' : Books} {event : Event}

theorem enters_act (call : Call) (rule : Rule) : Enters (call.act rule) (call.entry rule) := by
  cases call with
  | connect net hostIf => exact enters_addRule rule
  | disconnect net hostIf => exact enters_removeRule rule

theorem ends_call {call : Call} {Q : Unit → Store → Prop} {E : Failure → Store → Prop}
    (hunusable : ∀ failure, ¬ call.net.Usable call.hostIf → E failure s)
    (husable : call.net.Usable call.hostIf → Ends (forM call.rules call.act) s Q E) :
    Ends call.run s Q E := by
  cases call with
  | connect net hostIf =>
    refine ends_uplink (fun _ => rfl) hunusable fun h => ?_
    rw [addAll_eq]
    exact husable h
  | disconnect net hostIf =>
    refine ends_uplink (fun _ => rfl) hunusable fun h => ?_
    rw [removeAll_eq]
    exact husable h

theorem entries_of_usable (call : Call) (h : call.net.Usable call.hostIf) :
    call.entries s = (completed call.act call.rules s).map call.entry := if_pos h

theorem entries_of_not_usable (call : Call) (h : ¬ call.net.Usable call.hostIf) :
    call.entries s = [] := if_neg h

/-- A call that succeeds was usable and got through all of its rules. -/
theorem entries_of_ok {s' : Store} {call : Call} (hon : call.run.on s = (.ok (), s')) :
    call.net.Usable call.hostIf ∧ call.entries s = call.rules.map call.entry := by
  have hends : Ends call.run s
      (fun _ _ => call.net.Usable call.hostIf ∧ call.entries s = call.rules.map call.entry)
      (fun _ _ => True) := by
    refine ends_call (fun _ _ => trivial) fun husable => ?_
    refine ends_iff.2 ⟨fun _ s₁ hrun => ⟨husable, ?_⟩, fun _ _ _ => trivial⟩
    rw [entries_of_usable call husable, completed_of_ok hrun]
  exact hends.of_ok hon

/-- Whether a call fails or not, the store follows its entries. -/
theorem follows_call (call : Call) (hwf : s.WellFormed) :
    Follows (call.entries s) s (call.run.on s).2 := by
  refine ends_state (P := Follows (call.entries s) s) (ends_call (fun _ hunusable => ?_) fun h => ?_)
  · rw [entries_of_not_usable call hunusable]
    exact follows_of_tables rfl
  · have hfollows := follows_completed call.rules (enters_act call) hwf
    rw [← entries_of_usable call h] at hfollows
    exact Ends.of_on rfl (fun _ _ => hfollows) fun _ _ => hfollows

theorem Step.wellFormed (h : Step b event b') (hwf : b.store.WellFormed) : b'.store.WellFormed := by
  cases h with
  | call hbooked => exact hbooked.evolves.wellFormed hwf
  | fault => exact (evolves_extra _ b.store).wellFormed hwf

theorem Step.follows (h : Step b event b') (hwf : b.store.WellFormed) :
    Follows (event.entries b.store) b.store b'.store := by
  cases h with
  | @call call _ hbooked =>
    have hfollows := follows_call call hwf
    cases hbooked with
    | connected hon => rwa [hon] at hfollows
    | disconnected hon => rwa [hon] at hfollows
    | failed hon => rwa [hon] at hfollows
  | @fault step => exact follows_of_tables (by cases step <;> rfl)

/-- The store of a run follows its journal. -/
theorem follows_journal {events : List Event} (hwf : b.store.WellFormed) :
    Follows (journal b events) b.store (events.foldl Books.react b).store := by
  induction events generalizing b with
  | nil => exact follows_of_tables rfl
  | cons event rest ih =>
    have hstep := step_react b event
    exact (hstep.follows hwf).append (ih (hstep.wellFormed hwf))

end Journal

/-! ## Copies of the rules of a call -/

section Copies

variable {s s' : Store} {net : Network} {hostIf : String} {rule : Rule}

/-- A connect that succeeds adds a copy for each of its rules. -/
theorem copies_of_connect (hwf : s.WellFormed)
    (hon : (Call.connect net hostIf).run.on s = (.ok (), s')) (rule : Rule) :
    s'.copies rule = s.copies rule + (net.uplinkRuleList hostIf).countP (·.Twin rule) := by
  have hfollows := follows_call (.connect net hostIf) hwf
  rw [hon, (entries_of_ok hon).2] at hfollows
  rw [hfollows.copies]
  exact foldl_placed _ _ _

/-- A connect takes no copy away, not even when it fails. -/
theorem copies_connect_le (hwf : s.WellFormed) (rule : Rule) {result : Except Failure Unit}
    (hon : (Call.connect net hostIf).run.on s = (result, s')) : s.copies rule ≤ s'.copies rule := by
  have hfollows := follows_call (.connect net hostIf) hwf
  rw [hon] at hfollows
  rw [hfollows.copies]
  by_cases husable : net.Usable hostIf
  · have hfold := foldl_placed
      (completed backend.addRule (net.uplinkRuleList hostIf) s) rule (s.copies rule)
    rw [entries_of_usable (.connect net hostIf) husable]
    exact Nat.le_trans (Nat.le_add_right _ _) (Nat.le_of_eq hfold.symm)
  · rw [entries_of_not_usable (.connect net hostIf) husable]
    exact Nat.le_refl _

/-- A disconnect that succeeds takes a copy away for each of its rules. -/
theorem copies_of_disconnect (hwf : s.WellFormed)
    (hon : (Call.disconnect net hostIf).run.on s = (.ok (), s')) (rule : Rule) :
    s'.copies rule = s.copies rule - (net.uplinkRuleList hostIf).countP (·.Twin rule) := by
  have hfollows := follows_call (.disconnect net hostIf) hwf
  rw [hon, (entries_of_ok hon).2] at hfollows
  rw [hfollows.copies]
  exact foldl_withdrawn _ _ _

/-- A disconnect takes no copy of a rule away that none of its rules is a twin of, not even when it
fails. -/
theorem copies_disconnect_le (hwf : s.WellFormed) {result : Except Failure Unit}
    (hon : (Call.disconnect net hostIf).run.on s = (result, s'))
    (hnone : net.Usable hostIf → (net.uplinkRuleList hostIf).countP (·.Twin rule) = 0) :
    s.copies rule ≤ s'.copies rule := by
  have hfollows := follows_call (.disconnect net hostIf) hwf
  rw [hon] at hfollows
  rw [hfollows.copies]
  by_cases husable : net.Usable hostIf
  · have hprefix : completed backend.removeRule (net.uplinkRuleList hostIf) s <+: _ :=
      completed_prefix
    have hcount := hprefix.sublist.countP_le (p := (·.Twin rule))
    have hzero := hnone husable
    have hfold := foldl_withdrawn
      (completed backend.removeRule (net.uplinkRuleList hostIf) s) rule (s.copies rule)
    rw [entries_of_usable (.disconnect net hostIf) husable]
    refine Nat.le_trans ?_ (Nat.le_of_eq hfold.symm)
    omega
  · rw [entries_of_not_usable (.disconnect net hostIf) husable]
    exact Nat.le_refl _

end Copies

/-! ## Rules that are not shared -/

section Unshared

variable {net : Network} {network hostIf hostIf' : String} {rule : Rule}

/-- The outbound rule of a network behind a host interface. -/
def outboundRule (network hostIf : String) : Rule :=
  .outbound forwardChain filterTable hostIf (hostLinkName network)

/-- The rule for return traffic of a network behind a host interface. -/
def returnRule (network hostIf : String) : Rule :=
  .returnTraffic forwardChain filterTable hostIf (hostLinkName network)

/-- The rules of `net` behind `hostIf'` have a copy of a rule of the network behind `hostIf` only when
they are the rules of that uplink, and then one. -/
def Unshared (rule : Rule) (network hostIf : String) (net : Network) (hostIf' : String) : Prop :=
  (net.uplinkRuleList hostIf').countP (·.Twin rule) =
    if (network, hostIf) = (net.name, hostIf') then 1 else 0

theorem not_twin_masquerade (h : rule.table = filterTable) :
    ¬ (Rule.masquerade postroutingChain natTable hostIf).Twin rule := by
  intro htwin
  have htables : natTable ≠ filterTable := by decide
  exact htables (htwin.table.trans h)

theorem unshared_outbound (husable : net.Usable hostIf') (hhostIf : isLinkName hostIf)
    (hnetwork : isLinkName (hostLinkName network)) :
    Unshared (outboundRule network hostIf) network hostIf net hostIf' := by
  have hown : (Rule.outbound forwardChain filterTable hostIf' net.hostLink).Twin
      (outboundRule network hostIf) ↔ (network, hostIf) = (net.name, hostIf') := by
    constructor
    · intro h
      obtain ⟨hname, hif⟩ := fingerprint_outbound_inj husable.hostLink hnetwork h.fingerprint
      rw [hname, hif]
    · intro h
      obtain ⟨rfl, rfl⟩ := Prod.mk.inj h
      exact Rule.Twin.refl _
  have hother : ¬ (Rule.returnTraffic forwardChain filterTable hostIf' net.hostLink).Twin
      (outboundRule network hostIf) := fun h =>
    fingerprint_outbound_ne_returnTraffic hnetwork hhostIf h.fingerprint.symm
  have hmasquerade : ¬ (Rule.masquerade postroutingChain natTable hostIf').Twin
      (outboundRule network hostIf) := not_twin_masquerade rfl
  unfold Unshared uplinkRuleList
  simp only [List.countP_cons, List.countP_nil, hown, hother, hmasquerade, decide_eq_true_eq,
    decide_false, Bool.false_eq_true, if_false, Nat.zero_add]

/-- The text of the rule for return traffic decides. -/
theorem unshared_return_of (husable : net.Usable hostIf')
    (hinj : (returnRule net.name hostIf').fingerprint = (returnRule network hostIf).fingerprint →
      network = net.name ∧ hostIf = hostIf') :
    Unshared (returnRule network hostIf) network hostIf net hostIf' := by
  have hown : (Rule.returnTraffic forwardChain filterTable hostIf' net.hostLink).Twin
      (returnRule network hostIf) ↔ (network, hostIf) = (net.name, hostIf') := by
    constructor
    · intro h
      obtain ⟨hname, hif⟩ := hinj h.fingerprint
      rw [hname, hif]
    · intro h
      obtain ⟨rfl, rfl⟩ := Prod.mk.inj h
      exact Rule.Twin.refl _
  have hother : ¬ (Rule.outbound forwardChain filterTable hostIf' net.hostLink).Twin
      (returnRule network hostIf) := fun h =>
    fingerprint_outbound_ne_returnTraffic husable.hostLink husable.hostIf h.fingerprint
  have hmasquerade : ¬ (Rule.masquerade postroutingChain natTable hostIf').Twin
      (returnRule network hostIf) := not_twin_masquerade rfl
  unfold Unshared uplinkRuleList
  simp only [List.countP_cons, List.countP_nil, hown, hother, hmasquerade, decide_eq_true_eq,
    decide_false, Bool.false_eq_true, if_false, Nat.zero_add, Nat.add_zero]

theorem unshared_return (husable : net.Usable hostIf') (hseparated : Separated hostIf' hostIf) :
    Unshared (returnRule network hostIf) network hostIf net hostIf' := by
  refine unshared_return_of husable fun h => ?_
  obtain ⟨hname, hif⟩ := fingerprint_returnTraffic_inj hseparated h
  exact ⟨hname.symm, hif.symm⟩

end Unshared

/-! ## Open connects -/

section Granted

variable {s : Store} {b b' : Books} {event : Event} {net : Network} {network hostIf : String}
  {rule : Rule}

/-- Where the rules of one uplink have their chains, those of every uplink have. -/
theorem housed_uplink_of (h : ∀ rule ∈ net.uplinkRuleList hostIf, s.Housed rule) (net' : Network)
    (hostIf' : String) : ∀ rule ∈ net'.uplinkRuleList hostIf', s.Housed rule := by
  have hforward := h (outboundRule net.name hostIf) List.mem_cons_self
  have hpostrouting := h (.masquerade postroutingChain natTable hostIf) (by simp [uplinkRuleList])
  intro rule hrule
  simp only [uplinkRuleList, List.mem_cons, List.not_mem_nil, or_false] at hrule
  rcases hrule with rfl | rfl | rfl
  · exact hforward
  · exact hforward
  · exact hpostrouting

/-- After a connect that succeeds, the chains of its rules exist. -/
theorem housed_of_connect (hwf : b.store.WellFormed)
    (hon : (Call.connect net hostIf).run.on b.store = (.ok (), s)) :
    ∀ rule ∈ net.uplinkRuleList hostIf, s.Housed rule := by
  intro rule hrule
  have htwin : 0 < (net.uplinkRuleList hostIf).countP (·.Twin rule) :=
    List.countP_pos_iff.2 ⟨rule, hrule, decide_eq_true (Rule.Twin.refl rule)⟩
  have hcopies := copies_of_connect hwf hon rule
  refine (installed_iff_copies.2 ?_).housed
  omega

/-- Every open connect has fitting names and a copy of its outbound rule, and the chains of uplinks
exist as long as one is open. -/
structure Granted (b : Books) : Prop where
  wellFormed : b.store.WellFormed
  named : ∀ o ∈ b.opened, isLinkName o.2 ∧ isLinkName (hostLinkName o.1)
  housed : b.opened ≠ 0 → ∀ (net : Network) (hostIf : String), ∀ rule ∈ net.uplinkRuleList hostIf,
    b.store.Housed rule
  copies : ∀ network hostIf,
    b.opened.count (network, hostIf) ≤ b.store.copies (outboundRule network hostIf)

theorem granted_start (hwf : s.WellFormed) : Granted ⟨s, 0⟩ := by
  refine ⟨hwf, fun o ho => ?_, fun hne => absurd rfl hne, fun network hostIf => ?_⟩
  · exact absurd ho (Multiset.notMem_zero o)
  · rw [Multiset.count_zero]
    exact Nat.zero_le _

/-- A disconnect that closes an open connect changes no rule when it fails: the outbound rule is there
to be removed, so what can fail does so before anything is removed. -/
theorem Granted.tables_of_failure (h : Granted b) {failure : Failure}
    (hopen : (net.name, hostIf) ∈ b.opened)
    (hon : (Call.disconnect net hostIf).run.on b.store = (.error failure, s)) :
    s.tables = b.store.tables := by
  have hne : b.opened ≠ 0 := fun hzero => Multiset.notMem_zero _ (hzero ▸ hopen)
  have hcount := Multiset.count_pos.2 hopen
  have hinstalled : b.store.Installed (outboundRule net.name hostIf) :=
    installed_iff_copies.2 (Nat.lt_of_lt_of_le hcount (h.copies net.name hostIf))
  have hends : Ends (Call.disconnect net hostIf).run b.store (fun _ _ => True)
      (fun _ s' => s'.tables = b.store.tables) := by
    refine ends_uplink (fun _ => rfl) (fun _ _ => rfl) fun _ => ?_
    refine ends_removeAll_installed hinstalled h.wellFormed fun rule hrule => ?_
    exact h.housed hne net hostIf rule (List.mem_cons_of_mem _ hrule)
  exact hends.of_error hon

/-- A rule that is not shared with the uplink of a call has a copy for each open connect after the call
if it has before. -/
theorem Granted.count_le (h : Granted b) {call : Call} (hbooked : Booked b call b')
    (hunshared : call.net.Usable call.hostIf →
      Unshared rule network hostIf call.net call.hostIf)
    (hle : b.opened.count (network, hostIf) ≤ b.store.copies rule) :
    b'.opened.count (network, hostIf) ≤ b'.store.copies rule := by
  cases hbooked with
  | @connected net hostIf' s hon =>
    have hcount := hunshared (entries_of_ok hon).1
    dsimp only
    rw [Multiset.count_cons, copies_of_connect h.wellFormed hon]
    exact Nat.add_le_add hle (Nat.le_of_eq hcount.symm)
  | @disconnected net hostIf' s hon =>
    have hcount : (net.uplinkRuleList hostIf').countP (·.Twin rule) =
        if (network, hostIf) = (net.name, hostIf') then 1 else 0 := hunshared (entries_of_ok hon).1
    dsimp only
    rw [copies_of_disconnect h.wellFormed hon, hcount]
    by_cases heq : (network, hostIf) = (net.name, hostIf')
    · rw [if_pos heq, ← heq, Multiset.count_erase_self]
      omega
    · rw [if_neg heq, Multiset.count_erase_of_ne heq]
      exact hle
  | @failed _ failure s hon =>
    cases call with
    | connect net hostIf' => exact Nat.le_trans hle (copies_connect_le h.wellFormed rule hon)
    | disconnect net hostIf' =>
      rcases Nat.eq_zero_or_pos (b.opened.count (network, hostIf)) with hzero | hpos
      · exact hzero ▸ Nat.zero_le _
      by_cases heq : (network, hostIf) = (net.name, hostIf')
      · have hopen := Multiset.count_pos.1 hpos
        rw [heq] at hopen
        rw [copies_of_tables (h.tables_of_failure hopen hon)]
        exact hle
      · refine Nat.le_trans hle (copies_disconnect_le h.wellFormed hon fun husable => ?_)
        exact (hunshared husable).trans (if_neg heq)

theorem Granted.count_le_step (h : Granted b) (hstep : Step b event b')
    (hunshared : ∀ call, event = .call call → call.net.Usable call.hostIf →
      Unshared rule network hostIf call.net call.hostIf)
    (hle : b.opened.count (network, hostIf) ≤ b.store.copies rule) :
    b'.opened.count (network, hostIf) ≤ b'.store.copies rule := by
  have hfollows := hstep.follows h.wellFormed
  cases hstep with
  | call hbooked => exact h.count_le hbooked (hunshared _ rfl) hle
  | fault =>
    rw [hfollows.copies]
    exact hle

/-- A connect has fitting names when it is opened. -/
theorem Granted.named_step (h : Granted b) (hstep : Step b event b') :
    ∀ o ∈ b'.opened, isLinkName o.2 ∧ isLinkName (hostLinkName o.1) := by
  cases hstep with
  | fault => exact h.named
  | call hbooked =>
    cases hbooked with
    | connected hon =>
      intro o ho
      have husable := (entries_of_ok hon).1
      rcases Multiset.mem_cons.1 ho with rfl | ho
      · exact ⟨husable.hostIf, husable.hostLink⟩
      · exact h.named o ho
    | disconnected _ => exact fun o ho => h.named o (Multiset.mem_of_mem_erase ho)
    | failed _ => exact h.named

/-- The chains of uplinks exist when a connect is opened, and chains stay. -/
theorem Granted.housed_step (h : Granted b) (hstep : Step b event b') (hne : b'.opened ≠ 0)
    (net : Network) (hostIf : String) : ∀ rule ∈ net.uplinkRuleList hostIf, b'.store.Housed rule := by
  have hlayout := (hstep.follows h.wellFormed).layout
  have hstay : b.opened ≠ 0 → ∀ rule ∈ net.uplinkRuleList hostIf, b'.store.Housed rule :=
    fun hopened rule hrule =>
      (housed_of_layout hlayout).2 (h.housed hopened net hostIf rule hrule)
  cases hstep with
  | fault => exact hstay hne
  | call hbooked =>
    cases hbooked with
    | connected hon => exact housed_uplink_of (housed_of_connect h.wellFormed hon) net hostIf
    | disconnected _ => exact hstay fun hzero => hne (by rw [hzero]; rfl)
    | failed _ => exact hstay hne

theorem Granted.step (h : Granted b) (hstep : Step b event b') : Granted b' := by
  have hnamed := h.named_step hstep
  refine ⟨hstep.wellFormed h.wellFormed, hnamed, h.housed_step hstep, fun network hostIf => ?_⟩
  rcases Nat.eq_zero_or_pos (b'.opened.count (network, hostIf)) with hzero | hpos
  · exact hzero ▸ Nat.zero_le _
  · obtain ⟨hhostIf, hnetwork⟩ := hnamed _ (Multiset.count_pos.1 hpos)
    refine h.count_le_step hstep (fun call _ husable => ?_) (h.copies network hostIf)
    exact unshared_outbound husable hhostIf hnetwork

theorem Granted.run (h : Granted b) (events : List Event) :
    Granted (events.foldl Books.react b) := by
  induction events generalizing b with
  | nil => exact h
  | cons event rest ih => exact ih (h.step (step_react b event))

/-- A rule that no uplink of a run shares has a copy for each open connect of its own uplink. -/
theorem Granted.count_le_run {events : List Event} (h : Granted b)
    (hunshared : ∀ call, Event.call call ∈ events → call.net.Usable call.hostIf →
      Unshared rule network hostIf call.net call.hostIf)
    (hle : b.opened.count (network, hostIf) ≤ b.store.copies rule) :
    (events.foldl Books.react b).opened.count (network, hostIf) ≤
      (events.foldl Books.react b).store.copies rule := by
  induction events generalizing b with
  | nil => exact hle
  | cons event rest ih =>
    have hstep := step_react b event
    refine ih (h.step hstep) (fun call hcall => hunshared call (List.mem_cons_of_mem _ hcall)) ?_
    refine h.count_le_step hstep (fun call hcall => hunshared call ?_) hle
    rw [hcall]
    exact List.mem_cons_self

end Granted

/-! ## What is left of an uplink -/

/-- Whatever handles connect and disconnect, whichever of their calls fail half way: as long as a
connect of a network through a host interface is open, its outbound rule is installed, and so is its
rule for return traffic if the host interfaces of the calls can be told apart. In any case the rules
for return traffic and for masquerading are installed exactly when the journal of the run, which names
all installs and removals, holds a copy of them. -/
theorem uplink_installed_iff (s : Store) (events : List Event) (network hostIf : String)
    (hreached : Reaches empty s)
    (hopen : (network, hostIf) ∈ (events.foldl Books.react ⟨s, 0⟩).opened) :
    let s' := (events.foldl Books.react ⟨s, 0⟩).store
    let entries := journal ⟨s, 0⟩ events
    let outbound := Rule.outbound forwardChain filterTable hostIf (hostLinkName network)
    let returnTraffic := Rule.returnTraffic forwardChain filterTable hostIf (hostLinkName network)
    let masquerade := Rule.masquerade postroutingChain natTable hostIf
    s'.Installed outbound ∧
      ((∀ call, Event.call call ∈ events → Separated call.hostIf hostIf) →
        s'.Installed returnTraffic) ∧
      (s'.Installed returnTraffic ↔ Held returnTraffic (s.copies returnTraffic) entries) ∧
      (s'.Installed masquerade ↔ Held masquerade (s.copies masquerade) entries) := by
  intro s' entries outbound returnTraffic masquerade
  have hwf : s.WellFormed := wellFormed_of_reaches hreached
  have hfollows : Follows entries s s' := follows_journal hwf
  have hgranted : Granted ⟨s, 0⟩ := granted_start hwf
  have hcount := Multiset.count_pos.2 hopen
  refine ⟨?_, fun hseparated => ?_, hfollows.installed_iff, hfollows.installed_iff⟩
  · have hle := (hgranted.run events).copies network hostIf
    exact installed_iff_copies.2 (Nat.lt_of_lt_of_le hcount hle)
  · have hle : (events.foldl Books.react ⟨s, 0⟩).opened.count (network, hostIf) ≤
        s'.copies returnTraffic :=
      hgranted.count_le_run (fun call hcall husable => unshared_return husable (hseparated call hcall))
        (Nat.zero_le _)
    exact installed_iff_copies.2 (Nat.lt_of_lt_of_le hcount hle)

/-- One network connects, the connect of another fails half way and is cleaned up after: the cleanup
takes the only masquerading rule, and the journal says so. -/
theorem uplink_installed_iff_demo :
    let s := (backend.ensureStandardTables.on empty).2
    let events : List Event := [.call (.connect ⟨"vm2", .ready⟩ "eth0"), .fault (.failAppend 2),
      .call (.connect ⟨"vm1", .ready⟩ "eth0"), .call (.disconnect ⟨"vm1", .ready⟩ "eth0")]
    let b := events.foldl Books.react ⟨s, 0⟩
    let masquerade := Rule.masquerade postroutingChain natTable "eth0"
    b.opened = {("vm2", "eth0")} ∧
      b.store.Installed (.outbound forwardChain filterTable "eth0" (hostLinkName "vm2")) ∧
      ¬ Held masquerade (s.copies masquerade) (journal ⟨s, 0⟩ events) := by
  intro s events b masquerade
  have hreached : Reaches empty s := stepwise_ensureStandardTables empty
  have hopened : (events.foldl Books.react ⟨s, 0⟩).opened = {("vm2", "eth0")} := by decide +kernel
  have h := uplink_installed_iff s events "vm2" "eth0" hreached (by
    rw [hopened]
    exact Multiset.mem_singleton_self _)
  refine ⟨hopened, h.1, fun hheld => ?_⟩
  have hcopies := installed_iff_copies.1 (h.2.2.2.2 hheld)
  have hnone : b.store.copies masquerade = 0 := by decide +kernel
  exact absurd hnone (Nat.ne_of_gt hcopies)

/-- One network connects, and another that never did disconnects: the connect is still open, and its
masquerading rule is gone. -/
theorem masquerade_withdrawn_by_other :
    ¬ ∀ (s : Store) (events : List Event) (net : Network) (hostIf : String), Reaches empty s →
      (net.name, hostIf) ∈ (events.foldl Books.react ⟨s, 0⟩).opened →
      ∀ rule ∈ net.uplinkRuleList hostIf, (events.foldl Books.react ⟨s, 0⟩).store.Installed rule := by
  intro hkept
  have hreached : Reaches empty (backend.ensureStandardTables.on empty).2 :=
    stepwise_ensureStandardTables empty
  have hinstalled := hkept _ [.call (.connect ⟨"vm2", .ready⟩ "eth0"),
    .call (.disconnect ⟨"vm1", .ready⟩ "eth0")] ⟨"vm2", .ready⟩ "eth0" hreached (by decide +kernel)
    (.masquerade postroutingChain natTable "eth0") (by simp [uplinkRuleList])
  have hcopies := installed_iff_copies.1 hinstalled
  revert hcopies
  decide +kernel

end WorkloadNet.Network
