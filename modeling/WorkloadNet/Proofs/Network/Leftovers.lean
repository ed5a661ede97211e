import WorkloadNet.Proofs.Network.Accounts
import WorkloadNet.Proofs.Network.Destruction
import WorkloadNet.Proofs.Network.Phases
import WorkloadNet.Proofs.Network.SharedRules

/-!
# Rules that outlive a network

Where destroying a network succeeds, its links and its namespace are gone. The packet filter is not touched
in any case, and the handle refuses every further disconnect, so the rules that connects have left are left
for good. Which these are follows from the journal of the calls; where nothing fails, there are some exactly
when a connect is open.
-/

namespace WorkloadNet.Network

open WorkloadNet.Action Firewall Store

/-! ## Rules that name an interface -/

/-- A fingerprint is the text of a rule with a criterion on the interface. -/
def Names (iface mark : String) : Prop :=
  ∃ rule : Rule, rule.fingerprint = mark ∧
    (.inputInterface iface ∈ rule.criteria ∨ .outputInterface iface ∈ rule.criteria)

/-- Some rule of some chain of some table names the interface. -/
def NamedIn (s : Store) (iface : String) : Prop :=
  ∃ t c mark, mark ∈ s.marks t c ∧ Names iface mark

theorem names_outbound (network hostIf : String) :
    Names (hostLinkName network) (outboundRule network hostIf).fingerprint :=
  ⟨outboundRule network hostIf, rfl, Or.inl List.mem_cons_self⟩

theorem namedIn_of_installed {s : Store} {iface : String} {rule : Rule} (h : s.Installed rule)
    (hnames : Names iface rule.fingerprint) : NamedIn s iface := by
  obtain ⟨table, -, hmark⟩ := h
  exact ⟨table, rule.chain, rule.fingerprint, hmark, hnames⟩

theorem copies_of_not_namedIn {s : Store} {iface : String} {rule : Rule} (h : ¬ NamedIn s iface)
    (hnames : Names iface rule.fingerprint) : s.copies rule = 0 := by
  by_contra hcopies
  exact h (namedIn_of_installed (installed_iff_copies.2 (Nat.pos_of_ne_zero hcopies)) hnames)

/-! ## Where rules come from -/

section Origin

variable {b : Books} {events : List Event} {rule : Rule}

theorem mem_completed {act : Rule → Action Store Unit} {rules : List Rule} {s : Store}
    (h : rule ∈ completed act rules s) : rule ∈ rules := by
  have hprefix : completed act rules s <+: rules := completed_prefix
  exact hprefix.subset h

/-- A rule that was placed in a run is one of a usable connect of it. -/
theorem call_of_placed (h : .placed rule ∈ journal b events) :
    ∃ call : Call, .call call ∈ events ∧ call.net.Usable call.hostIf ∧ rule ∈ call.rules := by
  induction events generalizing b with
  | nil => cases h
  | cons event rest ih =>
    rcases List.mem_append.1 h with hfirst | hlater
    · cases event with
      | fault step => cases hfirst
      | call call =>
        have hentries : .placed rule ∈ call.entries b.store := hfirst
        by_cases husable : call.net.Usable call.hostIf
        · rw [entries_of_usable call husable] at hentries
          obtain ⟨r, hr, hentry⟩ := List.mem_map.1 hentries
          refine ⟨call, List.mem_cons_self, husable, ?_⟩
          cases call with
          | connect net hostIf =>
            obtain rfl : r = rule := Entry.placed.inj hentry
            exact mem_completed hr
          | disconnect net hostIf => cases hentry
        · rw [entries_of_not_usable call husable] at hentries
          cases hentries
    · obtain ⟨call, hcall, hrest⟩ := ih hlater
      exact ⟨call, List.mem_cons_of_mem _ hcall, hrest⟩

/-- A rule that names an interface which none named before is one of a usable call, and still
installed. -/
theorem call_of_namedIn {s : Store} {iface : String} (hwf : s.WellFormed) (hfree : ¬ NamedIn s iface)
    (h : NamedIn (events.foldl Books.react ⟨s, 0⟩).store iface) :
    ∃ call : Call, .call call ∈ events ∧ call.net.Usable call.hostIf ∧ ∃ rule ∈ call.rules,
      Names iface rule.fingerprint ∧ (events.foldl Books.react ⟨s, 0⟩).store.Installed rule := by
  obtain ⟨t, c, mark, hmark, hnames⟩ := h
  have hfollows : Follows (journal ⟨s, 0⟩ events) s (events.foldl Books.react ⟨s, 0⟩).store :=
    follows_journal hwf
  rcases hfollows.origin t c mark hmark with hold | ⟨rule, hplaced, hhome, rfl, rfl⟩
  · exact absurd ⟨t, c, mark, hold, hnames⟩ hfree
  · obtain ⟨call, hcall, husable, hrule⟩ := call_of_placed hplaced
    rw [← home_eq_of_layout hfollows.layout] at hhome
    exact ⟨call, hcall, husable, rule, hrule, hnames, t, hhome, hmark⟩

end Origin

/-! ## Open connects -/

/-- Calls of one network open connects of that network only. -/
theorem opened_own {net : Network} {calls : List Call} {b : Books}
    (hcalls : ∀ call ∈ calls, call.net = net) (h : ∀ o ∈ b.opened, o.1 = net.name) :
    ∀ o ∈ ((calls.map Event.call).foldl Books.react b).opened, o.1 = net.name := by
  induction calls generalizing b with
  | nil => exact h
  | cons call rest ih =>
    refine ih (fun later hlater => hcalls later (List.mem_cons_of_mem _ hlater)) ?_
    have hcall := hcalls call List.mem_cons_self
    have hbooked : Booked b call (b.react (.call call)) := booked_book b call
    generalize b.react (.call call) = b' at hbooked ⊢
    cases hbooked with
    | connected _ =>
      intro o ho
      rcases Multiset.mem_cons.1 ho with rfl | ho
      · exact congrArg Network.name hcall
      · exact h o ho
    | disconnected _ => exact fun o ho => h o (Multiset.mem_of_mem_erase ho)
    | failed _ => exact h

section Tracked

variable {net : Network} {hostIf hostIf' : String} {rule : Rule} {b b' : Books}

theorem unshared_masquerade :
    Unshared (.masquerade postroutingChain natTable hostIf) net.name hostIf net hostIf' := by
  have htables : filterTable ≠ natTable := by decide
  have hown : (Rule.masquerade postroutingChain natTable hostIf').Twin
      (.masquerade postroutingChain natTable hostIf) ↔ (net.name, hostIf) = (net.name, hostIf') := by
    constructor
    · intro h
      rw [fingerprint_masquerade_inj h.fingerprint]
    · intro h
      obtain ⟨-, rfl⟩ := Prod.mk.inj h
      exact Rule.Twin.refl _
  have hforward : ∀ rule : Rule, rule.table = filterTable →
      ¬ rule.Twin (.masquerade postroutingChain natTable hostIf) :=
    fun rule hrule htwin => htables (hrule.symm.trans htwin.table)
  have houtbound := hforward (.outbound forwardChain filterTable hostIf' net.hostLink) rfl
  have hreturn := hforward (.returnTraffic forwardChain filterTable hostIf' net.hostLink) rfl
  unfold Unshared uplinkRuleList
  simp only [List.countP_cons, List.countP_nil, hown, houtbound, hreturn, decide_eq_true_eq,
    decide_false, Bool.false_eq_true, if_false, Nat.zero_add, Nat.add_zero]

/-- No two uplinks of one network share a rule. -/
theorem unshared_own (husable : net.Usable hostIf) (husable' : net.Usable hostIf')
    (hrule : rule ∈ net.uplinkRuleList hostIf) : Unshared rule net.name hostIf net hostIf' := by
  simp only [uplinkRuleList, List.mem_cons, List.not_mem_nil, or_false] at hrule
  rcases hrule with rfl | rfl | rfl
  · exact unshared_outbound husable' husable.hostIf husable.hostLink
  · exact unshared_return_of husable' fun h => ⟨rfl, (fingerprint_returnTraffic_inj_hostIf h).symm⟩
  · exact unshared_masquerade

/-- Nothing is set to fail, and a rule of an uplink has one copy for each open connect of it. -/
structure Tracked (net : Network) (hostIf : String) (rule : Rule) (b : Books) : Prop where
  quiet : b.store.Quiet
  carries : b.store.Carries
  wellFormed : b.store.WellFormed
  copies : b.store.copies rule = b.opened.count (net.name, hostIf)

theorem Tracked.book {call : Call} (h : Tracked net hostIf rule b) (husable : net.Usable hostIf)
    (hrule : rule ∈ net.uplinkRuleList hostIf) (hcall : call.net = net)
    (hbooked : Booked b call b') : Tracked net hostIf rule b' := by
  have hwf := hbooked.evolves.wellFormed h.wellFormed
  have hcarries := h.carries.evolves hbooked.evolves
  cases hbooked with
  | @connected net' hostIf' s hon =>
    obtain rfl : net' = net := hcall
    obtain ⟨husable', -, hquiet, -⟩ :=
      (ends_connect_quiet net' hostIf' h.quiet h.carries).of_ok hon
    have hcount := unshared_own husable husable' hrule
    refine ⟨hquiet, hcarries, hwf, ?_⟩
    dsimp only
    rw [copies_of_connect h.wellFormed hon, h.copies, hcount, Multiset.count_cons]
  | @disconnected net' hostIf' s hon =>
    obtain rfl : net' = net := hcall
    obtain ⟨husable', -, hquiet, -⟩ :=
      (ends_disconnect_quiet net' hostIf' h.quiet h.carries h.wellFormed).of_ok hon
    have hcount := unshared_own husable husable' hrule
    refine ⟨hquiet, hcarries, hwf, ?_⟩
    dsimp only
    rw [copies_of_disconnect h.wellFormed hon, h.copies, hcount]
    by_cases heq : (net'.name, hostIf) = (net'.name, hostIf')
    · rw [if_pos heq, heq, Multiset.count_erase_self]
    · rw [if_neg heq, Multiset.count_erase_of_ne heq, Nat.sub_zero]
  | @failed _ failure s hon =>
    have hsame : s = b.store := by
      cases call with
      | connect net' hostIf' =>
        exact ((ends_connect_quiet net' hostIf' h.quiet h.carries).of_error hon).1
      | disconnect net' hostIf' =>
        exact ((ends_disconnect_quiet net' hostIf' h.quiet h.carries h.wellFormed).of_error hon).1
    obtain rfl := hsame
    exact h

theorem Tracked.run {calls : List Call} (h : Tracked net hostIf rule b)
    (husable : net.Usable hostIf) (hrule : rule ∈ net.uplinkRuleList hostIf)
    (hcalls : ∀ call ∈ calls, call.net = net) :
    Tracked net hostIf rule ((calls.map Event.call).foldl Books.react b) := by
  induction calls generalizing b with
  | nil => exact h
  | cons call rest ih =>
    have hfirst : Tracked net hostIf rule (b.book call) :=
      h.book husable hrule (hcalls call List.mem_cons_self) (booked_book b call)
    exact ih hfirst fun later hlater => hcalls later (List.mem_cons_of_mem _ hlater)

end Tracked

/-! ## The use and the end of a network -/

/-- A use of the network that a session keeps under an identifier. -/
inductive Use where
  /-- Connects it through a host interface. -/
  | connect (hostIf : String)
  /-- Disconnects it from a host interface. -/
  | disconnect (hostIf : String)

namespace Use

/-- The host interface of a use. -/
def hostIf : Use → String
  | connect hostIf => hostIf
  | disconnect hostIf => hostIf

/-- The step of a session. -/
def step (id : String) : Use → Session.NetworkStep
  | connect hostIf => .connect id hostIf
  | disconnect hostIf => .disconnect id hostIf

/-- The call of the handle. -/
def call (net : Network) : Use → Call
  | connect hostIf => .connect net hostIf
  | disconnect hostIf => .disconnect net hostIf

/-- The calls of uses, as events. -/
def events (net : Network) (uses : List Use) : List Event := (uses.map (Use.call net)).map Event.call

/-- The world after a use. -/
def after (id : String) (w : Session.World Store) (u : Use) : Session.World Store :=
  (((u.step id).run backend).on w).2

theorem net_call (net : Network) (u : Use) : (u.call net).net = net := by
  cases u <;> rfl

theorem hostIf_call (net : Network) (u : Use) : (u.call net).hostIf = u.hostIf := by
  cases u <;> rfl

theorem rules_call (net : Network) (u : Use) : (u.call net).rules = net.uplinkRuleList u.hostIf := by
  cases u <;> rfl

theorem net_of_mem (net : Network) (uses : List Use) :
    ∀ call ∈ uses.map (Use.call net), call.net = net := by
  intro call hcall
  obtain ⟨u, -, rfl⟩ := List.mem_map.1 hcall
  exact u.net_call net

theorem exists_of_mem_events {net : Network} {uses : List Use} {call : Call}
    (h : .call call ∈ events net uses) : ∃ u ∈ uses, call = u.call net := by
  obtain ⟨call', hcall', heq⟩ := List.mem_map.1 h
  obtain ⟨u, hu, rfl⟩ := List.mem_map.1 hcall'
  exact ⟨u, hu, (Event.call.inj heq).symm⟩

end Use

section Named

variable {net : Network} {uses : List Use} {s : Store}

/-- A rule that names the host end after uses, and did not before them, is one of the uplink of a use. -/
theorem use_of_namedIn (hwf : s.WellFormed) (hfree : ¬ NamedIn s net.hostLink)
    (h : NamedIn ((Use.events net uses).foldl Books.react ⟨s, 0⟩).store net.hostLink) :
    ∃ u ∈ uses, net.Usable u.hostIf ∧ ∃ rule ∈ net.uplinkRuleList u.hostIf,
      Names net.hostLink rule.fingerprint ∧
        ((Use.events net uses).foldl Books.react ⟨s, 0⟩).store.Installed rule := by
  obtain ⟨call, hcall, husable, rule, hrule, hnames, hinstalled⟩ := call_of_namedIn hwf hfree h
  obtain ⟨u, hu, rfl⟩ := Use.exists_of_mem_events hcall
  rw [u.net_call, u.hostIf_call] at husable
  rw [u.rules_call] at hrule
  exact ⟨u, hu, husable, rule, hrule, hnames, hinstalled⟩

/-- After uses a rule names the host end exactly when the journal holds such a rule of a use. -/
theorem namedIn_iff_held (hwf : s.WellFormed) (hfree : ¬ NamedIn s net.hostLink) :
    NamedIn ((Use.events net uses).foldl Books.react ⟨s, 0⟩).store net.hostLink ↔
      ∃ u ∈ uses, ∃ rule ∈ net.uplinkRuleList u.hostIf, Names net.hostLink rule.fingerprint ∧
        Held rule 0 (journal ⟨s, 0⟩ (Use.events net uses)) := by
  have hfollows : Follows (journal ⟨s, 0⟩ (Use.events net uses)) s
      ((Use.events net uses).foldl Books.react ⟨s, 0⟩).store := follows_journal hwf
  constructor
  · intro hnamed
    obtain ⟨u, hu, -, rule, hrule, hnames, hinstalled⟩ := use_of_namedIn hwf hfree hnamed
    have hheld := hfollows.installed_iff.1 hinstalled
    rw [copies_of_not_namedIn hfree hnames] at hheld
    exact ⟨u, hu, rule, hrule, hnames, hheld⟩
  · rintro ⟨u, -, rule, -, hnames, hheld⟩
    rw [← copies_of_not_namedIn hfree hnames] at hheld
    exact namedIn_of_installed (hfollows.installed_iff.2 hheld) hnames

/-- Where nothing is set to fail, it is so exactly when a connect is open. -/
theorem namedIn_iff_opened (hwf : s.WellFormed) (hcarries : s.Carries) (hquiet : s.Quiet)
    (hfree : ¬ NamedIn s net.hostLink) :
    NamedIn ((Use.events net uses).foldl Books.react ⟨s, 0⟩).store net.hostLink ↔
      ((Use.events net uses).foldl Books.react ⟨s, 0⟩).opened ≠ 0 := by
  constructor
  · intro hnamed
    obtain ⟨u, -, husable, rule, hrule, hnames, hinstalled⟩ := use_of_namedIn hwf hfree hnamed
    have hstart : Tracked net u.hostIf rule ⟨s, 0⟩ :=
      ⟨hquiet, hcarries, hwf, copies_of_not_namedIn hfree hnames⟩
    have hcount : 0 < ((Use.events net uses).foldl Books.react ⟨s, 0⟩).store.copies rule :=
      installed_iff_copies.1 hinstalled
    have hcopies : ((Use.events net uses).foldl Books.react ⟨s, 0⟩).store.copies rule =
        ((Use.events net uses).foldl Books.react ⟨s, 0⟩).opened.count (net.name, u.hostIf) :=
      (hstart.run husable hrule (Use.net_of_mem net uses)).copies
    intro hnone
    rw [hcopies, hnone, Multiset.count_zero] at hcount
    exact absurd hcount (Nat.lt_irrefl 0)
  · intro hopen
    obtain ⟨⟨network, hostIf⟩, hmem⟩ := Multiset.exists_mem_of_ne_zero hopen
    have hnetwork : network = net.name :=
      opened_own (Use.net_of_mem net uses) (fun o ho => absurd ho (Multiset.notMem_zero o)) _ hmem
    have hgranted := (granted_start hwf).run (Use.events net uses)
    have hcopies := Nat.lt_of_lt_of_le (Multiset.count_pos.2 hmem) (hgranted.copies network hostIf)
    refine namedIn_of_installed (installed_iff_copies.2 hcopies) ?_
    rw [hnetwork]
    exact names_outbound net.name hostIf

end Named

section Uses

variable {w : Session.World Store} {id : String} {net : Network}

open Session

theorem on_withNetwork {action : Network → Action (World Store) Value} (h : w.networks[id]? = some net) :
    (withNetwork id action).on w = (action net).on w := by
  unfold withNetwork
  rw [on_bind, on_get]
  dsimp only
  rw [h]

theorem after_use (h : w.networks[id]? = some net) (u : Use) :
    u.after id w = { w with filter := ((u.call net).run.on w.filter).2 } := by
  have hsilent : ∀ action : Action Store Unit,
      ((silent (World.onFilter action)).on w).2 = { w with filter := (action.on w.filter).2 } := by
    intro action
    unfold silent World.onFilter
    rw [on_bind, on_zoom]
    cases (action.on w.filter).1 <;> rfl
  cases u with
  | connect hostIf =>
    have hstep : Use.after id w (.connect hostIf) =
        ((silent (World.onFilter (net.connect backend hostIf))).on w).2 :=
      congrArg Prod.snd (on_withNetwork h)
    rw [hstep, hsilent]
    rfl
  | disconnect hostIf =>
    have hstep : Use.after id w (.disconnect hostIf) =
        ((silent (World.onFilter (net.disconnect backend hostIf))).on w).2 :=
      congrArg Prod.snd (on_withNetwork h)
    rw [hstep, hsilent]
    rfl

/-- The books after a call have the store after it. -/
theorem store_book (b : Books) (call : Call) : (b.book call).store = (call.run.on b.store).2 := by
  have hbooked := booked_book b call
  generalize b.book call = b' at hbooked ⊢
  cases hbooked with
  | connected hon => rw [hon]
  | disconnected hon => rw [hon]
  | failed hon => rw [hon]

/-- Uses of a network change the packet filter as its calls do, and nothing else. -/
theorem after_uses (h : w.networks[id]? = some net) (uses : List Use) (opened : Multiset _) :
    uses.foldl (Use.after id) w = { w with
      filter := ((Use.events net uses).foldl Books.react ⟨w.filter, opened⟩).store } := by
  induction uses generalizing w opened with
  | nil => rfl
  | cons u rest ih =>
    have hstore := store_book ⟨w.filter, opened⟩ (u.call net)
    rw [List.foldl_cons, after_use h, ih (by exact h) ((Books.book ⟨w.filter, opened⟩ (u.call net)).opened)]
    rw [Use.events, Use.events, List.map_cons, List.map_cons, List.foldl_cons]
    have hbook : (⟨((u.call net).run.on w.filter).2,
        (Books.book ⟨w.filter, opened⟩ (u.call net)).opened⟩ : Books) =
          Books.react ⟨w.filter, opened⟩ (.call (u.call net)) := by
      rw [← hstore]
      rfl
    rw [hbook]

/-- A network that is built is kept, and the packet filter is as it was. -/
theorem on_build {settings : NetworkSettings} {k : Kernel}
    (hon : (build Kernel.namespaces settings.request).on w.kernel = (.ok net, k)) :
    ((NetworkStep.build id settings).run backend).on w =
      (.ok (.network net), World.keep id net { w with kernel := k }) := by
  have hbuild : ((NetworkStep.build id settings).run backend).on w =
      (keepNew id (build Kernel.namespaces settings.request)).on w := rfl
  rw [hbuild]
  unfold keepNew World.onKernel
  rw [on_bind, on_zoom, hon]
  rfl

theorem kept_of_build {settings : NetworkSettings} {w₁ : World Store}
    (hon : ((NetworkStep.build id settings).run backend).on w = (.ok (.network net), w₁)) :
    w₁.networks[id]? = some net ∧ w₁.filter = w.filter := by
  rcases hbuild : (build Kernel.namespaces settings.request).on w.kernel with ⟨failure | net', k⟩
  · have hfails : ((NetworkStep.build id settings).run backend).on w =
        (keepNew id (build Kernel.namespaces settings.request)).on w := rfl
    rw [hfails] at hon
    unfold keepNew World.onKernel at hon
    rw [on_bind, on_zoom, hbuild] at hon
    cases hon
  · rw [on_build hbuild] at hon
    cases hon
    exact ⟨Std.ExtTreeMap.getElem?_insert_self, rfl⟩

theorem eq_ok_of_map_eq_ok {result : Except Failure Unit} {v : Value}
    (h : (result.map fun () => Value.unit) = .ok v) : result = .ok () := by
  cases result with
  | ok => rfl
  | error failure => cases h

/-- Destroying a network leaves the packet filter as it is. Of the kernel it leaves what a release of the
network leaves, and it reports what that reports. -/
theorem on_destroy_kept (h : w.networks[id]? = some net) :
    ∃ pending, ((NetworkStep.destroy id).run backend).on w =
      ((releaseResult net.name w.kernel).map fun () => .unit,
        World.keep id { net with state := .destroyed } { w with
          kernel := { w.kernel with spaces := afterRelease net.name w.kernel, pending } }) := by
  obtain ⟨pending, hrun⟩ := on_destroy w.kernel net
  have hkept : ((NetworkStep.destroy id).run backend).on w = (destroyKept id net).on w :=
    on_withNetwork h
  refine ⟨pending, hkept.trans ?_⟩
  unfold destroyKept
  rw [on_of, hrun]

/-- Destroying a network leaves the packet filter as it is, and where it succeeds, nothing of the network is
left in the kernel. -/
theorem cleanedUp_of_destroy {w₁ : World Store} {result : Except Failure Value}
    (h : w.networks[id]? = some net)
    (hon : ((NetworkStep.destroy id).run backend).on w = (result, w₁)) :
    w₁.filter = w.filter ∧ ∀ v, result = .ok v → CleanedUp net.name w.kernel w₁.kernel := by
  obtain ⟨pending, hends⟩ := on_destroy_kept h
  rw [hends] at hon
  obtain ⟨rfl, rfl⟩ := Prod.mk.inj hon
  exact ⟨rfl, fun v hv => cleanedUp_of_ok (eq_ok_of_map_eq_ok hv) rfl⟩

end Uses

/-- A world in which a network was built, used and destroyed. When the destruction succeeds, the namespace,
its links and the host end are gone. Whatever it reports, the packet filter is as the uses left it. No rule
named the host end before the uses; after them one does exactly when, for some use, the journal of the calls
holds one of its rules that names it, and where nothing is set to fail, exactly when some connect is still
open. -/
theorem named_after_destroy_iff (w w₁ w₂ : Session.World Store) (id : String)
    (settings : Session.NetworkSettings) (net : Network) (uses : List Use)
    (result : Except Failure Session.Value) (hreached : Reaches empty w.filter)
    (hcarries : w.filter.Carries)
    (hbuild : ((Session.NetworkStep.build id settings).run backend).on w = (.ok (.network net), w₁))
    (hfree : ¬ NamedIn w.filter net.hostLink)
    (hdestroy : ((Session.NetworkStep.destroy id).run backend).on (uses.foldl (Use.after id) w₁) =
      (result, w₂)) :
    let events := Use.events net uses
    (∀ v, result = .ok v →
        CleanedUp net.name (uses.foldl (Use.after id) w₁).kernel w₂.kernel) ∧
      w₂.filter = (uses.foldl (Use.after id) w₁).filter ∧
      (NamedIn w₂.filter net.hostLink ↔
        ∃ u ∈ uses, ∃ rule ∈ net.uplinkRuleList u.hostIf, Names net.hostLink rule.fingerprint ∧
          Held rule 0 (journal ⟨w.filter, 0⟩ events)) ∧
      (w.filter.Quiet → (NamedIn w₂.filter net.hostLink ↔
        (events.foldl Books.react ⟨w.filter, 0⟩).opened ≠ 0)) := by
  intro events
  have hwf : w.filter.WellFormed := wellFormed_of_reaches hreached
  obtain ⟨hkept, hfilter⟩ := kept_of_build hbuild
  have hused := after_uses hkept uses 0
  rw [hfilter] at hused
  have hlive : (uses.foldl (Use.after id) w₁).networks[id]? = some net := by
    rw [hused]
    exact hkept
  obtain ⟨hsame, hclean⟩ := cleanedUp_of_destroy hlive hdestroy
  have hstore : w₂.filter = (events.foldl Books.react ⟨w.filter, 0⟩).store := by
    rw [hsame, hused]
  refine ⟨hclean, hsame, ?_, fun hquiet => ?_⟩
  · rw [hstore]
    exact namedIn_iff_held hwf hfree
  · rw [hstore]
    exact namedIn_iff_opened hwf hcarries hquiet hfree

/-! ### Runs of the world -/

/-- The world with the standard tables and nothing else. -/
def demoWorld : Session.World Store :=
  { filter := (backend.ensureStandardTables.on empty).2 }

theorem not_namedIn_demoWorld (iface : String) : ¬ NamedIn demoWorld.filter iface := by
  rintro ⟨t, c, mark, hmark, -⟩
  have hempty : ∀ t ∈ demoWorld.filter.tables.toList, ∀ chain ∈ t.2, chain.rules = [] := by
    decide +kernel
  unfold Store.marks at hmark
  rw [rulesOf_eq] at hmark
  cases hchain : demoWorld.filter.chain? t c with
  | none =>
    rw [hchain] at hmark
    cases hmark
  | some chain =>
    obtain ⟨chains, hchains, hfind⟩ := Option.bind_eq_some_iff.1 hchain
    have hrules := hempty (t, chains) (Std.ExtTreeMap.mem_toList_iff_getElem?_eq_some.2 hchains)
      chain (List.mem_of_find?_eq_some hfind)
    rw [hchain, Option.map_some, Option.getD_some, hrules] at hmark
    cases hmark

theorem reaches_demoWorld : Reaches empty demoWorld.filter := stepwise_ensureStandardTables empty

theorem carries_demoWorld : demoWorld.filter.Carries := ⟨by decide +kernel, by decide +kernel⟩

/-- The same world after a network was built in it. -/
def demoBuilt : Session.World Store :=
  (((Session.NetworkStep.build "a" demoSettings).run backend).on demoWorld).2

theorem on_build_demoWorld : ((Session.NetworkStep.build "a" demoSettings).run backend).on demoWorld =
    (.ok (.network ⟨"vm1", .ready⟩), demoBuilt) := by
  have hnet : ((build Kernel.namespaces demoSettings.request).on demoWorld.kernel).1.toOption =
      some ⟨"vm1", .ready⟩ := by decide +kernel
  rcases hon : (build Kernel.namespaces demoSettings.request).on demoWorld.kernel with
    ⟨failure | net, k⟩
  · rw [hon] at hnet
    cases hnet
  · rw [hon] at hnet
    obtain rfl := Option.some.inj hnet
    have hbuilt : ((Session.NetworkStep.build "a" demoSettings).run backend).on demoWorld =
        (.ok (.network ⟨"vm1", .ready⟩),
          Session.World.keep "a" ⟨"vm1", .ready⟩ { demoWorld with kernel := k }) := on_build hon
    rw [hbuilt, demoBuilt, hbuilt]

/-- After one connect that is open and another that was closed, the destruction succeeds: the namespace and
the host end were there and are gone, and a rule is left. -/
theorem named_after_destroy_iff_demo :
    let uses : List Use := [.connect "eth0", .connect "eth1", .disconnect "eth0"]
    let w := uses.foldl (Use.after "a") demoBuilt
    let events := Use.events ⟨"vm1", .ready⟩ uses
    (some "vm1" ∈ w.kernel.spaces ∧ (w.kernel.link? none "vm1-host").isSome) ∧
      (events.foldl Books.react ⟨demoWorld.filter, 0⟩).opened = {("vm1", "eth1")} ∧
      ∃ v w', ((Session.NetworkStep.destroy "a").run backend).on w = (.ok v, w') ∧
        some "vm1" ∉ w'.kernel.spaces ∧ w'.kernel.link? none "vm1-host" = none ∧
        NamedIn w'.filter "vm1-host" := by
  intro uses w events
  have hbefore : some "vm1" ∈ w.kernel.spaces ∧ (w.kernel.link? none "vm1-host").isSome := by
    decide +kernel
  have hhome : w.kernel.current = none := by decide +kernel
  have hopened : (events.foldl Books.react ⟨demoWorld.filter, 0⟩).opened = {("vm1", "eth1")} := by
    decide +kernel
  have hquiet : demoWorld.filter.Quiet := ⟨by decide +kernel, by decide +kernel⟩
  have hok : (((Session.NetworkStep.destroy "a").run backend).on w).1.isOk = true := by decide +kernel
  refine ⟨hbefore, hopened, ?_⟩
  rcases hon : ((Session.NetworkStep.destroy "a").run backend).on w with ⟨failure | v, w'⟩
  · rw [hon] at hok
    cases hok
  · obtain ⟨hclean, -, -, hnamed⟩ := named_after_destroy_iff demoWorld demoBuilt w' "a" demoSettings
      ⟨"vm1", .ready⟩ uses _ reaches_demoWorld carries_demoWorld on_build_demoWorld
      (not_namedIn_demoWorld _) hon
    have hgone := hclean v rfl
    have hhost : w'.kernel.link? w.kernel.current "vm1-host" = none := hgone.host
    rw [hhome] at hhost
    refine ⟨v, w', rfl, hgone.space, hhost, (hnamed hquiet).2 ?_⟩
    rw [hopened]
    exact Multiset.singleton_ne_zero _

/-- A network is built, connected and destroyed with success, and its rules are still installed. -/
theorem rules_survive_destruction :
    ¬ ∀ (w w₁ w₂ : Session.World Store) (id : String) (settings : Session.NetworkSettings)
        (net : Network) (uses : List Use) (v : Session.Value), Reaches empty w.filter →
        w.filter.Carries →
        ((Session.NetworkStep.build id settings).run backend).on w = (.ok (.network net), w₁) →
        ¬ NamedIn w.filter net.hostLink →
        ((Session.NetworkStep.destroy id).run backend).on (uses.foldl (Use.after id) w₁) =
          (.ok v, w₂) →
        ¬ NamedIn w₂.filter net.hostLink := by
  intro hclean
  have hok : (((Session.NetworkStep.destroy "a").run backend).on
      ([.connect "eth0"].foldl (Use.after "a") demoBuilt)).1.isOk = true := by decide +kernel
  have hcopies : 0 < (((Session.NetworkStep.destroy "a").run backend).on
      ([.connect "eth0"].foldl (Use.after "a") demoBuilt)).2.filter.copies
        (outboundRule "vm1" "eth0") := by decide +kernel
  rcases hon : ((Session.NetworkStep.destroy "a").run backend).on
    ([.connect "eth0"].foldl (Use.after "a") demoBuilt) with ⟨failure | v, w₂⟩
  · rw [hon] at hok
    cases hok
  · rw [hon] at hcopies
    refine hclean demoWorld demoBuilt w₂ "a" demoSettings ⟨"vm1", .ready⟩ [.connect "eth0"] v
      reaches_demoWorld carries_demoWorld on_build_demoWorld (not_namedIn_demoWorld _) hon ?_
    exact namedIn_of_installed (installed_iff_copies.2 hcopies) (names_outbound "vm1" "eth0")

end WorkloadNet.Network
