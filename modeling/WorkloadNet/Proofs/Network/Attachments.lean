import Mathlib.Data.Multiset.Bind
import Mathlib.Data.Multiset.Dedup
import WorkloadNet.Proofs.Firewall.Convergence
import WorkloadNet.Proofs.Firewall.Ledger
import WorkloadNet.Proofs.Network.Refusals

/-!
# Attachments of bridges

A bridge is attached to a host interface while its nine rules for this interface are installed, in
chains that carry a prefix. The rules for name and address service name no interface, so all bridges
of one prefix have copies of them, and a removal takes the first. What follows from a run of calls is
therefore said of multisets: every chain has the fingerprints of the beginning, those of every
attachment that is held, and for each prefix the two jumps to its chains, unless they were there.
-/

namespace WorkloadNet.Network

open WorkloadNet.Action Firewall Store

/-! ## Calls -/

/-- A bridge behind a host interface, with its rules in the chains of a prefix. -/
structure Attachment where
  bridge : String
  mark : String
  hostIf : String
  deriving DecidableEq, Repr

/-- The rules of an attachment. -/
def Attachment.rules (a : Attachment) : List Rule := bridgeRuleList a.hostIf a.bridge a.mark

/-- Both interface names of the rules fit. -/
def Attachment.Fits (a : Attachment) : Prop := isLinkName a.hostIf ∧ isLinkName a.bridge

/-- The attachment of a bridge to a host interface, if one is named. -/
def attachments (hostIf : Option String) (bridge mark : String) : Multiset Attachment :=
  match hostIf.filter (· ≠ "") with
  | none => 0
  | some hostIf => {⟨bridge, mark, hostIf⟩}

/-- A call that changes what a bridge is attached to. -/
inductive BridgeCall where
  /-- Attaches a bridge to a host interface. -/
  | configure (bridge hostIf mark : String)
  /-- Moves a bridge from one host interface to another; either may be missing. -/
  | switch (old new : Option String) (bridge mark : String)
  deriving DecidableEq, Repr

namespace BridgeCall

/-- Runs a call on a store. -/
def run : BridgeCall → Action Store Unit
  | configure bridge hostIf mark => backend.configureBridge bridge hostIf mark
  | switch old new bridge mark => backend.switchHostInterface old new bridge mark

/-- The prefix of a call. -/
def mark : BridgeCall → String
  | configure _ _ mark => mark
  | switch _ _ _ mark => mark

/-- The attachment that a call gives up. -/
def released : BridgeCall → Multiset Attachment
  | configure _ _ _ => 0
  | switch old _ bridge mark => attachments old bridge mark

/-- The attachment that a call brings. -/
def acquired : BridgeCall → Multiset Attachment
  | configure bridge hostIf mark => {⟨bridge, mark, hostIf⟩}
  | switch _ new bridge mark => attachments new bridge mark

/-- The interface names that a call uses fit. -/
def Fits (call : BridgeCall) : Prop := ∀ a ∈ call.released + call.acquired, a.Fits

end BridgeCall

/-- A run of calls from a store, all of which succeed and give up only what is held: the calls, what
is held after them, and the store after them. -/
inductive Served (s : Store) : List BridgeCall → Multiset Attachment → Store → Prop
  | start : Served s [] 0 s
  | call {calls : List BridgeCall} {held : Multiset Attachment} {s₁ s₂ : Store} {call : BridgeCall}
      (before : Served s calls held s₁) (owned : call.released ≤ held)
      (hon : call.run.on s₁ = (.ok (), s₂)) :
      Served s (calls ++ [call]) (held - call.released + call.acquired) s₂

/-! ## Rules in the standard tables -/

/-- A rule belongs to a chain of one of the standard tables. -/
def StandsIn (t : TableSpec) (c : String) (r : Rule) : Prop :=
  t ∈ [(⟨"filter", .inet⟩ : TableSpec), ⟨"nat", .ip⟩] ∧ r.table = t.name ∧ r.chain = c

instance (t : TableSpec) (c : String) (r : Rule) : Decidable (StandsIn t c r) :=
  inferInstanceAs (Decidable (_ ∧ _))

/-- The fingerprints that rules have in a chain of the standard tables. -/
def standardMarks (rules : List Rule) (t : TableSpec) (c : String) : Multiset String :=
  ((rules.filter fun r => StandsIn t c r).map Rule.fingerprint : List String)

/-- The jumps to the chains of a prefix. -/
def jumpRules (mark : String) : List Rule :=
  [.jump "FORWARD" (mark ++ "FORWARD") "filter", .jump "INPUT" (mark ++ "INPUT") "filter"]

/-- The fingerprints of the jumps of a prefix that a chain does not have. -/
def missingJumps (s : Store) (mark : String) (t : TableSpec) (c : String) : Multiset String :=
  (standardMarks (jumpRules mark) t c).filter (· ∉ s.marks t c)

theorem mem_standardMarks {rules : List Rule} {t : TableSpec} {c text : String} :
    text ∈ standardMarks rules t c ↔ ∃ r ∈ rules, StandsIn t c r ∧ r.fingerprint = text := by
  simp [standardMarks, and_assoc]

theorem standardMarks_cons (rule : Rule) (rest : List Rule) (t : TableSpec) (c : String) :
    standardMarks (rule :: rest) t c = standardMarks [rule] t c + standardMarks rest t c := by
  unfold standardMarks
  rw [Multiset.coe_add, ← List.map_append, ← List.filter_append]
  rfl

theorem standardMarks_singleton (rule : Rule) (t : TableSpec) (c : String) :
    standardMarks [rule] t c = if StandsIn t c rule then {rule.fingerprint} else 0 := by
  unfold standardMarks
  rw [List.filter_singleton]
  by_cases h : StandsIn t c rule
  · rw [decide_eq_true h, if_pos h]
    rfl
  · rw [decide_eq_false h, if_neg h]
    rfl

section Store

variable {s s' : Store} {t : TableSpec} {c mark hostIf bridge : String}

theorem standsIn_filter_iff {rule : Rule} (htable : rule.table = filterTable) :
    StandsIn t c rule ↔ t = standardFilter.spec ∧ rule.chain = c := by
  unfold StandsIn
  rw [List.mem_pair, htable]
  constructor
  · rintro ⟨rfl | rfl, hname, hchain⟩
    · exact ⟨rfl, hchain⟩
    · exact absurd hname (by decide)
  · rintro ⟨rfl, hchain⟩
    exact ⟨.inl rfl, rfl, hchain⟩

theorem standsIn_nat_iff {rule : Rule} (htable : rule.table = natTable) :
    StandsIn t c rule ↔ t = standardNat.spec ∧ rule.chain = c := by
  unfold StandsIn
  rw [List.mem_pair, htable]
  constructor
  · rintro ⟨rfl | rfl, hname, hchain⟩
    · exact absurd hname (by decide)
    · exact ⟨rfl, hchain⟩
  · rintro ⟨rfl, hchain⟩
    exact ⟨.inr rfl, rfl, hchain⟩

/-- Where the standard tables stand, bare names mean them. -/
theorem home_iff_standsIn (hcarries : s.Carries) {rule : Rule}
    (htable : rule.table = filterTable ∨ rule.table = natTable) :
    s.home rule.table = some t ∧ c = rule.chain ↔ StandsIn t c rule := by
  rcases htable with htable | htable
  · rw [standsIn_filter_iff htable, htable, hcarries.home_filter, Option.some_inj, @eq_comm _ t,
      @eq_comm _ c]
  · rw [standsIn_nat_iff htable, htable, hcarries.home_nat, Option.some_inj, @eq_comm _ t,
      @eq_comm _ c]

theorem table_of_mem_bridgeRuleList {rule : Rule} (hrule : rule ∈ bridgeRuleList hostIf bridge mark) :
    rule.table = filterTable ∨ rule.table = natTable := by
  simp only [bridgeRuleList, List.mem_cons, List.not_mem_nil, or_false] at hrule
  rcases hrule with rfl | rfl | rfl | rfl | rfl | rfl | rfl | rfl | rfl
  case inr.inr.inl => exact .inr rfl
  all_goals exact .inl rfl

theorem belonging_bridge (hcarries : s.Carries) (t : TableSpec) (c : String) :
    s.belonging (bridgeRuleList hostIf bridge mark) t c =
      standardMarks (bridgeRuleList hostIf bridge mark) t c := by
  unfold belonging standardMarks
  refine congrArg (fun rules : List Rule => (rules.map Rule.fingerprint : Multiset String)) ?_
  refine List.filter_congr fun rule hrule => decide_eq_decide.2 ?_
  exact home_iff_standsIn hcarries (table_of_mem_bridgeRuleList hrule)

/-! ## One call where nothing is set to fail -/

/-- A jump that was not in its chain is one more mark there. -/
theorem marks_of_added_jump {source target : String} (hcarries : s.Carries)
    (hnew : (Rule.jump source target filterTable).fingerprint ∉ s.marks standardFilter.spec source)
    (hadded : Added (.jump source target filterTable) s s') (t : TableSpec) (c : String) :
    (s'.marks t c : Multiset String) = s.marks t c +
      (standardMarks [.jump source target filterTable] t c).filter (· ∉ s.marks t c) := by
  have hbelongs : (s.home (Rule.jump source target filterTable).table = some t ∧
      c = (Rule.jump source target filterTable).chain) ↔
        StandsIn t c (.jump source target filterTable) := home_iff_standsIn hcarries (.inl rfl)
  rw [hadded.marks, standardMarks_singleton]
  simp only [hbelongs]
  split
  · rename_i hplace
    obtain ⟨rfl, rfl⟩ : t = standardFilter.spec ∧ source = c := (standsIn_filter_iff rfl).1 hplace
    rw [Multiset.filter_singleton, if_pos hnew, ← Multiset.coe_add, Multiset.coe_singleton]
  · rw [Multiset.filter_zero, Multiset.add_zero]

/-- A jump that is in its chain is not missed anywhere. -/
theorem filter_jump_of_mem {source target : String}
    (hthere : (Rule.jump source target filterTable).fingerprint ∈ s.marks standardFilter.spec source)
    (t : TableSpec) (c : String) :
    (standardMarks [.jump source target filterTable] t c).filter (· ∉ s.marks t c) = 0 := by
  rw [standardMarks_singleton]
  split
  · rename_i hplace
    obtain ⟨rfl, rfl⟩ : t = standardFilter.spec ∧ source = c := (standsIn_filter_iff rfl).1 hplace
    rw [Multiset.filter_singleton, if_neg (not_not.2 hthere)]
    rfl
  · exact Multiset.filter_zero _

/-- A jump is installed unless the chain has it. -/
theorem ends_addJumpRule_quiet {source target : String} (hquiet : s.Quiet) (hcarries : s.Carries)
    (hsource : (s.chain? standardFilter.spec source).isSome) (hnames : source ≠ "" ∧ target ≠ "") :
    Ends (backend.addJumpRule source target filterTable) s
      (fun _ s' => s'.Quiet ∧ ∀ t c, (s'.marks t c : Multiset String) = s.marks t c +
        (standardMarks [.jump source target filterTable] t c).filter (· ∉ s.marks t c))
      (fun _ _ => False) := by
  have hhome := hcarries.home_filter
  have hfilter : filterTable ≠ "" := by decide
  refine Ends.bind (ends_newChain_quiet hquiet hhome (not_or.2 ⟨hnames.1, hfilter⟩) (.inr hsource)) ?_
  rintro _ s₁ ⟨rfl, hexisting⟩
  obtain rfl := hexisting.eq_of_existing
  refine Ends.bind (ends_newChain_quiet hquiet hhome (not_or.2 ⟨hnames.2, hfilter⟩) (.inl rfl)) ?_
  rintro _ s₂ ⟨-, hensured⟩
  have hquiet₂ := hensured.quiet hquiet
  have hhome₂ := hensured.retains.homes _ _ hhome
  have hsource₂ := hensured.evolves.chains _ _ hsource
  refine Ends.bind (ends_findInstalled ?_ ?_) ?_
  · intro hpending
    rw [hquiet₂.pending] at hpending
    cases hpending
  · intro _ hmissing
    have hnone : s₂.chain? standardFilter.spec source = none := hmissing
    rw [hnone] at hsource₂
    cases hsource₂
  rintro found s₂ ⟨rfl, -, hfound⟩
  split
  · rename_i hnone
    have hnew : (Rule.jump source target filterTable).fingerprint ∉
        s₂.marks standardFilter.spec source := by
      intro hmem
      have hsome := hfound.2 hmem
      rw [Option.isNone_iff_eq_none.1 hnone] at hsome
      cases hsome
    refine Ends.mono (ends_appendHome hhome₂) (fun _ s₃ hadded => ?_)
      fun _ _ hfailed => hfailed.2 ⟨hquiet₂, _, hhome₂, hsource₂⟩
    refine ⟨hadded.quiet hquiet₂, fun t c => ?_⟩
    rw [marks_of_added_jump (hcarries.evolves hensured.evolves) hnew hadded, hensured.marks]
  · rename_i hsome
    have hthere : (Rule.jump source target filterTable).fingerprint ∈
        s₁.marks standardFilter.spec source := by
      rw [← hensured.marks]
      exact hfound.1 (by simpa [Option.isSome_iff_ne_none] using hsome)
    refine ends_pure ⟨hquiet₂, fun t c => ?_⟩
    rw [hensured.marks, filter_jump_of_mem hthere, Multiset.add_zero]

/-- The jumps of a prefix are in chains of different names. -/
theorem missingJumps_eq (s : Store) (mark : String) (t : TableSpec) (c : String) :
    missingJumps s mark t c =
      (standardMarks [prefixedJump mark forwardChain] t c).filter (· ∉ s.marks t c) +
        (standardMarks [prefixedJump mark inputChain] t c).filter (· ∉ s.marks t c) := by
  rw [← Multiset.filter_add, ← standardMarks_cons]
  rfl

/-- The jump for input is in another chain than the one for forwarding, and is not found there. -/
theorem filter_inputJump_of_marks
    (hmarks : ∀ t c, (s'.marks t c : Multiset String) = s.marks t c +
      (standardMarks [prefixedJump mark forwardChain] t c).filter (· ∉ s.marks t c))
    (t : TableSpec) (c : String) :
    (standardMarks [prefixedJump mark inputChain] t c).filter (· ∉ s'.marks t c) =
      (standardMarks [prefixedJump mark inputChain] t c).filter (· ∉ s.marks t c) := by
  refine Multiset.filter_congr fun text htext => not_congr ?_
  obtain ⟨rule, hrule, hplace, -⟩ := mem_standardMarks.1 htext
  obtain rfl := List.mem_singleton.1 hrule
  obtain rfl : inputChain = c := ((standsIn_filter_iff rfl).1 hplace).2
  have hother : ¬ StandsIn t inputChain (prefixedJump mark forwardChain) := by
    intro h
    have hchain : forwardChain = inputChain := ((standsIn_filter_iff rfl).1 h).2
    exact absurd hchain (by decide)
  have hsame := hmarks t inputChain
  rw [standardMarks_singleton, if_neg hother, Multiset.filter_zero, Multiset.add_zero] at hsame
  rw [← Multiset.mem_coe, hsame, Multiset.mem_coe]

theorem ends_ensureStandardTables_quiet (hquiet : s.Quiet) :
    Ends backend.ensureStandardTables s
      (fun _ s' => s'.Standing ∧ s'.Quiet ∧ s'.marks = s.marks) (fun _ _ => False) := by
  refine Ends.mono (Ends.and ends_ensureStandardTables_standing
    ends_ensureStandardTables_provided) ?_ fun _ _ h => hquiet.calm.not_stopped h.2
  rintro _ _ ⟨⟨-, hstanding⟩, rfl⟩
  refine ⟨hstanding, ⟨hquiet.pending, hquiet.countdown⟩, funext fun t => funext fun c => ?_⟩
  rw [Store.marks, Store.marks, rulesOf_provided]

theorem ends_prepareBridgeChains_quiet (hquiet : s.Quiet) :
    Ends (backend.prepareBridgeChains mark) s
      (fun _ s' => Prepared mark s' ∧ s'.Quiet ∧ ∀ t c,
        (s'.marks t c : Multiset String) = s.marks t c + missingJumps s mark t c)
      (fun _ _ => False) := by
  have hnames : ∀ chain, chain ≠ "" → chain ≠ "" ∧ prefixedChain mark chain ≠ "" :=
    fun chain hchain => ⟨hchain, fun happend => hchain (String.append_eq_empty_iff.1 happend).2⟩
  have hquietly : Ends (backend.prepareBridgeChains mark) s
      (fun _ s' => s'.Quiet ∧ ∀ t c,
        (s'.marks t c : Multiset String) = s.marks t c + missingJumps s mark t c)
      (fun _ _ => False) := by
    refine Ends.bind (ends_ensureStandardTables_quiet hquiet) ?_
    rintro _ s₁ ⟨hstanding₁, hquiet₁, hmarks₁⟩
    have hcarries₁ := hstanding₁.carries
    refine Ends.bind (Ends.mono (Ends.and (ends_addJumpRule hcarries₁.home_filter)
      (ends_addJumpRule_quiet hquiet₁ hcarries₁ hcarries₁.forward (hnames _ (by decide))))
      (fun _ _ h => h) fun _ _ h => h.2) ?_
    rintro _ s₂ ⟨⟨hretains, -⟩, hquiet₂, hmarks₂⟩
    have hstanding₂ := hstanding₁.evolves hretains.evolves
    refine Ends.mono (ends_addJumpRule_quiet hquiet₂ hstanding₂.carries hstanding₂.input
      (hnames _ (by decide))) ?_ fun _ _ h => h
    rintro _ s₃ ⟨hquiet₃, hmarks₃⟩
    refine ⟨hquiet₃, fun t c => ?_⟩
    have hlater := filter_inputJump_of_marks hmarks₂ t c
    have hjumps := missingJumps_eq s mark t c
    rw [← hmarks₁] at hjumps ⊢
    calc (s₃.marks t c : Multiset String)
      _ = s₂.marks t c + (standardMarks [prefixedJump mark inputChain] t c).filter
            (· ∉ s₂.marks t c) := hmarks₃ t c
      _ = s₁.marks t c + (standardMarks [prefixedJump mark forwardChain] t c).filter
            (· ∉ s₁.marks t c) + (standardMarks [prefixedJump mark inputChain] t c).filter
            (· ∉ s₁.marks t c) := by rw [hlater, hmarks₂]; rfl
      _ = s₁.marks t c + missingJumps s mark t c := by rw [hjumps, Multiset.add_assoc]
  refine Ends.mono (Ends.and ends_prepareBridgeChains hquietly) ?_ fun _ _ h => h.2
  exact fun _ _ h => ⟨h.1.1, h.2⟩

/-- The rules of an attachment have no fault exactly when the names fit. -/
theorem faultless_iff (a : Attachment) : (∀ rule ∈ a.rules, rule.fault? = none) ↔ a.Fits := by
  obtain ⟨bridge, mark, hostIf⟩ := a
  have hplace : ∀ chain, chain ≠ "" → ¬ (filterTable = "" ∨ prefixedChain mark chain = "") := by
    rintro chain hchain (htable | hname)
    · exact absurd htable (by decide)
    · exact hchain (String.append_eq_empty_iff.1 hname).2
  have hforward := hplace forwardChain (by decide)
  have hinput := hplace inputChain (by decide)
  have hnat : ¬ (natTable = "" ∨ postroutingChain = "") := by decide
  unfold Attachment.rules Attachment.Fits bridgeRuleList
  simp only [List.forall_mem_cons, Rule.fault?, Rule.outbound, Rule.returnTraffic, Rule.masquerade,
    Rule.acceptPort, if_neg hforward, if_neg hinput, if_neg hnat]
  have hports : dnsPort ≠ 0 ∧ dhcpServerPort ≠ 0 ∧ dhcpClientPort ≠ 0 := by decide
  by_cases hhostIf : isLinkName hostIf
  · by_cases hbridge : isLinkName bridge
    · simp [Match.fault?, Verdict.fault?, hports, hhostIf, hbridge]
    · simp [Match.fault?, hbridge]
  · simp [Match.fault?, hhostIf]

/-- The rules of an attachment are used exactly when its names fit. -/
theorem ends_checked {a : Attachment} {next : RuleSet → Action Store Unit}
    {use : List Rule → Action Store Unit} {Q : Unit → Store → Prop} {E : Failure → Store → Prop}
    (hnext : ∀ set, next set = use set.rules) (hunfit : ∀ failure, ¬ a.Fits → E failure s)
    (hfit : a.Fits → Ends (use a.rules) s Q E) :
    Ends (do next (← Action.ofExcept (bridgeRules a.hostIf a.bridge a.mark))) s Q E := by
  refine ends_ofList (fun failure hfaulty => hunfit failure fun hfits => ?_)
    fun set hrules hfaultless => ?_
  · exact hfaulty ((faultless_iff a).2 hfits)
  · rw [hnext, hrules]
    exact hfit ((faultless_iff a).1 hfaultless)

/-- The fingerprints of an attachment in a chain. -/
def Attachment.marks (a : Attachment) (t : TableSpec) (c : String) : Multiset String :=
  standardMarks a.rules t c

theorem belonging_attachment (a : Attachment) (hprepared : Prepared a.mark s) (t : TableSpec)
    (c : String) : s.belonging a.rules t c = a.marks t c :=
  belonging_bridge hprepared.standing.carries t c

theorem ends_attach (a : Attachment) (hquiet : s.Quiet) (hprepared : Prepared a.mark s) :
    Ends (do backend.addRules (← Action.ofExcept (bridgeRules a.hostIf a.bridge a.mark))) s
      (fun _ s' => a.Fits ∧ s'.Quiet ∧ ∀ t c,
        (s'.marks t c : Multiset String) = s.marks t c + a.marks t c)
      (fun _ _ => ¬ a.Fits) := by
  refine ends_checked (fun _ => rfl) (fun _ h => h) fun hfits => ?_
  refine Ends.mono (ends_addAll_quiet hquiet fun rule hrule => hprepared.housed hrule) ?_
    fun _ _ h => h.elim
  rintro _ s' ⟨-, hquiet', hmarks⟩
  refine ⟨hfits, hquiet', fun t c => ?_⟩
  rw [hmarks, belonging_attachment a hprepared]

theorem ends_detach (a : Attachment) (hquiet : s.Quiet) (hwf : s.WellFormed)
    (hprepared : Prepared a.mark s) :
    Ends (do backend.removeRules (← Action.ofExcept (bridgeRules a.hostIf a.bridge a.mark))) s
      (fun _ s' => a.Fits ∧ s'.Quiet ∧ Prepared a.mark s' ∧ ∀ t c,
        (s'.marks t c : Multiset String) = s.marks t c - a.marks t c)
      (fun _ _ => ¬ a.Fits) := by
  refine ends_checked (fun _ => rfl) (fun _ h => h) fun hfits => ?_
  refine Ends.mono (Ends.and (ends_removeAll_unhindered hquiet.unhindered hwf
    fun rule hrule => hprepared.housed hrule) (ends_removeAll_follows a.rules hwf)) ?_
    fun _ _ h => h.1.elim
  rintro _ s' ⟨⟨-, hpending, hcountdown, hmarks⟩, hfollows⟩
  refine ⟨hfits, ⟨hpending.trans hquiet.pending, hcountdown.trans hquiet.countdown⟩,
    hprepared.of_removal hfollows, fun t c => ?_⟩
  rw [hmarks, belonging_attachment a hprepared]

variable {old new : Option String}

theorem ends_attachBridge_quiet (hquiet : s.Quiet) (hprepared : Prepared mark s) :
    Ends (backend.attachBridge new bridge mark) s
      (fun _ s' => (∀ a ∈ attachments new bridge mark, a.Fits) ∧ s'.Quiet ∧ ∀ t c,
        (s'.marks t c : Multiset String) =
          s.marks t c + (attachments new bridge mark).bind (·.marks t c))
      (fun _ _ => ¬ ∀ a ∈ attachments new bridge mark, a.Fits) := by
  unfold Backend.attachBridge attachments
  cases new.filter (· ≠ "") with
  | none =>
    refine ends_pure ⟨fun a ha => absurd ha (Multiset.notMem_zero a), hquiet, fun t c => ?_⟩
    rw [Multiset.zero_bind, Multiset.add_zero]
  | some hostIf =>
    refine Ends.mono (ends_attach ⟨bridge, mark, hostIf⟩ hquiet hprepared) ?_ ?_
    · rintro _ s' ⟨hfits, hquiet', hmarks⟩
      refine ⟨fun a ha => Multiset.mem_singleton.1 ha ▸ hfits, hquiet', fun t c => ?_⟩
      rw [hmarks, Multiset.singleton_bind]
    · exact fun _ _ hunfit hall => hunfit (hall _ (Multiset.mem_singleton_self _))

theorem ends_detachBridge_quiet (hquiet : s.Quiet) (hwf : s.WellFormed) (hprepared : Prepared mark s) :
    Ends (backend.detachBridge old bridge mark) s
      (fun _ s' => (∀ a ∈ attachments old bridge mark, a.Fits) ∧ s'.Quiet ∧ Prepared mark s' ∧
        ∀ t c, (s'.marks t c : Multiset String) =
          s.marks t c - (attachments old bridge mark).bind (·.marks t c))
      (fun _ _ => ¬ ∀ a ∈ attachments old bridge mark, a.Fits) := by
  unfold Backend.detachBridge attachments
  cases old.filter (· ≠ "") with
  | none =>
    refine ends_pure ⟨fun a ha => absurd ha (Multiset.notMem_zero a), hquiet, hprepared,
      fun t c => ?_⟩
    rw [Multiset.zero_bind, Multiset.sub_zero]
  | some hostIf =>
    refine Ends.mono (ends_detach ⟨bridge, mark, hostIf⟩ hquiet hwf hprepared) ?_ ?_
    · rintro _ s' ⟨hfits, hquiet', hprepared', hmarks⟩
      refine ⟨fun a ha => Multiset.mem_singleton.1 ha ▸ hfits, hquiet', hprepared', fun t c => ?_⟩
      rw [hmarks, Multiset.singleton_bind]
    · exact fun _ _ hunfit hall => hunfit (hall _ (Multiset.mem_singleton_self _))

/-- A call brings the jumps that its prefix misses, takes away what it gives up and adds what it
brings; it fails exactly when an interface name does not fit. -/
theorem ends_run_quiet (call : BridgeCall) (hquiet : s.Quiet) (hwf : s.WellFormed) :
    Ends call.run s
      (fun _ s' => call.Fits ∧ s'.Quiet ∧ ∀ t c,
        (s'.marks t c : Multiset String) = s.marks t c + missingJumps s call.mark t c -
          call.released.bind (·.marks t c) + call.acquired.bind (·.marks t c))
      (fun _ _ => ¬ call.Fits) := by
  have hprepare : ∀ mark, Ends (backend.prepareBridgeChains mark) s
      (fun _ s₁ => s₁.WellFormed ∧ Prepared mark s₁ ∧ s₁.Quiet ∧ ∀ t c,
        (s₁.marks t c : Multiset String) = s.marks t c + missingJumps s mark t c)
      (fun _ _ => ¬ call.Fits) := by
    intro mark
    have hwf₁ : Ends (backend.prepareBridgeChains mark) s (fun _ s₁ => s₁.WellFormed)
        (fun _ _ => True) := by
      refine Ends.of_on rfl (fun _ _ => ?_) fun _ _ => trivial
      exact (stepwise_prepareBridgeChains mark s).evolves.wellFormed hwf
    exact Ends.mono (Ends.and hwf₁ (ends_prepareBridgeChains_quiet hquiet)) (fun _ _ h => h)
      fun _ _ h => h.2.elim
  cases call with
  | configure bridge hostIf mark =>
    refine Ends.bind (hprepare mark) ?_
    rintro _ s₁ ⟨-, hprepared, hquiet₁, hmarks₁⟩
    refine Ends.mono (ends_attach ⟨bridge, mark, hostIf⟩ hquiet₁ hprepared) ?_ ?_
    · rintro _ s' ⟨hfits, hquiet', hmarks⟩
      refine ⟨fun a ha => ?_, hquiet', fun t c => ?_⟩
      · rw [BridgeCall.released, Multiset.zero_add] at ha
        exact Multiset.mem_singleton.1 ha ▸ hfits
      · rw [hmarks, hmarks₁, BridgeCall.released, BridgeCall.acquired, Multiset.zero_bind,
          Multiset.sub_zero, Multiset.singleton_bind]
        rfl
    · exact fun _ _ hunfit hall => hunfit (hall _ (Multiset.mem_add.2 (.inr
        (Multiset.mem_singleton_self _))))
  | switch old new bridge mark =>
    refine Ends.bind (hprepare mark) ?_
    rintro _ s₁ ⟨hwf₁, hprepared₁, hquiet₁, hmarks₁⟩
    refine Ends.bind (Ends.mono (ends_detachBridge_quiet hquiet₁ hwf₁ hprepared₁) (fun _ _ h => h)
      fun _ _ hunfit hall => hunfit fun a ha => hall a (Multiset.mem_add.2 (.inl ha))) ?_
    rintro _ s₂ ⟨hreleased, hquiet₂, hprepared₂, hmarks₂⟩
    refine Ends.mono (ends_attachBridge_quiet hquiet₂ hprepared₂) ?_
      fun _ _ hunfit hall => hunfit fun a ha => hall a (Multiset.mem_add.2 (.inr ha))
    rintro _ s₃ ⟨hacquired, hquiet₃, hmarks₃⟩
    refine ⟨fun a ha => ?_, hquiet₃, fun t c => ?_⟩
    · rcases Multiset.mem_add.1 ha with ha | ha
      · exact hreleased a ha
      · exact hacquired a ha
    · rw [hmarks₃, hmarks₂, hmarks₁]
      rfl

end Store

/-! ## Runs of calls -/

theorem BridgeCall.stepwise_run (call : BridgeCall) : Stepwise call.run := by
  cases call with
  | configure bridge hostIf mark =>
    refine Stepwise.bind (stepwise_prepareBridgeChains mark) fun _ => ?_
    exact Stepwise.bind (stepwise_ofExcept _) fun set => stepwise_addAll set.rules
  | switch old new bridge mark =>
    refine Stepwise.bind (stepwise_prepareBridgeChains mark) fun _ => ?_
    exact Stepwise.bind (stepwise_detachBridge _ _ _) fun _ => stepwise_attachBridge _ _ _

/-- The prefixes of a run, each once. -/
def marksOf (calls : List BridgeCall) : Multiset String :=
  Multiset.dedup (calls.map BridgeCall.mark : List String)

theorem marksOf_append (calls : List BridgeCall) (call : BridgeCall) :
    marksOf (calls ++ [call]) = if call.mark ∈ marksOf calls then marksOf calls
      else call.mark ::ₘ marksOf calls := by
  have hlist : (((calls ++ [call]).map BridgeCall.mark : List String) : Multiset String) =
      call.mark ::ₘ (calls.map BridgeCall.mark : List String) := by
    rw [List.map_append]
    exact Multiset.coe_eq_coe.2 (List.perm_append_singleton _ _)
  unfold marksOf
  rw [hlist]
  split
  · rename_i hmem
    rw [Multiset.dedup_cons_of_mem (Multiset.mem_dedup.1 hmem)]
  · rename_i hnew
    rw [Multiset.dedup_cons_of_notMem fun hmem => hnew (Multiset.mem_dedup.2 hmem)]

section Run

variable {s s₁ s₂ : Store} {calls : List BridgeCall} {held : Multiset Attachment}
variable {t : TableSpec} {c mark : String}

/-- No rule of an attachment has the fingerprint of a jump. -/
theorem not_mem_attachment_marks {text : String} (hjump : text ∈ standardMarks (jumpRules mark) t c)
    (a : Attachment) : text ∉ a.marks t c := by
  intro hmem
  obtain ⟨rule, hrule, -, rfl⟩ := mem_standardMarks.1 hmem
  obtain ⟨jump, hj, -, htext⟩ := mem_standardMarks.1 hjump
  rcases List.mem_pair.1 hj with rfl | rfl
  · exact fingerprint_ne_prefixedJump hrule htext.symm
  · exact fingerprint_ne_prefixedJump hrule htext.symm

/-- A jump in a chain tells its prefix. -/
theorem mark_of_jump {text other : String} (hjump : text ∈ standardMarks (jumpRules mark) t c)
    (hother : text ∈ standardMarks (jumpRules other) t c) : mark = other := by
  have htext : ∀ {mark : String}, text ∈ standardMarks (jumpRules mark) t c →
      text = (prefixedJump mark c).fingerprint := by
    intro mark hmem
    obtain ⟨jump, hj, ⟨-, -, rfl⟩, rfl⟩ := mem_standardMarks.1 hmem
    rcases List.mem_pair.1 hj with rfl | rfl
    · rfl
    · rfl
  exact fingerprint_prefixedJump_inj ((htext hjump).symm.trans (htext hother))

/-- The store after a run is accounted for: what was there, what is held, and the jumps of the prefixes
that were missing in the beginning. -/
structure Accounted (s : Store) (calls : List BridgeCall) (held : Multiset Attachment)
    (s' : Store) : Prop where
  quiet : s'.Quiet
  wellFormed : s'.WellFormed
  marks : ∀ t c, (s'.marks t c : Multiset String) = s.marks t c + held.bind (·.marks t c) +
    (marksOf calls).bind fun mark => missingJumps s mark t c

/-- A jump is there if it was in the beginning or its prefix was in use. -/
theorem Accounted.mem_marks_iff {text : String} (h : Accounted s calls held s₁)
    (hjump : text ∈ standardMarks (jumpRules mark) t c) :
    text ∈ s₁.marks t c ↔ text ∈ s.marks t c ∨ mark ∈ marksOf calls := by
  rw [← Multiset.mem_coe, h.marks, Multiset.mem_add, Multiset.mem_add, Multiset.mem_coe]
  constructor
  · rintro ((hold | hheld) | hjumps)
    · exact .inl hold
    · obtain ⟨a, -, ha⟩ := Multiset.mem_bind.1 hheld
      exact absurd ha (not_mem_attachment_marks hjump a)
    · obtain ⟨other, hother, hmissing⟩ := Multiset.mem_bind.1 hjumps
      obtain rfl := mark_of_jump hjump (Multiset.mem_filter.1 hmissing).1
      exact .inr hother
  · rintro (hold | hused)
    · exact .inl (.inl hold)
    · by_cases hold : text ∈ s.marks t c
      · exact .inl (.inl hold)
      · exact .inr (Multiset.mem_bind.2 ⟨mark, hused, Multiset.mem_filter.2 ⟨hjump, hold⟩⟩)

/-- Only a prefix that was not in use before can miss its jumps. -/
theorem Accounted.missingJumps_eq (h : Accounted s calls held s₁) :
    missingJumps s₁ mark t c =
      if mark ∈ marksOf calls then 0 else missingJumps s mark t c := by
  unfold missingJumps
  split
  · rename_i hused
    exact Multiset.filter_eq_nil.2 fun text hjump hmissing =>
      hmissing ((h.mem_marks_iff hjump).2 (.inr hused))
  · rename_i hnew
    refine Multiset.filter_congr fun text hjump => not_congr ?_
    rw [h.mem_marks_iff hjump, or_iff_left hnew]

theorem Accounted.bind_marksOf (h : Accounted s calls held s₁) (call : BridgeCall) :
    (marksOf (calls ++ [call])).bind (fun mark => missingJumps s mark t c) =
      (marksOf calls).bind (fun mark => missingJumps s mark t c) +
        missingJumps s₁ call.mark t c := by
  rw [marksOf_append, h.missingJumps_eq]
  split
  · rw [Multiset.add_zero]
  · rw [Multiset.cons_bind, Multiset.add_comm]

/-- A call that succeeds and gives up only what is held keeps the account. -/
theorem Accounted.call {call : BridgeCall} (h : Accounted s calls held s₁)
    (howned : call.released ≤ held) (hon : call.run.on s₁ = (.ok (), s₂)) :
    Accounted s (calls ++ [call]) (held - call.released + call.acquired) s₂ := by
  obtain ⟨-, hquiet, hmarks⟩ := (ends_run_quiet call h.quiet h.wellFormed).of_ok hon
  have hevolves := (call.stepwise_run s₁).evolves
  rw [hon] at hevolves
  refine ⟨hquiet, hevolves.wellFormed h.wellFormed, fun t c => ?_⟩
  -- What is given up is among what is held, so subtracting it takes nothing else away.
  have hheld : held.bind (·.marks t c) =
      (held - call.released).bind (·.marks t c) + call.released.bind (·.marks t c) := by
    rw [← Multiset.add_bind, Multiset.sub_add_cancel howned]
  have hmove : ∀ start kept freed jumps missing : Multiset String,
      start + (kept + freed) + jumps + missing = start + kept + (jumps + missing) + freed := by
    intro start kept freed jumps missing
    ac_rfl
  rw [hmarks, h.marks, hheld, h.bind_marksOf, Multiset.add_bind, hmove, Multiset.add_sub_cancel_right]
  ac_rfl

theorem Served.accounted (hquiet : s.Quiet) (hwf : s.WellFormed) (h : Served s calls held s₁) :
    Accounted s calls held s₁ := by
  induction h with
  | start =>
    refine ⟨hquiet, hwf, fun t c => ?_⟩
    have hnone : marksOf [] = 0 := rfl
    rw [hnone, Multiset.zero_bind, Multiset.zero_bind, Multiset.add_zero, Multiset.add_zero]
  | call _ howned hon ih => exact ih.call howned hon

end Run

/-- Bridge rules follow the host interface exactly. After every call of a run in which nothing is set to
fail, in which every call succeeds and none gives up what is not held, every chain has the fingerprints of
the beginning, those of the nine rules of every attachment that is held, and for every prefix that was
used the two jumps, once, unless the chain had them in the beginning. A further call succeeds exactly
when the interface names that it uses fit. -/
theorem attachments_accounted (s s' : Store) (calls : List BridgeCall) (held : Multiset Attachment)
    (hreached : Reaches empty s) (hquiet : s.Quiet) (hserved : Served s calls held s') :
    (∀ t c, (s'.marks t c : Multiset String) =
      s.marks t c + held.bind (fun a => standardMarks (bridgeRuleList a.hostIf a.bridge a.mark) t c) +
        (Multiset.dedup (calls.map BridgeCall.mark : List String)).bind fun mark =>
          (standardMarks (jumpRules mark) t c).filter (· ∉ s.marks t c)) ∧
    ∀ call : BridgeCall, (∃ later, call.run.on s' = (.ok (), later)) ↔ call.Fits := by
  have haccounted := hserved.accounted hquiet (wellFormed_of_reaches hreached)
  refine ⟨haccounted.marks, fun call => ?_⟩
  have hends := ends_run_quiet call haccounted.quiet haccounted.wellFormed
  rcases hon : call.run.on s' with ⟨failure | _, later⟩
  · have hunfit := hends.of_error hon
    refine iff_of_false ?_ hunfit
    rintro ⟨_, hok⟩
    cases hok
  · exact iff_of_true ⟨later, rfl⟩ (hends.of_ok hon).1

theorem served_append {s s₁ : Store} {calls : List BridgeCall} {held : Multiset Attachment}
    (h : Served s calls held s₁) (call : BridgeCall) (howned : call.released ≤ held)
    (hok : (call.run.on s₁).1.isOk) :
    Served s (calls ++ [call]) (held - call.released + call.acquired) (call.run.on s₁).2 := by
  refine .call h howned ?_
  rcases hon : call.run.on s₁ with ⟨failure | _, s₂⟩
  · rw [hon] at hok
    cases hok
  · rfl

/-- Where a first bridge is attached already, a second one of the same prefix comes and goes, and a third
one of another prefix is attached: the rules of the first are untouched, and only the jumps of the new
prefix are added. -/
theorem attachments_accounted_demo :
    ∃ s', Served demoBridged [.configure "br1" "eth0" "QEMU-",
        .switch (some "eth0") none "br1" "QEMU-", .switch (some "") (some "eth1") "br2" "ext-"]
        {⟨"br2", "ext-", "eth1"⟩} s' ∧
      (s'.marks ⟨"filter", .inet⟩ "INPUT" : Multiset String) =
        {"guestnet: jump QEMU-INPUT", "guestnet: jump ext-INPUT"} ∧
      (s'.marks ⟨"filter", .inet⟩ "QEMU-INPUT" : Multiset String) =
        demoBridged.marks ⟨"filter", .inet⟩ "QEMU-INPUT" := by
  have hreached : Reaches empty demoBridged := stepwise_engine _ empty
  have hquiet : demoBridged.Quiet := ⟨by decide +kernel, by decide +kernel⟩
  have hserved := served_append (served_append (served_append (.start (s := demoBridged))
    (.configure "br1" "eth0" "QEMU-") (by decide +kernel) (by decide +kernel))
    (.switch (some "eth0") none "br1" "QEMU-") (by decide +kernel) (by decide +kernel))
    (.switch (some "") (some "eth1") "br2" "ext-") (by decide +kernel) (by decide +kernel)
  obtain ⟨hmarks, -⟩ := attachments_accounted _ _ _ _ hreached hquiet hserved
  refine ⟨_, hserved, ?_, ?_⟩
  · rw [hmarks]
    decide +kernel
  · rw [hmarks]
    decide +kernel

end WorkloadNet.Network
