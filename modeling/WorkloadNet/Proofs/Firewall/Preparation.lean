import WorkloadNet.Firewall.Bridge
import WorkloadNet.Proofs.Firewall.Journal
import WorkloadNet.Proofs.Firewall.Refusals

/-!
# Preparing the chains of a bridge

Before the rules of a bridge are checked, the standard tables, the chains of its prefix and the
jumps to these chains are ensured. Afterwards all of them are there (`Prepared`); where they were
there before, nothing is changed. Installing and removing rules of bridges leaves them in place.
-/

namespace WorkloadNet.Firewall.Store

open WorkloadNet.Action

variable {s s' s₁ s₂ : Store} {mark : String}

/-! ## Jumps -/

theorem installed_of_tables {rule : Rule} (h : s'.tables = s.tables) :
    s'.Installed rule ↔ s.Installed rule := by
  rw [installed_iff_copies, installed_iff_copies, copies_of_tables h]

/-- A store in which the chains and the rules of another one are still there. -/
structure Retains (s s' : Store) : Prop where
  evolves : Evolves s s'
  homes : ∀ name table, s.home name = some table → s'.home name = some table
  marks : ∀ t c mark, mark ∈ s.marks t c → mark ∈ s'.marks t c

theorem Retains.refl (s : Store) : Retains s s := ⟨.refl s, fun _ _ h => h, fun _ _ _ h => h⟩

theorem Retains.trans (h : Retains s s₁) (h' : Retains s₁ s₂) : Retains s s₂ :=
  ⟨h.evolves.trans h'.evolves, fun name table ht => h'.homes name table (h.homes name table ht),
    fun t c mark hm => h'.marks t c mark (h.marks t c mark hm)⟩

theorem Retains.installed {rule : Rule} (h : Retains s s') (hinstalled : s.Installed rule) :
    s'.Installed rule := by
  obtain ⟨table, hhome, hmark⟩ := hinstalled
  exact ⟨table, h.homes _ _ hhome, h.marks _ _ _ hmark⟩

theorem retains_withChain {table : TableSpec} {chain : StoredChain} {chains : List StoredChain}
    (htable : s.tables[table]? = some chains) (hnew : ∀ c ∈ chains, c.name ≠ chain.name)
    (hempty : chain.rules = []) : Retains s (s.withChain table chain) := by
  refine ⟨evolves_withChain htable hnew hempty, fun name t ht => ?_, fun t c mark hmark => ?_⟩
  · rw [home_withChain]
    exact ht
  · rwa [marks, rulesOf_withChain hempty]

theorem Ensured.retains {request : ChainRequest} {table : TableSpec}
    (h : Ensured request table s s') : Retains s s' := by
  cases h with
  | found _ => exact .refl s
  | created _ htable hnew => exact retains_withChain htable hnew rfl

theorem Ensured.eq_of_present {request : ChainRequest} {table : TableSpec}
    (h : Ensured request table s s') (hthere : (s.chain? table request.name).isSome) : s' = s := by
  cases h with
  | found _ => rfl
  | created _ htable hnew =>
    rw [chain?_eq_none_of_new htable hnew] at hthere
    cases hthere

theorem Added.retains {rule : Rule} (h : Added rule s s') : Retains s s' := by
  refine ⟨h.evolves, fun name table hhome => ?_, fun t c mark hmark => ?_⟩
  · rw [home_eq_of_layout h.layout]
    exact hhome
  · rw [h.marks]
    split
    · exact List.mem_append_left _ hmark
    · exact hmark

theorem Added.installed {rule : Rule} (h : Added rule s s') : s'.Installed rule := by
  obtain ⟨table, hhome, _⟩ := h.housed
  refine ⟨table, ?_, ?_⟩
  · rw [home_eq_of_layout h.layout]
    exact hhome
  · rw [h.marks, if_pos ⟨hhome, rfl⟩]
    exact List.mem_append_right _ (List.mem_singleton_self _)

theorem ends_findInstalled {table : TableSpec} {rule : Rule} {E : Failure → Store → Prop}
    (hinjected : .rules ∈ s.pending → E (injected .rules) (s.spend .rules))
    (hmissing : ∀ failure, s.chain? table rule.chain = none → E failure s) :
    Ends (backend.findInstalled table rule) s
      (fun found s' => s' = s ∧ (s.chain? table rule.chain).isSome ∧
        (found.isSome ↔ rule.fingerprint ∈ s.marks table rule.chain)) E := by
  refine Ends.bind (P := fun installed s₁ => s₁ = s ∧ (s.chain? table rule.chain).isSome ∧
    installed = (s.rulesOf table rule.chain).map fun r => ⟨r.1, some r.2⟩)
    (ends_listRules hinjected hmissing fun _ hchain => ⟨rfl, hchain, rfl⟩) ?_
  rintro _ _ ⟨rfl, hchain, rfl⟩
  refine ends_pure ⟨rfl, hchain, ?_⟩
  rw [Option.isSome_map, List.find?_isSome]
  unfold marks
  simp [eq_comm]

/-- After a jump was ensured, both chains exist and the jump is installed. Where that was so, nothing
has changed. -/
theorem ends_addJumpRule {source target table : String} {spec : TableSpec}
    (hhome : s.home table = some spec) :
    Ends (backend.addJumpRule source target table) s
      (fun _ s' => Retains s s' ∧ (s'.chain? spec target).isSome ∧
        s'.Installed (.jump source target table) ∧
        ((s.chain? spec target).isSome → s.Installed (.jump source target table) → s' = s))
      (fun _ _ => True) := by
  refine Ends.bind (P := fun found s₁ => s₁ = s ∧ found = spec) (Ends.mono ends_newChain ?_
    fun _ _ h => h) ?_
  · rintro found s₁ ⟨hfound, hensured⟩
    exact ⟨hensured.eq_of_existing, Option.some.inj (hfound.symm.trans hhome)⟩
  rintro _ _ ⟨rfl, rfl⟩
  refine Ends.bind ends_newChain ?_
  rintro found s₁ ⟨hfound, hensured⟩
  obtain rfl := Option.some.inj (hfound.symm.trans hhome)
  have hretains := hensured.retains
  have hchain := hensured.chain
  refine Ends.bind (ends_findInstalled (fun _ => trivial) fun _ _ => trivial) ?_
  rintro handle _ ⟨rfl, -, hhandle⟩
  have hhome₁ := hretains.homes table _ hhome
  split
  · rename_i hnone
    refine Ends.mono (ends_appendHome hhome₁) ?_ fun _ _ _ => trivial
    intro _ s₂ hadded
    refine ⟨hretains.trans hadded.retains, hadded.evolves.chains _ _ hchain, hadded.installed,
      fun _ hinstalled => ?_⟩
    -- The jump cannot have been there, or it would have been found.
    obtain ⟨other, hother, hmark'⟩ := hretains.installed hinstalled
    obtain rfl := Option.some.inj (hother.symm.trans hhome₁)
    have hsome := hhandle.2 hmark'
    rw [Option.isNone_iff_eq_none.1 hnone] at hsome
    cases hsome
  · rename_i hsome
    have hmark := hhandle.1 (by simpa [Option.isSome_iff_ne_none] using hsome)
    exact ends_pure ⟨hretains, hchain, ⟨_, hhome₁, hmark⟩, fun hthere _ =>
      hensured.eq_of_present hthere⟩

/-! ## The standard tables -/

/-- Where every chain of a list is there, ensuring them changes nothing. -/
theorem ends_newChains_present (requests : List ChainRequest)
    (hpresent : ∀ request ∈ requests, s.Present request) :
    Ends (backend.newChains requests) s (fun _ s' => s' = s) (fun _ _ => True) := by
  induction requests with
  | nil => exact ends_pure rfl
  | cons request rest ih =>
    refine Ends.bind ends_newChain ?_
    rintro table s₁ ⟨hhome, hensured⟩
    obtain ⟨other, hother, hthere⟩ := hpresent request List.mem_cons_self
    obtain rfl := Option.some.inj (hother.symm.trans hhome)
    obtain rfl := hensured.eq_of_present hthere
    exact ih fun later hlater => hpresent later (List.mem_cons_of_mem _ hlater)

theorem ends_ensureTable_present (request : TableRequest) (hmem : request.spec ∈ s.tables)
    (hpresent : ∀ chain ∈ request.chains, s.Present chain) :
    Ends (backend.ensureTable request) s (fun _ s' => s' = s) (fun _ _ => True) := by
  refine Ends.bind (P := fun tables s₁ => s = s₁ ∧ tables = s.tables.keys)
    (ends_listTables (fun _ => trivial) fun _ => ⟨rfl, rfl⟩) ?_
  rintro _ _ ⟨rfl, rfl⟩
  have hkey : request.spec ∈ s.tables.keys := Std.ExtTreeMap.mem_keys.2 hmem
  dsimp only
  rw [if_neg (not_not_intro hkey)]
  exact ends_newChains_present request.chains hpresent

/-- The standard tables are not touched when all of their chains are there. -/
theorem Standing.ends_ensureStandardTables (h : s.Standing) :
    Ends backend.ensureStandardTables s (fun _ s' => s' = s) (fun _ _ => True) := by
  have hfilter : ∀ chain ∈ standardFilter.chains, s.Present chain := by
    intro chain hchain
    have hname : ∀ c ∈ standardFilter.chains, c.table = filterTable := by decide
    refine ⟨standardFilter.spec, ?_, h.filter chain hchain⟩
    rw [hname chain hchain]
    exact h.carries.home_filter
  have hnat : ∀ chain ∈ standardNat.chains, s.Present chain := by
    intro chain hchain
    have hname : ∀ c ∈ standardNat.chains, c.table = natTable := by decide
    refine ⟨standardNat.spec, ?_, h.nat chain hchain⟩
    rw [hname chain hchain]
    exact h.carries.home_nat
  refine Ends.bind (ends_ensureTable_present _ (mem_of_chain? h.carries.forward) hfilter) ?_
  rintro _ _ rfl
  exact ends_ensureTable_present _ (mem_of_chain? h.carries.postrouting) hnat

/-! ## The preparation -/

/-- The jump from a standard chain to the chain of a prefix. -/
def prefixedJump (mark chain : String) : Rule :=
  .jump chain (prefixedChain mark chain) filterTable

/-- All that the rules of a bridge with this prefix need is there. -/
structure Prepared (mark : String) (s : Store) : Prop where
  standing : s.Standing
  forward : (s.chain? standardFilter.spec (prefixedChain mark forwardChain)).isSome
  input : (s.chain? standardFilter.spec (prefixedChain mark inputChain)).isSome
  forwardJump : s.Installed (prefixedJump mark forwardChain)
  inputJump : s.Installed (prefixedJump mark inputChain)

theorem Prepared.of_layout (h : Prepared mark s) (hlayout : s'.layout = s.layout)
    (hjumps : ∀ chain, s.Installed (prefixedJump mark chain) →
      s'.Installed (prefixedJump mark chain)) :
    Prepared mark s' := by
  have hchains : ∀ table name, (s'.chain? table name).isSome = (s.chain? table name).isSome :=
    isSome_chain?_of_layout hlayout
  refine ⟨⟨fun request hr => ?_, fun request hr => ?_⟩, ?_, ?_, hjumps _ h.forwardJump,
    hjumps _ h.inputJump⟩
  · rw [hchains]
    exact h.standing.filter request hr
  · rw [hchains]
    exact h.standing.nat request hr
  · rw [hchains]
    exact h.forward
  · rw [hchains]
    exact h.input

theorem Prepared.of_tables (h : Prepared mark s) (htables : s'.tables = s.tables) :
    Prepared mark s' :=
  h.of_layout (layout_of_tables htables) fun _ => (installed_of_tables htables).2

/-- The preparation leaves everything prepared, and nothing changed that was prepared before. -/
theorem ends_prepareBridgeChains :
    Ends (backend.prepareBridgeChains mark) s
      (fun _ s' => Prepared mark s' ∧ (Prepared mark s → s' = s)) (fun _ _ => True) := by
  have hensures : Ends backend.ensureStandardTables s
      (fun _ s₁ => s₁.Standing ∧ (s.Standing → s₁ = s)) (fun _ _ => True) := by
    by_cases hstanding : s.Standing
    · refine Ends.mono hstanding.ends_ensureStandardTables ?_ fun _ _ h => h
      rintro _ s₁ rfl
      exact ⟨hstanding, fun _ => rfl⟩
    · exact Ends.mono ends_ensureStandardTables_standing
        (fun _ _ h => ⟨h.2, fun h' => absurd h' hstanding⟩) fun _ _ h => h
  refine Ends.bind hensures ?_
  rintro _ s₁ ⟨hstanding₁, hsame₁⟩
  refine Ends.bind (ends_addJumpRule hstanding₁.carries.home_filter) ?_
  rintro _ s₂ ⟨hretains₂, hforward, hforwardJump, hsame₂⟩
  have hstanding₂ := hstanding₁.evolves hretains₂.evolves
  refine Ends.mono (ends_addJumpRule hstanding₂.carries.home_filter) ?_ fun _ _ h => h
  rintro _ s₃ ⟨hretains₃, hinput, hinputJump, hsame₃⟩
  refine ⟨⟨hstanding₂.evolves hretains₃.evolves, hretains₃.evolves.chains _ _ hforward, hinput,
    hretains₃.installed hforwardJump, hinputJump⟩, fun h => ?_⟩
  obtain rfl := hsame₁ h.standing
  obtain rfl := hsame₂ h.forward h.forwardJump
  exact hsame₃ h.input h.inputJump

theorem unrefusing_prepareBridgeChains : Unrefusing (backend.prepareBridgeChains mark) := by
  have hjump : ∀ chain, chain ≠ "" →
      Unrefusing (backend.addJumpRule chain (prefixedChain mark chain) filterTable) := by
    intro chain hchain s
    have htarget : prefixedChain mark chain ≠ "" :=
      fun happend => hchain (String.append_eq_empty_iff.1 happend).2
    refine Ends.mono (addJumpRule_refuses _ _ _) (fun _ _ h => h) fun failure _ h => ?_
    by_contra hconfig
    exact (h (by simpa using hconfig)).2 ⟨hchain, htarget, by decide⟩
  exact Unrefusing.bind unrefusing_ensureStandardTables fun _ =>
    Unrefusing.bind (hjump _ (by decide)) fun _ => hjump _ (by decide)

/-! ## Rules of bridges -/

/-- The chains that the rules of a bridge belong to are there. -/
theorem Prepared.housed {hostIf bridge : String} {rule : Rule} (h : Prepared mark s)
    (hrule : rule ∈ bridgeRuleList hostIf bridge mark) : s.Housed rule := by
  have hfilter : ∀ rule : Rule, rule.table = filterTable →
      (s.chain? standardFilter.spec rule.chain).isSome → s.Housed rule := by
    intro rule htable hchain
    refine ⟨standardFilter.spec, ?_, hchain⟩
    rw [htable]
    exact h.standing.carries.home_filter
  simp only [bridgeRuleList, List.mem_cons, List.not_mem_nil, or_false] at hrule
  rcases hrule with rfl | rfl | rfl | rfl | rfl | rfl | rfl | rfl | rfl
  · exact hfilter _ rfl h.forward
  · exact hfilter _ rfl h.forward
  · exact ⟨standardNat.spec, h.standing.carries.home_nat, h.standing.carries.postrouting⟩
  all_goals exact hfilter _ rfl h.input

theorem Prepared.findable {hostIf bridge : String} {rule : Rule} (h : Prepared mark s)
    (hrule : rule ∈ bridgeRuleList hostIf bridge mark) : s.Findable rule :=
  (h.housed hrule).findable

/-- No rule of a bridge has the text of a jump: theirs start with an interface or a protocol. -/
theorem fingerprint_ne_prefixedJump {hostIf bridge other chain : String} {rule : Rule}
    (hrule : rule ∈ bridgeRuleList hostIf bridge other) :
    rule.fingerprint ≠ (prefixedJump mark chain).fingerprint := by
  intro hsame
  have hjump : (prefixedJump mark chain).fingerprint.toList[10]? = some 'j' := by
    simp [prefixedJump, Rule.jump, Rule.fingerprint, Rule.text, Verdict.text, String.join]
  rw [← hsame] at hjump
  simp only [bridgeRuleList, List.mem_cons, List.not_mem_nil, or_false] at hrule
  rcases hrule with rfl | rfl | rfl | rfl | rfl | rfl | rfl | rfl | rfl <;>
    simp [Rule.outbound, Rule.returnTraffic, Rule.masquerade, Rule.acceptPort, Rule.fingerprint,
      Rule.text, Match.text, String.join] at hjump

/-- A jump from one chain tells the prefix of its target. -/
theorem fingerprint_prefixedJump_inj {other chain : String}
    (h : (prefixedJump mark chain).fingerprint = (prefixedJump other chain).fingerprint) :
    mark = other := by
  have htext : ∀ mark, (prefixedJump mark chain).fingerprint =
      "guestnet: " ++ ("jump " ++ (mark ++ chain)) := by
    intro mark
    simp [prefixedJump, prefixedChain, Rule.jump, Rule.fingerprint, Rule.text, Verdict.text,
      String.join]
  rw [htext, htext] at h
  exact (String.append_left_inj chain).1 ((String.append_right_inj _).1
    ((String.append_right_inj _).1 h))

theorem not_twin_prefixedJump {hostIf bridge chain : String} {rule : Rule}
    (hrule : rule ∈ bridgeRuleList hostIf bridge mark) : ¬ rule.Twin (prefixedJump mark chain) :=
  fun htwin => fingerprint_ne_prefixedJump hrule htwin.fingerprint

/-- Looking for a rule that is not installed. -/
theorem ends_removeRule_absent {rule : Rule} (habsent : ¬ s.Installed rule) :
    Ends (backend.removeRule rule) s (fun _ s' => s' = s ∧ s.Findable rule)
      (fun _ s' => s.Unhindered → s' = s ∧ ¬ s.Findable rule) := by
  refine ends_searched (fun hpending hunhindered => absurd hpending hunhindered.tables) ?_ ?_
  · intro hnone
    refine ⟨rfl, fun table hhome => ?_⟩
    cases hnone.symm.trans hhome
  · intro table _ hhome
    refine Ends.bind (ends_findInstalled
      (fun hpending hunhindered => absurd hpending hunhindered.rules) ?_) ?_
    · intro _ hmissing _
      refine ⟨rfl, fun hfindable => ?_⟩
      have hchain := hfindable table hhome
      rw [hmissing] at hchain
      cases hchain
    · rintro found _ ⟨rfl, hchain, hfound⟩
      split
      · exact absurd ⟨table, hhome, hfound.1 rfl⟩ habsent
      · refine ends_pure ⟨rfl, fun other hother => ?_⟩
        rwa [Option.some.inj (hother.symm.trans hhome)]

/-- Removing rules of which none is installed changes nothing, and only a missing chain stops it. -/
theorem ends_removeAll_absent (rules : List Rule) (habsent : ∀ rule ∈ rules, ¬ s.Installed rule) :
    Ends (backend.removeAll rules) s (fun _ s' => s' = s ∧ ∀ rule ∈ rules, s.Findable rule)
      (fun _ s' => s.Unhindered → s' = s ∧ ¬ ∀ rule ∈ rules, s.Findable rule) := by
  induction rules with
  | nil => exact ends_pure ⟨rfl, fun _ hmem => absurd hmem List.not_mem_nil⟩
  | cons rule rest ih =>
    refine Ends.bind (Ends.mono (ends_removeRule_absent (habsent rule List.mem_cons_self))
      (fun _ _ h => h) fun _ _ hfailed hunhindered => ?_) ?_
    · obtain ⟨hsame, hlost⟩ := hfailed hunhindered
      exact ⟨hsame, fun hall => hlost (hall rule List.mem_cons_self)⟩
    · rintro _ _ ⟨rfl, hfindable⟩
      refine Ends.mono (ih fun later hlater => habsent later (List.mem_cons_of_mem _ hlater)) ?_ ?_
      · rintro _ _ ⟨hsame, hrest⟩
        exact ⟨hsame, List.forall_mem_cons.2 ⟨hfindable, hrest⟩⟩
      · intro _ _ hfailed hunhindered
        obtain ⟨hsame, hlost⟩ := hfailed hunhindered
        exact ⟨hsame, fun hall => hlost fun later hlater => hall later (List.mem_cons_of_mem _ hlater)⟩

theorem ends_removeAll_follows (rules : List Rule) (hwf : s.WellFormed) :
    Ends (backend.removeAll rules) s (fun _ => Follows (rules.map .withdrawn) s)
      (fun _ _ => True) := by
  rw [removeAll_eq]
  refine ends_iff.2 ⟨fun _ s' hon => ?_, fun _ _ _ => trivial⟩
  have hfollows := follows_completed rules enters_removeRule hwf
  rwa [completed_of_ok hon, hon] at hfollows

/-- Removing the rules of a bridge leaves its chains prepared. -/
theorem Prepared.of_removal {hostIf bridge : String} (h : Prepared mark s)
    (hfollows : Follows ((bridgeRuleList hostIf bridge mark).map .withdrawn) s s') :
    Prepared mark s' := by
  refine h.of_layout hfollows.layout fun chain hjump => ?_
  have hnone : (bridgeRuleList hostIf bridge mark).countP (·.Twin (prefixedJump mark chain)) = 0 :=
    List.countP_eq_zero.2 fun rule hrule => by simpa using not_twin_prefixedJump hrule
  rw [installed_iff_copies] at hjump ⊢
  rw [hfollows.copies, foldl_withdrawn, hnone]
  exact hjump

end WorkloadNet.Firewall.Store
