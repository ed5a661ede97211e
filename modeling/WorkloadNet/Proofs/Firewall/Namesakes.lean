import WorkloadNet.Proofs.Firewall.Convergence

/-!
# Tables of one name

Both families may have a table of one name. A table request says which of them it is about, but each of
its chains names its table alone, and a bare name means one table only. When both tables exist, that is
the favoured one. So the chains of a request for the other one are made in its namesake. The main
statement says exactly what a request leaves behind, and when that is what it asked for.
-/

namespace WorkloadNet.Firewall.Store

open WorkloadNet.Action

variable {s s' : Store} {tables : Tables} {name : String} {table spec : TableSpec}

/-! ## What a bare name means -/

/-- The table that a bare name means when both families have one. -/
def favoured (name : String) : TableSpec := ⟨name, (preferredFamily name).getD .inet⟩

theorem eq_of_ne_favoured {t t' : TableSpec} (hname : t.name = name) (hname' : t'.name = name)
    (h : t ≠ favoured name) (h' : t' ≠ favoured name) : t = t' := by
  obtain ⟨n, family⟩ := t
  obtain ⟨n', family'⟩ := t'
  obtain rfl : n = name := hname
  obtain rfl : n' = n := hname'
  have hfamily : family ≠ (favoured n').family := fun heq => h (by rw [heq]; rfl)
  have hfamily' : family' ≠ (favoured n').family := fun heq => h' (by rw [heq]; rfl)
  -- With two families, what is not the favoured one is the other.
  cases family <;> cases family' <;> cases hfav : (favoured n').family <;> simp_all

theorem exists_home (hmem : table ∈ s.tables) (hname : table.name = name) :
    ∃ t, s.home name = some t ∧ t.name = name := by
  have hcandidate : table ∈ s.tables.keys.filter fun t => t.name = name :=
    List.mem_filter.2 ⟨Std.ExtTreeMap.mem_keys.2 hmem, by simpa using hname⟩
  cases hhome : s.home name with
  | some t => exact ⟨t, rfl, name_of_resolveTable hhome⟩
  | none =>
    have hnone := (Option.or_eq_none_iff.1 hhome).2
    rw [List.head?_eq_none_iff.1 hnone] at hcandidate
    cases hcandidate

/-- Where no family is preferred, the first table of the name is meant. -/
theorem home_of_first (hnone : preferredFamily name = none) (hmem : favoured name ∈ s.tables) :
    s.home name = some (favoured name) := by
  have hfind : ((s.tables.keys.filter fun t => t.name = name).find?
      fun t => some t.family = preferredFamily name) = none := by
    rw [hnone]
    exact List.find?_eq_none.2 fun t _ => by simp
  have hhead : s.home name = (s.tables.keys.filter fun t => t.name = name).head? := by
    unfold home resolveTable
    dsimp only
    rw [hfind, Option.none_or]
  have hcandidate : favoured name ∈ s.tables.keys.filter fun t => t.name = name :=
    List.mem_filter.2 ⟨Std.ExtTreeMap.mem_keys.2 hmem, by simp [favoured]⟩
  have hordered : (s.tables.keys.filter fun t => t.name = name).Pairwise
      fun a b => compare a b = .lt := Std.ExtTreeMap.ordered_keys.filter _
  have hnames : ∀ t ∈ s.tables.keys.filter fun t => t.name = name, t.name = name :=
    fun t ht => by simpa using (List.mem_filter.1 ht).2
  rw [hhead]
  cases hlist : s.tables.keys.filter fun t => t.name = name with
  | nil =>
    rw [hlist] at hcandidate
    cases hcandidate
  | cons first rest =>
    rw [hlist] at hcandidate hordered hnames
    rcases List.mem_cons.1 hcandidate with heq | hrest
    · rw [heq]
      rfl
    · -- The favoured table is of the lesser family, so no table of the name stands before it.
      exfalso
      have hlt := (List.pairwise_cons.1 hordered).1 _ hrest
      obtain ⟨n, family⟩ := first
      obtain rfl : n = name := hnames _ List.mem_cons_self
      have hgt : compare (⟨n, family⟩ : TableSpec) (favoured n) ≠ .lt := by
        rw [favoured, hnone, Option.getD_none]
        change (compare n n).then (compare family.rank Family.inet.rank) ≠ .lt
        rw [Std.ReflOrd.compare_self]
        cases family <;> decide
      exact hgt hlt

/-- The favoured table is meant if it exists. -/
theorem home_favoured (hmem : favoured name ∈ s.tables) : s.home name = some (favoured name) := by
  cases hpreferred : preferredFamily name with
  | none => exact home_of_first hpreferred hmem
  | some family =>
    refine home_of_preferred hmem ?_
    change preferredFamily name = some ((preferredFamily name).getD .inet)
    rw [hpreferred]
    rfl

/-- The other table of a name is meant if it is the only one. -/
theorem home_of_only (hmem : table ∈ s.tables) (hname : table.name = name)
    (hmissing : favoured name ∉ s.tables) : s.home name = some table := by
  obtain ⟨t, hhome, ht⟩ := exists_home hmem hname
  have hne : ∀ t' ∈ s.tables, t' ≠ favoured name := by
    rintro t' ht' rfl
    exact hmissing ht'
  rw [hhome, eq_of_ne_favoured ht hname (hne t (mem_of_home hhome)) (hne table hmem)]

/-! ## Where the chains of a request go -/

/-- The table in which the chains of a request are looked for and made. -/
def chainHome (spec : TableSpec) (tables : Tables) : TableSpec :=
  if favoured spec.name ∈ tables then favoured spec.name else spec

theorem home_of_provided_table :
    (s.provided [.table spec]).home spec.name = some (chainHome spec s.tables) := by
  have hmem : ∀ t, t ∈ (s.provided [.table spec]).tables ↔ t = spec ∨ t ∈ s.tables := by
    intro t
    change t ∈ s.tables.insertIfNew spec [] ↔ _
    rw [Std.ExtTreeMap.mem_insertIfNew, Std.LawfulEqOrd.compare_eq_iff_eq, @eq_comm _ spec]
  unfold chainHome
  by_cases hfavoured : favoured spec.name ∈ s.tables
  · rw [if_pos hfavoured]
    exact home_favoured ((hmem _).2 (.inr hfavoured))
  · rw [if_neg hfavoured]
    by_cases hspec : spec = favoured spec.name
    · have hhome := home_favoured ((hmem (favoured spec.name)).2 (.inl hspec.symm))
      rwa [← hspec] at hhome
    · refine home_of_only ((hmem spec).2 (.inl rfl)) rfl fun hthere => ?_
      rcases (hmem _).1 hthere with heq | hold
      · exact hspec heq.symm
      · exact hfavoured hold

theorem Ensured.provided {request : ChainRequest} (h : Ensured request table s s') :
    s' = s.provided [.chain table request] := by
  cases h with
  | found hthere => exact (provided_of_there hthere).symm
  | created _ htable hnew => exact (provided_of_new htable hnew).symm

/-- Chains that all name one table are made in the table that the name means. -/
theorem ends_newChains_home {requests : List ChainRequest} (hhome : s.home name = some table)
    (hname : ∀ request ∈ requests, request.table = name) :
    Ends (backend.newChains requests) s
      (fun _ s' => s' = s.provided (requests.map (Requirement.chain table))) (fun _ _ => True) := by
  induction requests generalizing s with
  | nil => exact ends_pure rfl
  | cons request rest ih =>
    refine Ends.bind ends_newChain ?_
    rintro found s₁ ⟨hfound, hensured⟩
    obtain rfl : found = table := by
      rw [hname request List.mem_cons_self, hhome] at hfound
      exact (Option.some.inj hfound).symm
    have hhome₁ : s₁.home name = some found := (hensured.home name).trans hhome
    have hrest := ih hhome₁ fun r hr => hname r (List.mem_cons_of_mem _ hr)
    refine Ends.mono hrest (fun _ s₂ h => ?_) fun _ _ h => h
    rw [h, hensured.provided]
    rfl

/-- What a request leaves behind, wherever its chains go. -/
theorem ends_ensureTable_home {request : TableRequest}
    (hname : ∀ chain ∈ request.chains, chain.table = request.spec.name) :
    Ends (backend.ensureTable request) s
      (fun _ s' => s' = s.provided (.table request.spec ::
        request.chains.map (Requirement.chain (chainHome request.spec s.tables))))
      (fun _ _ => True) := by
  have hrest : Ends (backend.newChains request.chains) (s.provided [.table request.spec])
      (fun _ s' => s' = s.provided (.table request.spec ::
        request.chains.map (Requirement.chain (chainHome request.spec s.tables))))
      (fun _ _ => True) :=
    Ends.mono (ends_newChains_home home_of_provided_table hname) (fun _ _ h => h) fun _ _ h => h
  refine Ends.bind (P := fun found s₁ => s = s₁ ∧ found = s.tables.keys)
    (ends_listTables (fun _ => trivial) fun _ => ⟨rfl, rfl⟩) ?_
  rintro _ _ ⟨rfl, rfl⟩
  dsimp only
  split
  · refine Ends.bind (P := fun _ s₁ => s₁ = s.provided [.table request.spec])
      (ends_createTable (fun _ => trivial) rfl) ?_
    rintro _ _ rfl
    exact hrest
  · rename_i hthere
    have hthere : request.spec ∈ s.tables := by simpa using hthere
    have hsame : s.provided [.table request.spec] = s := by
      rw [provided, provide_of_met]
      exact fun r hr => List.mem_singleton.1 hr ▸ hthere
    rwa [hsame] at hrest

/-! ## Which chains there are afterwards -/

instance (tables : Tables) (table : TableSpec) (name : String) :
    Decidable (Holds tables table name) :=
  decidable_of_iff ((tables[table]?.getD []).any fun c => c.name = name) (by
    unfold Holds
    cases tables[table]? <;> simp)

theorem holds_insertIfNew : Holds (tables.insertIfNew spec []) table name ↔
    Holds tables table name := by
  unfold Holds
  by_cases hmem : spec ∈ tables
  · rw [Maps.insertIfNew_of_mem hmem]
  · rw [Maps.insertIfNew_of_not_mem hmem]
    by_cases ht : spec = table
    · subst ht
      simp [Std.ExtTreeMap.getElem?_eq_none hmem]
    · rw [Maps.getElem?_insert_of_ne ht]

theorem holds_meet_chain (request : ChainRequest) :
    Holds (Requirement.meet tables (.chain spec request)) table name ↔
      Holds tables table name ∨ table = spec ∧ request.name = name := by
  unfold Holds Requirement.meet
  by_cases ht : spec = table
  · subst ht
    have hsupply : ∀ chains : List StoredChain, (∃ c ∈ supply request chains, c.name = name) ↔
        (∃ c ∈ chains, c.name = name) ∨ request.name = name := by
      intro chains
      unfold supply
      split
      · rename_i hthere
        constructor
        · exact Or.inl
        · rintro (h | rfl)
          · exact h
          · exact hthere
      · simp [or_and_right, exists_or]
    rw [Std.ExtTreeMap.getElem?_insert_self]
    cases tables[spec]? <;> simp [hsupply]
  · rw [Maps.getElem?_insert_of_ne ht]
    simp [Ne.symm ht]

theorem holds_provide_chains (requests : List ChainRequest) :
    Holds (provide (requests.map (Requirement.chain spec)) tables) table name ↔
      Holds tables table name ∨ table = spec ∧ ∃ request ∈ requests, request.name = name := by
  induction requests generalizing tables with
  | nil => simp [provide]
  | cons request rest ih =>
    have hstep : Holds (provide (rest.map (Requirement.chain spec))
        (Requirement.meet tables (.chain spec request))) table name ↔ _ := ih
    refine hstep.trans ?_
    rw [holds_meet_chain, List.exists_mem_cons_iff, or_assoc, ← and_or_left]

/-! ## When a request gets what it asks for -/

/-- The table of a request exists with its chains, and no other table has a chain more. -/
structure Delivered (request : TableRequest) (tables tables' : Tables) : Prop where
  table : request.spec ∈ tables'
  chains : ∀ chain ∈ request.chains, Holds tables' request.spec chain.name
  others : ∀ t, t ≠ request.spec → ∀ name, Holds tables' t name → Holds tables t name

/-- A request that ends well has made what was missing of its table, and of its chains in the table that
their bare table name means. It gets what it asks for exactly if that is its own table, or if there was
nothing to be made of the chains in either of the two tables of the name. -/
theorem ensureTable_delivers_iff {request : TableRequest}
    (hname : ∀ chain ∈ request.chains, chain.table = request.spec.name)
    (hon : (backend.ensureTable request).on s = (.ok (), s')) :
    s' = s.provided (.table request.spec ::
      request.chains.map (Requirement.chain (chainHome request.spec s.tables))) ∧
    (Delivered request s.tables s'.tables ↔
      request.spec = favoured request.spec.name ∨ favoured request.spec.name ∉ s.tables ∨
        ∀ chain ∈ request.chains, Holds s.tables request.spec chain.name ∧
          Holds s.tables (favoured request.spec.name) chain.name) := by
  have hstate := (ends_ensureTable_home hname).of_ok hon
  refine ⟨hstate, ?_⟩
  have htable : request.spec ∈ s'.tables := by
    rw [hstate]
    exact met_provide s.tables (.table request.spec) List.mem_cons_self
  have hholds : ∀ t n, Holds s'.tables t n ↔ Holds s.tables t n ∨
      t = chainHome request.spec s.tables ∧ ∃ chain ∈ request.chains, chain.name = n := by
    intro t n
    rw [hstate]
    exact (holds_provide_chains _).trans (or_congr_left holds_insertIfNew)
  by_cases hhome : chainHome request.spec s.tables = request.spec
  · have hown : request.spec = favoured request.spec.name ∨ favoured request.spec.name ∉ s.tables := by
      by_cases hmem : favoured request.spec.name ∈ s.tables
      · rw [chainHome, if_pos hmem] at hhome
        exact Or.inl hhome.symm
      · exact Or.inr hmem
    refine iff_of_true ⟨htable, fun chain hchain => ?_, fun t ht n hn => ?_⟩ (or_assoc.1 (.inl hown))
    · exact (hholds _ _).2 (.inr ⟨hhome.symm, chain, hchain, rfl⟩)
    · rcases (hholds t n).1 hn with hold | ⟨hother, -⟩
      · exact hold
      · exact absurd (hother.trans hhome) ht
  · have hmem : favoured request.spec.name ∈ s.tables := by
      by_contra hmissing
      exact hhome (if_neg hmissing)
    have hfavoured : chainHome request.spec s.tables = favoured request.spec.name := if_pos hmem
    rw [hfavoured] at hhome hholds
    constructor
    · intro hdelivered
      refine .inr (.inr fun chain hchain => ⟨?_, ?_⟩)
      · rcases (hholds _ _).1 (hdelivered.chains chain hchain) with hold | ⟨hother, -⟩
        · exact hold
        · exact absurd hother.symm hhome
      · refine hdelivered.others _ hhome _ ((hholds _ _).2 (.inr ⟨rfl, chain, hchain, rfl⟩))
    · rintro (hown | hmissing | hthere)
      · exact absurd hown.symm hhome
      · exact absurd hmem hmissing
      · refine ⟨htable, fun chain hchain => (hholds _ _).2 (.inl (hthere chain hchain).1), ?_⟩
        intro t _ n hn
        rcases (hholds t n).1 hn with hold | ⟨rfl, chain, hchain, rfl⟩
        · exact hold
        · exact (hthere chain hchain).2

/-- A table of address translation of the favoured family, with a chain and a rule, and a table of a name
for which no family is preferred. -/
def demoNamesakes : Store :=
  { tables := (Std.ExtTreeMap.insert ∅ ⟨"nat", .ip⟩ [⟨"POSTROUTING", true, [(3, "foreign")]⟩]).insert
      ⟨"mangle", .ip⟩ []
    lastHandle := 3 }

/-- Two chains for a table that is not the favoured one of its name. -/
def demoCrossed : TableRequest :=
  ⟨⟨"nat", .inet⟩, [.regular "POSTROUTING" "nat", .regular "GUEST" "nat"]⟩

/-- A chain for a table that is the only one of its name. -/
def demoAlone : TableRequest := ⟨⟨"mangle", .ip⟩, [.regular "GUEST" "mangle"]⟩

/-- The chain of the first request is made in the namesake of its table, that of the second in its own. -/
theorem ensureTable_delivers_iff_demo :
    (∃ s', (backend.ensureTable demoCrossed).on demoNamesakes = (.ok (), s') ∧
      ¬ Delivered demoCrossed demoNamesakes.tables s'.tables ∧
      s'.snapshot = ["table ip mangle", "table inet nat", "table ip nat",
        "chain ip nat POSTROUTING base", "rule ip nat POSTROUTING foreign",
        "chain ip nat GUEST regular"]) ∧
    ∃ s', (backend.ensureTable demoAlone).on demoNamesakes = (.ok (), s') ∧
      Delivered demoAlone demoNamesakes.tables s'.tables := by
  have hcrossed : (backend.ensureTable demoCrossed).on demoNamesakes =
      (.ok (), ((backend.ensureTable demoCrossed).on demoNamesakes).2) := Prod.ext (by rfl) rfl
  have halone : (backend.ensureTable demoAlone).on demoNamesakes =
      (.ok (), ((backend.ensureTable demoAlone).on demoNamesakes).2) := Prod.ext (by rfl) rfl
  refine ⟨⟨_, hcrossed, fun hdelivered => ?_, by decide +kernel⟩, _, halone, ?_⟩
  · exact absurd ((ensureTable_delivers_iff (by decide) hcrossed).2.1 hdelivered) (by decide +kernel)
  · exact (ensureTable_delivers_iff (by decide) halone).2.2 (by decide +kernel)

/-- A chain for the filter table of the family that is not the favoured one. -/
def demoGuest : TableRequest := ⟨⟨"filter", .ip⟩, [.regular "GUEST" "filter"]⟩

/-- Where the only filter table is that of the favoured family, the request for the other one ends well, and
its table is made, but stays without the chain. -/
theorem chain_made_in_namesake :
    ∃ before after, (backend.createTable ⟨"filter", .inet⟩).on empty = (.ok (), before) ∧
      (backend.ensureTable demoGuest).on before = (.ok (), after) ∧
      ¬ Delivered demoGuest before.tables after.tables ∧
      after.snapshot = ["table inet filter", "chain inet filter GUEST regular", "table ip filter"] := by
  refine ⟨((backend.createTable ⟨"filter", .inet⟩).on empty).2,
    ((backend.ensureTable demoGuest).on ((backend.createTable ⟨"filter", .inet⟩).on empty).2).2,
    Prod.ext (by rfl) rfl, Prod.ext (by rfl) rfl, fun hdelivered => ?_, by decide +kernel⟩
  have hchain := hdelivered.chains _ List.mem_cons_self
  exact absurd hchain (by decide +kernel)

end WorkloadNet.Firewall.Store
