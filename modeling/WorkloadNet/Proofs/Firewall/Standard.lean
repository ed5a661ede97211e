import WorkloadNet.Proofs.Firewall.Marks

/-!
# The standard tables

After the standard tables have been ensured, the bare names of the standard tables mean these tables,
and their chains exist; that stays so in every later store.
-/

namespace WorkloadNet.Firewall.Store

open WorkloadNet.Action

variable {s s' : Store}

/-- The table of the preferred family is meant whenever it exists. -/
theorem home_of_preferred {table : TableSpec} (hmem : table ∈ s.tables)
    (hfamily : preferredFamily table.name = some table.family) : s.home table.name = some table := by
  have hkey : table ∈ s.tables.keys := Std.ExtTreeMap.mem_keys.2 hmem
  unfold home resolveTable
  cases hfind : (s.tables.keys.filter fun t => t.name = table.name).find?
    fun t => some t.family = preferredFamily table.name with
  | none =>
    have hnone := List.find?_eq_none.1 hfind table (by simpa using hkey)
    simp [hfamily] at hnone
  | some found =>
    have hname : found.name = table.name := by
      simpa using (List.mem_filter.1 (List.mem_of_find?_eq_some hfind)).2
    have hfamily' : some found.family = preferredFamily table.name := by
      simpa using List.find?_some hfind
    have heq : found = table := by
      rw [hfamily] at hfamily'
      cases found
      cases table
      simp_all
    dsimp only
    rw [hfind, heq]
    rfl

theorem mem_of_chain? {table : TableSpec} {name : String} (h : (s.chain? table name).isSome) :
    table ∈ s.tables := by
  rw [Std.ExtTreeMap.mem_iff_isSome_getElem?]
  unfold chain? at h
  cases htable : s.tables[table]? with
  | none => simp [htable] at h
  | some _ => rfl

theorem mem_of_home {name : String} {table : TableSpec} (h : s.home name = some table) :
    table ∈ s.tables := by
  unfold home resolveTable at h
  have hcandidate : table ∈ s.tables.keys.filter fun t => t.name = name := by
    rcases Option.or_eq_some_iff.1 h with hfind | ⟨_, hhead⟩
    · exact List.mem_of_find?_eq_some hfind
    · exact List.mem_of_mem_head? hhead
  exact Std.ExtTreeMap.mem_keys.1 (List.mem_filter.1 hcandidate).1

/-! ## Ensuring chains and tables -/

theorem isSome_chain?_withChain {table : TableSpec} {chain : StoredChain}
    (hmem : table ∈ s.tables) : ((s.withChain table chain).chain? table chain.name).isSome := by
  have hget := Std.ExtTreeMap.getElem?_eq_some_getElem hmem
  unfold chain? withChain
  rw [Std.ExtTreeMap.getElem?_modify_self, hget]
  simp [List.find?_append]

/-- The chain of a request exists in the table that the request means. -/
def Present (s : Store) (request : ChainRequest) : Prop :=
  ∃ table, s.home request.table = some table ∧ (s.chain? table request.name).isSome

/-- A store after a chain was ensured: the same if the chain was there, else with the chain more. -/
inductive Ensured (request : ChainRequest) (table : TableSpec) (s : Store) : Store → Prop
  | found (hchain : (s.chain? table request.name).isSome) : Ensured request table s s
  | created {chains : List StoredChain} (hcreate : request.create)
      (htable : s.tables[table]? = some chains) (hnew : ∀ c ∈ chains, c.name ≠ request.name) :
      Ensured request table s (s.withChain table ⟨request.name, request.base.isSome, []⟩)

/-- To ensure a chain is to evolve. -/
theorem Ensured.evolves {request : ChainRequest} {table : TableSpec}
    (h : Ensured request table s s') : Evolves s s' := by
  cases h with
  | found _ => exact .refl s
  | created _ htable hnew => exact evolves_withChain htable hnew rfl

/-- The bare names mean the same tables with a chain more. -/
theorem home_withChain (table : TableSpec) (chain : StoredChain) (name : String) :
    (s.withChain table chain).home name = s.home name := by
  unfold home withChain
  dsimp only
  rw [Maps.keys_modify]

/-- Whatever chain is ensured, bare names of tables mean what they meant. -/
theorem Ensured.home {request : ChainRequest} {table : TableSpec} (h : Ensured request table s s')
    (name : String) : s'.home name = s.home name := by
  cases h with
  | found _ => rfl
  | created _ _ _ => exact home_withChain _ _ name

/-- A chain that was ensured is there. -/
theorem Ensured.chain {request : ChainRequest} {table : TableSpec}
    (h : Ensured request table s s') : (s'.chain? table request.name).isSome := by
  cases h with
  | found hchain => exact hchain
  | created _ htable _ =>
    refine isSome_chain?_withChain ?_
    rw [Std.ExtTreeMap.mem_iff_isSome_getElem?, htable]
    rfl

/-- What ensuring a chain does, in the table that its request means. -/
theorem ends_newChain {request : ChainRequest} :
    Ends (backend.newChain request) s
      (fun table s' => s.home request.table = some table ∧ Ensured request table s s')
      (fun _ _ => True) := by
  have hrest : Ends (do
      let table ← backend.findTable request.table
      if request.name ∈ (← backend.chains table) then return table
      if ¬ request.create then
        Action.fail (.notFound "chain" s!"{request.name} in table {request.table}")
      backend.createChain table request
      return table) s
        (fun table s' => s.home request.table = some table ∧ Ensured request table s s')
        (fun _ _ => True) := by
    refine Ends.bind (P := fun table s₁ => s = s₁ ∧ s.home request.table = some table)
      (ends_findTable (fun _ => trivial) (fun _ => trivial) fun _ _ h => ⟨rfl, h⟩) ?_
    rintro table _ ⟨rfl, hhome⟩
    refine Ends.bind (P := fun names s₁ => s = s₁ ∧ ∀ n, n ∈ names ↔ (s.chain? table n).isSome)
      (ends_listChains (fun _ => trivial) fun _ h => ⟨rfl, h⟩) ?_
    rintro names _ ⟨rfl, hnames⟩
    have hcreate : request.create → Ends (backend.createChain table request >>= fun _ => pure table) s
        (fun table s' => s.home request.table = some table ∧ Ensured request table s s')
        (fun _ _ => True) := by
      intro hcreate
      refine Ends.bind (P := fun _ s' => Ensured request table s s')
        (ends_createChain (fun _ => trivial) (fun _ => trivial) ?_ ?_) ?_
      · exact fun hthere => .found hthere
      · exact fun chains htable hnew => .created hcreate htable hnew
      · exact fun _ s' hensured => ends_pure ⟨hhome, hensured⟩
    dsimp only
    split
    · rename_i hmem
      exact ends_pure ⟨hhome, .found ((hnames _).1 hmem)⟩
    · split
      · exact trivial
      · rename_i hcreates
        exact hcreate (Decidable.not_not.1 hcreates)
  unfold Backend.newChain
  dsimp only
  split
  · exact trivial
  · exact hrest

/-- Chains of a table that its bare name means are all there afterwards. -/
theorem ends_newChains {table : TableSpec} {requests : List ChainRequest}
    (hmem : table ∈ s.tables) (hname : ∀ request ∈ requests, request.table = table.name)
    (hfamily : preferredFamily table.name = some table.family) :
    Ends (backend.newChains requests) s
      (fun _ s' => Evolves s s' ∧ ∀ request ∈ requests, (s'.chain? table request.name).isSome)
      (fun _ _ => True) := by
  induction requests generalizing s with
  | nil => exact ends_pure ⟨.refl s, fun _ h => absurd h List.not_mem_nil⟩
  | cons request rest ih =>
    refine Ends.bind ends_newChain ?_
    rintro found s₁ ⟨hhome, hensured⟩
    have hevolves := hensured.evolves
    have hchain := hensured.chain
    obtain rfl : table = found := by
      rw [hname request List.mem_cons_self, home_of_preferred hmem hfamily] at hhome
      exact Option.some.inj hhome
    refine Ends.mono (ih (hevolves.tables table hmem) fun r hr =>
      hname r (List.mem_cons_of_mem _ hr)) ?_ fun _ _ h => h
    rintro _ s₂ ⟨hevolves₂, hchains⟩
    refine ⟨hevolves.trans hevolves₂, fun r hr => ?_⟩
    rcases List.mem_cons.1 hr with rfl | hr
    · exact hevolves₂.chains table _ hchain
    · exact hchains r hr

/-- A table that was ensured has all the chains that were asked for. -/
theorem ends_ensureTable {request : TableRequest}
    (hname : ∀ chain ∈ request.chains, chain.table = request.spec.name)
    (hfamily : preferredFamily request.spec.name = some request.spec.family) :
    Ends (backend.ensureTable request) s
      (fun _ s' => Evolves s s' ∧ ∀ chain ∈ request.chains,
        (s'.chain? request.spec chain.name).isSome) (fun _ _ => True) := by
  refine Ends.bind (P := fun tables s₁ => s = s₁ ∧ tables = s.tables.keys)
    (ends_listTables (fun _ => trivial) fun _ => ⟨rfl, rfl⟩) ?_
  rintro _ _ ⟨rfl, rfl⟩
  dsimp only
  split
  · refine Ends.bind (P := fun _ s' => Evolves s s' ∧ request.spec ∈ s'.tables)
      (ends_createTable (fun _ => trivial)
        ⟨evolves_createTable, Std.ExtTreeMap.mem_insertIfNew_self⟩) ?_
    rintro _ s₁ ⟨hevolves, hmem⟩
    refine Ends.mono (ends_newChains hmem hname hfamily) ?_ fun _ _ h => h
    rintro _ s₂ ⟨hevolves₂, hchains⟩
    exact ⟨hevolves.trans hevolves₂, hchains⟩
  · rename_i hmem
    have hmem : request.spec ∈ s.tables := by simpa using hmem
    exact ends_newChains hmem hname hfamily

/-! ## The standard chains -/

/-- The standard chains that networks put their rules in exist. -/
structure Carries (s : Store) : Prop where
  forward : (s.chain? standardFilter.spec forwardChain).isSome
  postrouting : (s.chain? standardNat.spec postroutingChain).isSome

/-- Every later store carries the chains of uplinks, too. -/
theorem Carries.evolves (h : s.Carries) (hevolves : Evolves s s') : s'.Carries :=
  ⟨hevolves.chains _ _ h.forward, hevolves.chains _ _ h.postrouting⟩

theorem Carries.home_filter (h : s.Carries) : s.home filterTable = some standardFilter.spec :=
  home_of_preferred (mem_of_chain? h.forward) rfl

theorem Carries.home_nat (h : s.Carries) : s.home natTable = some standardNat.spec :=
  home_of_preferred (mem_of_chain? h.postrouting) rfl

/-- Every chain of the standard tables exists. -/
structure Standing (s : Store) : Prop where
  filter : ∀ request ∈ standardFilter.chains, (s.chain? standardFilter.spec request.name).isSome
  nat : ∀ request ∈ standardNat.chains, (s.chain? standardNat.spec request.name).isSome

/-- The standard chains stand in every later store. -/
theorem Standing.evolves (h : s.Standing) (hevolves : Evolves s s') : s'.Standing :=
  ⟨fun request hr => hevolves.chains _ _ (h.filter request hr),
    fun request hr => hevolves.chains _ _ (h.nat request hr)⟩

theorem Standing.carries (h : s.Standing) : s.Carries := by
  obtain ⟨forward, hforward, hforwardName⟩ :
      ∃ chain ∈ standardFilter.chains, chain.name = forwardChain := by decide
  obtain ⟨postrouting, hpostrouting, hpostroutingName⟩ :
      ∃ chain ∈ standardNat.chains, chain.name = postroutingChain := by decide
  refine ⟨?_, ?_⟩
  · rw [← hforwardName]
    exact h.filter forward hforward
  · rw [← hpostroutingName]
    exact h.nat postrouting hpostrouting

theorem Standing.input (h : s.Standing) :
    (s.chain? standardFilter.spec inputChain).isSome := by
  obtain ⟨input, hinput, hname⟩ : ∃ chain ∈ standardFilter.chains, chain.name = inputChain := by
    decide
  rw [← hname]
  exact h.filter input hinput

/-- Once the standard tables are ensured, every standard chain stands. -/
theorem ends_ensureStandardTables_standing :
    Ends backend.ensureStandardTables s (fun _ s' => Evolves s s' ∧ s'.Standing)
      (fun _ _ => True) := by
  refine Ends.bind (ends_ensureTable (by decide) rfl) ?_
  rintro _ s₁ ⟨hevolves₁, hfilter⟩
  refine Ends.mono (ends_ensureTable (by decide) rfl) ?_ fun _ _ h => h
  rintro _ s₂ ⟨hevolves₂, hnat⟩
  refine ⟨hevolves₁.trans hevolves₂, fun request hr => ?_, hnat⟩
  exact hevolves₂.chains _ _ (hfilter request hr)

theorem ends_ensureStandardTables :
    Ends backend.ensureStandardTables s (fun _ => Carries) (fun _ _ => True) :=
  Ends.mono ends_ensureStandardTables_standing (fun _ _ h => h.2.carries) fun _ _ h => h

end WorkloadNet.Firewall.Store
