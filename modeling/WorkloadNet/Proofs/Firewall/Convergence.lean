import Mathlib.Data.List.Sort
import WorkloadNet.Proofs.Firewall.Refusals

/-!
# The standard tables converge

What a table request asks for is a list of requirements: the table, then its chains. Meeting a
requirement adds what is missing at the end and leaves everything else as it is, and a requirement that
is met stays met. So the engine, which meets requirements one after another, ends in the same tables
however often it was interrupted before.
-/

namespace WorkloadNet.Firewall.Store

open WorkloadNet.Action

/-- The chains of each table. -/
abbrev Tables := Std.ExtTreeMap TableSpec (List StoredChain)

variable {s s' : Store} {tables tables' tables'' : Tables} {chains : List StoredChain}

/-! ## What only grew -/

/-- The tables are still there in their order, and each begins with the chains and rules that it
had. -/
structure Kept (tables tables' : Tables) : Prop where
  keys : tables.keys.Sublist tables'.keys
  chains : ∀ (t : TableSpec) (chains : List StoredChain), tables[t]? = some chains →
    ∃ more, tables'[t]? = some (chains ++ more)

theorem Kept.refl (tables : Tables) : Kept tables tables :=
  ⟨.refl _, fun _ chains h => ⟨[], by rw [h, List.append_nil]⟩⟩

theorem Kept.trans (h : Kept tables tables') (h' : Kept tables' tables'') : Kept tables tables'' := by
  refine ⟨h.keys.trans h'.keys, fun t chains htable => ?_⟩
  obtain ⟨more, hmore⟩ := h.chains t chains htable
  obtain ⟨rest, hrest⟩ := h'.chains t _ hmore
  exact ⟨more ++ rest, by rw [hrest, List.append_assoc]⟩

/-- Keys are listed in one order, so more of them only stand in between. -/
theorem kept_of_chains
    (h : ∀ (t : TableSpec) (chains : List StoredChain), tables[t]? = some chains →
      ∃ more, tables'[t]? = some (chains ++ more)) :
    Kept tables tables' := by
  have hantisymm : Std.Antisymm fun a b : TableSpec => compare a b = .lt := by
    refine ⟨fun a b hab hba => ?_⟩
    rw [Std.OrientedCmp.gt_of_lt hab] at hba
    cases hba
  refine ⟨List.sublist_of_subperm_of_pairwise ?_ Std.ExtTreeMap.ordered_keys
    Std.ExtTreeMap.ordered_keys, h⟩
  refine List.subperm_of_subset Std.ExtTreeMap.nodup_keys fun t ht => ?_
  rw [Std.ExtTreeMap.mem_keys, Std.ExtTreeMap.mem_iff_isSome_getElem?] at ht ⊢
  obtain ⟨chains, hchains⟩ := Option.isSome_iff_exists.1 ht
  obtain ⟨more, hmore⟩ := h t chains hchains
  rw [hmore]
  rfl

/-! ## Requirements -/

/-- A chain of a name exists in a table. -/
def Holds (tables : Tables) (table : TableSpec) (name : String) : Prop :=
  ∃ chains, tables[table]? = some chains ∧ ∃ c ∈ chains, c.name = name

/-- Something that has to exist: a table, or a chain of a table. -/
inductive Requirement where
  | table (spec : TableSpec)
  | chain (spec : TableSpec) (request : ChainRequest)

/-- The chains with that of a request at the end, unless there is one of its name. -/
def supply (request : ChainRequest) (chains : List StoredChain) : List StoredChain :=
  if ∃ c ∈ chains, c.name = request.name then chains
  else chains ++ [⟨request.name, request.base.isSome, []⟩]

namespace Requirement

/-- The tables with what a requirement misses. -/
def meet (tables : Tables) : Requirement → Tables
  | table spec => tables.insertIfNew spec []
  | chain spec request => tables.insert spec (supply request (tables[spec]?.getD []))

/-- What is required exists. -/
def Met (tables : Tables) : Requirement → Prop
  | table spec => spec ∈ tables
  | chain spec request => Holds tables spec request.name

end Requirement

theorem prefix_supply (request : ChainRequest) (chains : List StoredChain) :
    chains <+: supply request chains := by
  unfold supply
  split
  · exact List.prefix_rfl
  · exact List.prefix_append _ _

theorem exists_mem_supply (request : ChainRequest) (chains : List StoredChain) :
    ∃ c ∈ supply request chains, c.name = request.name := by
  unfold supply
  split
  · assumption
  · exact ⟨_, List.mem_append_right _ List.mem_cons_self, rfl⟩

theorem supply_of_mem {request : ChainRequest} (h : ∃ c ∈ chains, c.name = request.name) :
    supply request chains = chains := if_pos h

namespace Requirement

variable {r : Requirement}

theorem meet_of_met (h : r.Met tables) : r.meet tables = tables := by
  cases r with
  | table spec => exact Maps.insertIfNew_of_mem h
  | chain spec request =>
    obtain ⟨chains, hchains, hmem⟩ := h
    unfold meet
    apply Std.ExtTreeMap.ext_getElem?
    intro t
    by_cases ht : spec = t
    · subst ht
      rw [Std.ExtTreeMap.getElem?_insert_self, hchains, Option.getD_some, supply_of_mem hmem]
    · exact Maps.getElem?_insert_of_ne ht

theorem met_meet (r : Requirement) (tables : Tables) : r.Met (r.meet tables) := by
  cases r with
  | table spec => exact Std.ExtTreeMap.mem_insertIfNew_self
  | chain spec request =>
    exact ⟨_, Std.ExtTreeMap.getElem?_insert_self, exists_mem_supply _ _⟩

theorem kept_meet (r : Requirement) (tables : Tables) : Kept tables (r.meet tables) := by
  refine kept_of_chains fun t chains ht => ?_
  cases r with
  | table spec =>
    unfold meet
    refine ⟨[], ?_⟩
    grind
  | chain spec request =>
    unfold meet
    by_cases hspec : spec = t
    · subst hspec
      obtain ⟨more, hmore⟩ := prefix_supply request chains
      refine ⟨more, ?_⟩
      rw [Std.ExtTreeMap.getElem?_insert_self, ht, Option.getD_some, hmore]
    · exact ⟨[], by rw [Maps.getElem?_insert_of_ne hspec, ht, List.append_nil]⟩

/-- A requirement that is met stays met. -/
theorem Met.kept (h : r.Met tables) (hkept : Kept tables tables') : r.Met tables' := by
  cases r with
  | table spec =>
    have hkey : spec ∈ tables.keys := Std.ExtTreeMap.mem_keys.2 h
    exact Std.ExtTreeMap.mem_keys.1 (hkept.keys.subset hkey)
  | chain spec request =>
    obtain ⟨chains, hchains, c, hc, hname⟩ := h
    obtain ⟨more, hmore⟩ := hkept.chains spec chains hchains
    exact ⟨_, hmore, c, List.mem_append_left _ hc, hname⟩

end Requirement

/-! ## Lists of requirements -/

/-- The tables with what a list of requirements misses, in order. -/
def provide (needs : List Requirement) (tables : Tables) : Tables :=
  needs.foldl Requirement.meet tables

variable {needs early late : List Requirement}

theorem provide_append (tables : Tables) :
    provide (early ++ late) tables = provide late (provide early tables) :=
  List.foldl_append

theorem kept_provide (needs : List Requirement) (tables : Tables) :
    Kept tables (provide needs tables) := by
  induction needs generalizing tables with
  | nil => exact .refl tables
  | cons r rest ih => exact (r.kept_meet tables).trans (ih _)

theorem met_provide (tables : Tables) :
    ∀ r ∈ needs, r.Met (provide needs tables) := by
  induction needs generalizing tables with
  | nil => exact fun _ h => absurd h List.not_mem_nil
  | cons r rest ih =>
    intro r' hr'
    rcases List.mem_cons.1 hr' with rfl | hr'
    · exact (r'.met_meet tables).kept (kept_provide rest _)
    · exact ih _ r' hr'

theorem provide_of_met (h : ∀ r ∈ needs, r.Met tables) :
    provide needs tables = tables := by
  induction needs with
  | nil => rfl
  | cons r rest ih =>
    have hrest := ih fun r' hr' => h r' (List.mem_cons_of_mem _ hr')
    have hfirst := Requirement.meet_of_met (h r List.mem_cons_self)
    exact (congrArg (provide rest) hfirst).trans hrest

/-- What an interrupted attempt has done already makes no difference. -/
theorem provide_of_early (h : early <+: needs) (tables : Tables) :
    provide needs (provide early tables) = provide needs tables := by
  obtain ⟨late, rfl⟩ := h
  rw [provide_append, provide_append, provide_of_met (met_provide tables)]

/-- What is left to be done after an interrupted attempt keeps what the attempt has done. -/
theorem kept_provide_of_early (h : early <+: needs) (tables : Tables) :
    Kept (provide early tables) (provide needs tables) := by
  rw [← provide_of_early h]
  exact kept_provide _ _

/-! ## What the engine does -/

/-- The operations that ensuring a table calls. -/
def setupOps : List StoreOp := [.tables, .chains, .createTable, .createChain]

/-- Nothing is set to fail that ensuring a table calls. -/
def Calm (s : Store) : Prop := ∀ op ∈ setupOps, op ∉ s.pending

/-- An operation that creates. -/
def Creates (op : StoreOp) : Prop := op = .createTable ∨ op = .createChain

theorem listing_or_creates {op : StoreOp} (h : op ∈ setupOps) :
    op = .tables ∨ op = .chains ∨ Creates op := by
  simpa [setupOps, Creates] using h

/-- An attempt to provide for requirements that an injected failure has stopped: those before it are
met, and something was created only if it was missing. -/
def Stopped (needs : List Requirement) (s : Store) (failure : Failure) (s' : Store) : Prop :=
  ∃ op ∈ setupOps, op ∈ s.pending ∧ (Creates op → ∃ need ∈ needs, ¬ need.Met s.tables) ∧
    failure = injected op ∧ ∃ early, early <+: needs ∧
      s' = { s.spend op with tables := provide early s.tables }

/-- The store with what a list of requirements misses. -/
def provided (needs : List Requirement) (s : Store) : Store :=
  { s with tables := provide needs s.tables }

theorem stopped_here {op : StoreOp} (hsetup : op ∈ setupOps)
    (hcreates : Creates op → ∃ need ∈ needs, ¬ need.Met s.tables) (hpending : op ∈ s.pending) :
    Stopped needs s (injected op) (s.spend op) :=
  ⟨op, hsetup, hpending, hcreates, rfl, [], List.nil_prefix, rfl⟩

theorem stopped_listing_tables (hpending : .tables ∈ s.pending) :
    Stopped needs s (injected .tables) (s.spend .tables) :=
  stopped_here (by decide) (by rintro (h | h) <;> cases h) hpending

theorem stopped_listing_chains (hpending : .chains ∈ s.pending) :
    Stopped needs s (injected .chains) (s.spend .chains) :=
  stopped_here (by decide) (by rintro (h | h) <;> cases h) hpending

theorem Stopped.append {failure : Failure} (h : Stopped early s failure s') :
    Stopped (early ++ late) s failure s' := by
  obtain ⟨op, hsetup, hpending, hcreates, hfailure, done, hdone, hstate⟩ := h
  refine ⟨op, hsetup, hpending, fun hop => ?_, hfailure, done, hdone.trans (List.prefix_append _ _),
    hstate⟩
  obtain ⟨need, hneed, hmissing⟩ := hcreates hop
  exact ⟨need, List.mem_append_left _ hneed, hmissing⟩

/-- Stopped in the second part, when the first is done. -/
theorem Stopped.after {failure : Failure} (h : Stopped late (provided early s) failure s') :
    Stopped (early ++ late) s failure s' := by
  obtain ⟨op, hsetup, hpending, hcreates, hfailure, done, hdone, rfl⟩ := h
  refine ⟨op, hsetup, hpending, fun hop => ?_, hfailure, early ++ done,
    (List.prefix_append_right_inj early).2 hdone, ?_⟩
  · obtain ⟨need, hneed, hmissing⟩ := hcreates hop
    exact ⟨need, List.mem_append_right _ hneed, fun hmet => hmissing (hmet.kept (kept_provide _ _))⟩
  · rw [provide_append]
    rfl

/-- Where nothing is set to fail, nothing stops. -/
theorem Calm.not_stopped {failure : Failure} (hcalm : s.Calm) : ¬ Stopped needs s failure s' :=
  fun ⟨op, hsetup, hpending, _⟩ => hcalm op hsetup hpending

theorem Quiet.calm (h : s.Quiet) : s.Calm := by
  intro op _
  rw [h.pending]
  exact List.not_mem_nil

theorem rulesOf_eq_elim (s : Store) (t : TableSpec) (n : String) :
    s.rulesOf t n = ((s.tables[t]?.getD []).find? fun c => c.name = n).elim []
      StoredChain.rules := by
  unfold rulesOf
  cases s.tables[t]? with
  | none => rfl
  | some chains =>
    rw [Option.bind_some, Option.getD_some]
    cases chains.find? fun c => c.name = n <;> rfl

/-- A chain that was missing has no rules. -/
theorem rules_supply (request : ChainRequest) (chains : List StoredChain) (n : String) :
    ((supply request chains).find? fun c => c.name = n).elim [] StoredChain.rules =
      (chains.find? fun c => c.name = n).elim [] StoredChain.rules := by
  unfold supply
  split
  · rfl
  · rw [List.find?_append]
    cases chains.find? fun c => c.name = n with
    | some c => rfl
    | none =>
      rw [Option.none_or, List.find?_singleton]
      split <;> rfl

theorem rulesOf_meet (need : Requirement) (t : TableSpec) (n : String) :
    Store.rulesOf { s with tables := need.meet s.tables } t n = s.rulesOf t n := by
  cases need with
  | table spec => exact rulesOf_insertIfNew t n
  | chain spec request =>
    rw [rulesOf_eq_elim, rulesOf_eq_elim]
    unfold Requirement.meet
    by_cases ht : spec = t
    · subst ht
      rw [Std.ExtTreeMap.getElem?_insert_self, Option.getD_some, rules_supply]
    · rw [Maps.getElem?_insert_of_ne ht]

/-- What is added to meet requirements holds no rules. -/
theorem rulesOf_provided (needs : List Requirement) (t : TableSpec) (n : String) :
    (s.provided needs).rulesOf t n = s.rulesOf t n := by
  induction needs generalizing s with
  | nil => rfl
  | cons need rest ih => exact ih.trans (rulesOf_meet need t n)

/-- One part of a run after the other. -/
theorem ends_provided_bind {α β : Type} {action : Action Store α} {next : α → Action Store β}
    (h : Ends action s (fun _ s' => s' = s.provided early) (Stopped early s))
    (hnext : ∀ a, Ends (next a) (s.provided early)
      (fun _ s' => s' = (s.provided early).provided late) (Stopped late (s.provided early))) :
    Ends (action >>= next) s (fun _ s' => s' = s.provided (early ++ late))
      (Stopped (early ++ late) s) := by
  refine Ends.bind (Ends.mono h (fun _ _ h => h) fun _ _ h => h.append) ?_
  rintro a _ rfl
  refine Ends.mono (hnext a) (fun _ _ h => ?_) fun _ _ h => h.after
  rw [h, provided, provided, provided, provide_append]

theorem met_chain_iff {spec : TableSpec} {request : ChainRequest} :
    (Requirement.chain spec request).Met s.tables ↔ (s.chain? spec request.name).isSome := by
  constructor
  · rintro ⟨chains, hchains, c, hc, hname⟩
    rw [chain?, hchains, Option.bind_some, List.find?_isSome]
    exact ⟨c, hc, by simpa using hname⟩
  · intro hthere
    obtain ⟨c, hc⟩ := Option.isSome_iff_exists.1 hthere
    obtain ⟨chains, hchains, hfind⟩ := Option.bind_eq_some_iff.1 hc
    exact ⟨chains, hchains, c, List.mem_of_find?_eq_some hfind, by simpa using List.find?_some hfind⟩

/-- Nothing is missing when the chain is there. -/
theorem provided_of_there {spec : TableSpec} {request : ChainRequest}
    (hthere : (s.chain? spec request.name).isSome) : s.provided [.chain spec request] = s := by
  rw [provided, provide_of_met]
  exact fun r hr => List.mem_singleton.1 hr ▸ met_chain_iff.2 hthere

/-- A chain of a new name is what is missing. -/
theorem provided_of_new {spec : TableSpec} {request : ChainRequest}
    (hchains : s.tables[spec]? = some chains) (hnew : ∀ c ∈ chains, c.name ≠ request.name) :
    s.provided [.chain spec request] =
      s.withChain spec ⟨request.name, request.base.isSome, []⟩ := by
  have hsupply : supply request chains = chains ++ [⟨request.name, request.base.isSome, []⟩] :=
    if_neg fun ⟨c, hc, hname⟩ => hnew c hc hname
  have htables : s.tables.insert spec (supply request (s.tables[spec]?.getD [])) =
      s.tables.modify spec (· ++ [⟨request.name, request.base.isSome, []⟩]) := by
    rw [hchains, Option.getD_some, hsupply]
    apply Std.ExtTreeMap.ext_getElem?
    intro t
    by_cases ht : spec = t
    · subst ht
      rw [Std.ExtTreeMap.getElem?_modify_self, Std.ExtTreeMap.getElem?_insert_self, hchains]
      rfl
    · rw [Maps.getElem?_modify_of_ne ht, Maps.getElem?_insert_of_ne ht]
  rw [withChain, ← htables]
  rfl

/-- What ensuring a chain does that may be created or is there already, in the table that its request
means. -/
theorem ends_newChain_provided {spec : TableSpec} {request : ChainRequest}
    (hhome : s.home request.table = some spec) (hnamed : Named request)
    (hcreate : request.create ∨ (s.chain? spec request.name).isSome) :
    Ends (backend.newChain request) s
      (fun table s' => table = spec ∧ s' = s.provided [.chain spec request])
      (Stopped [.chain spec request] s) := by
  have hget := Std.ExtTreeMap.getElem?_eq_some_getElem (mem_of_home hhome)
  unfold Backend.newChain
  dsimp only
  rw [if_neg hnamed]
  refine Ends.bind (P := fun table s₁ => s = s₁ ∧ spec = table)
    (ends_findTable stopped_listing_tables ?_ ?_) ?_
  · intro hmissing
    rw [hhome] at hmissing
    cases hmissing
  · exact fun table _ htable => ⟨rfl, Option.some.inj (hhome.symm.trans htable)⟩
  rintro _ _ ⟨rfl, rfl⟩
  refine Ends.bind (P := fun names s₁ => s = s₁ ∧ ∀ n, n ∈ names ↔ (s.chain? spec n).isSome)
    (ends_listChains stopped_listing_chains fun _ h => ⟨rfl, h⟩) ?_
  rintro names _ ⟨rfl, hnames⟩
  split
  · rename_i hthere
    exact ends_pure ⟨rfl, (provided_of_there ((hnames _).1 hthere)).symm⟩
  · rename_i hmissing
    have hmissing : ¬ (s.chain? spec request.name).isSome := fun hthere =>
      hmissing ((hnames _).2 hthere)
    have hunmet : ¬ (Requirement.chain spec request).Met s.tables := fun hmet =>
      hmissing (met_chain_iff.1 hmet)
    rw [if_neg (not_not.2 (hcreate.resolve_right hmissing))]
    refine Ends.bind (P := fun _ s' => s' = s.provided [.chain spec request])
      (ends_createChain (stopped_here (by decide) fun _ => ⟨_, List.mem_cons_self, hunmet⟩)
        ?_ ?_ ?_) fun _ _ h => ends_pure ⟨rfl, h⟩
    · intro hnone
      rw [hget] at hnone
      cases hnone
    · exact fun hthere => absurd hthere hmissing
    · exact fun chains hchains hnew => (provided_of_new hchains hnew).symm

theorem Ensured.quiet {request : ChainRequest} {table : TableSpec}
    (h : Ensured request table s s') (hquiet : s.Quiet) : s'.Quiet := by
  cases h with
  | found _ => exact hquiet
  | created _ _ _ => exact ⟨hquiet.pending, hquiet.countdown⟩

theorem Ensured.marks {request : ChainRequest} {table : TableSpec}
    (h : Ensured request table s s') (t : TableSpec) (c : String) : s'.marks t c = s.marks t c := by
  cases h with
  | found _ => rfl
  | created _ _ _ => rw [Store.marks, Store.marks, rulesOf_withChain rfl]

/-- Where nothing is set to fail, a chain is ensured that may be created or is there. -/
theorem ends_newChain_quiet {spec : TableSpec} {request : ChainRequest} (hquiet : s.Quiet)
    (hhome : s.home request.table = some spec) (hnamed : Named request)
    (hcreate : request.create ∨ (s.chain? spec request.name).isSome) :
    Ends (backend.newChain request) s (fun table s' => table = spec ∧ Ensured request spec s s')
      (fun _ _ => False) := by
  refine Ends.mono (Ends.and (ends_newChain_provided hhome hnamed hcreate) ends_newChain) ?_ ?_
  · rintro _ s' ⟨⟨rfl, -⟩, -, hensured⟩
    exact ⟨rfl, hensured⟩
  · exact fun _ _ h => hquiet.calm.not_stopped h.1

/-- A chain request as the standard tables make it: for its own table, by name, and with leave to
create. -/
structure Creating (spec : TableSpec) (request : ChainRequest) : Prop where
  table : request.table = spec.name
  named : Named request
  create : request.create

theorem ends_newChains_provided {spec : TableSpec} {requests : List ChainRequest}
    (hmem : spec ∈ s.tables) (hfamily : preferredFamily spec.name = some spec.family)
    (hrequests : ∀ request ∈ requests, Creating spec request) :
    Ends (backend.newChains requests) s
      (fun _ s' => s' = s.provided (requests.map (Requirement.chain spec)))
      (Stopped (requests.map (Requirement.chain spec)) s) := by
  induction requests generalizing s with
  | nil => exact ends_pure rfl
  | cons request rest ih =>
    have hrequest := hrequests request List.mem_cons_self
    have hhome : s.home request.table = some spec := by
      rw [hrequest.table]
      exact home_of_preferred hmem hfamily
    have hkept := kept_provide [.chain spec request] s.tables
    have hfirst : Ends (backend.newChain request) s
        (fun _ s' => s' = s.provided [.chain spec request]) (Stopped [.chain spec request] s) :=
      Ends.mono (ends_newChain_provided hhome hrequest.named (.inl hrequest.create))
        (fun _ _ h => h.2) fun _ _ h => h
    refine ends_provided_bind hfirst fun _ => ?_
    refine ih ?_ fun r hr => hrequests r (List.mem_cons_of_mem _ hr)
    exact (Requirement.Met.kept (r := .table spec) hmem hkept :)

/-- What a table request asks for: the table, then its chains. -/
def requirementsOf (request : TableRequest) : List Requirement :=
  .table request.spec :: request.chains.map (Requirement.chain request.spec)

theorem ends_ensureTable_provided {request : TableRequest}
    (hfamily : preferredFamily request.spec.name = some request.spec.family)
    (hchains : ∀ chain ∈ request.chains, Creating request.spec chain) :
    Ends (backend.ensureTable request) s
      (fun _ s' => s' = s.provided (requirementsOf request))
      (Stopped (requirementsOf request) s) := by
  have hrest : Ends (backend.newChains request.chains) (s.provided [.table request.spec])
      (fun _ s' => s' = s.provided (requirementsOf request))
      (Stopped (request.chains.map (Requirement.chain request.spec))
        (s.provided [.table request.spec])) :=
    ends_newChains_provided (Requirement.met_meet (.table request.spec) s.tables) hfamily hchains
  have hlater : Ends (backend.newChains request.chains) (s.provided [.table request.spec])
      (fun _ s' => s' = s.provided (requirementsOf request)) (Stopped (requirementsOf request) s) :=
    Ends.mono hrest (fun _ _ h => h) fun _ _ h => h.after
  refine Ends.bind (P := fun tables s₁ => s = s₁ ∧ tables = s.tables.keys)
    (ends_listTables stopped_listing_tables fun _ => ⟨rfl, rfl⟩) ?_
  rintro _ _ ⟨rfl, rfl⟩
  dsimp only
  split
  · rename_i hmissing
    have hmissing : request.spec ∉ s.tables := by simpa using hmissing
    refine Ends.bind (P := fun _ s₁ => s₁ = s.provided [.table request.spec])
      (ends_createTable (stopped_here (by decide) fun _ => ⟨_, List.mem_cons_self, hmissing⟩) rfl) ?_
    rintro _ _ rfl
    exact hlater
  · rename_i hthere
    have hthere : request.spec ∈ s.tables := by simpa using hthere
    have hsame : s.provided [.table request.spec] = s := by
      rw [provided, provide_of_met]
      exact fun r hr => List.mem_singleton.1 hr ▸ hthere
    rwa [hsame] at hlater

/-- What the standard tables ask for. -/
def standardRequirements : List Requirement :=
  requirementsOf standardFilter ++ requirementsOf standardNat

theorem ends_ensureStandardTables_provided :
    Ends backend.ensureStandardTables s (fun _ s' => s' = s.provided standardRequirements)
      (Stopped standardRequirements s) := by
  have hcreating : ∀ request ∈ [standardFilter, standardNat], ∀ chain ∈ request.chains,
      chain.table = request.spec.name ∧ Named chain ∧ chain.create := by decide
  have hchains : ∀ request ∈ [standardFilter, standardNat], ∀ chain ∈ request.chains,
      Creating request.spec chain := by
    intro request hrequest chain hchain
    obtain ⟨htable, hnamed, hcreate⟩ := hcreating request hrequest chain hchain
    exact ⟨htable, hnamed, hcreate⟩
  refine ends_provided_bind (ends_ensureTable_provided rfl (hchains _ (by decide))) fun _ => ?_
  exact ends_ensureTable_provided rfl (hchains _ (by decide))

/-! ## What the standard tables become -/

/-- The chains with those of the missing names at the end, as base chains without rules. -/
def supplemented (names : List String) (chains : List StoredChain) : List StoredChain :=
  chains ++ (names.filter fun n => ¬ ∃ c ∈ chains, c.name = n).map fun n => ⟨n, true, []⟩

/-- The tables with the chains that miss in the standard tables, and nothing else. -/
def standardized (tables : Tables) : Tables :=
  (tables.insert ⟨"filter", .inet⟩ (supplemented ["INPUT", "FORWARD", "OUTPUT"]
      (tables[(⟨"filter", .inet⟩ : TableSpec)]?.getD []))).insert
    ⟨"nat", .ip⟩ (supplemented ["PREROUTING", "POSTROUTING"]
      (tables[(⟨"nat", .ip⟩ : TableSpec)]?.getD []))

/-- Base chains of different names are supplied independently of each other. -/
theorem foldl_supply {requests : List ChainRequest} (hbase : ∀ r ∈ requests, r.base.isSome)
    (hnodup : (requests.map ChainRequest.name).Nodup) (chains : List StoredChain) :
    requests.foldl (fun chains request => supply request chains) chains =
      supplemented (requests.map ChainRequest.name) chains := by
  induction requests generalizing chains with
  | nil => simp [supplemented]
  | cons request rest ih =>
    rw [List.map_cons, List.nodup_cons] at hnodup
    rw [List.foldl_cons, ih (fun r hr => hbase r (List.mem_cons_of_mem _ hr)) hnodup.2]
    unfold supplemented
    rw [List.map_cons, List.filter_cons]
    by_cases hthere : ∃ c ∈ chains, c.name = request.name
    · rw [supply_of_mem hthere, if_neg (by simpa using hthere)]
    · have hsame : (rest.map ChainRequest.name).filter (fun n => decide ¬ ∃ c ∈
            chains ++ [(⟨request.name, request.base.isSome, []⟩ : StoredChain)], c.name = n) =
          (rest.map ChainRequest.name).filter fun n => decide ¬ ∃ c ∈ chains, c.name = n := by
        refine List.filter_congr fun n hn => ?_
        have hne : request.name ≠ n := fun heq => hnodup.1 (heq ▸ hn)
        simp [hne]
      rw [supply, if_neg hthere, if_pos (by simpa using hthere), List.map_cons, hsame,
        List.append_assoc, hbase request List.mem_cons_self]
      rfl

/-- Chains are supplied to their table one after the other. -/
theorem provide_chains (spec : TableSpec) (requests : List ChainRequest) (tables : Tables)
    (hmem : spec ∈ tables) :
    provide (requests.map (Requirement.chain spec)) tables =
      tables.insert spec (requests.foldl (fun chains chain => supply chain chains)
        (tables[spec]?.getD [])) := by
  induction requests generalizing tables with
  | nil =>
    apply Std.ExtTreeMap.ext_getElem?
    intro t
    simp only [provide, List.map_nil, List.foldl_nil]
    grind
  | cons chain rest ih =>
    have hstep : provide (rest.map (Requirement.chain spec))
        (Requirement.meet tables (.chain spec chain)) = _ := ih _ Std.ExtTreeMap.mem_insert_self
    refine Eq.trans hstep ?_
    unfold Requirement.meet
    dsimp only
    rw [Std.ExtTreeMap.getElem?_insert_self, Option.getD_some, List.foldl_cons]
    apply Std.ExtTreeMap.ext_getElem?
    intro t
    grind

/-- A table request changes its own table only. -/
theorem provide_requirementsOf (request : TableRequest) (tables : Tables) :
    provide (requirementsOf request) tables = tables.insert request.spec
      (request.chains.foldl (fun chains chain => supply chain chains)
        (tables[request.spec]?.getD [])) := by
  have htable : provide (requirementsOf request) tables = _ :=
    provide_chains request.spec request.chains (tables.insertIfNew request.spec [])
      Std.ExtTreeMap.mem_insertIfNew_self
  have hget : (tables.insertIfNew request.spec [])[request.spec]?.getD [] =
      tables[request.spec]?.getD [] := by
    by_cases hmem : request.spec ∈ tables
    · rw [Maps.insertIfNew_of_mem hmem]
    · rw [Maps.insertIfNew_of_not_mem hmem, Std.ExtTreeMap.getElem?_insert_self,
        Std.ExtTreeMap.getElem?_eq_none hmem]
      rfl
  rw [htable, hget]
  apply Std.ExtTreeMap.ext_getElem?
  intro t
  by_cases ht : request.spec = t
  · rw [← ht, Std.ExtTreeMap.getElem?_insert_self, Std.ExtTreeMap.getElem?_insert_self]
  · rw [Maps.getElem?_insert_of_ne ht, Maps.getElem?_insert_of_ne ht]
    grind

theorem provide_standardRequirements (tables : Tables) :
    provide standardRequirements tables = standardized tables := by
  have hother : (tables.insert standardFilter.spec
      (supplemented ["INPUT", "FORWARD", "OUTPUT"] (tables[standardFilter.spec]?.getD [])))[
        standardNat.spec]? = tables[standardNat.spec]? := Maps.getElem?_insert_of_ne (by decide)
  rw [standardRequirements, provide_append, provide_requirementsOf, provide_requirementsOf,
    foldl_supply (by decide) (by decide), foldl_supply (by decide) (by decide)]
  exact congrArg (fun found => Std.ExtTreeMap.insert _ standardNat.spec
    (supplemented ["PREROUTING", "POSTROUTING"] (Option.getD found []))) hother

/-! ## Convergence -/

/-- The store after an attempt to ensure the standard tables while these operations fail. -/
def attempt (s : Store) (failing : List StoreOp) : Store :=
  (backend.ensureStandardTables.on { s with pending := failing }).2

/-- However it ends, an attempt has provided for the first of the requirements. -/
theorem attempt_eq (s : Store) (failing : List StoreOp) :
    ∃ early pending, early <+: standardRequirements ∧
      s.attempt failing = { s with tables := provide early s.tables, pending } := by
  have hends : Ends backend.ensureStandardTables { s with pending := failing }
      (fun _ s' => ∃ early pending, early <+: standardRequirements ∧
        s' = { s with tables := provide early s.tables, pending })
      (fun _ s' => ∃ early pending, early <+: standardRequirements ∧
        s' = { s with tables := provide early s.tables, pending }) := by
    refine Ends.mono ends_ensureStandardTables_provided ?_ ?_
    · rintro _ _ rfl
      exact ⟨_, failing, List.prefix_rfl, rfl⟩
    · rintro _ _ ⟨op, _, _, _, _, early, hearly, rfl⟩
      exact ⟨early, failing.erase op, hearly, rfl⟩
  unfold attempt
  rcases hon : backend.ensureStandardTables.on { s with pending := failing } with ⟨result, s'⟩
  cases result with
  | ok _ => exact hends.of_ok hon
  | error _ => exact hends.of_error hon

/-- Attempts, however they end, keep what was there and do not change what the standard tables
become. -/
theorem attempts_eq (rounds : List (List StoreOp)) (s : Store) :
    ∃ tables pending, rounds.foldl attempt s = { s with tables, pending } ∧
      Kept s.tables tables ∧ standardized tables = standardized s.tables := by
  induction rounds generalizing s with
  | nil => exact ⟨s.tables, s.pending, rfl, .refl _, rfl⟩
  | cons failing rest ih =>
    obtain ⟨early, pending₁, hearly, hattempt⟩ := attempt_eq s failing
    obtain ⟨tables, pending, hrest, hkept, hsame⟩ := ih (s.attempt failing)
    rw [hattempt] at hrest hkept hsame
    refine ⟨tables, pending, ?_, (kept_provide early _).trans hkept, hsame.trans ?_⟩
    · rw [List.foldl_cons, hattempt, hrest]
    · dsimp only
      rw [← provide_standardRequirements, ← provide_standardRequirements, provide_of_early hearly]

/-- An attempt that nothing hinders ends well. -/
theorem on_ensureStandardTables_of_calm (hcalm : s.Calm) :
    backend.ensureStandardTables.on s =
      (.ok (), { s with tables := standardized s.tables }) := by
  have hends := ends_ensureStandardTables_provided (s := s)
  rcases hon : backend.ensureStandardTables.on s with ⟨result, s'⟩
  cases result with
  | ok _ =>
    rw [← provide_standardRequirements]
    rw [hends.of_ok hon]
    rfl
  | error _ =>
    obtain ⟨op, hsetup, hpending, _⟩ := hends.of_error hon
    exact absurd hpending (hcalm op hsetup)

/-- Where nothing is missing, nothing is created, so a failure set for a creation stays set. -/
theorem on_ensureStandardTables_of_standardized (htables : standardized s.tables = s.tables)
    (hlistTables : .tables ∉ s.pending) (hlistChains : .chains ∉ s.pending) :
    backend.ensureStandardTables.on s = (.ok (), s) := by
  rw [← provide_standardRequirements] at htables
  have hends := ends_ensureStandardTables_provided (s := s)
  rcases hon : backend.ensureStandardTables.on s with ⟨result, s'⟩
  cases result with
  | ok _ =>
    have hstate := hends.of_ok hon
    rw [hstate, provided, htables]
  | error _ =>
    obtain ⟨op, hsetup, hpending, hcreates, _⟩ := hends.of_error hon
    have hmet : ∀ need ∈ standardRequirements, need.Met s.tables := by
      rw [← htables]
      exact met_provide s.tables
    rcases listing_or_creates hsetup with rfl | rfl | hcreating
    · exact absurd hpending hlistTables
    · exact absurd hpending hlistChains
    · obtain ⟨need, hneed, hmissing⟩ := hcreates hcreating
      exact absurd (hmet need hneed) hmissing

/-- Standard tables are not changed by being ensured again. -/
theorem standardized_standardized (tables : Tables) :
    standardized (standardized tables) = standardized tables := by
  rw [← provide_standardRequirements, ← provide_standardRequirements,
    provide_of_early List.prefix_rfl]

theorem kept_standardized (tables : Tables) : Kept tables (standardized tables) := by
  rw [← provide_standardRequirements]
  exact kept_provide _ _

/-- Every requirement of the standard tables is among what they hold. -/
theorem holds_standardized (tables : Tables) :
    (∀ name ∈ ["INPUT", "FORWARD", "OUTPUT"], Holds (standardized tables) ⟨"filter", .inet⟩ name) ∧
      ∀ name ∈ ["PREROUTING", "POSTROUTING"], Holds (standardized tables) ⟨"nat", .ip⟩ name := by
  have hmet : ∀ need ∈ standardRequirements, need.Met (standardized tables) := by
    rw [← provide_standardRequirements]
    exact met_provide tables
  have hholds : ∀ request ∈ [standardFilter, standardNat], ∀ name,
      name ∈ request.chains.map ChainRequest.name → Holds (standardized tables) request.spec name := by
    intro request hrequest name hname
    obtain ⟨chain, hchain, rfl⟩ := List.mem_map.1 hname
    refine hmet (.chain request.spec chain) ?_
    have hneed : Requirement.chain request.spec chain ∈ requirementsOf request :=
      List.mem_cons_of_mem _ (List.mem_map_of_mem hchain)
    rcases List.mem_pair.1 hrequest with rfl | rfl
    · exact List.mem_append_left _ hneed
    · exact List.mem_append_right _ hneed
  exact ⟨hholds standardFilter (by decide), hholds standardNat (by decide)⟩

/-- Ensuring the standard tables converges and only adds, over every store. Unhindered it ends well,
and the tables are then exactly those of before with the missing standard chains. Ensuring them again
changes nothing and creates nothing: it ends well even while creations are set to fail. Only an injected
failure stops it; what existed before is then still there, and is kept by what is yet to be done. After
any number of attempts, with any failures, an unhindered one ends in the same state as one that comes
first. -/
theorem ensureStandardTables_converges (s : Store) :
    (s.Calm → backend.ensureStandardTables.on s =
      (.ok (), { s with tables := standardized s.tables })) ∧
    ((∀ name ∈ ["INPUT", "FORWARD", "OUTPUT"],
        Holds (standardized s.tables) ⟨"filter", .inet⟩ name) ∧
      (∀ name ∈ ["PREROUTING", "POSTROUTING"],
        Holds (standardized s.tables) ⟨"nat", .ip⟩ name) ∧
      Kept s.tables (standardized s.tables)) ∧
    (∀ later : Store, later.tables = standardized s.tables →
      .tables ∉ later.pending → .chains ∉ later.pending →
      backend.ensureStandardTables.on later = (.ok (), later)) ∧
    (∀ failure s', backend.ensureStandardTables.on s = (.error failure, s') →
      (∃ op ∈ s.pending, failure = injected op ∧
        s' = { s.spend op with tables := s'.tables }) ∧
      Kept s.tables s'.tables ∧ Kept s'.tables (standardized s.tables)) ∧
    ∀ rounds : List (List StoreOp), Kept s.tables (rounds.foldl attempt s).tables ∧
      ∀ pending, (∀ op ∈ setupOps, op ∉ pending) →
        backend.ensureStandardTables.on { rounds.foldl attempt s with pending } =
          backend.ensureStandardTables.on { s with pending } := by
  refine ⟨on_ensureStandardTables_of_calm,
    ⟨(holds_standardized _).1, (holds_standardized _).2, kept_standardized _⟩, ?_, ?_, ?_⟩
  · intro later htables hlistTables hlistChains
    refine on_ensureStandardTables_of_standardized ?_ hlistTables hlistChains
    rw [htables, standardized_standardized]
  · intro failure s' hon
    obtain ⟨op, _, hpending, _, hfailure, early, hearly, rfl⟩ :=
      ends_ensureStandardTables_provided.of_error hon
    refine ⟨⟨op, hpending, hfailure, rfl⟩, kept_provide _ _, ?_⟩
    rw [← provide_standardRequirements]
    exact kept_provide_of_early hearly _
  · intro rounds
    obtain ⟨tables, pending₁, hrounds, hkept, hsame⟩ := attempts_eq rounds s
    rw [hrounds]
    refine ⟨hkept, fun pending hcalm => ?_⟩
    have hagain : Calm { s with tables, pending } := hcalm
    have hfirst : Calm { s with pending } := hcalm
    rw [on_ensureStandardTables_of_calm hagain, on_ensureStandardTables_of_calm hfirst, hsame]

/-- A store with a namesake of the filter table, and with one of its standard chains, which holds a
rule. The next creation of a table fails. -/
def demoPartial : Store :=
  { tables := (Std.ExtTreeMap.insert ∅ ⟨"filter", .ip⟩ [⟨"INPUT", false, []⟩]).insert
      ⟨"filter", .inet⟩ [⟨"FORWARD", true, [(3, "foreign")]⟩]
    lastHandle := 3
    pending := [.createTable] }

/-- The creation of the second table fails, when the first has been completed; the next attempt
completes the second as well. -/
theorem ensureStandardTables_converges_demo :
    (∃ s', backend.ensureStandardTables.on demoPartial = (.error (injected .createTable), s') ∧
      Kept demoPartial.tables s'.tables ∧ s'.snapshot = [
        "table inet filter", "chain inet filter FORWARD base", "rule inet filter FORWARD foreign",
        "chain inet filter INPUT base", "chain inet filter OUTPUT base",
        "table ip filter", "chain ip filter INPUT regular"]) ∧
    backend.ensureStandardTables.on { demoPartial.attempt [.createTable] with pending := [] } =
      backend.ensureStandardTables.on { demoPartial with pending := [] } ∧
    Store.snapshot (backend.ensureStandardTables.on { demoPartial with pending := [] }).2 = [
        "table inet filter", "chain inet filter FORWARD base", "rule inet filter FORWARD foreign",
        "chain inet filter INPUT base", "chain inet filter OUTPUT base",
        "table ip filter", "chain ip filter INPUT regular",
        "table ip nat", "chain ip nat PREROUTING base", "chain ip nat POSTROUTING base"] := by
  obtain ⟨_, _, _, hfailed, hrounds⟩ := ensureStandardTables_converges demoPartial
  have hon : backend.ensureStandardTables.on demoPartial = (.error (injected .createTable),
      (backend.ensureStandardTables.on demoPartial).2) := Prod.ext (by rfl) rfl
  refine ⟨⟨_, hon, (hfailed _ _ hon).2.1, by decide +kernel⟩, ?_, by decide +kernel⟩
  exact (hrounds [[.createTable]]).2 [] fun _ _ => List.not_mem_nil

end WorkloadNet.Firewall.Store
