import WorkloadNet.Firewall.Engine
import WorkloadNet.Firewall.Store
import WorkloadNet.Proofs.Action.Ends
import WorkloadNet.Proofs.Kernel.Maps

/-!
# What each operation of a store does

The store is looked at through three views: its layout (tables and chains without the rules), the
chain of a name in a table, and the rules of that chain. There is one rule for each operation, in the
form of `Ends`, that says what has to be shown for an injected failure, for a missing table or chain,
and for its success.
-/

namespace WorkloadNet.Firewall.Store

open WorkloadNet.Action

variable {s s' : Store} {table : TableSpec} {name : String} {op : StoreOp}

/-! ## Views -/

/-- The tables with the name and the kind of each chain. -/
def layout (s : Store) : Std.ExtTreeMap TableSpec (List (String × Bool)) :=
  s.tables.map fun _ chains => chains.map fun c => (c.name, c.base)

/-- The chain of a name in a table. -/
def chain? (s : Store) (table : TableSpec) (name : String) : Option StoredChain :=
  (s.tables[table]?).bind fun chains => chains.find? fun c => c.name = name

/-- The table that a bare name means. -/
def home (s : Store) (name : String) : Option TableSpec := resolveTable name s.tables.keys

theorem rulesOf_eq (s : Store) (table : TableSpec) (name : String) :
    s.rulesOf table name = ((s.chain? table name).map StoredChain.rules).getD [] := by
  unfold rulesOf chain?
  cases (s.tables[table]?).bind fun chains => chains.find? fun c => c.name = name <;> rfl

/-- The tables are a matter of the layout. -/
theorem keys_eq_of_layout (h : s'.layout = s.layout) : s'.tables.keys = s.tables.keys := by
  have hlayout := congrArg Std.ExtTreeMap.keys h
  rwa [layout, layout, Std.ExtTreeMap.keys_map, Std.ExtTreeMap.keys_map] at hlayout

theorem home_eq_of_layout (h : s'.layout = s.layout) (name : String) :
    s'.home name = s.home name := by
  rw [home, home, keys_eq_of_layout h]

/-- The names of the chains of a table are a matter of the layout. -/
theorem names_eq_of_layout (h : s'.layout = s.layout) (table : TableSpec) :
    (s'.tables[table]?.getD []).map StoredChain.name =
      (s.tables[table]?.getD []).map StoredChain.name := by
  have hnames : ∀ s : Store, (s.tables[table]?.getD []).map StoredChain.name =
      ((s.layout[table]?).getD []).map Prod.fst := by
    intro s
    unfold layout
    rw [Std.ExtTreeMap.getElem?_map]
    cases s.tables[table]? <;> simp
  rw [hnames, hnames, h]

/-- Whether a chain exists is a matter of the layout. -/
theorem isSome_chain? (s : Store) (table : TableSpec) (name : String) :
    (s.chain? table name).isSome =
      ((s.layout[table]?).getD []).any fun c => c.1 = name := by
  unfold chain? layout
  rw [Std.ExtTreeMap.getElem?_map]
  cases s.tables[table]? with
  | none => rfl
  | some chains =>
    rw [Bool.eq_iff_iff]
    simp

theorem isSome_chain?_of_layout (h : s'.layout = s.layout) (table : TableSpec) (name : String) :
    (s'.chain? table name).isSome = (s.chain? table name).isSome := by
  rw [isSome_chain?, isSome_chain?, h]

/-! ## Changes -/

/-- What an injected failure of an operation reads. -/
def injected (op : StoreOp) : Failure := .kernel op.name "injected failure"

/-- The store after a pending failure has struck. -/
def spend (op : StoreOp) (s : Store) : Store := { s with pending := s.pending.erase op }

/-- The store after an append has been counted and given its handle. -/
def counted (s : Store) : Store :=
  { s with lastHandle := s.lastHandle + 1, appendCountdown := s.appendCountdown.map (· - 1) }

/-- The store with the rules of a chain changed. -/
def withRules (table : TableSpec) (name : String) (f : List (Nat × String) → List (Nat × String))
    (s : Store) : Store :=
  { s with tables := s.tables.modify table (editChain name fun c => { c with rules := f c.rules }) }

/-- The store with a chain more at the end of a table. -/
def withChain (table : TableSpec) (chain : StoredChain) (s : Store) : Store :=
  { s with tables := s.tables.modify table (· ++ [chain]) }

theorem find?_editChain {f : StoredChain → StoredChain} (hf : ∀ c, (f c).name = c.name)
    (name n : String) (chains : List StoredChain) :
    ((editChain name f chains).find? fun c => c.name = n) =
      if n = name then (chains.find? fun c => c.name = n).map f
      else chains.find? fun c => c.name = n := by
  induction chains with
  | nil => simp [editChain]
  | cons c rest ih =>
    unfold editChain
    by_cases hc : c.name = name
    · by_cases hn : n = name
      · simp [hc, hn, hf]
      · simp [hc, hn, hf, Ne.symm hn]
    · by_cases hn : c.name = n
      · have hne : n ≠ name := fun h => hc (hn.trans h)
        simp [hn, hne]
      · simp [hc, hn, ih]

theorem map_editChain {α : Type} {f : StoredChain → StoredChain} {g : StoredChain → α}
    (hf : ∀ c, g (f c) = g c) (name : String) (chains : List StoredChain) :
    (editChain name f chains).map g = chains.map g := by
  induction chains with
  | nil => rfl
  | cons c rest ih =>
    unfold editChain
    split
    · rw [List.map_cons, List.map_cons, hf]
    · rw [List.map_cons, List.map_cons, ih]

theorem layout_withRules (f : List (Nat × String) → List (Nat × String)) :
    (s.withRules table name f).layout = s.layout := by
  unfold layout withRules
  apply Std.ExtTreeMap.ext_getElem?
  intro t
  rw [Std.ExtTreeMap.getElem?_map, Std.ExtTreeMap.getElem?_map, Std.ExtTreeMap.getElem?_modify]
  split
  · rename_i h
    obtain rfl := Std.LawfulEqOrd.eq_of_compare h
    cases s.tables[table]? with
    | none => rfl
    | some chains =>
      simp only [Option.map_some]
      rw [map_editChain (f := fun c : StoredChain => { c with rules := f c.rules }) fun _ => rfl]
  · rfl

theorem chain?_withRules (f : List (Nat × String) → List (Nat × String)) (t : TableSpec)
    (n : String) :
    (s.withRules table name f).chain? t n =
      if (t, n) = (table, name) then (s.chain? t n).map fun c => { c with rules := f c.rules }
      else s.chain? t n := by
  unfold chain? withRules
  rw [Std.ExtTreeMap.getElem?_modify]
  by_cases ht : table = t
  · subst ht
    cases s.tables[table]? with
    | none => simp
    | some chains =>
      simp [find?_editChain (f := fun c : StoredChain => { c with rules := f c.rules }) fun _ => rfl]
  · simp [ht, Ne.symm ht]

theorem rulesOf_withRules (f : List (Nat × String) → List (Nat × String)) (t : TableSpec)
    (n : String) (h : (s.chain? table name).isSome) :
    (s.withRules table name f).rulesOf t n =
      if (t, n) = (table, name) then f (s.rulesOf t n) else s.rulesOf t n := by
  rw [rulesOf_eq, rulesOf_eq, chain?_withRules]
  by_cases heq : (t, n) = (table, name)
  · obtain ⟨rfl, rfl⟩ := Prod.mk.inj heq
    obtain ⟨c, hc⟩ := Option.isSome_iff_exists.1 h
    simp [hc]
  · simp [heq]

/-- A chain without rules brings none. -/
theorem rulesOf_withChain {chain : StoredChain} (hempty : chain.rules = []) (t : TableSpec)
    (n : String) : (s.withChain table chain).rulesOf t n = s.rulesOf t n := by
  rw [rulesOf_eq, rulesOf_eq]
  unfold chain? withChain
  rw [Std.ExtTreeMap.getElem?_modify]
  by_cases ht : table = t
  · subst ht
    cases s.tables[table]? with
    | none => simp
    | some chains =>
      cases hfind : chains.find? fun c => c.name = n with
      | some c => simp [List.find?_append, hfind]
      | none =>
        by_cases hn : chain.name = n
        · simp [List.find?_append, hfind, hn, hempty]
        · simp [List.find?_append, hfind, hn]
  · simp [ht]

/-- A table without chains brings no rules. -/
theorem rulesOf_insertIfNew (t : TableSpec) (n : String) :
    Store.rulesOf { s with tables := s.tables.insertIfNew table [] } t n = s.rulesOf t n := by
  unfold rulesOf
  dsimp only
  by_cases hmem : table ∈ s.tables
  · rw [Maps.insertIfNew_of_mem hmem]
  · rw [Maps.insertIfNew_of_not_mem hmem]
    by_cases ht : table = t
    · subst ht
      rw [Std.ExtTreeMap.getElem?_insert_self, Std.ExtTreeMap.getElem?_eq_none hmem]
      rfl
    · rw [Maps.getElem?_insert_of_ne ht]

/-! ## Parts of operations -/

theorem on_takeFailure (op : StoreOp) (s : Store) :
    (takeFailure op).on s =
      if op ∈ s.pending then (.error (injected op), s.spend op) else (.ok (), s) := rfl

theorem on_chainsOf (table : TableSpec) (s : Store) :
    (chainsOf table).on s =
      match s.tables[table]? with
      | some chains => (.ok chains, s)
      | none => (.error (.notFound "table" table.text), s) := by
  unfold chainsOf
  rw [on_bind, on_get]
  dsimp only
  cases s.tables[table]? <;> rfl

section Rules

variable {α : Type} {R : α → Store → Prop} {Q : Unit → Store → Prop}
variable {E : Failure → Store → Prop}

theorem ends_guarded {rest : Unit → Action Store α}
    (hinjected : op ∈ s.pending → E (injected op) (s.spend op))
    (hrest : op ∉ s.pending → Ends (rest ()) s R E) : Ends (takeFailure op >>= rest) s R E := by
  unfold Ends
  rw [on_bind, on_takeFailure]
  by_cases h : op ∈ s.pending
  · simpa only [h, if_true] using hinjected h
  · simpa only [h, if_false, Ends] using hrest h

/-- Either the table or the chain is missing, or the chain is found. -/
theorem ends_chain {R : StoredChain → Store → Prop}
    (hmissing : ∀ failure, s.chain? table name = none → E failure s)
    (hok : ∀ c, s.chain? table name = some c → R c s) : Ends (chain table name) s R E := by
  unfold chain Ends
  rw [on_bind, on_chainsOf]
  unfold chain? at hmissing hok
  cases htable : s.tables[table]? with
  | none => exact hmissing _ (by rw [htable]; rfl)
  | some chains =>
    rw [htable] at hmissing hok
    dsimp only
    cases hchain : chains.find? fun c => c.name = name with
    | none => exact hmissing _ hchain
    | some c => exact hok c hchain

/-! ## Operations -/

theorem ends_listTables {R : List TableSpec → Store → Prop}
    (hinjected : .tables ∈ s.pending → E (injected .tables) (s.spend .tables))
    (hok : .tables ∉ s.pending → R s.tables.keys s) : Ends listTables s R E :=
  ends_guarded hinjected hok

theorem ends_listChains {R : List String → Store → Prop}
    (hinjected : .chains ∈ s.pending → E (injected .chains) (s.spend .chains))
    (hok : ∀ names, (∀ n, n ∈ names ↔ (s.chain? table n).isSome) → R names s) :
    Ends (listChains table) s R E := by
  refine ends_guarded hinjected fun _ => hok _ fun n => ?_
  unfold chain?
  cases s.tables[table]? with
  | none => simp
  | some chains => simp

theorem ends_createTable
    (hinjected : .createTable ∈ s.pending → E (injected .createTable) (s.spend .createTable))
    (hok : Q () { s with tables := s.tables.insertIfNew table [] }) :
    Ends (createTable table) s Q E :=
  ends_guarded hinjected fun _ => hok

/-- A chain is added at the end, unless there is one of its name. -/
theorem ends_createChain {request : ChainRequest}
    (hinjected : .createChain ∈ s.pending → E (injected .createChain) (s.spend .createChain))
    (hmissing : s.tables[table]? = none → E (.notFound "table" table.text) s)
    (hthere : (s.chain? table request.name).isSome → Q () s)
    (hok : ∀ chains, s.tables[table]? = some chains → (∀ c ∈ chains, c.name ≠ request.name) →
      Q () (s.withChain table ⟨request.name, request.base.isSome, []⟩)) :
    Ends (createChain table request) s Q E := by
  refine ends_guarded hinjected fun _ => ?_
  unfold Ends
  rw [on_bind, on_chainsOf]
  cases htable : s.tables[table]? with
  | none => exact hmissing htable
  | some chains =>
    dsimp only
    by_cases hall : chains.all fun c => c.name ≠ request.name
    · rw [if_pos hall]
      exact hok chains htable fun c hc => by simpa using List.all_eq_true.1 hall c hc
    · rw [if_neg hall]
      refine hthere ?_
      rw [chain?, htable]
      simpa using hall

theorem ends_appendRule {rule : Rule}
    (hinjected : .appendRule ∈ s.pending → E (injected .appendRule) (s.spend .appendRule))
    (hcounted : ∀ n, s.appendCountdown = some n → n ≤ 1 →
      E (.kernel "append rule" "injected failure") { s with appendCountdown := none })
    (hmissing : ∀ failure, s.chain? table rule.chain = none → E failure s.counted)
    (hok : .appendRule ∉ s.pending → (∀ n, s.appendCountdown = some n → 1 < n) →
      (s.chain? table rule.chain).isSome → Q () (s.counted.withRules table rule.chain
        (· ++ [(s.lastHandle + 1, rule.fingerprint)]))) :
    Ends (appendRule table rule) s Q E := by
  refine ends_guarded hinjected fun hcalm => ?_
  refine Ends.bind (P := fun _ s₁ => (∀ n, s.appendCountdown = some n → 1 < n) ∧ s₁ = { s with
    appendCountdown := s.appendCountdown.map (· - 1) }) ?_ ?_
  · unfold countAppend Ends
    rw [on_of]
    cases hcountdown : s.appendCountdown with
    | none =>
      dsimp only
      rw [Option.map_none, ← hcountdown]
      refine ⟨fun n hn => ?_, rfl⟩
      cases hcountdown.symm.trans hn
    | some n =>
      by_cases hn : n ≤ 1
      · simpa only [hn, if_true] using hcounted n hcountdown hn
      · simp only [hn, if_false]
        refine ⟨?_, rfl⟩
        rintro _ ⟨⟩
        exact Nat.lt_of_not_le hn
  · rintro _ _ ⟨hlater, rfl⟩
    refine Ends.bind (P := fun handle s₂ => handle = s.lastHandle + 1 ∧ s₂ = s.counted) ⟨rfl, rfl⟩ ?_
    rintro _ _ ⟨rfl, rfl⟩
    have hsame : s.counted.chain? table rule.chain = s.chain? table rule.chain := rfl
    refine Ends.bind (ends_chain (R := fun c s₃ => s₃ = s.counted ∧
      s.chain? table rule.chain = some c) hmissing fun c hc => ⟨rfl, hc⟩) ?_
    rintro c _ ⟨rfl, hc⟩
    exact hok hcalm hlater (by rw [hc]; rfl)

theorem ends_listRules {R : List InstalledRule → Store → Prop}
    (hinjected : .rules ∈ s.pending → E (injected .rules) (s.spend .rules))
    (hmissing : ∀ failure, s.chain? table name = none → E failure s)
    (hok : .rules ∉ s.pending → (s.chain? table name).isSome →
      R ((s.rulesOf table name).map fun r => ⟨r.1, some r.2⟩) s) :
    Ends (listRules table name) s R E := by
  refine ends_guarded hinjected fun hcalm => ?_
  refine Ends.bind (ends_chain hmissing (R := fun c s₁ => s = s₁ ∧ s.chain? table name = some c)
    fun c hc => ⟨rfl, hc⟩) ?_
  rintro c _ ⟨rfl, hc⟩
  have hrules : s.rulesOf table name = c.rules := by rw [rulesOf_eq, hc]; rfl
  refine ends_pure ?_
  rw [← hrules]
  exact hok hcalm (by rw [hc]; rfl)

/-- Deletes the first rule with a handle; there has to be one. -/
theorem ends_deleteRule {handle : Nat}
    (hinjected : .deleteRule ∈ s.pending → E (injected .deleteRule) (s.spend .deleteRule))
    (hmissing : ∀ failure, (∀ mark, (handle, mark) ∉ s.rulesOf table name) → E failure s)
    (hok : .deleteRule ∉ s.pending → (s.chain? table name).isSome →
      (∃ mark, (handle, mark) ∈ s.rulesOf table name) →
      Q () (s.withRules table name (·.eraseP fun r => r.1 = handle))) :
    Ends (deleteRule table name handle) s Q E := by
  refine ends_guarded hinjected fun hcalm => ?_
  refine Ends.bind (ends_chain (R := fun c s₁ => s = s₁ ∧ s.chain? table name = some c)
    (fun failure hnone => hmissing failure fun mark => by simp [rulesOf_eq, hnone])
    fun c hc => ⟨rfl, hc⟩) ?_
  rintro c _ ⟨rfl, hc⟩
  have hrules : s.rulesOf table name = c.rules := by rw [rulesOf_eq, hc]; rfl
  unfold Ends
  by_cases hall : (c.rules.all fun r => r.1 ≠ handle) = true
  · simp only [if_pos hall]
    refine hmissing _ fun mark hmem => ?_
    rw [hrules] at hmem
    simpa using List.all_eq_true.1 hall _ hmem
  · simp only [if_neg hall]
    refine hok hcalm (by rw [hc]; rfl) ?_
    rw [hrules]
    simpa using hall

end Rules

/-! ## Lists of rules -/

/-- A list of rules is used when none of them has a fault, and refused otherwise. -/
theorem ends_ofList {σ α : Type} {rules : List Rule} {next : RuleSet → Action σ α} {s : σ}
    {Q : α → σ → Prop} {E : Failure → σ → Prop}
    (hfaulty : ∀ failure, (¬ ∀ rule ∈ rules, rule.fault? = none) → E failure s)
    (hfaultless : ∀ set, set.rules = rules → (∀ rule ∈ rules, rule.fault? = none) →
      Ends (next set) s Q E) :
    Ends (Action.ofExcept (RuleSet.ofList rules) >>= next) s Q E := by
  refine Ends.bind (P := fun set s₁ => s = s₁ ∧ set.rules = rules)
    (ends_ofExcept (fun set hset => ⟨rfl, RuleSet.rules_of_ofList hset⟩) fun failure hfault => ?_) ?_
  · refine hfaulty failure fun h => ?_
    rw [RuleSet.ofList, RuleSet.check_of_faultless h] at hfault
    cases hfault
  · rintro set _ ⟨rfl, rfl⟩
    exact hfaultless set rfl set.faultless

end WorkloadNet.Firewall.Store
