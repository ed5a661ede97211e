import Mathlib.Data.List.Nodup
import WorkloadNet.Proofs.Firewall.Operations

/-!
# Handles of a store

In a well-formed store the chains of a table have different names, and the handles of each chain rise
and have all been given, so a handle found in a chain belongs to one rule. `Evolves` is what every
change of a store keeps: well-formedness, and every chain that there is.
-/

namespace WorkloadNet.Firewall

open WorkloadNet.Action

/-- The handles of a chain rise, and none is above the one given last. -/
structure StoredChain.Rising (last : Nat) (c : StoredChain) : Prop where
  rising : (c.rules.map Prod.fst).Pairwise (· < ·)
  given : ∀ r ∈ c.rules, r.1 ≤ last

namespace StoredChain

variable {c : StoredChain} {last last' : Nat}

theorem Rising.mono (h : c.Rising last) (hle : last ≤ last') : c.Rising last' :=
  ⟨h.rising, fun r hr => Nat.le_trans (h.given r hr) hle⟩

/-- A new rule takes the next handle, so the handles of its chain still rise. -/
theorem Rising.append (h : c.Rising last) (mark : String) :
    Rising (last + 1) { c with rules := c.rules ++ [(last + 1, mark)] } := by
  refine ⟨?_, fun r hr => ?_⟩
  · rw [List.map_append, List.pairwise_append]
    refine ⟨h.rising, List.pairwise_singleton _ _, fun a ha b hb => ?_⟩
    obtain ⟨r, hr, rfl⟩ := List.mem_map.1 ha
    obtain rfl : b = last + 1 := by simpa using hb
    exact Nat.lt_succ_of_le (h.given r hr)
  · rcases List.mem_append.1 hr with hr | hr
    · exact Nat.le_succ_of_le (h.given r hr)
    · obtain rfl := List.mem_singleton.1 hr
      exact Nat.le_refl _

/-- Without one of its rules, the handles of a chain rise as before. -/
theorem Rising.eraseP (h : c.Rising last) (p : Nat × String → Bool) :
    Rising last { c with rules := c.rules.eraseP p } :=
  ⟨h.rising.sublist (List.eraseP_sublist.map _), fun r hr => h.given r (List.mem_of_mem_eraseP hr)⟩

end StoredChain

namespace Store

variable {s s' s₁ s₂ : Store} {table : TableSpec} {name : String}

/-! ## Well-formed stores -/

/-- What every run keeps of the chains and their handles. -/
structure WellFormed (s : Store) : Prop where
  names : ∀ (table : TableSpec) (chains : List StoredChain), s.tables[table]? = some chains →
    (chains.map StoredChain.name).Nodup
  rising : ∀ (table : TableSpec) (chains : List StoredChain), s.tables[table]? = some chains →
    ∀ c ∈ chains, c.Rising s.lastHandle

theorem wellFormed_empty : WellFormed empty := by
  refine ⟨?_, ?_⟩
  · intro table chains h
    simp [empty] at h
  · intro table chains h
    simp [empty] at h

theorem exists_chain_of_mem {r : Nat × String} (h : r ∈ s.rulesOf table name) :
    ∃ chains, s.tables[table]? = some chains ∧ ∃ c ∈ chains, c.name = name ∧ r ∈ c.rules := by
  unfold rulesOf at h
  split at h
  · rename_i c hchain
    obtain ⟨chains, htable, hfind⟩ := Option.bind_eq_some_iff.1 hchain
    exact ⟨chains, htable, c, List.mem_of_find?_eq_some hfind, by simpa using List.find?_some hfind, h⟩
  · cases h

/-- A chain of a table is the one that its name means. -/
theorem WellFormed.rulesOf_of_mem (h : s.WellFormed) {chains : List StoredChain} {c : StoredChain}
    (htable : s.tables[table]? = some chains) (hc : c ∈ chains) :
    s.rulesOf table c.name = c.rules := by
  unfold rulesOf
  rw [htable, Option.bind_some]
  cases hfind : chains.find? fun other => other.name = c.name with
  | none => simpa using List.find?_eq_none.1 hfind c hc
  | some other =>
    have hname : other.name = c.name := by simpa using List.find?_some hfind
    have hmem := List.mem_of_find?_eq_some hfind
    rw [List.inj_on_of_nodup_map (h.names table chains htable) hmem hc hname]

/-- The handles of a chain rise. -/
theorem WellFormed.pairwise (h : s.WellFormed) (table : TableSpec) (name : String) :
    ((s.rulesOf table name).map Prod.fst).Pairwise (· < ·) := by
  rw [rulesOf_eq]
  cases hchain : s.chain? table name with
  | none => simp
  | some c =>
    obtain ⟨chains, htable, hfind⟩ := Option.bind_eq_some_iff.1 hchain
    exact (h.rising table chains htable c (List.mem_of_find?_eq_some hfind)).rising

/-- The rules of a chain have different handles. -/
theorem WellFormed.nodup (h : s.WellFormed) (table : TableSpec) (name : String) :
    ((s.rulesOf table name).map Prod.fst).Nodup :=
  (h.pairwise table name).imp Nat.ne_of_lt

theorem WellFormed.given (h : s.WellFormed) {r : Nat × String} (hr : r ∈ s.rulesOf table name) :
    r.1 ≤ s.lastHandle := by
  obtain ⟨chains, htable, c, hc, -, hr⟩ := exists_chain_of_mem hr
  exact (h.rising table chains htable c hc).given r hr

/-- A later store: it is well-formed if the earlier one is, and it has every table and chain of
that. -/
structure Evolves (s s' : Store) : Prop where
  wellFormed : s.WellFormed → s'.WellFormed
  tables : ∀ table, table ∈ s.tables → table ∈ s'.tables
  chains : ∀ table name, (s.chain? table name).isSome → (s'.chain? table name).isSome

theorem Evolves.refl (s : Store) : Evolves s s :=
  ⟨id, fun _ h => h, fun _ _ h => h⟩

/-- A store later than a later store is later. -/
theorem Evolves.trans (h : Evolves s s₁) (h' : Evolves s₁ s₂) : Evolves s s₂ :=
  ⟨fun hs => h'.wellFormed (h.wellFormed hs), fun t ht => h'.tables t (h.tables t ht),
    fun t n hn => h'.chains t n (h.chains t n hn)⟩

theorem evolves_of_tables (htables : s'.tables = s.tables) (hlast : s.lastHandle ≤ s'.lastHandle) :
    Evolves s s' := by
  refine ⟨fun h => ⟨?_, ?_⟩, fun t ht => ?_, fun t n hn => ?_⟩
  · rw [htables]
    exact h.names
  · rw [htables]
    exact fun t chains ht c hc => (h.rising t chains ht c hc).mono hlast
  · rwa [htables]
  · rwa [chain?, htables]

theorem mem_editChain {f : StoredChain → StoredChain} {c : StoredChain} {chains : List StoredChain}
    (h : c ∈ editChain name f chains) : c ∈ chains ∨ ∃ old ∈ chains, c = f old := by
  induction chains with
  | nil => cases h
  | cons head rest ih =>
    unfold editChain at h
    split at h
    · rcases List.mem_cons.1 h with rfl | h
      · exact Or.inr ⟨head, List.mem_cons_self, rfl⟩
      · exact Or.inl (List.mem_cons_of_mem _ h)
    · rcases List.mem_cons.1 h with rfl | h
      · exact Or.inl List.mem_cons_self
      · rcases ih h with h | ⟨old, hold, rfl⟩
        · exact Or.inl (List.mem_cons_of_mem _ h)
        · exact Or.inr ⟨old, List.mem_cons_of_mem _ hold, rfl⟩

/-- The chains of a table after the rules of a chain have changed. -/
theorem getElem?_withRules {f : List (Nat × String) → List (Nat × String)} {t : TableSpec}
    {chains : List StoredChain} (h : (s.withRules table name f).tables[t]? = some chains) :
    ∃ old, s.tables[t]? = some old ∧ (chains = old ∨
      chains = editChain name (fun c => { c with rules := f c.rules }) old) := by
  unfold withRules at h
  rw [Std.ExtTreeMap.getElem?_modify] at h
  split at h
  · rename_i heq
    obtain rfl := Std.LawfulEqOrd.eq_of_compare heq
    obtain ⟨old, hold, rfl⟩ := Option.map_eq_some_iff.1 h
    exact ⟨old, hold, Or.inr rfl⟩
  · exact ⟨chains, h, Or.inl rfl⟩

/-- Changed rules keep the store well-formed when the handles of the chain still rise. -/
theorem evolves_withRules {f : List (Nat × String) → List (Nat × String)}
    (htables : s₁.tables = s.tables) (hlast : s.lastHandle ≤ s₁.lastHandle)
    (hf : ∀ c : StoredChain, c.Rising s.lastHandle →
      StoredChain.Rising s₁.lastHandle { c with rules := f c.rules }) :
    Evolves s (s₁.withRules table name f) := by
  refine ⟨fun h => ⟨fun t chains ht => ?_, fun t chains ht c hc => ?_⟩, fun t ht => ?_,
    fun t n hn => ?_⟩
  · obtain ⟨old, hold, rfl | rfl⟩ := getElem?_withRules ht
    · exact h.names t chains (htables ▸ hold)
    · rw [map_editChain (f := fun c : StoredChain => { c with rules := f c.rules }) fun _ => rfl]
      exact h.names t old (htables ▸ hold)
  · obtain ⟨old, hold, rfl | rfl⟩ := getElem?_withRules ht
    · exact (h.rising t chains (htables ▸ hold) c hc).mono hlast
    · rcases mem_editChain hc with hc | ⟨oldChain, hmem, rfl⟩
      · exact (h.rising t old (htables ▸ hold) c hc).mono hlast
      · exact hf oldChain (h.rising t old (htables ▸ hold) oldChain hmem)
  · exact Std.ExtTreeMap.mem_modify.2 (htables ▸ ht)
  · have hlayout : (s₁.withRules table name f).layout = s.layout := by
      rw [layout_withRules, layout, htables, layout]
    rwa [isSome_chain?_of_layout hlayout]

theorem getElem?_withChain {chain : StoredChain} {chains : List StoredChain}
    (htable : s.tables[table]? = some chains) (t : TableSpec) :
    (s.withChain table chain).tables[t]? =
      if t = table then some (chains ++ [chain]) else s.tables[t]? := by
  unfold withChain
  rw [Std.ExtTreeMap.getElem?_modify]
  by_cases ht : table = t
  · subst ht
    simp [htable]
  · simp [ht, Ne.symm ht]

theorem wellFormed_withChain {chain : StoredChain} {chains : List StoredChain}
    (htable : s.tables[table]? = some chains) (hnew : ∀ c ∈ chains, c.name ≠ chain.name)
    (hempty : chain.rules = []) (h : s.WellFormed) : (s.withChain table chain).WellFormed := by
  refine ⟨fun t cs ht => ?_, fun t cs ht c hc => ?_⟩
  · rw [getElem?_withChain htable] at ht
    split at ht
    · obtain rfl := Option.some.inj ht
      rw [List.map_append, List.nodup_append]
      refine ⟨h.names table chains htable, List.pairwise_singleton _ _, fun a ha b hb => ?_⟩
      obtain ⟨c, hc, rfl⟩ := List.mem_map.1 ha
      obtain rfl : b = chain.name := by simpa using hb
      exact hnew c hc
    · exact h.names t cs ht
  · rw [getElem?_withChain htable] at ht
    split at ht
    · obtain rfl := Option.some.inj ht
      rcases List.mem_append.1 hc with hc | hc
      · exact h.rising table chains htable c hc
      · obtain rfl := List.mem_singleton.1 hc
        refine ⟨?_, ?_⟩
        · rw [hempty]
          exact List.Pairwise.nil
        · rw [hempty]
          exact fun r hr => absurd hr List.not_mem_nil
    · exact h.rising t cs ht c hc

/-- A new chain has no rules, so no handle is given. -/
theorem evolves_withChain {chain : StoredChain} {chains : List StoredChain}
    (htable : s.tables[table]? = some chains) (hnew : ∀ c ∈ chains, c.name ≠ chain.name)
    (hempty : chain.rules = []) : Evolves s (s.withChain table chain) := by
  refine ⟨wellFormed_withChain htable hnew hempty, fun t ht => ?_, fun t n hn => ?_⟩
  · exact Std.ExtTreeMap.mem_modify.2 ht
  · unfold chain? at hn ⊢
    rw [getElem?_withChain htable]
    by_cases ht : t = table
    · subst ht
      rw [htable, Option.bind_some] at hn
      rw [if_pos rfl, Option.bind_some, List.find?_append]
      simp [hn]
    · rw [if_neg ht]
      exact hn

theorem evolves_createTable :
    Evolves s { s with tables := s.tables.insertIfNew table [] } := by
  by_cases hmem : table ∈ s.tables
  · rw [Maps.insertIfNew_of_mem hmem]
    exact .refl s
  · have hget : ∀ t, (s.tables.insertIfNew table [])[t]? =
        if t = table then some [] else s.tables[t]? := by
      intro t
      rw [Maps.insertIfNew_of_not_mem hmem, Std.ExtTreeMap.getElem?_insert]
      by_cases ht : table = t
      · simp [ht]
      · simp [ht, Ne.symm ht]
    refine ⟨fun h => ⟨fun t cs ht => ?_, fun t cs ht c hc => ?_⟩, fun t ht => ?_, fun t n hn => ?_⟩
    · dsimp only at ht
      rw [hget] at ht
      split at ht
      · obtain rfl := Option.some.inj ht
        exact List.nodup_nil
      · exact h.names t cs ht
    · dsimp only at ht
      rw [hget] at ht
      split at ht
      · obtain rfl := Option.some.inj ht
        cases hc
      · exact h.rising t cs ht c hc
    · exact Std.ExtTreeMap.mem_insertIfNew.2 (Or.inr ht)
    · unfold chain? at hn ⊢
      dsimp only
      rw [hget]
      split
      · rename_i ht
        rw [ht, Std.ExtTreeMap.getElem?_eq_none hmem] at hn
        cases hn
      · exact hn

end Store

end WorkloadNet.Firewall
