import WorkloadNet.Proofs.Nft.Keeping

/-!
# Listings and stores that hold the same

`SameRules` compares a listing with a store: tables, chains and comments. A run on both keeps more
than that (`Mirrors`): every listed rule has a handle, the handles of a chain are different, and
the store is well-formed and fails at nothing of its own accord. For each change of a store there
is a lemma that the listing with the object added or deleted mirrors the changed store.
-/

namespace WorkloadNet.Nft

open WorkloadNet.Action Firewall

/-- A listing and a store hold the same tables, the same chains of each table in the same order, and
the same comments of each chain in the same order. -/
structure SameRules (objects : List Listed) (s : Store) : Prop where
  tables : objects.filterMap Listed.place? =
    s.tables.keys.map fun spec => (.ofFamily spec.family, spec.name)
  chains : ∀ spec, objects.filterMap (Listed.chainOf? spec) =
    (s.tables[spec]?.getD []).map StoredChain.name
  comments : ∀ spec name, objects.filterMap (Listed.comment? spec name) =
    (s.marks spec name).map some

/-- What a run keeps of a listing and a store that hold the same. -/
structure Mirrors (objects : List Listed) (s : Store) : Prop extends SameRules objects s where
  handled : ∀ family table name comment, Listed.rule family table name none comment ∉ objects
  distinct : ∀ spec name,
    ((objects.filterMap (Listed.ruleOf? spec name)).map InstalledRule.handle).Nodup
  quiet : s.Quiet
  wellFormed : s.WellFormed

namespace Mirrors

variable {objects : List Listed} {s : Store} {spec : TableSpec} {name : String}

/-- A listing without tables, chains and rules, whatever else it tells. -/
theorem empty (hother : ∀ object ∈ objects, object = .other) : Mirrors objects Store.empty := by
  have hnone : ∀ {α : Type} {f : Listed → Option α}, f .other = none →
      objects.filterMap f = [] := by
    intro α f hf
    rw [List.filterMap_eq_nil_iff]
    intro object hobject
    rw [hother object hobject, hf]
  refine ⟨⟨hnone rfl, fun spec => ?_, fun spec name => ?_⟩, fun _ _ _ _ hmem => ?_, fun _ _ => ?_,
    ⟨rfl, rfl⟩, Store.wellFormed_empty⟩
  · rw [hnone rfl]
    simp [Store.empty]
  · rw [hnone rfl]
    simp [Store.marks, Store.rulesOf, Store.empty]
  · cases hother _ hmem
  · rw [hnone rfl]
    exact List.nodup_nil

/-! ## What is read from a listing -/

theorem tables_eq (h : Mirrors objects s) : objects.filterMap Listed.table? = s.tables.keys := by
  have hviews : objects.filterMap Listed.table? = (objects.filterMap Listed.place?).filterMap
      fun place => place.1.family?.map fun f => ⟨place.2, f⟩ := by
    rw [List.filterMap_filterMap]
    exact congrArg (objects.filterMap ·) (funext Listed.table?_eq)
  rw [hviews, h.tables, List.filterMap_map]
  have hsome : (fun place : NftFamily × String =>
        place.1.family?.map fun f => (⟨place.2, f⟩ : TableSpec)) ∘
      (fun spec : TableSpec => (.ofFamily spec.family, spec.name)) = some := by
    funext spec
    simp [NftFamily.family?_ofFamily]
  rw [hsome, List.filterMap_some]

/-- Where every rule has a handle, the engine sees the comments of all of them. -/
theorem filterMap_comment? (h : ∀ family table name comment,
    Listed.rule family table name none comment ∉ objects) (spec : TableSpec) (name : String) :
    objects.filterMap (Listed.comment? spec name) =
      (objects.filterMap (Listed.ruleOf? spec name)).map InstalledRule.comment := by
  rw [List.map_filterMap]
  refine List.filterMap_congr fun object hobject => ?_
  cases object with
  | rule family owner holder given comment =>
    cases given with
    | none => exact absurd hobject (h _ _ _ _)
    | some handle =>
      dsimp only [Listed.ruleOf?, Listed.comment?]
      split <;> rfl
  | _ => rfl

theorem map_comment (h : Mirrors objects s) (spec : TableSpec) (name : String) :
    (objects.filterMap (Listed.ruleOf? spec name)).map InstalledRule.comment =
      (s.marks spec name).map some := by
  rw [← filterMap_comment? h.handled, h.comments]

/-- A fingerprint is found in both or in none. -/
theorem isSome_find? (h : Mirrors objects s) (spec : TableSpec) (name mark : String) :
    ((objects.filterMap (Listed.ruleOf? spec name)).find? fun r => r.comment = some mark).isSome =
      ((s.rulesOf spec name).find? fun r => r.2 = mark).isSome := by
  have hmem : some mark ∈ (objects.filterMap (Listed.ruleOf? spec name)).map InstalledRule.comment ↔
      mark ∈ s.marks spec name := by
    rw [h.map_comment, List.mem_map]
    simp
  unfold Store.marks at hmem
  rw [List.mem_map, List.mem_map] at hmem
  rw [Bool.eq_iff_iff, List.find?_isSome, List.find?_isSome]
  simpa only [decide_eq_true_eq] using hmem

theorem mem_tables_iff (h : Mirrors objects s) : .ofTable spec ∈ objects ↔ spec ∈ s.tables := by
  have hplace : .ofTable spec ∈ objects ↔
      (NftFamily.ofFamily spec.family, spec.name) ∈ objects.filterMap Listed.place? := by
    simp only [List.mem_filterMap, Listed.place?_eq_some_iff, exists_eq_right]
  rw [hplace, h.tables, List.mem_map, ← Std.ExtTreeMap.mem_keys]
  constructor
  · rintro ⟨other, hmem, heq⟩
    obtain ⟨hfamily, hname⟩ := Prod.mk.inj heq
    rwa [← Listed.place_iff.1 ⟨hfamily, hname⟩]
  · exact fun hmem => ⟨spec, hmem, rfl⟩

theorem mem_chains_iff (h : Mirrors objects s) :
    .ofChain spec name ∈ objects ↔ (s.chain? spec name).isSome := by
  have hname : .ofChain spec name ∈ objects ↔
      name ∈ objects.filterMap (Listed.chainOf? spec) := by
    simp only [List.mem_filterMap, Listed.chainOf?_eq_some_iff, exists_eq_right]
  rw [hname, h.chains]
  unfold Store.chain?
  cases s.tables[spec]? with
  | none => simp
  | some chains => simp

/-! ## Changes -/

variable {objects' : List Listed} {s' : Store} {rule : Rule} {handle : Nat}

theorem handled_append (h : Mirrors objects s) {object : Listed}
    (hobject : ∀ family table name comment, object ≠ .rule family table name none comment) :
    ∀ family table name comment,
      Listed.rule family table name none comment ∉ objects ++ [object] := by
  intro family table name comment hmem
  rcases List.mem_append.1 hmem with hmem | hmem
  · exact h.handled _ _ _ _ hmem
  · exact hobject _ _ _ _ (List.mem_singleton.1 hmem).symm

/-- A table that comes last in the order of tables is added. -/
theorem addTable (h : Mirrors objects s) (hnew : spec ∉ s.tables)
    (hlast : ∀ other ∈ s.tables, compare other spec = .lt) :
    Mirrors (objects ++ [.ofTable spec]) { s with tables := s.tables.insertIfNew spec [] } := by
  refine ⟨⟨?_, fun t => ?_, fun t c => ?_⟩, h.handled_append (fun _ _ _ _ => nofun), fun t c => ?_,
    ⟨h.quiet.pending, h.quiet.countdown⟩, Store.evolves_createTable.wellFormed h.wellFormed⟩
  · dsimp only
    rw [List.filterMap_append, h.tables, Maps.insertIfNew_of_not_mem hnew,
      Maps.keys_insert_of_lt hlast, List.map_append]
    rfl
  · dsimp only
    rw [List.filterMap_append, h.chains, Maps.insertIfNew_of_not_mem hnew]
    by_cases ht : spec = t
    · subst ht
      simp [Std.ExtTreeMap.getElem?_eq_none hnew]
    · simp [Maps.getElem?_insert_of_ne ht]
  · rw [Store.marks, Store.rulesOf_insertIfNew, List.filterMap_append, h.comments]
    simp [Store.marks]
  · rw [List.filterMap_append, List.filterMap_cons_none rfl, List.filterMap_nil, List.append_nil]
    exact h.distinct t c

/-- A chain is added to a table that has none of its name. -/
theorem addChain (h : Mirrors objects s) {chains : List StoredChain} (chain : StoredChain)
    (htable : s.tables[spec]? = some chains) (hnew : ∀ c ∈ chains, c.name ≠ chain.name)
    (hempty : chain.rules = []) :
    Mirrors (objects ++ [.ofChain spec chain.name]) (s.withChain spec chain) := by
  refine ⟨⟨?_, fun t => ?_, fun t c => ?_⟩, h.handled_append (fun _ _ _ _ => nofun), fun t c => ?_,
    ⟨h.quiet.pending, h.quiet.countdown⟩,
    (Store.evolves_withChain htable hnew hempty).wellFormed h.wellFormed⟩
  · unfold Store.withChain
    dsimp only
    rw [Maps.keys_modify, List.filterMap_append, h.tables]
    simp
  · unfold Store.withChain
    dsimp only
    rw [List.filterMap_append, h.chains]
    by_cases ht : spec = t
    · subst ht
      simp [htable]
    · simp [Maps.getElem?_modify_of_ne ht, ht]
  · rw [Store.marks, Store.rulesOf_withChain hempty, List.filterMap_append, h.comments]
    simp [Store.marks]
  · rw [List.filterMap_append, List.filterMap_cons_none rfl, List.filterMap_nil, List.append_nil]
    exact h.distinct t c

/-- A rule is added under a handle that no rule of its table has. -/
theorem addRule (h : Mirrors objects s) (hhome : s.home rule.table = some spec)
    (hadded : Store.Added rule s s')
    (hfresh : ∀ name comment, .ofRule spec name handle comment ∉ objects) :
    Mirrors (objects ++ [.ofRule spec rule.chain handle (some rule.fingerprint)]) s' := by
  refine ⟨⟨?_, fun t => ?_, fun t c => ?_⟩, h.handled_append (fun _ _ _ _ => nofun), fun t c => ?_,
    hadded.quiet h.quiet, hadded.evolves.wellFormed h.wellFormed⟩
  · rw [List.filterMap_append, h.tables, Store.keys_eq_of_layout hadded.layout]
    simp
  · rw [List.filterMap_append, h.chains, Store.names_eq_of_layout hadded.layout]
    simp
  · rw [List.filterMap_append, h.comments, hadded.marks, hhome]
    by_cases hplace : spec = t ∧ rule.chain = c
    · obtain ⟨rfl, rfl⟩ := hplace
      simp
    · rw [if_neg fun heq => hplace ⟨Option.some.inj heq.1, heq.2.symm⟩]
      simp [hplace]
  · rw [List.filterMap_append, List.map_append, List.nodup_append]
    refine ⟨h.distinct t c, ?_, fun a ha b hb => ?_⟩
    · by_cases hplace : spec = t ∧ rule.chain = c <;> simp [hplace]
    · rintro rfl
      obtain ⟨r, hr, rfl⟩ := List.mem_map.1 ha
      obtain ⟨object, hobject, hr⟩ := List.mem_filterMap.1 hr
      rw [Listed.ruleOf?_eq_some_iff] at hr
      by_cases hplace : spec = t ∧ rule.chain = c
      · obtain ⟨rfl, rfl⟩ := hplace
        obtain rfl : r.handle = handle := by simpa using hb
        exact hfresh _ _ (hr ▸ hobject)
      · simp [hplace] at hb

/-- Objects that a question does not find can be left out. -/
theorem filterMap_filter_of_none {α β : Type} {p : α → Bool} {f : α → Option β} (l : List α)
    (hnone : ∀ a, p a = false → f a = none) : (l.filter p).filterMap f = l.filterMap f := by
  rw [List.filterMap_filter]
  refine List.filterMap_congr fun a _ => ?_
  split
  · rfl
  · rename_i hp
    exact (hnone a (by simpa using hp)).symm

/-- The first rule with a fingerprint is deleted by its handle. -/
theorem deleteRule (h : Mirrors objects s) {r : InstalledRule}
    (hhome : s.home rule.table = some spec) (hremoved : Store.Removed rule s s')
    (hfind : (objects.filterMap (Listed.ruleOf? spec rule.chain)).find?
      (fun r => r.comment = some rule.fingerprint) = some r) :
    Mirrors (objects.filter fun object => !object.isRule spec rule.chain r.handle) s' := by
  have hrule : ∀ object : Listed, (!object.isRule spec rule.chain r.handle) = false →
      ∃ comment, object = .ofRule spec rule.chain r.handle comment := by
    intro object hobject
    exact Listed.isRule_iff.1 (by simpa using hobject)
  have hhandled : ∀ family table name comment, Listed.rule family table name none comment ∉
      objects.filter fun object => !object.isRule spec rule.chain r.handle :=
    fun _ _ _ _ hmem => h.handled _ _ _ _ (List.mem_of_mem_filter hmem)
  have helsewhere : ∀ t c, ¬ (spec = t ∧ rule.chain = c) →
      (objects.filter fun object => !object.isRule spec rule.chain r.handle).filterMap
        (Listed.ruleOf? t c) = objects.filterMap (Listed.ruleOf? t c) := by
    intro t c hplace
    refine filterMap_filter_of_none objects fun object hobject => ?_
    obtain ⟨comment, rfl⟩ := hrule object hobject
    simp [hplace]
  have hhere : (objects.filter fun object => !object.isRule spec rule.chain r.handle).filterMap
      (Listed.ruleOf? spec rule.chain) =
        (objects.filterMap (Listed.ruleOf? spec rule.chain)).eraseP
          fun x => x.handle = r.handle := by
    rw [← Store.filter_eq_eraseP (h.distinct spec rule.chain), List.filterMap_filter,
      List.filter_filterMap]
    exact List.filterMap_congr fun object _ => object.filter_ruleOf?.symm
  refine ⟨⟨?_, fun t => ?_, fun t c => ?_⟩, hhandled, fun t c => ?_,
    ⟨hremoved.pending.trans h.quiet.pending, hremoved.countdown.trans h.quiet.countdown⟩,
    hremoved.evolves.wellFormed h.wellFormed⟩
  · rw [Store.keys_eq_of_layout hremoved.layout, ← h.tables]
    refine filterMap_filter_of_none objects fun object hobject => ?_
    obtain ⟨comment, rfl⟩ := hrule object hobject
    rfl
  · rw [Store.names_eq_of_layout hremoved.layout, ← h.chains]
    refine filterMap_filter_of_none objects fun object hobject => ?_
    obtain ⟨comment, rfl⟩ := hrule object hobject
    rfl
  · rw [filterMap_comment? hhandled, hremoved.marks, hhome]
    by_cases hplace : spec = t ∧ rule.chain = c
    · obtain ⟨rfl, rfl⟩ := hplace
      rw [hhere, Store.map_eraseP_key (h.distinct spec rule.chain) hfind, h.map_comment,
        if_pos ⟨rfl, rfl⟩, List.map_erase fun _ _ => Option.some.inj]
    · rw [helsewhere t c hplace, h.map_comment,
        if_neg fun heq => hplace ⟨Option.some.inj heq.1, heq.2.symm⟩]
  · by_cases hplace : spec = t ∧ rule.chain = c
    · obtain ⟨rfl, rfl⟩ := hplace
      rw [hhere]
      exact (h.distinct spec rule.chain).sublist (List.eraseP_sublist.map _)
    · rw [helsewhere t c hplace]
      exact h.distinct t c

end Mirrors

end WorkloadNet.Nft
