import WorkloadNet.Proofs.Firewall.Marks
import WorkloadNet.Proofs.Firewall.Reach

/-!
# The life of a handle

A store gives handles to appends one after another, whatever table and chain they are for, and never
gives one twice. So no two chains have a handle in common (`Distinct`), and later a handle can only name
what it named before (`Inherits`): the same rule, and nothing once that is deleted. The statements are
about the list of all rules of a store, each with the place where it stands.
-/

namespace WorkloadNet.Firewall

open WorkloadNet.Action

/-! ## Calls -/

/-- A call of a store: an operation of the packet filter, or a step that only a store has. -/
inductive StoreCall where
  /-- An operation of the packet filter. -/
  | filter (step : Session.FilterStep)
  /-- A step that only a store has, such as setting a failure. -/
  | extra (step : Session.StoreStep)
  deriving DecidableEq, Repr

namespace StoreCall

/-- The store after a call, which may have failed. -/
def act (s : Store) : StoreCall → Store
  | filter step => ((step.run Store.backend).on s).2
  | extra step => (step.run.on s).2

/-- The table and the chain that a call appends to, if it is an append. -/
def target? : StoreCall → Option (TableSpec × String)
  | filter (.appendRule table rule) => some (table, rule.chain)
  | _ => none

/-- Whether a call is an append. -/
def isAppend (call : StoreCall) : Bool := call.target?.isSome

end StoreCall

/-- A rule and where it stands. -/
structure StoredRule where
  /-- The table. -/
  table : TableSpec
  /-- The chain. -/
  chain : String
  /-- The handle. -/
  handle : Nat
  /-- The fingerprint. -/
  mark : String
  deriving DecidableEq, Repr

namespace Store

variable {s s' s₁ s₂ : Store} {table : TableSpec} {name : String} {handle : Nat} {call : StoreCall}

/-- The store after calls, each of which may have failed. -/
def after (s : Store) (calls : List StoreCall) : Store := calls.foldl StoreCall.act s

/-- Every rule of a store: table by table, chain by chain, in the order of the chains. -/
def storedRules (s : Store) : List StoredRule :=
  s.tables.toList.flatMap fun (table, chains) => chains.flatMap fun c =>
    c.rules.map fun (handle, mark) => ⟨table, c.name, handle, mark⟩

theorem reaches_act (s : Store) (call : StoreCall) : Reaches s (call.act s) := by
  cases call with
  | filter step => exact .single (.filter step s)
  | extra step => exact .single (.extra step s)

/-! ## What a call does to rules and handles -/

/-- What a call makes of the rules and of the handle given last. -/
inductive Changed (s s' : Store) : StoreCall → Prop
  | kept {call : StoreCall} (hrules : ∀ t n, s'.rulesOf t n = s.rulesOf t n)
      (hlast : s'.lastHandle = s.lastHandle) : Changed s s' call
  | wasted {table : TableSpec} {rule : Rule} (hrules : ∀ t n, s'.rulesOf t n = s.rulesOf t n)
      (hlast : s'.lastHandle = s.lastHandle + 1) :
      Changed s s' (.filter (.appendRule table rule))
  | appended {table : TableSpec} {rule : Rule}
      (hrules : ∀ t n, s'.rulesOf t n = if (t, n) = (table, rule.chain)
        then s.rulesOf t n ++ [(s.lastHandle + 1, rule.fingerprint)] else s.rulesOf t n)
      (hlast : s'.lastHandle = s.lastHandle + 1) :
      Changed s s' (.filter (.appendRule table rule))
  | deleted {table : TableSpec} {name : String} {handle : Nat}
      (hrules : ∀ t n, s'.rulesOf t n = if (t, n) = (table, name)
        then (s.rulesOf t n).eraseP (fun r => r.1 = handle) else s.rulesOf t n)
      (hlast : s'.lastHandle = s.lastHandle) :
      Changed s s' (.filter (.deleteRule table name handle))

theorem Changed.refl (s : Store) (call : StoreCall) : Changed s s call := .kept (fun _ _ => rfl) rfl

theorem changed_spend (op : StoreOp) : Changed s (s.spend op) call := .kept (fun _ _ => rfl) rfl

theorem changed_filter (step : Session.FilterStep) (s : Store) :
    Ends (step.run backend) s (fun _ s' => Changed s s' (.filter step))
      (fun _ s' => Changed s s' (.filter step)) := by
  cases step with
  | tables =>
    refine Ends.bind (ends_listTables (R := fun _ s' => Changed s s' _) ?_ ?_) fun _ _ h => ends_pure h
    · exact fun _ => changed_spend _
    · exact fun _ => .refl s _
  | chains table =>
    refine Ends.bind (ends_listChains (R := fun _ s' => Changed s s' _) ?_ ?_) fun _ _ h => ends_pure h
    · exact fun _ => changed_spend _
    · exact fun _ _ => .refl s _
  | createTable table =>
    refine ends_silent (ends_createTable (fun _ => changed_spend _) ?_)
    exact .kept rulesOf_insertIfNew rfl
  | createChain table request =>
    refine ends_silent (ends_createChain (fun _ => changed_spend _) ?_ ?_ ?_)
    · exact fun _ => .refl s _
    · exact fun _ => .refl s _
    · exact fun _ _ _ => .kept (rulesOf_withChain rfl) rfl
  | appendRule table rule =>
    refine ends_silent (ends_appendRule (fun _ => changed_spend _) ?_ ?_ ?_)
    · exact fun _ _ _ => .kept (fun _ _ => rfl) rfl
    · exact fun _ _ => .wasted (fun _ _ => rfl) rfl
    · exact fun _ _ hchain => .appended (fun t n => rulesOf_withRules _ t n hchain) rfl
  | listRules table chain =>
    refine Ends.bind (ends_listRules (R := fun _ s' => Changed s s' _) ?_ ?_ ?_) fun _ _ h => ends_pure h
    · exact fun _ => changed_spend _
    · exact fun _ _ => .refl s _
    · exact fun _ _ => .refl s _
  | deleteRule table chain handle =>
    refine ends_silent (ends_deleteRule (fun _ => changed_spend _) ?_ ?_)
    · exact fun _ _ => .refl s _
    · exact fun _ hchain _ => .deleted (fun t n => rulesOf_withRules _ t n hchain) rfl

theorem changed_act (s : Store) (call : StoreCall) : Changed s (call.act s) call := by
  cases call with
  | filter step => exact ends_state (changed_filter step s)
  | extra step => cases step <;> exact .kept (fun _ _ => rfl) rfl

/-- Whatever is in a chain after a call was there before, or is the rule that the call appended. -/
theorem Changed.origin (h : Changed s s' call) (t : TableSpec) (n : String) :
    ∀ r ∈ s'.rulesOf t n, r ∈ s.rulesOf t n ∨
      r.1 = s.lastHandle + 1 ∧ call.target? = some (t, n) := by
  intro r hr
  cases h with
  | kept hrules _ => exact Or.inl (hrules t n ▸ hr)
  | wasted hrules _ => exact Or.inl (hrules t n ▸ hr)
  | appended hrules _ =>
    rw [hrules] at hr
    split at hr
    · rename_i hplace
      rcases List.mem_append.1 hr with hold | hnew
      · exact Or.inl hold
      · obtain rfl := List.mem_singleton.1 hnew
        exact Or.inr ⟨rfl, congrArg some hplace.symm⟩
    · exact Or.inl hr
  | deleted hrules _ =>
    rw [hrules] at hr
    split at hr
    · exact Or.inl (List.mem_of_mem_eraseP hr)
    · exact Or.inl hr

theorem Changed.lastHandle_le (h : Changed s s' call) : s.lastHandle ≤ s'.lastHandle := by
  cases h with
  | kept _ hlast => exact Nat.le_of_eq hlast.symm
  | wasted _ hlast => omega
  | appended _ hlast => omega
  | deleted _ hlast => exact Nat.le_of_eq hlast.symm

/-- Only appends take handles, one each. -/
theorem Changed.le_lastHandle (h : Changed s s' call) :
    s'.lastHandle ≤ s.lastHandle + [call].countP StoreCall.isAppend := by
  cases h with
  | kept _ hlast => omega
  | wasted _ hlast => exact Nat.le_of_eq hlast
  | appended _ hlast => exact Nat.le_of_eq hlast
  | deleted _ hlast => omega

/-! ## Handles given and kept -/

/-- A later store: the handles that were given stay given, and a chain has none of their rules that it
did not have before. -/
structure Inherits (s s' : Store) : Prop where
  lastHandle : s.lastHandle ≤ s'.lastHandle
  rules : ∀ t n, ∀ r ∈ s'.rulesOf t n, r.1 ≤ s.lastHandle → r ∈ s.rulesOf t n

theorem Inherits.refl (s : Store) : Inherits s s := ⟨Nat.le_refl _, fun _ _ _ hr _ => hr⟩

theorem Inherits.trans (h : Inherits s s₁) (h' : Inherits s₁ s₂) : Inherits s s₂ := by
  refine ⟨Nat.le_trans h.lastHandle h'.lastHandle, fun t n r hr hgiven => ?_⟩
  exact h.rules t n r (h'.rules t n r hr (Nat.le_trans hgiven h.lastHandle)) hgiven

theorem Changed.inherits (h : Changed s s' call) : Inherits s s' := by
  refine ⟨h.lastHandle_le, fun t n r hr hgiven => ?_⟩
  rcases h.origin t n r hr with hold | ⟨hnew, -⟩
  · exact hold
  · omega

/-! ## Chains without a common handle -/

/-- A well-formed store in which no two chains have a handle in common. -/
structure Distinct (s : Store) : Prop extends WellFormed s where
  place : ∀ t n t' n', ∀ r ∈ s.rulesOf t n, ∀ r' ∈ s.rulesOf t' n', r.1 = r'.1 → (t, n) = (t', n')

theorem distinct_empty : Distinct empty := by
  refine ⟨wellFormed_empty, fun t n t' n' r hr => ?_⟩
  simp [rulesOf, empty] at hr

/-- What an append adds has a handle above all that were given, so it shares none with another chain. -/
theorem Distinct.act (h : s.Distinct) (call : StoreCall) : (call.act s).Distinct := by
  have horigin := (changed_act s call).origin
  refine ⟨(reaches_act s call).evolves.wellFormed h.toWellFormed, fun t n t' n' r hr r' hr' hsame => ?_⟩
  rcases horigin t n r hr with hold | ⟨hnew, htarget⟩
  · have hgiven := h.given hold
    rcases horigin t' n' r' hr' with hold' | ⟨hnew', -⟩
    · exact h.place t n t' n' r hold r' hold' hsame
    · omega
  · rcases horigin t' n' r' hr' with hold' | ⟨-, htarget'⟩
    · have hgiven := h.given hold'
      omega
    · exact Option.some.inj (htarget.symm.trans htarget')

/-! ## Runs -/

theorem after_cons (s : Store) (call : StoreCall) (rest : List StoreCall) :
    s.after (call :: rest) = (call.act s).after rest := rfl

theorem reaches_after (s : Store) (calls : List StoreCall) : Reaches s (s.after calls) := by
  induction calls generalizing s with
  | nil => exact .refl
  | cons call rest ih => exact (reaches_act s call).trans (ih (call.act s))

theorem inherits_after (s : Store) (calls : List StoreCall) : Inherits s (s.after calls) := by
  induction calls generalizing s with
  | nil => exact .refl s
  | cons call rest ih => exact (changed_act s call).inherits.trans (ih (call.act s))

theorem Distinct.after (h : s.Distinct) (calls : List StoreCall) : (s.after calls).Distinct := by
  induction calls generalizing s with
  | nil => exact h
  | cons call rest ih => exact ih (h.act call)

theorem lastHandle_after_le (s : Store) (calls : List StoreCall) :
    (s.after calls).lastHandle ≤ s.lastHandle + calls.countP StoreCall.isAppend := by
  induction calls generalizing s with
  | nil => exact Nat.le_refl _
  | cons call rest ih =>
    have hfirst := (changed_act s call).le_lastHandle
    have hrest := ih (call.act s)
    rw [after_cons, ← List.singleton_append, List.countP_append]
    omega

/-! ## The rules of a store -/

theorem mem_storedRules (h : s.WellFormed) {q : StoredRule} :
    q ∈ s.storedRules ↔ (q.handle, q.mark) ∈ s.rulesOf q.table q.chain := by
  unfold storedRules
  simp only [List.mem_flatMap, List.mem_map, Prod.exists]
  constructor
  · rintro ⟨table, chains, htable, c, hc, handle, mark, hr, rfl⟩
    rw [Std.ExtTreeMap.mem_toList_iff_getElem?_eq_some] at htable
    rwa [h.rulesOf_of_mem htable hc]
  · intro hr
    obtain ⟨chains, htable, c, hc, hname, hr⟩ := exists_chain_of_mem hr
    refine ⟨q.table, chains, Std.ExtTreeMap.mem_toList_iff_getElem?_eq_some.2 htable, c, hc,
      q.handle, q.mark, hr, ?_⟩
    rw [hname]

/-- The rules of a store, read off its layout and the rules of each chain. -/
theorem storedRules_eq (h : s.WellFormed) : s.storedRules = s.layout.toList.flatMap fun entry =>
    entry.2.flatMap fun c => (s.rulesOf entry.1 c.1).map fun r => ⟨entry.1, c.1, r.1, r.2⟩ := by
  unfold storedRules layout
  rw [Std.ExtTreeMap.toList_map, List.flatMap_map]
  refine List.flatMap_congr fun entry hentry => ?_
  have htable := Std.ExtTreeMap.mem_toList_iff_getElem?_eq_some.1 hentry
  dsimp only
  rw [List.flatMap_map]
  refine List.flatMap_congr fun c hc => ?_
  rw [h.rulesOf_of_mem htable hc]

/-- Chains of different tables or names have different handles. -/
theorem Distinct.ne_of_places (h : s.Distinct) {t t' : TableSpec} {chains chains' : List StoredChain}
    {c c' : StoredChain} (htable : s.tables[t]? = some chains) (htable' : s.tables[t']? = some chains')
    (hc : c ∈ chains) (hc' : c' ∈ chains') (hne : (t, c.name) ≠ (t', c'.name)) :
    ∀ r ∈ c.rules, ∀ r' ∈ c'.rules, r.1 ≠ r'.1 := by
  intro r hr r' hr' hsame
  rw [← h.rulesOf_of_mem htable hc] at hr
  rw [← h.rulesOf_of_mem htable' hc'] at hr'
  exact hne (h.place t c.name t' c'.name r hr r' hr' hsame)

/-- All rules of a store have different handles. -/
theorem Distinct.nodup_handles (h : s.Distinct) :
    (s.storedRules.map StoredRule.handle).Nodup := by
  unfold storedRules
  rw [List.Nodup, List.pairwise_map, List.pairwise_flatMap]
  refine ⟨fun entry hentry => ?_, ?_⟩
  · have htable := Std.ExtTreeMap.mem_toList_iff_getElem?_eq_some.1 hentry
    dsimp only
    rw [List.pairwise_flatMap]
    refine ⟨fun c hc => ?_, ?_⟩
    · have hrising := (h.rising entry.1 entry.2 htable c hc).rising
      rw [List.pairwise_map] at hrising ⊢
      exact hrising.imp Nat.ne_of_lt
    · -- Two chains of one table.
      have hnames := h.names entry.1 entry.2 htable
      rw [List.Nodup, List.pairwise_map] at hnames
      refine hnames.imp_of_mem fun {c c'} hc hc' hne => ?_
      simp only [List.mem_map]
      rintro _ ⟨r, hr, rfl⟩ _ ⟨r', hr', rfl⟩
      exact h.ne_of_places htable htable hc hc' (fun heq => hne (congrArg Prod.snd heq)) r hr r' hr'
  · -- Chains of two tables.
    refine Std.ExtTreeMap.distinct_keys_toList.imp_of_mem fun {entry entry'} hentry hentry' hne => ?_
    have htable := Std.ExtTreeMap.mem_toList_iff_getElem?_eq_some.1 hentry
    have htable' := Std.ExtTreeMap.mem_toList_iff_getElem?_eq_some.1 hentry'
    simp only [List.mem_flatMap, List.mem_map]
    rintro _ ⟨c, hc, r, hr, rfl⟩ _ ⟨c', hc', r', hr', rfl⟩
    refine h.ne_of_places htable htable' hc hc' (fun heq => hne ?_) r hr r' hr'
    rw [congrArg Prod.fst heq]
    exact Std.ReflOrd.compare_self

/-- A handle names one rule of the whole store. -/
theorem Distinct.filter_handle (h : s.Distinct) {q : StoredRule} (hq : q ∈ s.storedRules) :
    (s.storedRules.filter fun other => other.handle = q.handle) = [q] := by
  have hhandles := h.nodup_handles
  rw [← List.perm_singleton, List.perm_ext_iff_of_nodup (hhandles.of_map.filter _)
    (List.nodup_singleton q)]
  intro other
  rw [List.mem_filter, List.mem_singleton, decide_eq_true_eq]
  constructor
  · rintro ⟨hother, hsame⟩
    exact List.inj_on_of_nodup_map hhandles hother hq hsame
  · rintro rfl
    exact ⟨hq, rfl⟩

/-- What has a handle that was given before some calls was there before them. -/
theorem stored_before (h : s.WellFormed) {calls : List StoreCall} {q : StoredRule}
    (hq : q ∈ (s.after calls).storedRules) (hgiven : q.handle ≤ s.lastHandle) : q ∈ s.storedRules := by
  have hlater : (s.after calls).WellFormed := (reaches_after s calls).evolves.wellFormed h
  rw [mem_storedRules hlater] at hq
  rw [mem_storedRules h]
  exact (inherits_after s calls).rules _ _ _ hq hgiven

/-! ## Listing and deleting -/

theorem ends_listRules_stored (h : s.WellFormed) :
    Ends (listRules table name) s
      (fun installed s₁ => s₁ = s ∧ (installed.map InstalledRule.handle).Pairwise (· < ·) ∧
        ∀ r ∈ installed, ∃ mark, r.comment = some mark ∧
          ⟨table, name, r.handle, mark⟩ ∈ s.storedRules)
      (fun _ s₁ => s₁.tables = s.tables ∧ (.rules ∈ s.pending ∨ s.chain? table name = none)) := by
  refine ends_listRules ?_ ?_ ?_
  · exact fun hpending => ⟨rfl, Or.inl hpending⟩
  · exact fun _ hmissing => ⟨rfl, Or.inr hmissing⟩
  · refine fun _ _ => ⟨rfl, ?_, fun r hr => ?_⟩
    · rw [List.map_map]
      exact h.pairwise table name
    · obtain ⟨⟨handle, mark⟩, hmem, rfl⟩ := List.mem_map.1 hr
      exact ⟨mark, rfl, (mem_storedRules h).2 hmem⟩

/-- The store after a rule was deleted: it is gone, and nothing else has changed. -/
structure Deleted (q : StoredRule) (s s' : Store) : Prop where
  mem : q ∈ s.storedRules
  rules : s'.storedRules = s.storedRules.erase q
  layout : s'.layout = s.layout
  others : s' = { s with tables := s'.tables }
  evolves : Evolves s s'

/-- Deleting the first rule with a handle from one chain takes the handle out of the whole store. -/
theorem Distinct.rulesOf_eraseP (h : s.Distinct) {r : Nat × String} (hr : r ∈ s.rulesOf table name)
    (t : TableSpec) (n : String) :
    (s.withRules table name (·.eraseP fun x => x.1 = r.1)).rulesOf t n =
      (s.rulesOf t n).filter fun x => !decide (x.1 = r.1) := by
  obtain ⟨chains, htable, c, hc, hname, -⟩ := exists_chain_of_mem hr
  have hchain : (s.chain? table name).isSome := by
    rw [chain?, htable, Option.bind_some, List.find?_isSome]
    exact ⟨c, hc, by simpa using hname⟩
  rw [rulesOf_withRules _ t n hchain]
  by_cases hplace : (t, n) = (table, name)
  · rw [if_pos hplace, filter_eq_eraseP (h.nodup t n)]
  · rw [if_neg hplace, eq_comm, List.filter_eq_self]
    intro x hx
    have hne : x.1 ≠ r.1 := fun hsame => hplace (h.place t n table name x hx r hr hsame)
    simpa using hne

theorem Distinct.deleted (h : s.Distinct) {mark : String}
    (hr : (handle, mark) ∈ s.rulesOf table name) :
    Deleted ⟨table, name, handle, mark⟩ s
      (s.withRules table name (·.eraseP fun x => x.1 = handle)) := by
  have hmem : (⟨table, name, handle, mark⟩ : StoredRule) ∈ s.storedRules :=
    (mem_storedRules h.toWellFormed).2 hr
  have hevolves : Evolves s (s.withRules table name (·.eraseP fun x => x.1 = handle)) :=
    evolves_withRules rfl (Nat.le_refl _) fun c hc => hc.eraseP _
  have hhandles := h.nodup_handles
  refine ⟨hmem, ?_, layout_withRules _, rfl, hevolves⟩
  calc (s.withRules table name (·.eraseP fun x => x.1 = handle)).storedRules
      = s.layout.toList.flatMap fun entry => entry.2.flatMap fun c =>
          ((s.rulesOf entry.1 c.1).filter fun x => !decide (x.1 = handle)).map
            fun r => ⟨entry.1, c.1, r.1, r.2⟩ := by
        rw [storedRules_eq (hevolves.wellFormed h.toWellFormed), layout_withRules]
        simp only [h.rulesOf_eraseP hr]
    _ = s.storedRules.filter fun q => !decide (q.handle = handle) := by
        rw [storedRules_eq h.toWellFormed]
        simp only [List.filter_flatMap, List.filter_map, Function.comp_def]
    _ = s.storedRules.erase ⟨table, name, handle, mark⟩ := by
        rw [hhandles.of_map.erase_eq_filter]
        refine List.filter_congr fun q hq => ?_
        have hsame : q.handle = handle ↔ q = ⟨table, name, handle, mark⟩ :=
          ⟨fun heq => List.inj_on_of_nodup_map hhandles hq hmem heq, fun heq => heq ▸ rfl⟩
        rw [decide_eq_decide.2 hsame, bne, beq_eq_decide]

theorem ends_deleteRule_stored (h : s.Distinct) :
    Ends (deleteRule table name handle) s
      (fun _ s₁ => ∃ mark, Deleted ⟨table, name, handle, mark⟩ s s₁)
      (fun _ s₁ => s₁.tables = s.tables ∧ s₁.lastHandle = s.lastHandle ∧
        (.deleteRule ∈ s.pending ∨ ∀ mark, ⟨table, name, handle, mark⟩ ∉ s.storedRules)) := by
  refine ends_deleteRule ?_ ?_ ?_
  · exact fun hpending => ⟨rfl, rfl, Or.inl hpending⟩
  · refine fun _ hmissing => ⟨rfl, rfl, Or.inr fun mark hmem => hmissing mark ?_⟩
    exact (mem_storedRules h.toWellFormed).1 hmem
  · rintro - - ⟨mark, hmem⟩
    exact ⟨mark, h.deleted hmem⟩

/-- A deleted handle is found nowhere, and never will be. -/
theorem Deleted.gone {q : StoredRule} (hdeleted : Deleted q s s₁) (h : s.Distinct)
    (later : List StoreCall) : ∀ other ∈ (s₁.after later).storedRules, other.handle ≠ q.handle := by
  intro other hother hsame
  have hhandles := h.nodup_handles
  have hlast : s₁.lastHandle = s.lastHandle := by rw [hdeleted.others]
  have hgiven : q.handle ≤ s.lastHandle := h.given ((mem_storedRules h.toWellFormed).1 hdeleted.mem)
  have hstored : other ∈ s₁.storedRules :=
    stored_before (hdeleted.evolves.wellFormed h.toWellFormed) hother (by rwa [hsame, hlast])
  rw [hdeleted.rules, hhandles.of_map.mem_erase_iff] at hstored
  exact hstored.1 (List.inj_on_of_nodup_map hhandles hstored.2 hdeleted.mem hsame)

/-- Whatever calls are made of an empty store, with failures injected anywhere in between: the chains of
a table have different names and list their rules by rising handles, no two rules of the store have one
handle, and no handle is above the one given last. That one is at most the number of appends, so fewer
than `2 ^ 64` of them give handles of 64 bits. So a handle that is listed names one rule, and later names
that rule or none; deleting it takes away this rule and nothing else, and after that no rule has the
handle again. A deletion fails only where a failure was injected or the chain has no such handle, and
then changes no rule. -/
theorem handles_identify_rules (calls : List StoreCall) :
    let s := empty.after calls
    (∀ (table : TableSpec) (chains : List StoredChain), s.tables[table]? = some chains →
        (chains.map StoredChain.name).Nodup ∧
          ∀ c ∈ chains, (c.rules.map Prod.fst).Pairwise (· < ·)) ∧
      (s.storedRules.map StoredRule.handle).Nodup ∧
      (∀ q ∈ s.storedRules, q.handle ≤ s.lastHandle) ∧
      s.lastHandle ≤ calls.countP StoreCall.isAppend ∧
      (∀ table name, Ends (listRules table name) s
        (fun installed s₁ => s₁ = s ∧ (installed.map InstalledRule.handle).Pairwise (· < ·) ∧
          ∀ r ∈ installed, ∃ mark, r.comment = some mark ∧
            (s.storedRules.filter fun q => q.handle = r.handle) = [⟨table, name, r.handle, mark⟩] ∧
            ∀ later, ∀ q ∈ (s.after later).storedRules, q.handle = r.handle →
              q = ⟨table, name, r.handle, mark⟩)
        fun _ s₁ => s₁.tables = s.tables ∧ (.rules ∈ s.pending ∨ s.chain? table name = none)) ∧
      ∀ table name handle, Ends (deleteRule table name handle) s
        (fun _ s₁ => ∃ mark, Deleted ⟨table, name, handle, mark⟩ s s₁ ∧
          ∀ later, ∀ q ∈ (s₁.after later).storedRules, q.handle ≠ handle)
        fun _ s₁ => s₁.tables = s.tables ∧ s₁.lastHandle = s.lastHandle ∧
          (.deleteRule ∈ s.pending ∨ ∀ mark, ⟨table, name, handle, mark⟩ ∉ s.storedRules) := by
  intro s
  have h : s.Distinct := distinct_empty.after calls
  have hgiven : ∀ q ∈ s.storedRules, q.handle ≤ s.lastHandle :=
    fun q hq => h.given ((mem_storedRules h.toWellFormed).1 hq)
  refine ⟨fun table chains htable => ?_, h.nodup_handles, hgiven, ?_, fun table name => ?_,
    fun table name handle => ?_⟩
  · exact ⟨h.names table chains htable, fun c hc => (h.rising table chains htable c hc).rising⟩
  · have hcount := lastHandle_after_le empty calls
    rwa [show empty.lastHandle = 0 from rfl, Nat.zero_add] at hcount
  · refine (ends_listRules_stored h.toWellFormed).mono
      (fun installed s₁ ⟨hsame, hrising, hlisted⟩ => ⟨hsame, hrising, fun r hr => ?_⟩)
      fun _ _ hfailed => hfailed
    obtain ⟨mark, hcomment, hmem⟩ := hlisted r hr
    refine ⟨mark, hcomment, h.filter_handle hmem, fun later q hq heq => ?_⟩
    have hbefore := stored_before h.toWellFormed hq (heq ▸ hgiven _ hmem)
    exact List.inj_on_of_nodup_map h.nodup_handles hbefore hmem heq
  · refine (ends_deleteRule_stored h).mono (fun _ s₁ ⟨mark, hdeleted⟩ => ?_) fun _ _ hfailed => hfailed
    exact ⟨mark, hdeleted, hdeleted.gone h⟩

/-- Tables and chains made twice, one rule in two chains and twice in one of them, and appends that fail:
one to a chain that is not there, which takes a handle, and two by injected failures, which take none. -/
def busyCalls : List StoreCall :=
  [.filter (.createTable standardFilter.spec), .filter (.createTable standardNat.spec),
    .filter (.createChain standardFilter.spec (.regular forwardChain filterTable)),
    .filter (.createChain standardNat.spec (.regular postroutingChain natTable)),
    .filter (.appendRule standardNat.spec (.masquerade postroutingChain natTable "eth0")),
    .filter (.appendRule standardFilter.spec (.masquerade inputChain filterTable "eth0")),
    .filter (.appendRule standardFilter.spec (.masquerade forwardChain filterTable "eth0")),
    .extra (.fail .appendRule),
    .filter (.appendRule standardNat.spec (.masquerade postroutingChain natTable "eth0")),
    .extra (.failAppend 1),
    .filter (.appendRule standardNat.spec (.masquerade postroutingChain natTable "eth0")),
    .filter (.createTable standardFilter.spec),
    .filter (.createChain standardFilter.spec (.regular forwardChain filterTable)),
    .filter (.appendRule standardFilter.spec (.masquerade forwardChain filterTable "eth0"))]

/-- Of two copies of one rule the listed handle tells which is deleted, and it is gone for good. -/
theorem handles_identify_rules_demo :
    let s := empty.after busyCalls
    let mark := (Rule.masquerade forwardChain filterTable "eth0").fingerprint
    s.storedRules = [⟨standardFilter.spec, forwardChain, 3, mark⟩,
        ⟨standardFilter.spec, forwardChain, 4, mark⟩, ⟨standardNat.spec, postroutingChain, 1, mark⟩] ∧
      s.lastHandle = 4 ∧
      (∃ installed, (listRules standardFilter.spec forwardChain).on s = (.ok installed, s) ∧
        installed = [⟨3, some mark⟩, ⟨4, some mark⟩] ∧
        ∀ later, ∀ q ∈ (s.after later).storedRules, q.handle = 4 →
          q = ⟨standardFilter.spec, forwardChain, 4, mark⟩) ∧
      ∃ s₁, (deleteRule standardFilter.spec forwardChain 4).on s = (.ok (), s₁) ∧
        s₁.storedRules = [⟨standardFilter.spec, forwardChain, 3, mark⟩,
          ⟨standardNat.spec, postroutingChain, 1, mark⟩] ∧
        ∀ later, ∀ q ∈ (s₁.after later).storedRules, q.handle ≠ 4 := by
  intro s mark
  obtain ⟨-, -, -, -, hlisting, hdeletion⟩ := handles_identify_rules busyCalls
  have hstored : s.storedRules = [⟨standardFilter.spec, forwardChain, 3, mark⟩,
      ⟨standardFilter.spec, forwardChain, 4, mark⟩, ⟨standardNat.spec, postroutingChain, 1, mark⟩] := by
    decide +kernel
  have hlast : s.lastHandle = 4 := by decide +kernel
  have hlist : ((listRules standardFilter.spec forwardChain).on s).1.toOption =
      some [⟨3, some mark⟩, ⟨4, some mark⟩] := by decide +kernel
  have hdelete : ((deleteRule standardFilter.spec forwardChain 4).on s).1.isOk = true := by
    decide +kernel
  have hs : empty.after busyCalls = s := rfl
  -- From here on the store is known only by what was read of it.
  clear_value s mark
  rw [hs] at hlisting hdeletion
  refine ⟨hstored, hlast, ?_, ?_⟩
  · rcases hon : (listRules standardFilter.spec forwardChain).on s with ⟨failure | installed, s₁⟩
    · rw [hon] at hlist
      cases hlist
    · rw [hon] at hlist
      obtain rfl := Option.some.inj hlist
      obtain ⟨rfl, -, hnamed⟩ := (hlisting _ _).of_ok hon
      obtain ⟨_, hcomment, -, hlater⟩ := hnamed ⟨4, some mark⟩ (by simp)
      obtain rfl := Option.some.inj hcomment
      exact ⟨_, rfl, rfl, hlater⟩
  · obtain ⟨_, s₁, hon⟩ := on_eq_ok _ s hdelete
    obtain ⟨_, hdeleted, hgone⟩ := (hdeletion _ _ _).of_ok hon
    have hmem := hdeleted.mem
    rw [hstored] at hmem
    obtain rfl : _ = mark := by simpa using hmem
    refine ⟨s₁, hon, ?_, hgone⟩
    rw [hdeleted.rules, hstored]
    simp

end Store

end WorkloadNet.Firewall
