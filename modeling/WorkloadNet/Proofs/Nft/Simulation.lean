import WorkloadNet.Proofs.Action.Alike
import WorkloadNet.Proofs.Firewall.Standard
import WorkloadNet.Proofs.Nft.Mirrors

/-!
# The engine over a tool and over a store

What the engine does with a tool that keeps what it is given, it does with a store: each operation
of the packet filter ends alike on a listing and the store that it mirrors, and so does everything
that the engine makes of them. Two things have to be known about the store. A rule is appended to
or looked for in a chain that exists, because a store fails at a missing chain where a tool lists
no rules. And a new table comes last in the order of tables, because a store sorts its tables where
a tool lists them in the order of addition.

The exception is a rule with a handle that is too great to be named in a command: the engine can
list it over a tool, but not delete it.
-/

namespace WorkloadNet.Nft

open WorkloadNet.Action Firewall

variable {τ α β : Type} {tool : Tool τ} {shown : τ → List Listed} {R : τ → Store → Prop}
variable {beyond : τ → Prop} {t : τ}
variable {s : Store} {spec : TableSpec} {rule : Rule}

/-- Every rule is listed with a handle that a command can name. -/
def Nameable (objects : List Listed) : Prop :=
  ∀ spec name handle comment, .ofRule spec name handle comment ∈ objects → handle ≤ maxHandle

/-- A state of a tool and a store that hold the same. -/
abbrev Mirrored (shown : τ → List Listed) (t : τ) (s : Store) : Prop := Mirrors (shown t) s

/-- A state of a tool with a handle that is too great. -/
abbrev Overflown (shown : τ → List Listed) (t : τ) : Prop := ¬ Nameable (shown t)

theorem Mirrors.calm {objects : List Listed} (h : Mirrors objects s) (op : StoreOp) :
    op ∉ s.pending := by
  rw [h.quiet.pending]
  exact List.not_mem_nil

/-! ## Operations of the packet filter -/

/-- A question to a listing and one to the store that it mirrors. -/
theorem alike_read {f : List Listed → α} {b : Action Store β} {y : β} (hkeeps : tool.Keeps shown)
    (hb : Ends b s (fun z s' => z = y ∧ s = s') fun _ _ => False) :
    Alike R beyond (do return f (← tool.ruleset)) b t s
      (fun x z t' s' => x = f (shown t) ∧ z = y ∧ shown t' = shown t ∧ s = s') := by
  exact alike_of_ends (ends_question hkeeps.list f t) hb
    fun _ _ _ _ hx hz => ⟨hx.1, hz.1, hx.2, hz.2⟩

/-- A command that the tool carries out, and the same change of the store. -/
theorem alike_apply {operation : String} {command : Command} {b : Action Store Unit} {t' : τ}
    {P : Store → Prop} (hon : (tool.apply command).run t = (.ok (), t'))
    (hb : Ends b s (fun _ s' => P s') fun _ _ => False) :
    Alike (Mirrored shown) beyond (Tool.call operation (tool.apply command)) b t s
      (fun _ _ u s' => u = t' ∧ P s') := by
  refine alike_of_ends (P := fun _ u => u = t') (Ends.of_on (on_call hon) ?_ ?_) hb ?_
  · exact fun _ _ => rfl
  · rintro _ ⟨⟩
  · exact fun _ _ _ _ hu hP => ⟨hu, hP⟩

section Kept

variable (hkeeps : tool.Keeps shown)
include hkeeps

theorem alike_tables (h : Mirrors (shown t) s) :
    Alike R beyond tool.backend.tables Store.backend.tables t s
      (fun x y t' s' => x = s.tables.keys ∧ y = x ∧ Mirrors (shown t') s ∧ s = s') := by
  refine Alike.mono (alike_read hkeeps (Store.ends_listTables
    (fun hpending => absurd hpending (h.calm _)) fun _ => ⟨rfl, rfl⟩)) ?_
  rintro _ _ t' _ ⟨rfl, rfl, hshown, rfl⟩
  rw [hshown]
  exact ⟨h.tables_eq, h.tables_eq.symm, h, rfl⟩

theorem alike_chains (h : Mirrors (shown t) s) (spec : TableSpec) :
    Alike (Mirrored shown) beyond (tool.backend.chains spec) (Store.backend.chains spec) t s
      (fun x y t' s' => x = y ∧ (∀ n, n ∈ y ↔ (s.chain? spec n).isSome) ∧ Mirrors (shown t') s ∧
        s = s') := by
  refine Alike.mono (alike_read (y := (s.tables[spec]?.getD []).map StoredChain.name) hkeeps
    (Store.ends_guarded (fun hpending => absurd hpending (h.calm _)) fun _ => ⟨rfl, rfl⟩)) ?_
  rintro _ _ t' _ ⟨rfl, rfl, hshown, rfl⟩
  rw [hshown]
  refine ⟨h.chains spec, fun n => ?_, h, rfl⟩
  unfold Store.chain?
  cases s.tables[spec]? <;> simp

theorem alike_createTable (h : Mirrors (shown t) s) (hnew : spec ∉ s.tables)
    (hlast : ∀ other ∈ s.tables, compare other spec = .lt) :
    Alike (Mirrored shown) beyond (tool.backend.createTable spec)
      (Store.backend.createTable spec) t s (fun _ _ t' s' => Mirrors (shown t') s') := by
  obtain ⟨t', hon, hshown⟩ := hkeeps.addTable t spec (mt h.mem_tables_iff.1 hnew)
  refine Alike.mono (alike_apply hon (Store.ends_createTable
    (fun hpending => absurd hpending (h.calm _)) (h.addTable hnew hlast))) ?_
  rintro _ _ _ s' ⟨rfl, hmirrors⟩
  rwa [hshown]

theorem alike_createChain {request : ChainRequest} (h : Mirrors (shown t) s)
    (hmem : spec ∈ s.tables) (hnew : ¬ (s.chain? spec request.name).isSome) :
    Alike (Mirrored shown) beyond (tool.backend.createChain spec request)
      (Store.backend.createChain spec request) t s (fun _ _ t' s' => Mirrors (shown t') s') := by
  obtain ⟨t', hon, hshown⟩ := hkeeps.addChain t spec request (h.mem_tables_iff.2 hmem)
    (mt h.mem_chains_iff.1 hnew)
  have hb : Ends (Store.backend.createChain spec request) s
      (fun _ s' => Mirrors (shown t ++ [.ofChain spec request.name]) s') fun _ _ => False := by
    refine Store.ends_createChain (fun hpending => absurd hpending (h.calm _)) ?_ ?_ ?_
    · intro hmissing
      exact absurd (Std.ExtTreeMap.mem_iff_isSome_getElem?.1 hmem) (by simp [hmissing])
    · exact fun hthere => absurd hthere hnew
    · intro chains htable hnames
      exact h.addChain ⟨request.name, request.base.isSome, []⟩ htable hnames rfl
  refine Alike.mono (alike_apply hon hb) ?_
  rintro _ _ _ s' ⟨rfl, hmirrors⟩
  rwa [hshown]

theorem alike_appendRule (h : Mirrors (shown t) s) (hhome : s.home rule.table = some spec)
    (hchain : (s.chain? spec rule.chain).isSome) :
    Alike (Mirrored shown) beyond (tool.backend.appendRule spec rule)
      (Store.backend.appendRule spec rule) t s
      (fun _ _ t' s' => Mirrors (shown t') s' ∧ s'.layout = s.layout) := by
  obtain ⟨t', handle, hon, hfresh, hshown⟩ := hkeeps.addRule t spec rule (h.mem_chains_iff.2 hchain)
  have hb : Ends (Store.backend.appendRule spec rule) s (fun _ s' => Store.Added rule s s')
      fun _ _ => False :=
    Ends.mono (Store.ends_appendHome hhome) (fun _ _ h => h)
      fun _ _ hfailed => hfailed.2 ⟨h.quiet, spec, hhome, hchain⟩
  refine Alike.mono (alike_apply hon hb) ?_
  rintro _ _ _ s' ⟨rfl, hadded⟩
  rw [hshown]
  exact ⟨h.addRule hhome hadded hfresh, hadded.layout⟩

/-- The first listed rule with a fingerprint and the first stored one. -/
theorem alike_findInstalled (h : Mirrors (shown t) s)
    (hchain : (s.chain? spec rule.chain).isSome) :
    Alike (Mirrored shown) beyond (tool.backend.findInstalled spec rule)
      (Store.backend.findInstalled spec rule) t s
      (fun x y t' s' => Mirrors (shown t') s ∧ s = s' ∧
        x = (((shown t').filterMap (Listed.ruleOf? spec rule.chain)).find?
          fun r => r.comment = some rule.fingerprint).map InstalledRule.handle ∧
        y = ((s.rulesOf spec rule.chain).find? fun r => r.2 = rule.fingerprint).map Prod.fst) := by
  refine Alike.bind (alike_read hkeeps (Store.ends_listRules
    (fun hpending => absurd hpending (h.calm _)) ?_ fun _ _ => ⟨rfl, rfl⟩)) ?_
  · intro _ hmissing
    rw [hmissing] at hchain
    cases hchain
  · rintro _ _ t' _ ⟨rfl, rfl, hshown, rfl⟩
    rw [← hshown] at h ⊢
    refine alike_pure ⟨h, rfl, rfl, ?_⟩
    simp only [List.find?_map, Option.map_map, Function.comp_def, Option.some.injEq]

/-! ## Tables and chains -/

theorem alike_findTable (h : Mirrors (shown t) s) (name : String)
    (hR : ∀ t', Mirrors (shown t') s → R t' s) :
    Alike R beyond (tool.backend.findTable name) (Store.backend.findTable name) t s
      (fun x y t' s' => x = y ∧ s.home name = some y ∧ Mirrors (shown t') s ∧ s = s') := by
  refine Alike.bind (alike_tables hkeeps h) ?_
  rintro _ _ t' _ ⟨rfl, rfl, h', rfl⟩
  cases htable : resolveTable name s.tables.keys with
  | none => exact alike_fail (hR t' h')
  | some table => exact alike_pure ⟨rfl, htable, h', rfl⟩

theorem alike_newChain (h : Mirrors (shown t) s) (request : ChainRequest) :
    Alike (Mirrored shown) beyond (tool.backend.newChain request)
      (Store.backend.newChain request) t s (fun x y t' s' => x = y ∧ Mirrors (shown t') s') := by
  unfold Backend.newChain
  dsimp only
  by_cases hunnamed : request.name = "" ∨ request.table = ""
  · rw [if_pos hunnamed, if_pos hunnamed]
    exact Alike.bind (Q := fun _ _ _ _ => False) (alike_fail h) fun _ _ _ _ hfalse => hfalse.elim
  rw [if_neg hunnamed, if_neg hunnamed]
  refine Alike.bind (alike_findTable hkeeps h request.table fun _ h => h) ?_
  rintro table _ t₁ _ ⟨rfl, hhome, h₁, rfl⟩
  refine Alike.bind (alike_chains hkeeps h₁ table) ?_
  rintro names _ t₂ _ ⟨rfl, hnames, h₂, rfl⟩
  by_cases hthere : request.name ∈ names
  · rw [if_pos hthere, if_pos hthere]
    exact alike_pure ⟨rfl, h₂⟩
  rw [if_neg hthere, if_neg hthere]
  by_cases hcreate : ¬ request.create
  · rw [if_pos hcreate, if_pos hcreate]
    exact Alike.bind (Q := fun _ _ _ _ => False) (alike_fail h₂) fun _ _ _ _ hfalse => hfalse.elim
  rw [if_neg hcreate, if_neg hcreate]
  refine Alike.bind (alike_createChain hkeeps h₂ (Store.mem_of_home hhome)
    (mt (hnames _).2 hthere)) ?_
  exact fun _ _ _ _ h₃ => alike_pure ⟨rfl, h₃⟩

theorem alike_newChains (h : Mirrors (shown t) s) (requests : List ChainRequest) :
    Alike (Mirrored shown) beyond (tool.backend.newChains requests)
      (Store.backend.newChains requests) t s (fun _ _ t' s' => Mirrors (shown t') s') := by
  induction requests generalizing t s with
  | nil => exact alike_pure h
  | cons request rest ih =>
    exact Alike.bind (alike_newChain hkeeps h request) fun _ _ _ _ hnext => ih hnext.2

/-- A table is ensured that is there, or that comes last in the order of tables. -/
theorem alike_ensureTable {request : TableRequest} (h : Mirrors (shown t) s)
    (hlast : request.spec ∉ s.tables → ∀ other ∈ s.tables, compare other request.spec = .lt) :
    Alike (Mirrored shown) beyond (tool.backend.ensureTable request)
      (Store.backend.ensureTable request) t s (fun _ _ t' s' => Mirrors (shown t') s') := by
  refine Alike.bind (alike_tables hkeeps h) ?_
  rintro _ _ t₁ _ ⟨rfl, rfl, h₁, rfl⟩
  by_cases hnew : request.spec ∉ s.tables.keys
  · dsimp only
    rw [if_pos hnew, if_pos hnew]
    have hnew : request.spec ∉ s.tables := mt Std.ExtTreeMap.mem_keys.2 hnew
    refine Alike.bind (alike_createTable hkeeps h₁ hnew (hlast hnew)) ?_
    exact fun _ _ _ _ h₂ => alike_newChains hkeeps h₂ request.chains
  · dsimp only
    rw [if_neg hnew, if_neg hnew]
    exact alike_newChains hkeeps h₁ request.chains

/-- A jump is looked for and appended in a chain that was ensured before. -/
theorem alike_addJumpRule (h : Mirrors (shown t) s) (source target table : String) :
    Alike (Mirrored shown) beyond (tool.backend.addJumpRule source target table)
      (Store.backend.addJumpRule source target table) t s
      (fun _ _ t' s' => Mirrors (shown t') s') := by
  refine Alike.bind ((alike_newChain hkeeps h (.existing source table)).and_ends
    Store.ends_newChain) ?_
  rintro spec _ t₁ s₁ ⟨⟨rfl, h₁⟩, hhome, hensured₁⟩
  refine Alike.bind ((alike_newChain hkeeps h₁ (.regular target table)).and_ends
    Store.ends_newChain) ?_
  rintro _ _ t₂ s₂ ⟨⟨_, h₂⟩, _, hensured₂⟩
  have hchain : (s₂.chain? spec (Rule.jump source target table).chain).isSome :=
    hensured₂.evolves.chains _ _ hensured₁.chain
  have hhome₂ : s₂.home table = some spec := by
    rw [hensured₂.home, hensured₁.home]
    exact hhome
  refine Alike.bind (alike_findInstalled hkeeps h₂ hchain) ?_
  rintro _ _ t₃ _ ⟨h₃, rfl, rfl, rfl⟩
  simp only [← Option.not_isSome, Option.isSome_map, h₃.isSome_find?]
  split
  · exact Alike.mono (alike_appendRule hkeeps h₃ hhome₂ hchain) fun _ _ _ _ h => h.1
  · exact alike_pure h₃

/-! ## Rules -/

theorem alike_addRule (h : Mirrors (shown t) s) (hfindable : s.Findable rule) :
    Alike (Mirrored shown) beyond (tool.backend.addRule rule) (Store.backend.addRule rule) t s
      (fun _ _ t' s' => Mirrors (shown t') s' ∧ s'.layout = s.layout) := by
  refine Alike.bind (alike_findTable hkeeps h rule.table fun _ h => h) ?_
  rintro table _ t₁ _ ⟨rfl, hhome, h₁, rfl⟩
  exact Alike.annotate (alike_appendRule hkeeps h₁ hhome (hfindable table hhome))

theorem alike_addAll (rules : List Rule) (h : Mirrors (shown t) s)
    (hfindable : ∀ rule ∈ rules, s.Findable rule) :
    Alike (Mirrored shown) beyond (tool.backend.addAll rules) (Store.backend.addAll rules) t s
      (fun _ _ t' s' => Mirrors (shown t') s') := by
  induction rules generalizing t s with
  | nil => exact alike_pure h
  | cons rule rest ih =>
    refine Alike.bind (alike_addRule hkeeps h (hfindable rule List.mem_cons_self)) ?_
    rintro _ _ t₁ s₁ ⟨h₁, hlayout⟩
    refine ih h₁ fun later hlater => ?_
    exact (Store.findable_of_layout hlayout).2 (hfindable later (List.mem_cons_of_mem _ hlater))

/-- The first rule with a fingerprint has one handle in the listing and another in the store. -/
theorem alike_deleteRule (h : Mirrors (shown t) s) (hhome : s.home rule.table = some spec)
    {listed : InstalledRule} {stored : Nat × String}
    (hlisted : ((shown t).filterMap (Listed.ruleOf? spec rule.chain)).find?
      (fun r => r.comment = some rule.fingerprint) = some listed)
    (hstored : (s.rulesOf spec rule.chain).find? (fun r => r.2 = rule.fingerprint) = some stored) :
    Alike (Mirrored shown) (Overflown shown) (tool.backend.deleteRule spec rule.chain listed.handle)
      (Store.backend.deleteRule spec rule.chain stored.1) t s
      (fun _ _ t' s' => Mirrors (shown t') s' ∧ s'.layout = s.layout) := by
  obtain ⟨object, hobject, hr⟩ := List.mem_filterMap.1 (List.mem_of_find?_eq_some hlisted)
  obtain rfl := Listed.ruleOf?_eq_some_iff.1 hr
  change Alike _ _ (tool.deleteRule spec rule.chain listed.handle) _ t s _
  unfold Tool.deleteRule
  dsimp only
  by_cases hover : maxHandle < listed.handle
  · rw [if_pos hover]
    exact Or.inl fun hnameable => Nat.not_le_of_lt hover (hnameable _ _ _ _ hobject)
  · rw [if_neg hover]
    obtain ⟨t', hon, hshown⟩ := hkeeps.deleteRule t spec rule.chain _ _ hobject
    have hb := Store.ends_deleteHome h.wellFormed (h.calm _) (h.calm _) hhome hstored
    refine Alike.mono (alike_apply hon (Ends.mono hb (fun _ _ h => h) ?_)) ?_
    · exact fun _ _ hfailed => h.calm _ hfailed.2
    · rintro _ _ _ s' ⟨rfl, hwithdrawn⟩
      rw [hshown]
      exact ⟨h.deleteRule hhome hwithdrawn.removed hlisted, hwithdrawn.layout⟩

/-- Both delete the first rule with the fingerprint, each by the handle that it gave it. -/
theorem alike_removeFrom (h : Mirrors (shown t) s) (hhome : s.home rule.table = some spec)
    (hchain : (s.chain? spec rule.chain).isSome) :
    Alike (Mirrored shown) (Overflown shown) (tool.backend.removeFrom spec rule)
      (Store.backend.removeFrom spec rule) t s
      (fun _ _ t' s' => Mirrors (shown t') s' ∧ s'.layout = s.layout) := by
  refine Alike.bind (alike_findInstalled hkeeps h hchain) ?_
  rintro _ _ t₁ _ ⟨h₁, rfl, rfl, rfl⟩
  have hboth := h₁.isSome_find? spec rule.chain rule.fingerprint
  cases hlisted : ((shown t₁).filterMap (Listed.ruleOf? spec rule.chain)).find?
      fun r => r.comment = some rule.fingerprint with
  | none =>
    rw [hlisted] at hboth
    have hnone := Option.not_isSome_iff_eq_none.1 (Bool.eq_false_iff.1 hboth.symm)
    rw [hnone]
    exact alike_pure ⟨h₁, rfl⟩
  | some r =>
    rw [hlisted] at hboth
    obtain ⟨stored, hstored⟩ := Option.isSome_iff_exists.1 hboth.symm
    rw [hstored]
    exact Alike.annotate (alike_deleteRule hkeeps h₁ hhome hlisted hstored)

theorem alike_removeRule (h : Mirrors (shown t) s) (hfindable : s.Findable rule) :
    Alike (Mirrored shown) (Overflown shown) (tool.backend.removeRule rule)
      (Store.backend.removeRule rule) t s
      (fun _ _ t' s' => Mirrors (shown t') s' ∧ s'.layout = s.layout) := by
  refine Alike.bind (Alike.attempt (P := fun x y t' s' => x = y ∧ Mirrors (shown t') s ∧ s = s' ∧
    ∀ table, y = .ok table → s.home rule.table = some table)
    (R := fun t' s' => Mirrors (shown t') s ∧ s = s')
    (Alike.mono (alike_findTable hkeeps h rule.table fun _ h => ⟨h, rfl⟩) ?_) ?_) ?_
  · rintro table _ t' _ ⟨rfl, hhome, h', rfl⟩
    refine ⟨rfl, h', rfl, ?_⟩
    rintro _ ⟨⟩
    exact hhome
  · rintro failure t' _ ⟨h', rfl⟩
    refine ⟨rfl, h', rfl, ?_⟩
    rintro _ ⟨⟩
  · rintro (failure | table) _ t' _ ⟨rfl, h', rfl, hhome⟩
    · dsimp only
      split
      · exact alike_pure ⟨h', rfl⟩
      · exact alike_fail h'
    · have hhome := hhome table rfl
      exact alike_removeFrom hkeeps h' hhome (hfindable table hhome)

theorem alike_removeAll (rules : List Rule) (h : Mirrors (shown t) s)
    (hfindable : ∀ rule ∈ rules, s.Findable rule) :
    Alike (Mirrored shown) (Overflown shown) (tool.backend.removeAll rules)
      (Store.backend.removeAll rules) t s
      (fun _ _ t' s' => Mirrors (shown t') s' ∧ s'.layout = s.layout) := by
  induction rules generalizing t s with
  | nil => exact alike_pure ⟨h, rfl⟩
  | cons rule rest ih =>
    refine Alike.bind (alike_removeRule hkeeps h (hfindable rule List.mem_cons_self)) ?_
    rintro _ _ t₁ s₁ ⟨h₁, hlayout⟩
    refine Alike.mono (ih h₁ fun later hlater => ?_) fun _ _ _ _ hrest =>
      ⟨hrest.1, hrest.2.trans hlayout⟩
    exact (Store.findable_of_layout hlayout).2 (hfindable later (List.mem_cons_of_mem _ hlater))

end Kept

end WorkloadNet.Nft
