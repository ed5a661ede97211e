import WorkloadNet.Firewall.Engine
import WorkloadNet.Nft.Tool
import WorkloadNet.Proofs.Action.Ends
import WorkloadNet.Proofs.Nft.Keeping

/-!
# What the engine says to the tool

`Tool.recorded` is a tool that writes down what it is asked, what it answers, and nothing else.
`Records` says that an action over the recorded tool does what an action over the tool does, and what
is written down on the way. Everything the engine does is recorded so; of what is written down it is
shown that a deletion only follows a listing that warrants it.
-/

namespace WorkloadNet.Nft

open WorkloadNet.Action Firewall

variable {τ α β : Type}

/-- A question or a command to the tool, with its answer. -/
inductive Exchange where
  /-- The rule set was listed. -/
  | listed (answer : Except ToolFault (List Listed))
  /-- A command was applied. -/
  | applied (command : Command) (answer : Except ToolFault Unit)

/-- The tool with a record of its exchanges. -/
def Tool.recorded (tool : Tool τ) : Tool (τ × List Exchange) where
  list := fun (t, log) =>
    let (answer, t') := tool.list.run t
    (answer, t', log ++ [.listed answer])
  apply command := fun (t, log) =>
    let (answer, t') := (tool.apply command).run t
    (answer, t', log ++ [.applied command answer])

/-! ## Recorded actions -/

/-- The first action does what the second does and adds a record to the log, of which `P` holds
together with the result. -/
def Records (a : Action (τ × List Exchange) α) (b : Action τ α) (t : τ)
    (P : List Exchange → Except Failure α → Prop) : Prop :=
  ∃ more, (∀ log, a.on (t, log) = ((b.on t).1, (b.on t).2, log ++ more)) ∧ P more (b.on t).1

section Rules

variable {a : Action (τ × List Exchange) α} {b : Action τ α} {t : τ}
variable {P Q : List Exchange → Except Failure α → Prop}

theorem Records.mono (h : Records a b t P) (hP : ∀ more result, P more result → Q more result) :
    Records a b t Q := by
  obtain ⟨more, hon, h⟩ := h
  exact ⟨more, hon, hP _ _ h⟩

theorem records_pure {x : α} (h : P [] (.ok x)) : Records (pure x) (pure x) t P :=
  ⟨[], fun log => by rw [List.append_nil]; rfl, h⟩

theorem records_fail {failure : Failure} (h : P [] (.error failure)) :
    Records (fail failure) (fail failure) t P :=
  ⟨[], fun log => by rw [List.append_nil]; rfl, h⟩

theorem records_ofExcept {result : Except Failure α} (h : P [] result) :
    Records (Action.ofExcept result) (Action.ofExcept result) t P := by
  cases result with
  | ok x => exact records_pure h
  | error failure => exact records_fail h

theorem Records.bind {next : α → Action (τ × List Exchange) β} {next' : α → Action τ β}
    {R : List Exchange → Except Failure β → Prop} (h : Records a b t P)
    (hok : ∀ more x t', P more (.ok x) →
      Records (next x) (next' x) t' fun later result => R (more ++ later) result)
    (herror : ∀ more failure, P more (.error failure) → R more (.error failure)) :
    Records (a >>= next) (b >>= next') t R := by
  obtain ⟨more, hon, hP⟩ := h
  rcases hb : b.on t with ⟨failure | x, t'⟩
  · rw [hb] at hP
    refine ⟨more, fun log => ?_, ?_⟩
    · rw [on_bind, on_bind, hon, hb]
    · rw [on_bind, hb]
      exact herror more failure hP
  · rw [hb] at hP
    obtain ⟨later, hlater, hR⟩ := hok more x t' hP
    refine ⟨more ++ later, fun log => ?_, ?_⟩
    · rw [on_bind, on_bind, hon, hb, ← List.append_assoc]
      exact hlater _
    · rw [on_bind, hb]
      exact hR

theorem Records.annotate {step : String}
    (h : Records a b t fun more result => P more (result.mapError (.context step))) :
    Records (a.annotate step) (b.annotate step) t P := by
  obtain ⟨more, hon, hP⟩ := h
  rcases hb : b.on t with ⟨result, t'⟩
  rw [hb] at hP
  refine ⟨more, fun log => ?_, ?_⟩
  · rw [on_annotate, on_annotate, hon, hb]
    cases result <;> rfl
  · rw [on_annotate, hb]
    cases result <;> exact hP

theorem Records.attempt {R : List Exchange → Except Failure (Except Failure α) → Prop}
    (h : Records a b t fun more result => R more (.ok result)) :
    Records a.attempt b.attempt t R := by
  obtain ⟨more, hon, hR⟩ := h
  rcases hb : b.on t with ⟨result, t'⟩
  rw [hb] at hR
  refine ⟨more, fun log => ?_, ?_⟩
  · rw [on_attempt, on_attempt, hon, hb]
  · rw [on_attempt, hb]
    exact hR

end Rules

/-! ## What warrants a deletion -/

/-- The first rule with a handle and this comment that a listing shows in a chain of a table has this
handle. -/
def FirstMatch (spec : TableSpec) (name comment : String) (handle : Nat) (objects : List Listed) :
    Prop :=
  ∃ early late, objects = early ++ .ofRule spec name handle (some comment) :: late ∧
    ∀ other, .ofRule spec name other (some comment) ∉ early

/-- Two listings warrant the deletion of a rule: the first says which table is meant by the bare name,
and in the second the rule with this handle is the first one in this chain of this table that has a
handle and the fingerprint as its comment. -/
structure Warrants (rule : Rule) (spec : TableSpec) (name : String) (handle : Nat)
    (seen objects : List Listed) : Prop where
  resolved : resolveTable rule.table (seen.filterMap Listed.table?) = some spec
  table : spec.name = rule.table
  chain : name = rule.chain
  first : FirstMatch spec name rule.fingerprint handle objects

/-- Every deletion in a log comes right after the two listings that warrant it for one of the rules. -/
def Licensed (rules : List Rule) (log : List Exchange) : Prop :=
  ∀ early late spec name handle answer,
    log = early ++ .applied (.deleteRule spec name handle) answer :: late →
      ∃ rule ∈ rules, ∃ before seen objects,
        early = before ++ [.listed (.ok seen), .listed (.ok objects)] ∧
          Warrants rule spec name handle seen objects

/-- What a handle is read with: the family and the name of the table, and the handle. -/
def Listed.address? : Listed → Option (NftFamily × String × Nat)
  | rule family owner _ (some handle) _ => some (family, owner, handle)
  | _ => none

/-- No two rules of one table have the same handle. -/
def Unambiguous (objects : List Listed) : Prop := (objects.filterMap Listed.address?).Nodup

instance (objects : List Listed) : Decidable (Unambiguous objects) :=
  inferInstanceAs (Decidable (List.Nodup _))

/-- No deletion in a log names a rule of the listing before it but one whose comment starts with the
mark of the fingerprints. -/
def Harmless (log : List Exchange) : Prop :=
  ∀ early late spec name handle answer objects,
    log = early ++ .listed (.ok objects) :: .applied (.deleteRule spec name handle) answer :: late →
      Unambiguous objects → ∀ object ∈ objects,
        object.address? = some (.ofFamily spec.family, spec.name, handle) →
          ∃ text, object = .ofRule spec name handle (some ("guestnet: " ++ text))

variable {rules more : List Rule} {log later : List Exchange}

/-- A rule of the table with the handle that is deleted is the rule that is meant. -/
theorem Warrants.eq_of_address {rule : Rule} {spec : TableSpec} {name : String} {handle : Nat}
    {seen objects : List Listed} {object : Listed} (h : Warrants rule spec name handle seen objects)
    (hunambiguous : Unambiguous objects) (hobject : object ∈ objects)
    (haddress : object.address? = some (.ofFamily spec.family, spec.name, handle)) :
    object = .ofRule spec name handle (some rule.fingerprint) := by
  obtain ⟨early, late, rfl, -⟩ := h.first
  have hmeant : (Listed.ofRule spec name handle (some rule.fingerprint)).address? =
      some (.ofFamily spec.family, spec.name, handle) := rfl
  rw [Unambiguous, List.filterMap_append, List.filterMap_cons_some hmeant, List.nodup_append,
    List.nodup_cons] at hunambiguous
  obtain ⟨-, ⟨hlate, -⟩, hearly⟩ := hunambiguous
  rcases List.mem_append.1 hobject with hmem | hmem
  · have haddresses := List.mem_filterMap.2 ⟨object, hmem, haddress⟩
    exact absurd rfl (hearly _ haddresses _ List.mem_cons_self)
  · rcases List.mem_cons.1 hmem with rfl | hmem
    · rfl
    · exact absurd (List.mem_filterMap.2 ⟨object, hmem, haddress⟩) hlate

theorem Licensed.harmless (h : Licensed rules log) : Harmless log := by
  intro early late spec name handle answer objects hlog hunambiguous object hobject haddress
  have hsplit : log =
      (early ++ [.listed (.ok objects)]) ++ .applied (.deleteRule spec name handle) answer :: late := by
    rw [hlog, List.append_assoc]
    rfl
  obtain ⟨rule, -, before, seen, others, hearly, hwarrants⟩ := h _ _ _ _ _ _ hsplit
  have hlast : Exchange.listed (.ok objects) = .listed (.ok others) := by
    have hlasts := congrArg List.getLast? hearly
    simpa using hlasts
  obtain rfl : objects = others := by
    simpa using hlast
  exact ⟨rule.text, hwarrants.eq_of_address hunambiguous hobject haddress⟩

theorem licensed_nil : Licensed rules [] := by
  intro early late spec name handle answer h
  exact absurd h.symm (List.append_ne_nil_of_right_ne_nil early (List.cons_ne_nil _ _))

/-- An exchange that is no deletion needs no warrant. -/
theorem licensed_singleton {e : Exchange}
    (h : ∀ spec name handle answer, e ≠ .applied (.deleteRule spec name handle) answer) :
    Licensed rules [e] := by
  intro early late spec name handle answer hlog
  have hmem : Exchange.applied (.deleteRule spec name handle) answer ∈ [e] := by
    rw [hlog]
    exact List.mem_append_right _ List.mem_cons_self
  exact absurd (List.mem_singleton.1 hmem).symm (h _ _ _ _)

/-- Two logs of warranted deletions make one. -/
theorem Licensed.append (h : Licensed rules log) (h' : Licensed rules later) :
    Licensed rules (log ++ later) := by
  intro early late spec name handle answer hlog
  rcases List.append_eq_append_iff.1 hlog with ⟨between, rfl, hlater⟩ | ⟨between, rfl, hrest⟩
  · obtain ⟨rule, hrule, before, seen, objects, rfl, hwarrants⟩ := h' _ _ _ _ _ _ hlater
    exact ⟨rule, hrule, log ++ before, seen, objects, (List.append_assoc _ _ _).symm, hwarrants⟩
  · cases between with
    | nil =>
      -- A deletion at the very beginning of the later log has no listings before it there.
      obtain ⟨rule, hrule, before, seen, objects, hnil, hwarrants⟩ := h' [] _ _ _ _ _ hrest.symm
      exact absurd hnil.symm (List.append_ne_nil_of_right_ne_nil before (List.cons_ne_nil _ _))
    | cons e between =>
      obtain ⟨rfl, -⟩ := List.cons.inj hrest
      exact h _ _ _ _ _ _ rfl

theorem Licensed.mono (h : Licensed rules log) (hrules : rules ⊆ more) : Licensed more log := by
  intro early late spec name handle answer hlog
  obtain ⟨rule, hrule, hwarrants⟩ := h _ _ _ _ _ _ hlog
  exact ⟨rule, hrules hrule, hwarrants⟩

/-! ## Careful actions -/

/-- Recorded like this from every state, an action only deletes what it has a warrant for. -/
def Careful (rules : List Rule) (a : Action (τ × List Exchange) α) (b : Action τ α) : Prop :=
  ∀ t, Records a b t fun log _ => Licensed rules log

theorem Careful.mono {a : Action (τ × List Exchange) α} {b : Action τ α} (h : Careful rules a b)
    (hrules : rules ⊆ more) : Careful more a b :=
  fun t => (h t).mono fun _ _ hlog => hlog.mono hrules

theorem careful_pure (x : α) :
    Careful rules (pure x : Action (τ × List Exchange) α) (pure x) :=
  fun _ => records_pure licensed_nil

theorem careful_ofExcept (result : Except Failure α) : Careful rules
    (Action.ofExcept result : Action (τ × List Exchange) α) (Action.ofExcept result) :=
  fun _ => records_ofExcept licensed_nil

/-- Two careful actions are careful one after the other. -/
theorem Careful.bind {a : Action (τ × List Exchange) α} {b : Action τ α}
    {next : α → Action (τ × List Exchange) β} {next' : α → Action τ β} (h : Careful rules a b)
    (hnext : ∀ x, Careful rules (next x) (next' x)) :
    Careful rules (a >>= next) (b >>= next') := by
  refine fun t => (h t).bind (fun log x t' hlog => ?_) fun _ _ hlog => hlog
  exact (hnext x t').mono fun _ _ hlater => hlog.append hlater

/-- What comes after a result known beforehand only matters for its value. -/
theorem careful_ofExcept_bind {result : Except Failure α} {next : α → Action (τ × List Exchange) β}
    {next' : α → Action τ β} (hnext : ∀ x, result = .ok x → Careful rules (next x) (next' x)) :
    Careful rules (Action.ofExcept result >>= next) (Action.ofExcept result >>= next') := by
  intro t
  refine Records.bind (P := fun log outcome => log = [] ∧ outcome = result)
    (records_ofExcept ⟨rfl, rfl⟩) ?_ ?_
  · rintro _ x t' ⟨rfl, hresult⟩
    exact hnext x hresult.symm t'
  · rintro _ _ ⟨rfl, -⟩
    exact licensed_nil

theorem careful_fail_bind {failure : Failure} {next : α → Action (τ × List Exchange) β}
    {next' : α → Action τ β} :
    Careful rules (fail failure >>= next) (fail failure >>= next') := by
  have hfail : Careful rules (Action.ofExcept (.error failure) >>= next)
      (Action.ofExcept (.error failure) >>= next') :=
    careful_ofExcept_bind fun _ h => nomatch h
  exact hfail

theorem Careful.annotate {a : Action (τ × List Exchange) α} {b : Action τ α} {step : String}
    (h : Careful rules a b) : Careful rules (a.annotate step) (b.annotate step) :=
  fun t => (h t).annotate

section Engine

variable {tool : Tool τ}

/-! ## Single exchanges -/

theorem records_call {operation : String} {recorded : StateM (τ × List Exchange) (Except ToolFault α)}
    {action : StateM τ (Except ToolFault α)} {t : τ} {more : List Exchange}
    (hrun : ∀ log, recorded.run (t, log) = ((action.run t).1, (action.run t).2, log ++ more)) :
    Records (Tool.call operation recorded) (Tool.call operation action) t fun log result =>
      log = more ∧ ∀ x, result = .ok x → (action.run t).1 = .ok x := by
  rcases haction : action.run t with ⟨fault | x, t'⟩
  · refine ⟨more, fun log => ?_, rfl, fun x hok => ?_⟩
    · unfold Tool.call
      rw [on_of, on_of, hrun, haction]
    · unfold Tool.call at hok
      rw [on_of, haction] at hok
      cases hok
  · refine ⟨more, fun log => ?_, rfl, fun y hok => ?_⟩
    · unfold Tool.call
      rw [on_of, on_of, hrun, haction]
    · unfold Tool.call at hok
      rw [on_of, haction] at hok
      cases hok
      rfl

/-- One listing was made, and a result is what `R` allows for what it showed. -/
def Answered (R : List Listed → α → Prop) (log : List Exchange) (result : Except Failure α) : Prop :=
  ∃ answer, log = [.listed answer] ∧
    ∀ x, result = .ok x → ∃ objects, answer = .ok objects ∧ R objects x

theorem Answered.licensed {R : List Listed → α → Prop} {result : Except Failure α}
    (h : Answered R log result) : Licensed rules log := by
  obtain ⟨answer, rfl, -⟩ := h
  exact licensed_singleton fun _ _ _ _ h => Exchange.noConfusion h

theorem records_ruleset (tool : Tool τ) (t : τ) :
    Records tool.recorded.ruleset tool.ruleset t (Answered Eq) :=
  Records.mono (records_call fun _ => rfl) fun _ _ h => ⟨_, h.1, fun x hok => ⟨x, h.2 x hok, rfl⟩⟩

/-- What is concluded from a listing without another exchange. -/
theorem Records.conclude {a : Action (τ × List Exchange) α} {b : Action τ α}
    {next : α → Action (τ × List Exchange) β} {next' : α → Action τ β}
    {R : List Listed → α → Prop} {S : List Listed → β → Prop} {t : τ}
    (h : Records a b t (Answered R))
    (hnext : ∀ objects x t', R objects x → Records (next x) (next' x) t'
      fun log result => log = [] ∧ ∀ y, result = .ok y → S objects y) :
    Records (a >>= next) (b >>= next') t (Answered S) := by
  refine h.bind ?_ ?_
  · rintro _ x t' ⟨answer, rfl, hanswer⟩
    obtain ⟨objects, rfl, hR⟩ := hanswer x rfl
    refine (hnext objects x t' hR).mono ?_
    rintro _ result ⟨rfl, hS⟩
    exact ⟨.ok objects, rfl, fun y hok => ⟨objects, rfl, hS y hok⟩⟩
  · rintro _ failure ⟨answer, rfl, -⟩
    exact ⟨answer, rfl, fun _ hok => nomatch hok⟩

/-- A question to the rule set is one listing and what it shows. -/
theorem records_query {f : Listed → Option α} (tool : Tool τ) (t : τ) :
    Records (do return (← tool.recorded.ruleset).filterMap f)
      (do return (← tool.ruleset).filterMap f) t
      (Answered fun objects found => found = objects.filterMap f) := by
  refine (records_ruleset tool t).conclude ?_
  rintro objects _ t' rfl
  exact records_pure ⟨rfl, fun found hok => (Except.ok.inj hok).symm⟩

/-- A command is written down with its answer. -/
theorem records_apply (tool : Tool τ) (operation : String) (command : Command) (t : τ) :
    Records (Tool.call operation (tool.recorded.apply command))
      (Tool.call operation (tool.apply command)) t fun log _ =>
        ∃ answer, log = [.applied command answer] :=
  Records.mono (records_call fun _ => rfl) fun _ _ h => ⟨_, h.1⟩

/-- A question deletes nothing. -/
theorem careful_query {f : Listed → Option α} :
    Careful rules (do return (← tool.recorded.ruleset).filterMap f)
      (do return (← tool.ruleset).filterMap f) :=
  fun t => (records_query tool t).mono fun _ _ => Answered.licensed

/-- Neither does a command other than a deletion. -/
theorem careful_apply {operation : String} {command : Command}
    (h : ∀ spec name handle, command ≠ .deleteRule spec name handle) :
    Careful rules (Tool.call operation (tool.recorded.apply command))
      (Tool.call operation (tool.apply command)) := by
  refine fun t => (records_apply tool operation command t).mono ?_
  rintro _ _ ⟨answer, rfl⟩
  exact licensed_singleton fun spec name handle _ heq => h spec name handle (Exchange.applied.inj heq).1

/-! ## Tables and chains -/

/-- A table is looked up with one listing, in which the bare name means it. -/
theorem records_findTable (tool : Tool τ) (name : String) (t : τ) :
    Records (tool.recorded.backend.findTable name) (tool.backend.findTable name) t
      (Answered fun objects spec =>
        resolveTable name (objects.filterMap Listed.table?) = some spec) := by
  refine (records_query tool t).conclude ?_
  rintro objects _ t' rfl
  rcases hspec : resolveTable name (objects.filterMap Listed.table?) with _ | spec
  · exact records_fail ⟨rfl, fun _ hok => nomatch hok⟩
  · exact records_pure ⟨rfl, fun _ hok => congrArg some (Except.ok.inj hok)⟩

theorem careful_findTable (name : String) :
    Careful rules (tool.recorded.backend.findTable name) (tool.backend.findTable name) :=
  fun t => (records_findTable tool name t).mono fun _ _ => Answered.licensed

theorem careful_newChain (request : ChainRequest) :
    Careful rules (tool.recorded.backend.newChain request) (tool.backend.newChain request) := by
  unfold Backend.newChain
  dsimp only
  split
  · exact careful_fail_bind
  · refine Careful.bind (careful_findTable _) fun table => ?_
    refine Careful.bind careful_query fun names => ?_
    have hcreate : Careful rules
        (tool.recorded.backend.createChain table request >>= fun _ => pure table)
        (tool.backend.createChain table request >>= fun _ => pure table) :=
      Careful.bind (careful_apply fun _ _ _ h => Command.noConfusion h) fun _ => careful_pure table
    split
    · exact careful_pure _
    · split
      · exact careful_fail_bind
      · exact hcreate

theorem careful_newChains (requests : List ChainRequest) :
    Careful rules (tool.recorded.backend.newChains requests) (tool.backend.newChains requests) := by
  induction requests with
  | nil => exact careful_pure _
  | cons request rest ih => exact Careful.bind (careful_newChain request) fun _ => ih

theorem careful_ensureTable (request : TableRequest) :
    Careful rules (tool.recorded.backend.ensureTable request)
      (tool.backend.ensureTable request) := by
  refine Careful.bind careful_query fun tables => ?_
  dsimp only
  split
  · exact Careful.bind (careful_apply fun _ _ _ h => Command.noConfusion h) fun _ =>
      careful_newChains _
  · exact careful_newChains _

theorem careful_ensureStandardTables :
    Careful rules tool.recorded.backend.ensureStandardTables tool.backend.ensureStandardTables :=
  Careful.bind (careful_ensureTable _) fun _ => careful_ensureTable _

/-! ## Rules -/

/-- The first rule found among those of a chain is the first match of the listing. -/
theorem firstMatch_of_find? {objects : List Listed} {spec : TableSpec} {name comment : String}
    {found : InstalledRule} (h : ((objects.filterMap (Listed.ruleOf? spec name)).find?
      fun r => r.comment = some comment) = some found) :
    FirstMatch spec name comment found.handle objects := by
  rw [List.find?_filterMap] at h
  obtain ⟨object, hfind, hfound⟩ := Option.bind_eq_some_iff.1 h
  obtain ⟨hmatch, early, late, rfl, hearly⟩ := List.find?_eq_some_iff_append.1 hfind
  obtain rfl := Listed.ruleOf?_eq_some_iff.1 hfound
  have hcomment : found.comment = some comment := by
    simpa using hmatch
  refine ⟨early, late, by rw [hcomment], fun other hother => ?_⟩
  simpa using hearly _ hother

/-- An installed rule is looked up with one listing, of which it is the first match. -/
theorem records_findInstalled (tool : Tool τ) (spec : TableSpec) (rule : Rule) (t : τ) :
    Records (tool.recorded.backend.findInstalled spec rule) (tool.backend.findInstalled spec rule) t
      (Answered fun objects found => ∀ handle, found = some handle →
        FirstMatch spec rule.chain rule.fingerprint handle objects) := by
  refine (records_query tool t).conclude ?_
  rintro objects _ t' rfl
  refine records_pure ⟨rfl, fun _ hok handle hhandle => ?_⟩
  obtain ⟨found, hfind, rfl⟩ := Option.map_eq_some_iff.1 ((Except.ok.inj hok).trans hhandle)
  exact firstMatch_of_find? hfind

theorem careful_findInstalled (spec : TableSpec) (rule : Rule) :
    Careful rules (tool.recorded.backend.findInstalled spec rule)
      (tool.backend.findInstalled spec rule) :=
  fun t => (records_findInstalled tool spec rule t).mono fun _ _ => Answered.licensed

theorem careful_appendRule (spec : TableSpec) (rule : Rule) :
    Careful rules (tool.recorded.backend.appendRule spec rule)
      (tool.backend.appendRule spec rule) :=
  careful_apply fun _ _ _ h => Command.noConfusion h

theorem careful_addJumpRule (source target table : String) :
    Careful rules (tool.recorded.backend.addJumpRule source target table)
      (tool.backend.addJumpRule source target table) := by
  refine Careful.bind (careful_newChain _) fun spec => ?_
  refine Careful.bind (careful_newChain _) fun _ => ?_
  refine Careful.bind (careful_findInstalled _ _) fun found => ?_
  split
  · exact careful_appendRule _ _
  · exact careful_pure _

/-- Nothing is deleted when rules are added. -/
theorem careful_addAll (added : List Rule) :
    Careful rules (tool.recorded.backend.addAll added) (tool.backend.addAll added) := by
  induction added with
  | nil => exact careful_pure _
  | cons rule rest ih =>
    refine Careful.bind ?_ fun _ => ih
    exact Careful.bind (careful_findTable _) fun table => (careful_appendRule table rule).annotate

/-- A handle out of range is refused without a word to the tool. -/
theorem records_deleteRule (tool : Tool τ) (spec : TableSpec) (name : String) (handle : Nat) (t : τ) :
    Records (tool.recorded.backend.deleteRule spec name handle)
      (tool.backend.deleteRule spec name handle) t fun log _ =>
        log = [] ∨ ∃ answer, log = [.applied (.deleteRule spec name handle) answer] := by
  change Records (tool.recorded.deleteRule spec name handle) (tool.deleteRule spec name handle) t _
  unfold Tool.deleteRule
  dsimp only
  split
  · refine Records.bind (P := fun log result => log = [] ∧ result = .error _)
      (records_fail ⟨rfl, rfl⟩) ?_ ?_
    · rintro _ _ _ ⟨-, ⟨⟩⟩
    · rintro _ _ ⟨rfl, -⟩
      exact Or.inl rfl
  · exact (records_apply tool _ _ t).mono fun _ _ h => Or.inr h

/-- A rule is removed from a table with one listing, and a deletion of its first match if it has one. -/
theorem records_removeFrom (tool : Tool τ) (spec : TableSpec) (rule : Rule) (t : τ) :
    Records (tool.recorded.backend.removeFrom spec rule) (tool.backend.removeFrom spec rule) t
      fun log _ => (∃ answer, log = [.listed answer]) ∨ ∃ objects handle answer,
        log = [.listed (.ok objects), .applied (.deleteRule spec rule.chain handle) answer] ∧
          FirstMatch spec rule.chain rule.fingerprint handle objects := by
  refine (records_findInstalled tool spec rule t).bind ?_ ?_
  · rintro _ found t' ⟨answer, rfl, hanswer⟩
    obtain ⟨objects, rfl, hfirst⟩ := hanswer found rfl
    cases found with
    | none => exact records_pure (Or.inl ⟨_, rfl⟩)
    | some handle =>
      refine Records.annotate ((records_deleteRule tool spec rule.chain handle t').mono ?_)
      rintro _ _ (rfl | ⟨answer, rfl⟩)
      · exact Or.inl ⟨_, rfl⟩
      · exact Or.inr ⟨objects, handle, answer, rfl, hfirst handle rfl⟩
  · rintro _ failure ⟨answer, rfl, -⟩
    exact Or.inl ⟨answer, rfl⟩

/-- The deletion that follows two listings which warrant it. -/
theorem licensed_deletion {rule : Rule} {spec : TableSpec} {handle : Nat} {seen objects : List Listed}
    {answer : Except ToolFault Unit} (h : Warrants rule spec rule.chain handle seen objects) :
    Licensed [rule] [.listed (.ok seen), .listed (.ok objects),
      .applied (.deleteRule spec rule.chain handle) answer] := by
  intro early late spec' name' handle' answer' hlog
  rcases early with _ | ⟨first, _ | ⟨second, _ | ⟨third, early⟩⟩⟩
  · cases hlog
  · cases hlog
  · cases hlog
    exact ⟨rule, List.mem_singleton_self rule, [], seen, objects, rfl, h⟩
  · have hnil := (List.cons.inj (List.cons.inj (List.cons.inj hlog).2).2).2
    exact absurd hnil.symm (List.append_ne_nil_of_right_ne_nil early (List.cons_ne_nil _ _))

/-- A rule is deleted as the first match of a listing that was read for it. -/
theorem careful_removeRule (rule : Rule) :
    Careful [rule] (tool.recorded.backend.removeRule rule) (tool.backend.removeRule rule) := by
  intro t
  refine Records.bind (P := fun log outcome => ∃ result, outcome = .ok result ∧
    Answered (fun objects spec =>
      resolveTable rule.table (objects.filterMap Listed.table?) = some spec) log result) ?_ ?_ ?_
  · exact Records.attempt ((records_findTable tool rule.table t).mono fun _ result h =>
      ⟨result, rfl, h⟩)
  · rintro _ result t' ⟨_, ⟨⟩, answer, rfl, hanswer⟩
    have hlisted : Licensed [rule] [.listed answer] :=
      licensed_singleton fun _ _ _ _ h => Exchange.noConfusion h
    cases result with
    | ok spec =>
      obtain ⟨seen, rfl, hseen⟩ := hanswer spec rfl
      refine (records_removeFrom tool spec rule t').mono ?_
      rintro _ _ (⟨answer, rfl⟩ | ⟨objects, handle, answer, rfl, hfirst⟩)
      · exact hlisted.append (licensed_singleton fun _ _ _ _ h => Exchange.noConfusion h)
      · exact licensed_deletion ⟨hseen, name_of_resolveTable hseen, rfl, hfirst⟩
    | error failure =>
      dsimp only
      split
      · exact records_pure hlisted
      · exact records_fail hlisted
  · rintro _ _ ⟨_, ⟨⟩, -⟩

/-- Rules are deleted one after the other, each with its own warrant. -/
theorem careful_removeAll (removed : List Rule) :
    Careful removed (tool.recorded.backend.removeAll removed) (tool.backend.removeAll removed) := by
  induction removed with
  | nil => exact careful_pure _
  | cons rule rest ih =>
    refine Careful.bind ((careful_removeRule rule).mono ?_) fun _ => ih.mono ?_
    · exact List.cons_subset.2 ⟨List.mem_cons_self, List.nil_subset _⟩
    · exact List.subset_cons_self _ _

end Engine

end WorkloadNet.Nft
