import Mathlib.Data.List.Basic
import WorkloadNet.Nft.Tool
import WorkloadNet.Proofs.Firewall.Marks

/-!
# Tools that keep what they are given

`Tool.Keeps` is what is expected of the packet filter tool: it lists every object that was added,
in the order of addition, each rule with a handle that no other rule of its table has, and deletes
exactly the rule that a command names.

Such a tool has one flat list where a store has a map of tables. `Mirrors` relates the two, and for
each change there is a lemma that a listing with the object added or deleted mirrors the store with
the same change.
-/

namespace WorkloadNet.Nft

open WorkloadNet.Action Firewall

variable {τ : Type}

namespace Listed

/-- A table as it is listed. -/
def ofTable (spec : TableSpec) : Listed := .table (.ofFamily spec.family) spec.name

/-- A chain of a table as it is listed. -/
def ofChain (spec : TableSpec) (name : String) : Listed :=
  .chain (.ofFamily spec.family) spec.name name

/-- A rule of a chain as it is listed with its handle. -/
def ofRule (spec : TableSpec) (name : String) (handle : Nat) (comment : Option String) : Listed :=
  .rule (.ofFamily spec.family) spec.name name (some handle) comment

/-- Whether an object is the rule with a handle in a chain of a table. -/
def isRule (spec : TableSpec) (name : String) (handle : Nat) : Listed → Bool
  | rule family owner holder given _ =>
    family = .ofFamily spec.family ∧ owner = spec.name ∧ holder = name ∧ given = some handle
  | _ => false

/-- The family and the name of the table that an object is, whether or not the engine has the
family. -/
def place? : Listed → Option (NftFamily × String)
  | table family name => some (family, name)
  | _ => none

/-- The comment of the rule that an object is, if it belongs to a chain of a table. -/
def comment? (spec : TableSpec) (name : String) : Listed → Option (Option String)
  | rule family owner holder _ comment =>
    if family = .ofFamily spec.family ∧ owner = spec.name ∧ holder = name then some comment
    else none
  | _ => none

end Listed

/-- A tool that lists what it is given: `shown` is the listing of a state. -/
structure Tool.Keeps (tool : Tool τ) (shown : τ → List Listed) : Prop where
  list : ∀ t, ∃ t', tool.list.run t = (.ok (shown t), t') ∧ shown t' = shown t
  addTable : ∀ t spec, .ofTable spec ∉ shown t → ∃ t',
    (tool.apply (.addTable spec)).run t = (.ok (), t') ∧ shown t' = shown t ++ [.ofTable spec]
  addChain : ∀ t spec request, .ofTable spec ∈ shown t → .ofChain spec request.name ∉ shown t →
    ∃ t', (tool.apply (.addChain spec request)).run t = (.ok (), t') ∧
      shown t' = shown t ++ [.ofChain spec request.name]
  addRule : ∀ t spec rule, .ofChain spec rule.chain ∈ shown t → ∃ t' handle,
    (tool.apply (.addRule spec rule)).run t = (.ok (), t') ∧
      (∀ name comment, .ofRule spec name handle comment ∉ shown t) ∧
      shown t' = shown t ++ [.ofRule spec rule.chain handle (some rule.fingerprint)]
  deleteRule : ∀ t spec name handle comment, .ofRule spec name handle comment ∈ shown t → ∃ t',
    (tool.apply (.deleteRule spec name handle)).run t = (.ok (), t') ∧
      shown t' = (shown t).filter fun object => !object.isRule spec name handle

/-! ## Questions to a tool -/

section Questions

variable {α : Type} {tool : Tool τ} {shown : τ → List Listed}

theorem on_call {operation : String} {action : StateM τ (Except ToolFault α)} {t t' : τ} {a : α}
    (h : action.run t = (.ok a, t')) : (Tool.call operation action).on t = (.ok a, t') := by
  unfold Tool.call
  rw [on_of, h]

/-- A tool that always lists what it holds. -/
def Tool.Shows (tool : Tool τ) (shown : τ → List Listed) : Prop :=
  ∀ t, ∃ t', tool.list.run t = (.ok (shown t), t') ∧ shown t' = shown t

/-- A question to a tool that shows its objects is answered from them, and changes none. -/
theorem ends_question (hshows : tool.Shows shown) (f : List Listed → α) (t : τ) :
    Ends (do return f (← tool.ruleset)) t (fun x t' => x = f (shown t) ∧ shown t' = shown t)
      fun _ _ => False := by
  obtain ⟨t', hon, hshown⟩ := hshows t
  refine Ends.bind (P := fun objects t' => objects = shown t ∧ shown t' = shown t)
    (Ends.of_on (on_call hon) ?_ ?_) ?_
  · rintro _ ⟨⟩
    exact ⟨rfl, hshown⟩
  · rintro _ ⟨⟩
  · rintro _ _ ⟨rfl, hsame⟩
    exact ends_pure ⟨rfl, hsame⟩

end Questions

/-! ## Questions to listed objects -/

namespace Listed

variable {spec other : TableSpec} {name chain : String} {handle : Nat} {comment : Option String}

theorem ofFamily_inj {a b : Family} (h : NftFamily.ofFamily a = .ofFamily b) : a = b := by
  cases a <;> cases b <;> first | rfl | cases h

theorem place_iff :
    NftFamily.ofFamily spec.family = .ofFamily other.family ∧ spec.name = other.name ↔
      spec = other := by
  constructor
  · rintro ⟨hfamily, hname⟩
    cases spec
    cases other
    rw [TableSpec.mk.injEq]
    exact ⟨hname, ofFamily_inj hfamily⟩
  · rintro rfl
    exact ⟨rfl, rfl⟩

theorem chain_place_iff :
    NftFamily.ofFamily spec.family = .ofFamily other.family ∧ spec.name = other.name ∧
      chain = name ↔ spec = other ∧ chain = name := by
  rw [← and_assoc, place_iff]

@[simp] theorem chainOf?_ofTable : (ofTable spec).chainOf? other = none := rfl

@[simp] theorem chainOf?_ofChain :
    (ofChain spec name).chainOf? other = if spec = other then some name else none := by
  unfold ofChain chainOf?
  simp only [place_iff]

@[simp] theorem chainOf?_ofRule : (ofRule spec name handle comment).chainOf? other = none := rfl

@[simp] theorem ruleOf?_ofTable : (ofTable spec).ruleOf? other chain = none := rfl

@[simp] theorem ruleOf?_ofChain : (ofChain spec name).ruleOf? other chain = none := rfl

@[simp] theorem ruleOf?_ofRule : (ofRule spec name handle comment).ruleOf? other chain =
    if spec = other ∧ name = chain then some ⟨handle, comment⟩ else none := by
  unfold ofRule ruleOf?
  simp only [chain_place_iff, Option.map_some]

@[simp] theorem comment?_ofTable : (ofTable spec).comment? other chain = none := rfl

@[simp] theorem comment?_ofChain : (ofChain spec name).comment? other chain = none := rfl

@[simp] theorem comment?_ofRule : (ofRule spec name handle comment).comment? other chain =
    if spec = other ∧ name = chain then some comment else none := by
  unfold ofRule comment?
  simp only [chain_place_iff]

@[simp] theorem place?_ofTable :
    (ofTable spec).place? = some (.ofFamily spec.family, spec.name) := rfl

@[simp] theorem place?_ofChain : (ofChain spec name).place? = none := rfl

@[simp] theorem place?_ofRule : (ofRule spec name handle comment).place? = none := rfl

/-- The engine looks only at tables of the families that it has. -/
theorem table?_eq (object : Listed) :
    object.table? = object.place?.bind fun place => place.1.family?.map fun f => ⟨place.2, f⟩ := by
  cases object <;> rfl

/-- Only a table stands at its place. -/
theorem place?_eq_some_iff {object : Listed} :
    object.place? = some (.ofFamily spec.family, spec.name) ↔ object = .ofTable spec := by
  cases object <;> simp [place?, ofTable]

/-- Only a chain of a table is listed as one. -/
theorem chainOf?_eq_some_iff {object : Listed} :
    object.chainOf? spec = some name ↔ object = .ofChain spec name := by
  cases object <;> simp [chainOf?, ofChain, and_assoc]

/-- Only a rule of a chain is listed as one. -/
theorem ruleOf?_eq_some_iff {object : Listed} {r : InstalledRule} :
    object.ruleOf? spec name = some r ↔ object = .ofRule spec name r.handle r.comment := by
  cases r
  cases object <;> simp [ruleOf?, ofRule, and_assoc]

theorem isRule_iff {object : Listed} :
    object.isRule spec name handle ↔ ∃ comment, object = .ofRule spec name handle comment := by
  cases object with
  | rule family owner holder given comment =>
    unfold ofRule
    constructor
    · intro h
      obtain ⟨rfl, rfl, rfl, rfl⟩ := of_decide_eq_true h
      exact ⟨comment, rfl⟩
    · rintro ⟨_, heq⟩
      cases heq
      exact decide_eq_true ⟨rfl, rfl, rfl, rfl⟩
  | _ =>
    refine iff_of_false Bool.false_ne_true ?_
    rintro ⟨_, ⟨⟩⟩

/-- Leaving the rule with a handle out is seen by the engine as leaving it out of the rules. -/
theorem filter_ruleOf? (object : Listed) :
    (object.ruleOf? spec name).filter (fun r => !decide (r.handle = handle)) =
      if !object.isRule spec name handle then object.ruleOf? spec name else none := by
  cases object with
  | rule family owner holder given comment =>
    dsimp only [ruleOf?, isRule]
    by_cases hplace : family = .ofFamily spec.family ∧ owner = spec.name ∧ holder = name
    · obtain ⟨rfl, rfl, rfl⟩ := hplace
      cases given with
      | none => simp
      | some other => by_cases hhandle : other = handle <;> simp [hhandle]
    · simp [hplace]
  | _ => rfl

end Listed

/-! ## A tool in memory -/

/-- A tool that keeps its listing, with the handle given last. -/
structure Keeper where
  /-- The objects, first one first. -/
  objects : List Listed
  /-- The handle given last. -/
  last : Nat
  given : ∀ spec name handle comment,
      .ofRule spec name handle comment ∈ objects → handle ≤ last

namespace Keeper

variable {keeper : Keeper} {spec : TableSpec} {name : String}

/-- Nothing was added yet. -/
def empty : Keeper := ⟨[], 0, fun _ _ _ _ hmem => absurd hmem List.not_mem_nil⟩

/-- Adds a table. -/
def addTable (keeper : Keeper) (spec : TableSpec) : Keeper where
  objects := keeper.objects ++ [.ofTable spec]
  last := keeper.last
  given := by simpa [Listed.ofRule, Listed.ofTable] using keeper.given

/-- Adds a chain. -/
def addChain (keeper : Keeper) (spec : TableSpec) (name : String) : Keeper where
  objects := keeper.objects ++ [.ofChain spec name]
  last := keeper.last
  given := by simpa [Listed.ofRule, Listed.ofChain] using keeper.given

/-- Adds a rule under the next handle. -/
def addRule (keeper : Keeper) (spec : TableSpec) (rule : Rule) : Keeper where
  objects := keeper.objects ++
    [.ofRule spec rule.chain (keeper.last + 1) (some rule.fingerprint)]
  last := keeper.last + 1
  given := by
    intro other name handle comment hmem
    rcases List.mem_append.1 hmem with hmem | hmem
    · exact Nat.le_succ_of_le (keeper.given _ _ _ _ hmem)
    · obtain ⟨_, _, _, hhandle, _⟩ := Listed.rule.inj (List.mem_singleton.1 hmem)
      exact Nat.le_of_eq (Option.some.inj hhandle)

/-- Deletes the rule with a handle. -/
def deleteRule (keeper : Keeper) (spec : TableSpec) (name : String) (handle : Nat) : Keeper where
  objects := keeper.objects.filter fun object => !object.isRule spec name handle
  last := keeper.last
  given := fun _ _ _ _ hmem => keeper.given _ _ _ _ (List.mem_filter.1 hmem).1

/-- A table or chain that is there is not added again; what needs a missing one fails. -/
def apply (command : Command) : StateM Keeper (Except ToolFault Unit) := fun keeper =>
  match command with
  | .addTable spec =>
    (.ok (), if .ofTable spec ∈ keeper.objects then keeper else keeper.addTable spec)
  | .addChain spec request =>
    if .ofTable spec ∉ keeper.objects then (.error (.failed "applying ruleset"), keeper)
    else if .ofChain spec request.name ∈ keeper.objects then (.ok (), keeper)
    else (.ok (), keeper.addChain spec request.name)
  | .addRule spec rule =>
    if .ofChain spec rule.chain ∉ keeper.objects then (.error (.failed "applying ruleset"), keeper)
    else (.ok (), keeper.addRule spec rule)
  | .deleteRule spec name handle =>
    if keeper.objects.any (Listed.isRule spec name handle) then
      (.ok (), keeper.deleteRule spec name handle)
    else (.error (.failed "applying ruleset"), keeper)

/-- The keeper as a tool. -/
def tool : Tool Keeper := ⟨fun keeper => (.ok keeper.objects, keeper), apply⟩

/-- The tool in memory keeps what it is given. -/
theorem keeps : tool.Keeps objects where
  list keeper := ⟨keeper, rfl, rfl⟩
  addTable keeper spec hnew := by
    refine ⟨keeper.addTable spec, ?_, rfl⟩
    change (_, if _ then _ else _) = _
    rw [if_neg hnew]
  addChain keeper spec request htable hnew := by
    refine ⟨keeper.addChain spec request.name, ?_, rfl⟩
    change (if _ then _ else if _ then _ else _) = _
    rw [if_neg (not_not_intro htable), if_neg hnew]
  addRule keeper spec rule hchain := by
    refine ⟨keeper.addRule spec rule, keeper.last + 1, ?_, fun name comment hmem => ?_, rfl⟩
    · change (if _ then _ else _) = _
      rw [if_neg (not_not_intro hchain)]
    · exact Nat.not_succ_le_self _ (keeper.given _ _ _ _ hmem)
  deleteRule keeper spec name handle comment hmem := by
    refine ⟨keeper.deleteRule spec name handle, ?_, rfl⟩
    change (if _ then _ else _) = _
    rw [if_pos (List.any_eq_true.2 ⟨_, hmem, Listed.isRule_iff.2 ⟨comment, rfl⟩⟩)]

end Keeper

end WorkloadNet.Nft
