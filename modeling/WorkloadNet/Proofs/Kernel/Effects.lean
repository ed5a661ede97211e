import WorkloadNet.Proofs.Kernel.Pairs
import WorkloadNet.Session.Run

/-!
# What an event does to the namespaces

An event of a kernel is an operation on links or namespaces, entering or leaving a namespace, or the
injection of a failure. Whichever way it ends, the namespaces change in one of the ways that `Effect`
lists. Invariants of a kernel are proved from this list, and mostly from `Effect.fate`: what became of one
link, and if it is gone, with which deletion it went.
-/

namespace WorkloadNet.Kernel

open WorkloadNet.Action Session

/-- What may happen to a kernel. -/
inductive Event where
  /-- An operation on links. -/
  | link (step : LinkStep)
  /-- An operation on namespaces. -/
  | space (step : SpaceStep)
  /-- A body begins inside a namespace. -/
  | enter (name : String)
  /-- The innermost body ends. -/
  | leave
  /-- The next call of an operation is made to fail. -/
  | failing (op : KernelOp) (name : String)
  deriving DecidableEq, Repr

/-- A veth end has the other end of its pair on record, and no other link has one. -/
def Marked (link : Link) : Prop :=
  link.peer.isSome ↔ ∃ peer space, link.kind = .veth peer space

/-- A bridge of this name in a namespace. -/
def HasBridge (spaces : Spaces) (space : SpaceName) (name : String) : Prop :=
  ∃ bridge, lookup spaces space name = some bridge ∧ bridge.kind = .bridge

/-- How the namespaces of a kernel may change in an event. -/
inductive Effect (k : Kernel) : Event → Spaces → Prop
  | same {e : Event} : Effect k e k.spaces
  | settled {e : Event} : Effect k e k.settle.spaces
  | edited {e : Event} {name : String} {f : Link → Link} (hkind : ∀ link, (f link).kind = link.kind)
      (hpeer : ∀ link, (f link).peer = link.peer)
      (hmaster : ∀ link, (f link).master = link.master ∨
        ∃ master, (f link).master = some master ∧ HasBridge k.spaces k.current master) :
      Effect k e (k.spaces.modify k.current (withLinkChanged name f))
  | routed {e : Event} {name : String} {gateway : V4} (hdevice : (k.link? k.current name).isSome) :
      Effect k e (k.spaces.modify k.current fun s => { s with defaultRoute := some (name, gateway) })
  | added {e : Event} {name : String} {kind : LinkKind} (hkind : ∀ peer space, kind ≠ .veth peer space)
      (hfree : k.link? k.current name = none) :
      Effect k e (k.settle.spaces.modify k.current (withLink name { kind }))
  | paired {e : Event} {name peer : String} {far : SpaceName} (hfree : k.link? k.current name = none)
      (hfarFree : k.link? (far.or k.current) peer = none) (hfar : far.or k.current ∈ k.settle.spaces) :
      Effect k e ((k.settle.spaces.modify (far.or k.current) (withLink peer
        { kind := .veth name k.current, peer := some (k.current, name) })).modify k.current
          (withLink name { kind := .veth peer far, peer := some (far.or k.current, peer) }))
  | removed {name : String} : Effect k (.link (.delete name)) (removeLink k.current name k.spaces)
  | created {e : Event} {name : String} : Effect k e (k.spaces.insertIfNew (some name) {})
  | dropped {name : String} : Effect k (.space (.delete name)) (withoutSpace name k.spaces)

variable {k : Kernel} {e : Event} {spaces' : Spaces} {space far : SpaceName} {name peer n : String}

/-! ## Every operation has one of these effects -/

/-- A kernel after an operation: the namespaces have changed in one of these ways, and the current one is
still the current one. -/
def Affected (k : Kernel) (e : Event) (k' : Kernel) : Prop :=
  Effect k e k'.spaces ∧ k'.current = k.current

/-- Whichever way the operation ends, the kernel is affected like this. -/
def Affects {α : Type} (action : Action Kernel α) (k : Kernel) (e : Event) : Prop :=
  Ends action k (fun _ => Affected k e) fun _ => Affected k e

/-- Handing on what an operation answers does not change how it affects the kernel. -/
theorem Affects.value {α : Type} {action : Action Kernel α} {value : α → Value}
    (h : Affects action k e) : Affects (do return value (← action)) k e :=
  Ends.bind h fun _ _ h => ends_pure h

/-- Creating a link adds one, or both ends of a veth pair at once, or fails and adds none. -/
theorem affects_addLink {kind : LinkKind} : Affects (addLink name kind) k e := by
  by_cases hkind : ∃ peer far, kind = .veth peer far
  · obtain ⟨peer, far, rfl⟩ := hkind
    refine ends_addVeth (fun _ => ⟨.same, rfl⟩) (fun _ => ⟨.same, rfl⟩) (fun _ => ⟨.settled, rfl⟩)
      (fun _ => ⟨.settled, rfl⟩) ?_
    intro _ hfree hfarFree hfar
    exact ⟨.paired hfree hfarFree hfar, rfl⟩
  · refine ends_addLink (fun peer far h => hkind ⟨peer, far, h⟩) (fun _ => ⟨.same, rfl⟩)
      (fun _ => ⟨.same, rfl⟩) ?_
    intro _ hfree
    exact ⟨.added (fun peer far h => hkind ⟨peer, far, h⟩) hfree, rfl⟩

/-- Editing a link keeps its kind, its other end and its bridge. -/
theorem affects_edit {op : KernelOp} {f : Link → Link} (hkind : ∀ link, (f link).kind = link.kind)
    (hpeer : ∀ link, (f link).peer = link.peer) (hmaster : ∀ link, (f link).master = link.master) :
    Affects (do takeFailure op name; editLink name f) k e := by
  refine ends_edit (fun _ => ⟨.same, rfl⟩) (fun _ => ⟨.settled, rfl⟩) fun _ _ _ => ?_
  exact ⟨.edited hkind hpeer fun link => Or.inl (hmaster link), rfl⟩

/-- A link is attached only to a bridge that is there. -/
theorem affects_setMaster {master : String} : Affects (setMaster name master) k e := by
  refine ends_setMaster (fun _ => ⟨.same, rfl⟩) (fun _ => ⟨.settled, rfl⟩)
    (fun _ _ _ => ⟨.same, rfl⟩) (fun _ => ⟨.settled, rfl⟩) ?_
  intro bridge _ _ hmaster hkind _
  refine ⟨.edited (fun _ => rfl) (fun _ => rfl) fun _ => Or.inr ⟨master, rfl, bridge, ?_, hkind⟩, rfl⟩
  exact hmaster

/-- Every operation on links has one of the effects. -/
theorem affects_linkStep (step : LinkStep) : Affects (step.run links) k (.link step) := by
  cases step with
  | add name kind => exact Affects.value affects_addLink
  | setAddress name address =>
    refine Affects.value (affects_edit ?_ ?_ ?_) <;> intro link <;> split <;> rfl
  | hasAddress name address =>
    exact Affects.value (ends_hasAddress (fun _ => ⟨.same, rfl⟩) (fun _ => ⟨.settled, rfl⟩)
      fun _ _ _ => ⟨.same, rfl⟩)
  | has name =>
    refine Affects.value (ends_guarded (fun _ => ⟨.same, rfl⟩) fun _ => ?_)
    unfold Ends
    rw [on_bind, on_here]
    exact ⟨.settled, rfl⟩
  | setMaster name master => exact Affects.value affects_setMaster
  | bringUp name =>
    exact Affects.value (affects_edit (fun _ => rfl) (fun _ => rfl) fun _ => rfl)
  | delete name =>
    exact Affects.value (ends_deleteLink (fun _ => ⟨.same, rfl⟩) fun _ => ⟨.removed, rfl⟩)
  | disableTxOffload name =>
    exact Affects.value (affects_edit (fun _ => rfl) (fun _ => rfl) fun _ => rfl)
  | addDefaultRoute name gateway =>
    refine Affects.value (ends_addDefaultRoute (fun _ => ⟨.same, rfl⟩) (fun _ => ⟨.settled, rfl⟩)
      (fun _ => ⟨.same, rfl⟩) ?_)
    intro _ _ hlink _
    exact ⟨.routed (by rw [hlink]; rfl), rfl⟩

/-- Every operation on namespaces has one of the effects. -/
theorem affects_spaceStep (step : SpaceStep) : Affects (step.run namespaces) k (.space step) := by
  cases step with
  | create name =>
    refine Ends.bind (P := fun _ => Affected k (.space (.create name))) ?_ fun _ _ h => ends_pure h
    exact ends_createSpace (fun _ => ⟨.same, rfl⟩) fun _ => ⟨.created, rfl⟩
  | delete name =>
    refine Ends.bind (P := fun _ => Affected k (.space (.delete name))) ?_ fun _ _ h => ends_pure h
    have hdelete : Affects (deleteSpace name) k (.space (.delete name)) := by
      unfold Affects Ends
      rw [on_deleteSpace]
      by_cases hpending : (.deleteNamespace, name) ∈ k.pending
      · rw [if_pos hpending]
        exact ⟨.same, rfl⟩
      · rw [if_neg hpending]
        exact ⟨.dropped, rfl⟩
    exact hdelete
  | has name => exact ⟨.same, rfl⟩

/-- The kernel after an operation on links, whichever way it ended, is affected. -/
theorem affected_linkStep (step : LinkStep) (k : Kernel) :
    Affected k (.link step) ((step.run links).on k).2 :=
  ends_state (P := Affected k (.link step)) (affects_linkStep step)

/-- The kernel after an operation on namespaces, whichever way it ended, is affected. -/
theorem affected_spaceStep (step : SpaceStep) (k : Kernel) :
    Affected k (.space step) ((step.run namespaces).on k).2 :=
  ends_state (P := Affected k (.space step)) (affects_spaceStep step)

/-! ## What becomes of a link -/

/-- A new namespace has no links, and an existing one keeps its own. -/
theorem lookup_insertIfNew {spaces : Spaces} :
    lookup (spaces.insertIfNew far {}) space n = lookup spaces space n := by
  unfold lookup
  rw [Std.ExtTreeMap.getElem?_insertIfNew]
  split
  · rename_i h
    obtain ⟨h, hmissing⟩ := h
    obtain rfl := Std.LawfulEqOrd.eq_of_compare h
    rw [Std.ExtTreeMap.getElem?_eq_none hmissing]
    simp
  · rfl

/-- What becomes of a link of the name `n` in an event: from what was there to what is there. -/
inductive Fate (k : Kernel) (e : Event) (spaces' : Spaces) (space : SpaceName) (n : String) :
    Option Link → Option Link → Prop
  | kept {link : Option Link} : Fate k e spaces' space n link link
  | altered {old link : Link} (hkind : link.kind = old.kind) (hpeer : link.peer = old.peer)
      (hmaster : link.master = old.master ∨
        ∃ master, link.master = some master ∧ HasBridge k.spaces space master) :
      Fate k e spaces' space n (some old) (some link)
  | born {link : Link} (hmarked : Marked link) (hmaster : link.master = none) :
      Fate k e spaces' space n none (some link)
  | cut {old : Option Link} {near : String} (hevent : e = .link (.delete near))
      (hspaces : spaces' = removeLink k.current near k.spaces)
      (hcut : (space, n) = (k.current, near) ∨ peer? k.spaces k.current near = some (space, n)) :
      Fate k e spaces' space n old none
  | swept {old : Option Link} {name : String} (hevent : e = .space (.delete name))
      (hspaces : spaces' = withoutSpace name k.spaces) (hcut : CutBy k.spaces name space n) :
      Fate k e spaces' space n old none

/-- Where a link is put under a name that was free, it is born; every other link goes on as before. -/
theorem fate_withLink {spaces : Spaces} {link : Link} {old : Option Link} (hmarked : Marked link)
    (hmaster : link.master = none)
    (hold : Fate k e spaces' space n old (lookup spaces space n))
    (hfree : (space, n) = (far, name) → old = none) :
    Fate k e spaces' space n old (lookup (spaces.modify far (withLink name link)) space n) := by
  rw [lookup_withLink]
  split
  · rename_i heq
    rw [hfree heq]
    cases spaces[far]? with
    | none => exact .kept
    | some _ => exact .born hmarked hmaster
  · exact hold

/-- Every effect makes of each link one of the things that `Fate` lists. -/
theorem Effect.fate (h : Effect k e spaces') (hk : Coupled k.spaces) (space : SpaceName) (n : String) :
    Fate k e spaces' space n (lookup k.spaces space n) (lookup spaces' space n) := by
  have hsettled : Fate k e spaces' space n (lookup k.spaces space n)
      (lookup k.settle.spaces space n) := by
    rw [settle, lookup_insertIfNew]
    exact .kept
  cases h with
  | same => exact .kept
  | settled => exact hsettled
  | edited hkind hpeer hmaster =>
    rw [lookup_withLinkChanged]
    split
    · rename_i heq
      obtain ⟨rfl, rfl⟩ := Prod.mk.inj heq
      cases lookup k.spaces k.current n with
      | none => exact .kept
      | some old => exact .altered (hkind old) (hpeer old) (hmaster old)
    · exact .kept
  | routed hdevice =>
    rw [lookup_modify_of_links]
    · exact .kept
    · exact fun _ => rfl
  | added hkind hfree =>
    refine fate_withLink ?_ rfl hsettled ?_
    · simp [Marked, hkind]
    · rintro ⟨⟩
      exact hfree
  | paired hfree hfarFree hfar =>
    -- The far end is put first, and the near one over the result.
    refine fate_withLink ?_ rfl (fate_withLink ?_ rfl hsettled ?_) ?_
    · simp [Marked]
    · simp [Marked]
    · rintro ⟨⟩
      exact hfarFree
    · rintro ⟨⟩
      exact hfree
  | removed =>
    rw [lookup_removeLink]
    split
    · rename_i hcut
      exact .cut rfl rfl hcut
    · exact .kept
  | created =>
    rw [lookup_insertIfNew]
    exact .kept
  | @dropped name =>
    by_cases h : CutBy k.spaces name space n
    · rw [(lookup_withoutSpace hk n).1 h]
      exact .swept rfl rfl h
    · rw [(lookup_withoutSpace hk n).2 h]
      exact .kept

end WorkloadNet.Kernel
