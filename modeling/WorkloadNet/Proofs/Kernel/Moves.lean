import Mathlib.Logic.Relation
import WorkloadNet.Proofs.Kernel.Effects

/-!
# The kernels that are reached

A move of a kernel is one event, however it ends. Every move keeps the links coupled and marked, so in
every kernel that is reached from the initial one exactly the veth ends have the other end of a pair on
record, and the other end names them in turn.
-/

namespace WorkloadNet.Kernel

open WorkloadNet.Action

variable {k k' : Kernel} {e : Event} {spaces' : Spaces} {α : Type}

/-- A move of a kernel: an operation on links or on namespaces, entering or leaving a namespace, or
the injection of a failure. -/
inductive Move : Kernel → Kernel → Prop
  | link (step : Session.LinkStep) (k : Kernel) : Move k ((step.run links).on k).2
  | space (step : Session.SpaceStep) (k : Kernel) : Move k ((step.run namespaces).on k).2
  | enter (name : String) (k : Kernel) : Move k ((namespaces.switch name).on k).2
  | leave (previous : SpaceName) (k : Kernel) : Move k (namespaces.restore previous k)
  | failing (op : KernelOp) (name : String) (k : Kernel) : Move k (k.failOnce op name)

/-- Any number of moves. -/
def Reaches : Kernel → Kernel → Prop := Relation.ReflTransGen Move

theorem spaces_switch (name : String) (k : Kernel) :
    ((namespaces.switch name).on k).2.spaces = k.spaces := by
  have hon : (namespaces.switch name).on k = (switch name).on k := rfl
  rw [hon, on_switch]
  split
  · rfl
  · split <;> rfl

/-- Entering a namespace that is there leads to a kernel that is reached. -/
theorem reaches_entered {name : String} (hcalm : (.enterNamespace, name) ∉ k.pending)
    (hspace : some name ∈ k.spaces) : Reaches k { k with current := some name } := by
  have hswitch : (namespaces.switch name).on k = (.ok k.current, { k with current := some name }) := by
    have hon : (namespaces.switch name).on k = (switch name).on k := rfl
    rw [hon, on_switch, if_neg hcalm, if_pos hspace]
  have hmove := Move.enter name k
  rw [hswitch] at hmove
  exact .single hmove

/-- So does an injected failure to enter one. -/
theorem reaches_refused {name : String} (hpending : (.enterNamespace, name) ∈ k.pending) :
    Reaches k (k.spend .enterNamespace name) := by
  have hswitch : (namespaces.switch name).on k =
      (.error (injected .enterNamespace name), k.spend .enterNamespace name) := by
    have hon : (namespaces.switch name).on k = (switch name).on k := rfl
    rw [hon, on_switch, if_pos hpending]
  have hmove := Move.enter name k
  rw [hswitch] at hmove
  exact .single hmove

/-- Every move has one of the effects of an event. -/
theorem Move.effect (h : Move k k') : ∃ e, Effect k e k'.spaces := by
  cases h with
  | link step => exact ⟨.link step, (affected_linkStep step k).1⟩
  | space step => exact ⟨.space step, (affected_spaceStep step k).1⟩
  | enter name =>
    refine ⟨.enter name, ?_⟩
    rw [spaces_switch]
    exact .same
  | leave previous => exact ⟨.leave, .same⟩
  | failing op name => exact ⟨.failing op name, .same⟩

/-! ## Links stay coupled -/

/-- No effect leaves a link whose other end does not name it. -/
theorem Effect.coupled (h : Effect k e spaces') (hk : Coupled k.spaces) : Coupled spaces' := by
  have hsettled : Coupled k.settle.spaces := hk.of_peers fun space n => by
    rw [peer?, settle, lookup_insertIfNew, peer?]
  cases h with
  | same => exact hk
  | settled => exact hsettled
  | edited hkind hpeer hmaster =>
    refine hk.of_peers fun other n => ?_
    unfold peer?
    rw [lookup_withLinkChanged]
    split
    · rename_i heq
      obtain ⟨rfl, rfl⟩ := Prod.mk.inj heq
      cases lookup k.spaces k.current n with
      | none => rfl
      | some link => exact hpeer link
    · rfl
  | routed hdevice =>
    refine hk.of_peers fun other n => ?_
    unfold peer?
    rw [lookup_modify_of_links]
    exact fun _ => rfl
  | added hkind hfree => exact coupled_withLink hsettled rfl ((link?_settle _ _).trans hfree)
  | paired hfree hfarFree hfar =>
    exact coupled_withPair hsettled Std.ExtTreeMap.mem_insertIfNew_self hfar
      ((link?_settle _ _).trans hfree) ((link?_settle _ _).trans hfarFree) rfl rfl
  | removed => exact coupled_removeLink hk
  | created =>
    refine hk.of_peers fun other n => ?_
    rw [peer?, lookup_insertIfNew, peer?]
  | dropped => exact coupled_withoutSpace hk

/-- An action after which the links are still coupled. -/
def Coupling {α : Type} (action : Action Kernel α) : Prop :=
  ∀ k : Kernel, Coupled k.spaces →
    Ends action k (fun _ k' => Coupled k'.spaces) (fun _ k' => Coupled k'.spaces)

theorem Coupling.state {action : Action Kernel α} (h : Coupling action) (hk : Coupled k.spaces) :
    Coupled (action.on k).2.spaces :=
  ends_state (P := fun k' : Kernel => Coupled k'.spaces) (h k hk)

/-- Every operation on links keeps them coupled. -/
theorem coupling_linkStep (step : Session.LinkStep) : Coupling (step.run links) := by
  intro k hk
  have hstate := (affected_linkStep step k).1.coupled hk
  exact Ends.of_on rfl (fun _ _ => hstate) fun _ _ => hstate

/-- Links stay coupled along every run. -/
theorem Reaches.coupled (h : Reaches k k') (hk : Coupled k.spaces) : Coupled k'.spaces := by
  induction h with
  | refl => exact hk
  | tail _ hmove ih =>
    obtain ⟨e, heffect⟩ := hmove.effect
    exact heffect.coupled ih

theorem lookup_initial (space : SpaceName) (n : String) : lookup initial.spaces space n = none := by
  unfold lookup initial
  rw [Std.ExtTreeMap.getElem?_insert]
  split <;> simp

theorem coupled_initial : Coupled initial.spaces := by
  intro space n far m hpeer
  rw [peer?_of_lookup_none (lookup_initial space n)] at hpeer
  cases hpeer

/-- In every kernel that is reached from the initial one the links are coupled. -/
theorem coupled_of_reaches (h : Reaches initial k) : Coupled k.spaces := h.coupled coupled_initial

/-! ## Links stay marked -/

/-- Exactly the veth ends have the other end of a pair on record. -/
def AllMarked (spaces : Spaces) : Prop :=
  ∀ space n link, lookup spaces space n = some link → Marked link

/-- No effect leaves a veth end without the other end on record, or another link with one. -/
theorem Effect.allMarked (h : Effect k e spaces') (hk : Coupled k.spaces) (hmarked : AllMarked k.spaces) :
    AllMarked spaces' := by
  intro space n link hlink
  have hfate := h.fate hk space n
  rw [hlink] at hfate
  generalize hold : lookup k.spaces space n = old at hfate
  cases hfate with
  | kept => exact hmarked space n link hold
  | altered hkind hpeer _ =>
    have hold := hmarked space n _ hold
    unfold Marked
    rwa [hkind, hpeer]
  | born hborn _ => exact hborn

/-- In every kernel that is reached, exactly the veth ends have another end on record. -/
theorem allMarked_of_reaches (h : Reaches initial k) : AllMarked k.spaces := by
  induction h with
  | refl =>
    intro space n link hlink
    rw [lookup_initial] at hlink
    cases hlink
  | tail hreach hmove ih =>
    obtain ⟨e, heffect⟩ := hmove.effect
    exact heffect.allMarked (coupled_of_reaches hreach) ih

end WorkloadNet.Kernel
