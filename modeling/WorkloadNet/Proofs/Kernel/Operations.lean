import WorkloadNet.Kernel.Namespaces
import WorkloadNet.Proofs.Action.Ends
import WorkloadNet.Proofs.Kernel.Maps

/-!
# What each kernel operation does

Every operation of a kernel in memory first takes the failure that is pending for it, and most then
act on a link of the current namespace. For each there is one rule here, in the form of `Ends`: what
has to be shown for the injected failure, for each failure of its own, and for its success. Proofs
about larger actions use these rules and never open an operation.
-/

namespace WorkloadNet.Kernel

open WorkloadNet.Action

variable {k : Kernel} {op : KernelOp} {name : String}

/-! ## Changes of a kernel -/

/-- What an injected failure of an operation reads. -/
def injected (op : KernelOp) (name : String) : Failure :=
  .kernel s!"{op.name} {name}" "injected failure"

/-- The kernel after a pending failure has struck. -/
def spend (op : KernelOp) (name : String) (k : Kernel) : Kernel :=
  { k with pending := k.pending.erase (op, name) }

/-- The kernel with its current namespace present. -/
def settle (k : Kernel) : Kernel := { k with spaces := k.spaces.insertIfNew k.current {} }

/-- The kernel with its current namespace changed. -/
def update (f : Space → Space) (k : Kernel) : Kernel :=
  { k with spaces := k.spaces.modify k.current f }

/-- A namespace with one of its links changed. -/
def withLinkChanged (name : String) (f : Link → Link) (space : Space) : Space :=
  { space with links := space.links.modify name f }

/-- An address more for a link, unless it carries the address already. -/
def assign (address : Cidr) (link : Link) : Link :=
  if address ∈ link.addresses then link
  else { link with addresses := link.addresses ++ [address] }

theorem settle_eq_self (h : k.current ∈ k.spaces) : k.settle = k := by
  rw [settle, Maps.insertIfNew_of_mem h]

@[simp] theorem link?_settle (space : SpaceName) (name : String) :
    k.settle.link? space name = k.link? space name := by
  simp only [link?, settle, Std.ExtTreeMap.getElem?_insertIfNew]
  split
  · rename_i h
    obtain ⟨h, hmissing⟩ := h
    obtain rfl := Std.LawfulEqOrd.eq_of_compare h
    rw [Std.ExtTreeMap.getElem?_eq_none hmissing]
    simp
  · rfl

theorem current_mem_of_link? {link : Link} (h : k.link? k.current name = some link) :
    k.current ∈ k.spaces := by
  rw [Std.ExtTreeMap.mem_iff_isSome_getElem?]
  cases hspace : k.spaces[k.current]? with
  | none => simp [link?, hspace] at h
  | some space => rfl

/-- Failures may have struck, but none of those that wait for the deletion of a namespace. -/
structure Spent (k k' : Kernel) : Prop where
  subset : k'.pending ⊆ k.pending
  kept : ∀ space, (.deleteNamespace, space) ∈ k.pending → (.deleteNamespace, space) ∈ k'.pending

theorem Spent.refl (k : Kernel) : Spent k k := ⟨fun _ h => h, fun _ h => h⟩

theorem Spent.trans {k₁ k₂ : Kernel} (h : Spent k k₁) (h' : Spent k₁ k₂) : Spent k k₂ :=
  ⟨fun _ hmem => h.subset (h'.subset hmem), fun space hmem => h'.kept space (h.kept space hmem)⟩

theorem spent_spend (hop : op ≠ .deleteNamespace) : Spent k (k.spend op name) := by
  refine ⟨List.erase_subset, fun space hmem => ?_⟩
  refine (List.mem_erase_of_ne ?_).2 hmem
  intro heq
  exact hop (congrArg Prod.fst heq).symm

/-! ## Parts of operations -/

theorem on_takeFailure (k : Kernel) (op : KernelOp) (name : String) :
    (takeFailure op name).on k =
      if (op, name) ∈ k.pending then (.error (injected op name), k.spend op name)
      else (.ok (), k) := rfl

theorem on_here (k : Kernel) : here.on k = (.ok ((k.spaces[k.current]?).getD {}), k.settle) := by
  unfold here
  rw [on_of]
  cases h : k.spaces[k.current]? with
  | some space =>
    have hmem : k.current ∈ k.spaces := Std.ExtTreeMap.mem_iff_isSome_getElem?.2 (by simp [h])
    simp [settle_eq_self hmem]
  | none =>
    have hmissing : k.current ∉ k.spaces := by
      simp [Std.ExtTreeMap.mem_iff_isSome_getElem?, h]
    simp [settle, Maps.insertIfNew_of_not_mem hmissing]

/-- The links of the current namespace, empty when it is missing. -/
theorem getElem?_links_current (k : Kernel) (name : String) :
    ((k.spaces[k.current]?).getD {}).links[name]? = k.link? k.current name := by
  unfold link?
  cases k.spaces[k.current]? <;> simp

theorem mem_links_current (k : Kernel) (name : String) :
    name ∈ ((k.spaces[k.current]?).getD {}).links ↔ (k.link? k.current name).isSome := by
  rw [Std.ExtTreeMap.mem_iff_isSome_getElem?, getElem?_links_current]

theorem on_link (k : Kernel) (name : String) :
    (link name).on k =
      match k.link? k.current name with
      | some link => (.ok link, k)
      | none => (.error (.notFound "link" name), k.settle) := by
  unfold link
  rw [on_bind, on_here]
  simp only [getElem?_links_current]
  cases h : k.link? k.current name with
  | some link => simp [settle_eq_self (current_mem_of_link? h)]
  | none => simp

theorem on_editLink (k : Kernel) (name : String) (f : Link → Link) :
    (editLink name f).on k =
      match k.link? k.current name with
      | some _ => (.ok (), k.update (withLinkChanged name f))
      | none => (.error (.notFound "link" name), k.settle) := by
  unfold editLink
  rw [on_bind, on_link]
  cases k.link? k.current name <;> rfl

/-- The far end goes into the named namespace, or beside the near end if none is named; the namespace
has to exist and to have the name free. -/
theorem on_addPeer (k : Kernel) (near : SpaceName) (name peer : String) (space : SpaceName) :
    (addPeer near name peer space).on k =
      if space.or near ∉ k.spaces then (.error (.notFound "namespace" (space.getD "")), k)
      else if (k.link? (space.or near) peer).isSome then (.error (.alreadyExists "link" peer), k)
      else
        let far : Link := { kind := .veth name near, peer := some (near, name) }
        (.ok (space.or near, peer),
          { k with spaces := k.spaces.modify (space.or near) (withLink peer far) }) := by
  unfold addPeer
  rw [on_of]
  generalize space.or near = far
  dsimp only
  by_cases hspace : far ∈ k.spaces
  · have hget : k.spaces[far]? = some k.spaces[far] :=
      Std.ExtTreeMap.getElem?_eq_some_getElem hspace
    have hlink : k.link? far peer = k.spaces[far].links[peer]? := by simp [link?, hget]
    rw [if_neg (Decidable.not_not.2 hspace), hlink, hget]
    by_cases hpeer : peer ∈ k.spaces[far].links <;> simp [hpeer]
  · rw [if_pos hspace, Std.ExtTreeMap.getElem?_eq_none hspace]

theorem on_switch (k : Kernel) (name : String) :
    (switch name).on k =
      if (.enterNamespace, name) ∈ k.pending then
        (.error (injected .enterNamespace name), k.spend .enterNamespace name)
      else if some name ∈ k.spaces then (.ok k.current, { k with current := some name })
      else (.error (.notFound "namespace" name), k) := by
  unfold switch
  simp only [on_bind, on_takeFailure]
  by_cases hpending : (.enterNamespace, name) ∈ k.pending
  · simp [hpending]
  · by_cases hmem : some name ∈ k.spaces <;> simp [hpending, hmem, on_map, on_bind, Except.map]

/-! ## Operations on links -/

section Links

variable {β : Type} {R : β → Kernel → Prop} {Q : Unit → Kernel → Prop} {E : Failure → Kernel → Prop}

/-- An operation fails as injected, or goes on as if there were no injection. -/
theorem ends_guarded {rest : Unit → Action Kernel β}
    (hinjected : (op, name) ∈ k.pending → E (injected op name) (k.spend op name))
    (hrest : (op, name) ∉ k.pending → Ends (rest ()) k R E) :
    Ends (takeFailure op name >>= rest) k R E := by
  unfold Ends
  rw [on_bind, on_takeFailure]
  by_cases h : (op, name) ∈ k.pending
  · simpa only [h, if_true] using hinjected h
  · simpa only [h, if_false, Ends] using hrest h

/-- The rule of every operation that changes one link and nothing else. -/
theorem ends_edit {f : Link → Link}
    (hinjected : (op, name) ∈ k.pending → E (injected op name) (k.spend op name))
    (hmissing : k.link? k.current name = none → E (.notFound "link" name) k.settle)
    (hok : ∀ link, (op, name) ∉ k.pending → k.link? k.current name = some link →
      Q () (k.update (withLinkChanged name f))) :
    Ends (do takeFailure op name; editLink name f) k Q E := by
  refine ends_guarded hinjected fun hcalm => ?_
  unfold Ends
  rw [on_editLink]
  cases h : k.link? k.current name with
  | some link => exact hok link hcalm h
  | none => exact hmissing h

theorem ends_hasAddress {address : Cidr} {R : Bool → Kernel → Prop}
    (hinjected : (.hasIp, name) ∈ k.pending → E (injected .hasIp name) (k.spend .hasIp name))
    (hmissing : k.link? k.current name = none → E (.notFound "link" name) k.settle)
    (hok : ∀ link, (.hasIp, name) ∉ k.pending → k.link? k.current name = some link →
      R (decide (address ∈ link.addresses)) k) :
    Ends (hasAddress name address) k R E := by
  refine ends_guarded hinjected fun hcalm => ?_
  unfold Ends
  rw [on_bind, on_link]
  cases h : k.link? k.current name with
  | some link => exact hok link hcalm h
  | none => exact hmissing h

/-- The master has to be a bridge; only then is the link itself looked for. -/
theorem ends_setMaster {master : String}
    (hinjected : (.setMaster, name) ∈ k.pending →
      E (injected .setMaster name) (k.spend .setMaster name))
    (hnoMaster : k.link? k.current master = none → E (.notFound "link" master) k.settle)
    (hnoBridge : ∀ bridge, k.link? k.current master = some bridge → bridge.kind ≠ .bridge →
      E (.kernel s!"set master of {name}" s!"{master} is not a bridge") k)
    (hmissing : k.link? k.current name = none → E (.notFound "link" name) k.settle)
    (hok : ∀ bridge link, (.setMaster, name) ∉ k.pending →
      k.link? k.current master = some bridge → bridge.kind = .bridge →
      k.link? k.current name = some link →
      Q () (k.update (withLinkChanged name fun link => { link with master := some master }))) :
    Ends (setMaster name master) k Q E := by
  refine ends_guarded hinjected fun hcalm => ?_
  unfold Ends
  rw [on_bind, on_here]
  simp only [getElem?_links_current]
  cases hmaster : k.link? k.current master with
  | none => exact hnoMaster hmaster
  | some bridge =>
    have hsettled : k.settle = k := settle_eq_self (current_mem_of_link? hmaster)
    by_cases hkind : bridge.kind = .bridge
    · simp only [hkind, ne_eq, not_true, if_false, hsettled]
      rw [on_editLink]
      cases hlink : k.link? k.current name with
      | some link => exact hok bridge link hcalm hmaster hkind hlink
      | none => exact hmissing hlink
    · simp only [hkind, ne_eq, not_false_eq_true, if_true, hsettled]
      exact hnoBridge bridge hmaster hkind

theorem ends_addDefaultRoute {gateway : V4}
    (hinjected : (.addDefaultRoute, name) ∈ k.pending →
      E (injected .addDefaultRoute name) (k.spend .addDefaultRoute name))
    (hmissing : k.link? k.current name = none → E (.notFound "link" name) k.settle)
    (hrouted : (k.route? k.current).isSome → E (.alreadyExists "route" "default") k)
    (hok : ∀ link, (.addDefaultRoute, name) ∉ k.pending → k.link? k.current name = some link →
      k.route? k.current = none →
      Q () (k.update fun space => { space with defaultRoute := some (name, gateway) })) :
    Ends (addDefaultRoute name gateway) k Q E := by
  refine ends_guarded hinjected fun hcalm => ?_
  unfold Ends
  rw [on_bind, on_link]
  cases hlink : k.link? k.current name with
  | none => exact hmissing hlink
  | some link =>
    have hroute : ((k.spaces[k.current]?).getD {}).defaultRoute = k.route? k.current := by
      unfold route?
      cases k.spaces[k.current]? <;> rfl
    simp only [on_bind, on_here, hroute, settle_eq_self (current_mem_of_link? hlink)]
    cases hnone : k.route? k.current with
    | none => exact hok link hcalm hlink hnone
    | some route => exact hrouted (by simp [hnone])

/-- A link that is not one end of a pair. -/
theorem ends_addLink {kind : LinkKind} (hkind : ∀ peer space, kind ≠ .veth peer space)
    (hinjected : (.addLink, name) ∈ k.pending → E (injected .addLink name) (k.spend .addLink name))
    (htaken : (k.link? k.current name).isSome → E (.alreadyExists "link" name) k)
    (hok : (.addLink, name) ∉ k.pending → k.link? k.current name = none →
      Q () (k.settle.update (withLink name { kind }))) :
    Ends (addLink name kind) k Q E := by
  refine ends_guarded hinjected fun hcalm => ?_
  unfold Ends
  simp only [on_bind, on_here, mem_links_current, on_ite, on_fail]
  by_cases htaken' : (k.link? k.current name).isSome
  · obtain ⟨link, hlink⟩ := Option.isSome_iff_exists.1 htaken'
    simpa [hlink, settle_eq_self (current_mem_of_link? hlink)] using htaken htaken'
  · have hfree : k.link? k.current name = none := by simpa using htaken'
    rw [if_neg htaken']
    cases kind with
    | veth peer space => exact absurd rfl (hkind peer space)
    | bridge => exact hok hcalm hfree
    | tap => exact hok hcalm hfree

/-- The near end of a pair, whose far end goes into the named namespace or beside it. -/
theorem ends_addVeth {peer : String} {space : SpaceName}
    (hinjected : (.addLink, name) ∈ k.pending → E (injected .addLink name) (k.spend .addLink name))
    (htaken : (k.link? k.current name).isSome → E (.alreadyExists "link" name) k)
    (hnoSpace : space.or k.current ∉ k.settle.spaces →
      E (.notFound "namespace" (space.getD "")) k.settle)
    (hpeerTaken : (k.link? (space.or k.current) peer).isSome →
      E (.alreadyExists "link" peer) k.settle)
    (hok : (.addLink, name) ∉ k.pending → k.link? k.current name = none →
      k.link? (space.or k.current) peer = none → space.or k.current ∈ k.settle.spaces →
      let far : Link := { kind := .veth name k.current, peer := some (k.current, name) }
      let near : Link := { kind := .veth peer space, peer := some (space.or k.current, peer) }
      Q () (update (withLink name near) { k.settle with
        spaces := k.settle.spaces.modify (space.or k.current) (withLink peer far) })) :
    Ends (addLink name (.veth peer space)) k Q E := by
  refine ends_guarded hinjected fun hcalm => ?_
  unfold Ends
  simp only [on_bind, on_here, mem_links_current, on_ite, on_fail, on_get]
  by_cases htaken' : (k.link? k.current name).isSome
  · obtain ⟨link, hlink⟩ := Option.isSome_iff_exists.1 htaken'
    simpa [hlink, settle_eq_self (current_mem_of_link? hlink)] using htaken htaken'
  · have hfree : k.link? k.current name = none := by simpa using htaken'
    have hcurrent : k.settle.current = k.current := rfl
    rw [if_neg htaken', hcurrent, on_addPeer, link?_settle]
    by_cases hspace : space.or k.current ∈ k.settle.spaces
    · by_cases hpeer : (k.link? (space.or k.current) peer).isSome
      · simpa [hspace, hpeer] using hpeerTaken hpeer
      · have hpeerFree : k.link? (space.or k.current) peer = none := by simpa using hpeer
        rw [if_neg (Decidable.not_not.2 hspace), if_neg hpeer]
        exact hok hcalm hfree hpeerFree hspace
    · rw [if_pos hspace]
      exact hnoSpace hspace

theorem ends_deleteLink
    (hinjected : (.deleteLink, name) ∈ k.pending →
      E (injected .deleteLink name) (k.spend .deleteLink name))
    (hok : (.deleteLink, name) ∉ k.pending →
      Q () { k with spaces := removeLink k.current name k.spaces }) :
    Ends (deleteLink name) k Q E :=
  ends_guarded hinjected hok

end Links

/-! ## Operations on namespaces -/

section Spaces

variable {β : Type} {R : β → Kernel → Prop} {Q : Unit → Kernel → Prop} {E : Failure → Kernel → Prop}

theorem ends_createSpace
    (hinjected : (.createNamespace, name) ∈ k.pending →
      E (injected .createNamespace name) (k.spend .createNamespace name))
    (hok : (.createNamespace, name) ∉ k.pending →
      Q () { k with spaces := k.spaces.insertIfNew (some name) {} }) :
    Ends (createSpace name) k Q E :=
  ends_guarded hinjected hok

theorem ends_deleteSpace
    (hinjected : (.deleteNamespace, name) ∈ k.pending →
      E (injected .deleteNamespace name) (k.spend .deleteNamespace name))
    (hmissing : some name ∉ k.spaces → Q () k)
    (hok : ∀ space, (.deleteNamespace, name) ∉ k.pending →
      k.spaces[(some name : SpaceName)]? = some space →
      Q () { k with spaces := removePeers space.links.values (k.spaces.erase (some name)) }) :
    Ends (deleteSpace name) k Q E := by
  refine ends_guarded hinjected fun hcalm => ?_
  unfold Ends
  rw [on_modify]
  cases hspace : k.spaces[(some name : SpaceName)]? with
  | none =>
    refine hmissing ?_
    rw [Std.ExtTreeMap.mem_iff_isSome_getElem?, hspace]
    simp
  | some space => exact hok space hcalm hspace

/-- A body that runs inside a namespace starts and ends in it; before and after, the current
namespace is the one of the caller. -/
theorem ends_within {body : Action Kernel β}
    (hinjected : (.enterNamespace, name) ∈ k.pending →
      E (injected .enterNamespace name) (k.spend .enterNamespace name))
    (hmissing : some name ∉ k.spaces → E (.notFound "namespace" name) k)
    (hbody : (.enterNamespace, name) ∉ k.pending → some name ∈ k.spaces →
      Ends body { k with current := some name }
        (fun b k' => R b { k' with current := k.current })
        fun failure k' => E failure { k' with current := k.current }) :
    Ends (namespaces.within name body) k R E := by
  unfold Ends NamespaceManager.within
  simp only [namespaces, on_of, on_switch]
  by_cases hpending : (.enterNamespace, name) ∈ k.pending
  · simpa [hpending] using hinjected hpending
  · by_cases hmem : some name ∈ k.spaces
    · have hends := hbody hpending hmem
      unfold Ends at hends
      simp only [hpending, hmem, if_true, if_false]
      rcases hon : body.on { k with current := some name } with ⟨result, k'⟩
      rw [hon] at hends
      cases result <;> exact hends
    · simpa [hpending, hmem] using hmissing hmem

end Spaces

end WorkloadNet.Kernel
