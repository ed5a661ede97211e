import WorkloadNet.Proofs.Kernel.Bridge

/-!
# Actions that take nothing away

`Grows k k'` says that no namespace and no link of `k` is missing from `k'`, that each link is still
paired as it was, and that the current namespace is the same. Every operation but the deletions lets
the kernel grow, whether it fails or not; so does the creation of a bridge, although it may delete
the bridge again.
-/

namespace WorkloadNet.Kernel

open WorkloadNet.Action

variable {k k₁ k₂ : Kernel} {op : KernelOp} {name : String}

/-- Nothing of the first kernel is missing from the second. -/
structure Grows (k k' : Kernel) : Prop where
  current : k'.current = k.current
  pending : Spent k k'
  spaces : ∀ space, space ∈ k.spaces → space ∈ k'.spaces
  links : ∀ space n link, k.link? space n = some link →
    ∃ link', k'.link? space n = some link' ∧ link'.peer = link.peer

theorem Grows.refl (k : Kernel) : Grows k k :=
  ⟨rfl, .refl k, fun _ h => h, fun _ _ link h => ⟨link, h, rfl⟩⟩

/-- What grew twice has grown. -/
theorem Grows.trans (h : Grows k k₁) (h' : Grows k₁ k₂) : Grows k k₂ := by
  refine ⟨h'.current.trans h.current, h.pending.trans h'.pending,
    fun space hmem => h'.spaces space (h.spaces space hmem), fun space n link hlink => ?_⟩
  obtain ⟨link₁, hlink₁, hpeer₁⟩ := h.links space n link hlink
  obtain ⟨link₂, hlink₂, hpeer₂⟩ := h'.links space n link₁ hlink₁
  exact ⟨link₂, hlink₂, hpeer₂.trans hpeer₁⟩

theorem grows_spend (hop : op ≠ .deleteNamespace) : Grows k (k.spend op name) :=
  ⟨rfl, spent_spend hop, fun _ h => h, fun _ _ link h => ⟨link, h, rfl⟩⟩

theorem grows_settle (k : Kernel) : Grows k k.settle := by
  refine ⟨rfl, ⟨fun _ h => h, fun _ h => h⟩, fun space hmem => ?_,
    fun space n link hlink => ⟨link, ?_, rfl⟩⟩
  · exact Std.ExtTreeMap.mem_insertIfNew.2 (Or.inr hmem)
  · rw [link?_settle, hlink]

/-- A namespace is changed in which every link stays, paired as it was. -/
theorem grows_modify {space : SpaceName} {f : Space → Space}
    (hf : ∀ s, k.spaces[space]? = some s → ∀ (n : String) (link : Link),
      s.links[n]? = some link → ∃ link' : Link, (f s).links[n]? = some link' ∧
        link'.peer = link.peer) :
    Grows k { k with spaces := k.spaces.modify space f } := by
  refine ⟨rfl, ⟨fun _ h => h, fun _ h => h⟩, fun other hmem => ?_, fun other n link hlink => ?_⟩
  · exact Std.ExtTreeMap.mem_modify.2 hmem
  · by_cases hother : space = other
    · subst hother
      obtain ⟨s, hs, hn⟩ := Option.bind_eq_some_iff.1 hlink
      obtain ⟨link', hlink', hpeer⟩ := hf s hs n link hn
      refine ⟨link', ?_, hpeer⟩
      simp [link?, Std.ExtTreeMap.getElem?_modify_self, hs, hlink']
    · refine ⟨link, ?_, rfl⟩
      rw [link?, Maps.getElem?_modify_of_ne hother]
      exact hlink

/-- A link is added where its name is free. -/
theorem grows_withLink {space : SpaceName} {link : Link} (hfree : k.link? space name = none) :
    Grows k { k with spaces := k.spaces.modify space (withLink name link) } := by
  refine grows_modify fun s hs n old hold => ⟨old, ?_, rfl⟩
  have hne : name ≠ n := by
    rintro rfl
    rw [link?, hs, Option.bind_some, hold] at hfree
    cases hfree
  rw [withLink, Maps.getElem?_insert_of_ne hne]
  exact hold

theorem grows_withLinkChanged {f : Link → Link} (hf : ∀ link, (f link).peer = link.peer) :
    Grows k (k.update (withLinkChanged name f)) := by
  refine grows_modify fun s _ n link hlink => ?_
  by_cases hn : name = n
  · subst hn
    refine ⟨f link, ?_, hf link⟩
    rw [withLinkChanged, Std.ExtTreeMap.getElem?_modify_self, hlink, Option.map_some]
  · refine ⟨link, ?_, rfl⟩
    rw [withLinkChanged, Maps.getElem?_modify_of_ne hn]
    exact hlink

/-- What is left of a bridge where its name was free is not in the way of anything else. -/
theorem grows_of_residue (hfree : k.link? k.current name = none) (h : Residue k name k₁) :
    Grows k k₁ := by
  obtain ⟨hcurrent, hpending, hspaces | ⟨link, hpeer, hspaces | hspaces⟩⟩ := h
  · refine ⟨hcurrent, hpending, fun _ hmem => ?_, fun _ _ old hold => ⟨old, ?_, rfl⟩⟩
    · rwa [hspaces]
    · rwa [link?, hspaces]
  · have hgrows : Grows k { k with spaces := k.spaces.modify k.current (withLink name link) } :=
      grows_withLink hfree
    refine ⟨hcurrent, hpending, fun space hmem => ?_, fun space n old hold => ?_⟩
    · rw [hspaces]
      exact hgrows.spaces space hmem
    · rw [link?, hspaces]
      exact hgrows.links space n old hold
  · have hgrows : Grows k { k with spaces := k.spaces.modify k.current (withLink name link) } :=
      grows_withLink hfree
    refine ⟨hcurrent, hpending, fun space hmem => ?_, fun space n old hold => ?_⟩
    · rw [hspaces]
      exact mem_removeLink.2 (hgrows.spaces space hmem)
    · have hunpaired : (lookup (k.spaces.modify k.current (withLink name link)) k.current name).bind
          Link.peer = none := by
        rw [lookup_withLink, if_pos rfl]
        cases k.spaces[k.current]? with
        | none => rfl
        | some _ => exact hpeer
      have hne : (space, n) ≠ (k.current, name) := by
        rintro ⟨⟩
        cases hfree.symm.trans hold
      rw [link?_eq_lookup, hspaces, lookup_removeLink, hunpaired, if_neg (by simp [hne])]
      exact hgrows.links space n old hold

/-! ## Actions -/

section Actions

variable {α β : Type}

/-- An action that takes nothing away, whichever way it ends. -/
def Growing (action : Action Kernel α) : Prop :=
  ∀ k, Ends action k (fun _ => Grows k) (fun _ => Grows k)

theorem Growing.after {action : Action Kernel α} (h : Growing action) (hk : Grows k k₁) :
    Ends action k₁ (fun _ => Grows k) (fun _ => Grows k) :=
  Ends.mono (h k₁) (fun _ _ h₁ => hk.trans h₁) (fun _ _ h₁ => hk.trans h₁)

/-- Two actions that take nothing away take nothing away one after the other. -/
theorem Growing.bind {action : Action Kernel α} {next : α → Action Kernel β} (h : Growing action)
    (hnext : ∀ a, Growing (next a)) : Growing (action >>= next) := fun k =>
  Ends.bind (h k) fun a _ hk => (hnext a).after hk

theorem Growing.annotate {action : Action Kernel α} {step : String} (h : Growing action) :
    Growing (action.annotate step) := fun k => Ends.annotate (h k)

/-- The rule of every operation that changes one link and not its pairing. -/
theorem growing_edit {f : Link → Link} (hop : op ≠ .deleteNamespace)
    (hf : ∀ link, (f link).peer = link.peer) : Growing (do takeFailure op name; editLink name f) :=
  fun k => ends_edit (fun _ => grows_spend hop) (fun _ => grows_settle k)
    fun _ _ _ => grows_withLinkChanged hf

theorem growing_setAddress {address : Cidr} : Growing (setAddress name address) := by
  refine growing_edit KernelOp.noConfusion fun link => ?_
  split <;> rfl

theorem growing_bringUp : Growing (bringUp name) :=
  growing_edit KernelOp.noConfusion fun _ => rfl

theorem growing_disableTxOffload : Growing (disableTxOffload name) :=
  growing_edit KernelOp.noConfusion fun _ => rfl

/-- Attaching a link to a bridge takes nothing away. -/
theorem growing_setMaster {master : String} : Growing (setMaster name master) := fun k =>
  ends_setMaster (fun _ => grows_spend KernelOp.noConfusion) (fun _ => grows_settle k)
    (fun _ _ _ => .refl k) (fun _ => grows_settle k)
    fun _ _ _ _ _ _ => grows_withLinkChanged fun _ => rfl

theorem growing_addDefaultRoute {gateway : V4} : Growing (addDefaultRoute name gateway) := by
  intro k
  refine ends_addDefaultRoute (fun _ => grows_spend KernelOp.noConfusion) (fun _ => grows_settle k)
    (fun _ => .refl k) fun _ _ _ _ => grows_modify fun s _ n link hlink => ⟨link, hlink, rfl⟩

/-- Neither does configuring a bridge. -/
theorem growing_configureBridgeLink {address : Cidr} {off : Bool} :
    Growing (configureBridgeLink links name address off) := by
  unfold configureBridgeLink
  refine Growing.bind (Growing.annotate growing_setAddress) fun _ => ?_
  refine Growing.bind (Growing.annotate growing_bringUp) fun _ => ?_
  split
  · exact Growing.annotate growing_disableTxOffload
  · exact fun k => ends_pure (.refl k)

/-- A bridge that exists is configured and never deleted; a new one is deleted again at most. -/
theorem ends_createBridge_grows {address : Cidr} (hcurrent : k.current ∈ k.spaces) :
    Ends (createBridgeWithAddress links name address true) k (fun _ => Grows k)
      (fun _ => Grows k) := by
  by_cases hfree : k.link? k.current name = none
  · refine Ends.mono (ends_createBridge hcurrent hfree) ?_ fun _ _ => grows_of_residue hfree
    rintro _ _ rfl
    exact grows_withLink hfree
  · exact ends_createBridgeWithAddress (grows_spend KernelOp.noConfusion)
      (grows_spend KernelOp.noConfusion) (fun hnone => absurd hnone hfree)
      (fun _ _ _ => growing_configureBridgeLink k) fun _ _ _ => .refl k

/-- A body that takes nothing away inside a namespace takes nothing away at all. -/
theorem ends_within_grows {body : Action Kernel α}
    (hbody : some name ∈ k.spaces → Ends body { k with current := some name }
      (fun _ => Grows { k with current := some name })
      (fun _ => Grows { k with current := some name })) :
    Ends (namespaces.within name body) k (fun _ => Grows k) (fun _ => Grows k) := by
  have hback : ∀ k', Grows { k with current := some name } k' →
      Grows k { k' with current := k.current } :=
    fun k' h => ⟨rfl, ⟨h.pending.subset, h.pending.kept⟩, h.spaces, h.links⟩
  refine ends_within (fun _ => grows_spend KernelOp.noConfusion) (fun _ => .refl k) fun _ hmem => ?_
  exact Ends.mono (hbody hmem) (fun _ => hback) (fun _ => hback)

end Actions

end WorkloadNet.Kernel
