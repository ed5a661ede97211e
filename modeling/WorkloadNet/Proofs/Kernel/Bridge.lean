import WorkloadNet.Proofs.Kernel.Building

/-!
# Creating a bridge

A bridge that is created where its name is free ends configured, or its creation fails and what is
left is the kernel of before, the bridge half configured, or that kernel with the bridge deleted
again. Which of these depends on the injected failures; none of them touches another link.
-/

namespace WorkloadNet.Kernel

open WorkloadNet.Action

variable {k : Kernel} {name : String} {link : Link}

/-! ## Configuration and its undoing -/

/-- A bridge as the creation with an address leaves it. -/
def bridgeLink (address : Cidr) : Link :=
  { kind := .bridge, addresses := [address], state := .up, txOffloadOff := true }

/-- The kernel with one link without a pair more, some failures perhaps no longer pending. -/
structure Standing (k : Kernel) (name : String) (k' : Kernel) : Prop where
  current : k'.current = k.current
  pending : Spent k k'
  spaces : ∃ link : Link, link.peer = none ∧
    k'.spaces = k.spaces.modify k.current (withLink name link)

/-- What a failed creation of a bridge leaves of the kernel. -/
structure Residue (k : Kernel) (name : String) (k' : Kernel) : Prop where
  current : k'.current = k.current
  pending : Spent k k'
  spaces : k'.spaces = k.spaces ∨ ∃ link : Link, link.peer = none ∧
    (k'.spaces = k.spaces.modify k.current (withLink name link) ∨
      k'.spaces = removeLink k.current name (k.spaces.modify k.current (withLink name link)))

/-- A configuration that fails leaves the link that it was to configure. -/
theorem Touched.standing {k' : Kernel} (h : Touched name (k.update (withLink name link)) k')
    (hpeer : link.peer = none) : Standing k name k' := by
  obtain ⟨hcurrent, hpending, -, f, hf, hspaces⟩ := h
  refine ⟨hcurrent, ⟨hpending.subset, hpending.kept⟩, f link, (hf link).peer.trans hpeer, ?_⟩
  rw [hspaces]
  exact congrArg Kernel.spaces (update_withLink_withLinkChanged (k := k) f)

/-- Deleting a bridge that stands half configured. -/
theorem Standing.ends_deleteLink {k' : Kernel} (h : Standing k name k') :
    Ends (deleteLink name) k' (fun _ => Residue k name) (fun _ => Residue k name) := by
  obtain ⟨hcurrent, hpending, link, hpeer, hspaces⟩ := h
  refine Kernel.ends_deleteLink (fun _ => ?_) fun _ => ?_
  · exact ⟨hcurrent, hpending.trans (spent_spend KernelOp.noConfusion),
      Or.inr ⟨link, hpeer, Or.inl hspaces⟩⟩
  · refine ⟨hcurrent, ⟨hpending.subset, hpending.kept⟩, Or.inr ⟨link, hpeer, Or.inr ?_⟩⟩
    rw [← hspaces, ← hcurrent]

/-- Creating a bridge where its name is free. -/
theorem ends_createBridge {address : Cidr} (hcurrent : k.current ∈ k.spaces)
    (hfree : k.link? k.current name = none) :
    Ends (createBridgeWithAddress links name address true) k
      (fun _ k' => k' = k.update (withLink name (bridgeLink address)))
      (fun _ k' => Residue k name k') := by
  have hspent : ∀ op, op ≠ .deleteNamespace → Residue k name (k.spend op name) :=
    fun op hop => ⟨rfl, spent_spend hop, Or.inl rfl⟩
  refine ends_createBridgeWithAddress (hspent _ KernelOp.noConfusion)
    (hspent _ KernelOp.noConfusion) (fun _ => ?_) ?_ ?_
  · rw [settle_eq_self hcurrent]
    refine ends_orUndo (Ends.mono (ends_configure (link?_update_withLink hcurrent)) ?_
      fun _ _ h => h) ?_
    · rintro _ _ rfl
      exact update_withLink_withLinkChanged _
    · intro _ _ hinterrupted
      exact (hinterrupted.touched.standing rfl).ends_deleteLink
  · intro old hold
    cases hfree.symm.trans hold
  · intro old hold
    cases hfree.symm.trans hold

end WorkloadNet.Kernel
