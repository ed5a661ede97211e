import WorkloadNet.Proofs.Kernel.Growth
import WorkloadNet.Proofs.Network.Phases

/-!
# What a failed build takes from a namespace that was there before

When the namespace of a network exists before the build, a failure up to the creation of the veth
pair leaves everything in place. A later failure destroys the network, and with it the namespace and
every link in it, although the build did not make them: only a failure that strikes the deletion of
the namespace too saves them. `build_preserves_iff` is the exact condition.

Up to the cleanup every step lets the kernel grow (`Grows`), so the cleanup alone decides. It deletes
the host end and its partner, which are new, and then the namespace.
-/

namespace WorkloadNet.Network

open WorkloadNet.Action Kernel

variable {k k₁ k₂ : Kernel} {name : String}

/-- The namespace is still there, and so is every link of every namespace. -/
def Preserved (name : String) (k k' : Kernel) : Prop :=
  some name ∈ k'.spaces ∧ ∀ space n, (k.link? space n).isSome → (k'.link? space n).isSome

/-- What keeps a build with valid settings from deleting a namespace that was there before. -/
def Spared (name : String) (k : Kernel) : Prop :=
  (.createNamespace, name) ∈ k.pending ∨ (.addLink, hostLinkName name) ∈ k.pending ∨
    (k.link? k.current (hostLinkName name)).isSome ∨
    (k.link? (some name) (spaceLinkName name)).isSome ∨ (.deleteNamespace, name) ∈ k.pending

theorem Preserved.of_grows (hexists : some name ∈ k.spaces) (h : Grows k k₁) :
    Preserved name k k₁ := by
  refine ⟨h.spaces _ hexists, fun space n hsome => ?_⟩
  obtain ⟨link, hlink⟩ := Option.isSome_iff_exists.1 hsome
  obtain ⟨link', hlink', -⟩ := h.links space n link hlink
  rw [hlink']
  rfl

/-! ## Up to the cleanup -/

/-- The kernel has grown by a pair whose names were free. -/
structure PairAdded (k : Kernel) (name : String) (k' : Kernel) : Prop where
  grows : Grows k k'
  host_free : k.link? k.current (hostLinkName name) = none
  far_free : k.link? (some name) (spaceLinkName name) = none
  host : ∃ link, k'.link? k.current (hostLinkName name) = some link ∧
    link.peer = some (some name, spaceLinkName name)

theorem PairAdded.trans (h : PairAdded k name k₁) (h' : Grows k₁ k₂) : PairAdded k name k₂ := by
  obtain ⟨link, hlink, hpeer⟩ := h.host
  obtain ⟨link', hlink', hpeer'⟩ := h'.links _ _ link hlink
  exact ⟨h.grows.trans h', h.host_free, h.far_free, link', hlink', hpeer'.trans hpeer⟩

theorem hostLinkName_ne (name : String) : hostLinkName name ≠ spaceLinkName name := by
  intro h
  have hlength := congrArg String.length h
  simp only [hostLinkName, spaceLinkName, String.length_append, Nat.add_left_cancel_iff] at hlength
  exact absurd hlength (by decide)

/-- The two ends are added one after the other, each where its name is free. -/
theorem pairAdded_of_added {far near : Link} (hfree : k.link? k.current (hostLinkName name) = none)
    (hfarFree : k.link? (some name) (spaceLinkName name) = none)
    (hpeer : near.peer = some (some name, spaceLinkName name))
    (hk₁ : k₁ = { k.settle with
      spaces := k.settle.spaces.modify (some name) (withLink (spaceLinkName name) far) }) :
    PairAdded k name (k₁.update (withLink (hostLinkName name) near)) := by
  have hfar : Grows k.settle k₁ := by
    rw [hk₁]
    exact grows_withLink ((link?_settle _ _).trans hfarFree)
  have hcurrent : k₁.current = k.current := hfar.current
  have hk₁Free : k₁.link? k.current (hostLinkName name) = none := by
    rw [hk₁, link?_eq_lookup, lookup_withLink, if_neg, ← link?_eq_lookup, link?_settle, hfree]
    intro heq
    exact hostLinkName_ne name (Prod.mk.inj heq).2
  have hmem : k₁.current ∈ k₁.spaces := by
    rw [hcurrent]
    exact hfar.spaces _ Std.ExtTreeMap.mem_insertIfNew_self
  have hnear : Grows k₁ (k₁.update (withLink (hostLinkName name) near)) :=
    grows_withLink (by rw [hcurrent, hk₁Free])
  refine ⟨((grows_settle k).trans hfar).trans hnear, hfree, hfarFree, near, ?_, hpeer⟩
  rw [← hcurrent]
  exact link?_update_withLink hmem

section Steps

variable {p : NetworkPlan Kernel} (hlinks : p.links = links)

include hlinks

/-- Creating the pair when its namespace exists. -/
theorem ends_addVeth_existing (hexists : some p.name ∈ k.spaces) :
    Ends (addVeth p) k
      (fun _ k' => PairAdded k p.name k' ∧ (.addLink, hostLinkName p.name) ∉ k.pending)
      (fun _ k' => Grows k k' ∧ Spared p.name k) := by
  have hsettled : some p.name ∈ k.settle.spaces := (grows_settle k).spaces _ hexists
  unfold addVeth
  rw [hlinks]
  refine Ends.annotate (ends_addVeth ?_ ?_ ?_ ?_ ?_)
  · intro hpending
    exact ⟨grows_spend KernelOp.noConfusion, Or.inr (Or.inl hpending)⟩
  · intro htaken
    exact ⟨.refl k, Or.inr (Or.inr (Or.inl htaken))⟩
  · intro hmissing
    exact absurd hsettled hmissing
  · intro htaken
    exact ⟨grows_settle k, Or.inr (Or.inr (Or.inr (Or.inl htaken)))⟩
  · intro hcalm hfree hfarFree _
    exact ⟨pairAdded_of_added hfree hfarFree rfl rfl, hcalm⟩

/-- Whatever provisioning does, it takes nothing away. -/
theorem ends_provision_grows :
    Ends (provision namespaces p) k (fun _ => Grows k) (fun _ => Grows k) := by
  unfold provision
  dsimp only
  rw [hlinks]
  refine Ends.bind (Growing.annotate growing_setAddress k) fun _ k₁ h₁ => ?_
  refine Ends.bind ((Growing.annotate growing_bringUp).after h₁) fun _ k₂ h₂ => ?_
  refine Ends.mono (ends_within_grows fun hmem => ?_) (fun _ _ h => h₂.trans h)
    fun _ _ h => h₂.trans h
  unfold provisionInside
  rw [hlinks]
  refine Ends.bind (Ends.annotate (ends_createBridge_grows hmem)) fun _ k₃ h₃ => ?_
  refine Ends.bind ((Growing.annotate growing_bringUp).after h₃) fun _ k₄ h₄ => ?_
  refine Ends.bind ((Growing.annotate growing_setMaster).after h₄) fun _ k₅ h₅ => ?_
  exact (Growing.annotate growing_addDefaultRoute).after h₅

end Steps

/-! ## The cleanup -/

/-- Deleting the host end takes nothing but the new pair. -/
theorem PairAdded.lookup_removeLink (h : PairAdded k name k₁) {space : SpaceName} {n : String}
    (hsome : (k.link? space n).isSome) :
    (lookup (removeLink k₁.current (hostLinkName name) k₁.spaces) space n).isSome := by
  obtain ⟨link, hlink⟩ := Option.isSome_iff_exists.1 hsome
  obtain ⟨link₁, hlink₁, -⟩ := h.grows.links space n link hlink
  obtain ⟨host, hhost, hpeer⟩ := h.host
  have hhost : lookup k₁.spaces k.current (hostLinkName name) = some host := hhost
  have hnotHost : (space, n) ≠ (k.current, hostLinkName name) := by
    rintro ⟨⟩
    cases h.host_free.symm.trans hlink
  have hnotFar : (some name, spaceLinkName name) ≠ (space, n) := by
    rintro ⟨⟩
    cases h.far_free.symm.trans hlink
  rw [h.grows.current, Kernel.lookup_removeLink, hhost, Option.bind_some, hpeer, if_neg]
  · rw [← link?_eq_lookup, hlink₁]
    rfl
  · rintro (heq | heq)
    · exact hnotHost heq
    · exact hnotFar (Option.some.inj heq)

/-- The cleanup spares the namespace when its deletion fails, and only then. -/
theorem ends_release_existing (hexists : some name ∈ k.spaces) (h : PairAdded k name k₁) :
    Ends (release links namespaces name) k₁
      (fun _ k' => Preserved name k k' ↔ (.deleteNamespace, name) ∈ k.pending)
      (fun _ k' => Preserved name k k' ↔ (.deleteNamespace, name) ∈ k.pending) := by
  have hgrown : Preserved name k k₁ := .of_grows hexists h.grows
  refine ends_release (R := fun k' => Preserved name k k' ↔ (.deleteNamespace, name) ∈ k.pending)
    (M := fun k₂ => Preserved name k k₂ ∧ Spent k k₂) (ends_deleteLink ?_ ?_) ?_
  · intro _
    exact ⟨hgrown, h.grows.pending.trans (spent_spend KernelOp.noConfusion)⟩
  · intro _
    refine ⟨⟨mem_removeLink.2 hgrown.1, fun _ _ hsome => h.lookup_removeLink hsome⟩, ?_⟩
    exact ⟨h.grows.pending.subset, h.grows.pending.kept⟩
  · rintro k₂ ⟨hpreserved, hspent⟩
    refine ends_deleteSpace ?_ ?_ ?_
    · intro hpending
      exact iff_of_true hpreserved (hspent.subset hpending)
    · intro hmissing
      exact absurd hpreserved.1 hmissing
    · intro space hcalm _
      refine iff_of_false ?_ fun hpending => hcalm (hspent.kept name hpending)
      rintro ⟨hmem, -⟩
      have hmem := mem_removePeers.1 hmem
      simp at hmem

/-! ## The whole build -/

theorem ends_ofPlan_existing {p : NetworkPlan Kernel} (hlinks : p.links = links)
    (hexists : some p.name ∈ k.spaces) :
    Ends (ofPlan namespaces p) k (fun _ _ => True)
      (fun _ k' => Preserved p.name k k' ↔ Spared p.name k) := by
  refine ends_ofPlan (E := fun k' => Preserved p.name k k' ↔ Spared p.name k)
    (C := fun k₁ => k₁ = k ∧ (.createNamespace, p.name) ∉ k.pending)
    (A := fun k₁ => Grows k k₁ ∧ Spared p.name k)
    (V := fun k₁ => PairAdded k p.name k₁ ∧ (.createNamespace, p.name) ∉ k.pending ∧
      (.addLink, hostLinkName p.name) ∉ k.pending)
    (U := fun k₁ => PairAdded k p.name k₁ ∧ (.createNamespace, p.name) ∉ k.pending ∧
      (.addLink, hostLinkName p.name) ∉ k.pending) hlinks (ends_createSpace ?_ ?_) ?_ ?_ ?_ ?_
  · intro hpending
    exact iff_of_true (.of_grows hexists (grows_spend KernelOp.noConfusion)) (Or.inl hpending)
  · intro hcalm
    rw [Maps.insertIfNew_of_mem hexists]
    exact ⟨rfl, hcalm⟩
  · rintro _ ⟨rfl, hcreate⟩
    refine Ends.mono (ends_addVeth_existing hlinks hexists) ?_ fun _ _ h => h
    rintro _ k₂ ⟨hpair, hadd⟩
    exact ⟨hpair, hcreate, hadd⟩
  · rintro k₁ failure ⟨hgrows, hspared⟩
    rw [show k.spaces.contains (some p.name) = true from Std.ExtTreeMap.mem_iff_contains.1 hexists]
    exact ends_abandon_existing (R := fun k' => Preserved p.name k k' ↔ Spared p.name k)
      (iff_of_true (.of_grows hexists hgrows) hspared)
  · rintro k₁ ⟨hpair, hcalm⟩
    refine Ends.mono (ends_provision_grows hlinks) (fun _ _ _ => trivial) ?_
    intro _ k₂ hgrows
    exact ⟨hpair.trans hgrows, hcalm⟩
  · rintro k₁ ⟨hpair, hcreate, hadd⟩
    have hspared : Spared p.name k ↔ (.deleteNamespace, p.name) ∈ k.pending := by
      simp [Spared, hcreate, hadd, hpair.host_free, hpair.far_free]
    refine Ends.mono (ends_release_existing hexists hpair) ?_ ?_
    · intro _ _ h
      rw [h, hspared]
    · intro _ _ h
      rw [h, hspared]

/-- A failed build leaves a namespace that was there before, and every link of every namespace, exactly
when its settings are invalid or it is spared. -/
theorem build_preserves_iff (settings : Session.NetworkSettings) (k k' : Kernel) (failure : Failure)
    (hexists : some settings.name ∈ k.spaces)
    (hfails : (build namespaces settings.request).on k = (.error failure, k')) :
    Preserved settings.name k k' ↔
      (∃ fault, plan settings.request = .error fault) ∨ Spared settings.name k := by
  have hends : Ends (build namespaces settings.request) k (fun _ _ => True) (fun _ k' =>
      Preserved settings.name k k' ↔
        (∃ fault, plan settings.request = .error fault) ∨ Spared settings.name k) := by
    refine ends_build (E := fun k' => Preserved settings.name k k' ↔
      (∃ fault, plan settings.request = .error fault) ∨ Spared settings.name k) ?_ ?_
    · intro fault hfault
      exact iff_of_true (.of_grows hexists (.refl k)) (Or.inl ⟨fault, hfault⟩)
    · intro p hp
      have hname : p.name = settings.name := (plan_ok hp).1
      have hvalid : ¬ ∃ fault, plan settings.request = .error fault := by
        rintro ⟨fault, hfault⟩
        rw [hp] at hfault
        cases hfault
      rw [← hname] at hexists ⊢
      simpa only [hvalid, false_or] using ends_ofPlan_existing (links_of_plan_ok hp) hexists
  exact hends.of_error hfails

/-- A kernel that holds the namespace of the demonstration settings with a bridge in it. -/
def demoExisting : Kernel where
  spaces := initial.spaces.insert (some "vm1") { links := (∅ : Links).insert "br0" { kind := .bridge } }
  current := none
  pending := []

/-- The pair cannot be created: the build fails and leaves the namespace. -/
theorem build_preserves_iff_demo :
    ∃ failure k', (build namespaces demoSettings.request).on
        (demoExisting.failOnce .addLink "vm1-host") = (.error failure, k') ∧
      Preserved "vm1" (demoExisting.failOnce .addLink "vm1-host") k' := by
  rcases hon : (build namespaces demoSettings.request).on
    (demoExisting.failOnce .addLink "vm1-host") with ⟨failure | net, k'⟩
  · refine ⟨failure, k', rfl, ?_⟩
    refine (build_preserves_iff demoSettings _ k' failure (by decide +kernel) hon).2 (Or.inr ?_)
    exact Or.inr (Or.inl (by decide))
  · have hfails : ((build namespaces demoSettings.request).on
        (demoExisting.failOnce .addLink "vm1-host")).1.isOk = false := by
      decide +kernel
    rw [hon] at hfails
    cases hfails

/-- The address of the host end cannot be set: the build fails, and the namespace that it did not
create is gone with its bridge. -/
theorem build_destroys_existing :
    some "vm1" ∈ demoExisting.spaces ∧ demoExisting.link? (some "vm1") "br0" ≠ none ∧
      ∃ failure k', (build namespaces demoSettings.request).on
          (demoExisting.failOnce .setIp "vm1-host") = (.error failure, k') ∧
        some "vm1" ∉ k'.spaces ∧ k'.link? (some "vm1") "br0" = none := by
  refine ⟨by decide +kernel, by decide +kernel, ?_⟩
  have hgone : some "vm1" ∉ ((build namespaces demoSettings.request).on
        (demoExisting.failOnce .setIp "vm1-host")).2.spaces ∧
      ((build namespaces demoSettings.request).on
        (demoExisting.failOnce .setIp "vm1-host")).2.link? (some "vm1") "br0" = none := by
    decide +kernel
  have hfails : ((build namespaces demoSettings.request).on
      (demoExisting.failOnce .setIp "vm1-host")).1.isOk = false := by
    decide +kernel
  rcases hon : (build namespaces demoSettings.request).on
    (demoExisting.failOnce .setIp "vm1-host") with ⟨failure | net, k'⟩
  · rw [hon] at hgone
    exact ⟨failure, k', rfl, hgone⟩
  · rw [hon] at hfails
    cases hfails

end WorkloadNet.Network
