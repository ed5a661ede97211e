import WorkloadNet.Proofs.Network.Wiring

/-!
# A build adds a network or nothing

Where its namespace is new, a build that ends with a network has added exactly that network, and a
build that fails has left every namespace, link and default route as it was.

The invariant of the provisioning is `PartlyWired`: the kernel is the one before the call with a host
end and an inside that are paired with each other. The cleanup deletes the host end first, which
takes the end inside with it; when that deletion fails, deleting the namespace takes the host end.
-/

namespace WorkloadNet.Network

open WorkloadNet.Action Kernel

variable {k : Kernel} {name : String} {host : Link} {inside : Space}

/-! ## Provisioning -/

/-- What every failure of the provisioning leaves. -/
structure PartlyWired (k : Kernel) (name : String) (k' : Kernel) : Prop where
  current : k'.current = k.current
  pending : k'.pending ⊆ k.pending
  spaces : ∃ host inside, Paired name k.current host inside ∧
    k'.spaces = (wire name host inside k).spaces

/-- A failure that changes no namespace. -/
theorem PartlyWired.of_spaces {k' : Kernel} (hpaired : Paired name k.current host inside)
    (hcurrent : k'.current = k.current) (hpending : k'.pending ⊆ k.pending)
    (hspaces : k'.spaces = (wire name host inside k).spaces) : PartlyWired k name k' :=
  ⟨hcurrent, hpending, host, inside, hpaired, hspaces⟩

/-- A step that changes the host end, not its pairing. -/
theorem ends_host_step {op : KernelOp} {step : String} {f : Link → Link}
    (hcurrent : k.current ∈ k.spaces) (hpaired : Paired name k.current host inside) :
    Ends ((do takeFailure op (hostLinkName name); editLink (hostLinkName name) f :
        Action Kernel Unit).annotate step) (wire name host inside k)
      (fun _ k' => k' = wire name (f host) inside k) (fun _ => PartlyWired k name) := by
  have hlink : (wire name host inside k).link? k.current (hostLinkName name) = some host :=
    link?_wire_host hcurrent
  refine Ends.annotate (ends_edit ?_ ?_ ?_)
  · intro _
    exact .of_spaces hpaired rfl List.erase_subset rfl
  · intro hmissing
    cases hlink.symm.trans hmissing
  · intro _ _ _
    exact update_wire_host f

section Inside

variable (hcurrent : k.current ∈ k.spaces) (hnew : some name ∉ k.spaces)
variable (hpaired : Paired name k.current host inside)

include hcurrent hnew hpaired

/-- A step that changes a link inside, not its pairing. -/
theorem ends_inside_step {op : KernelOp} {step n : String} {f : Link → Link} {link : Link}
    (hlink : inside.links[n]? = some link) (hf : ∀ link, (f link).peer = link.peer) :
    Ends ((do takeFailure op n; editLink n f : Action Kernel Unit).annotate step)
      (entered name (wire name host inside k))
      (fun _ k' => k' = entered name (wire name host (withLinkChanged n f inside) k) ∧
        Paired name k.current host (withLinkChanged n f inside))
      (fun _ k' => PartlyWired k name { k' with current := k.current }) := by
  have hpresent : (entered name (wire name host inside k)).link? (some name) n = some link := by
    rw [← hlink]
    exact link?_wire_inside hcurrent hnew n
  refine Ends.annotate (ends_edit ?_ ?_ ?_)
  · intro _
    exact .of_spaces hpaired rfl List.erase_subset rfl
  · intro hmissing
    cases hpresent.symm.trans hmissing
  · intro _ _ _
    exact ⟨update_entered_wire hcurrent hnew _,
      hpaired.of_peerOf rfl (peerOf_withLinkChanged hf inside n)⟩

/-- What the failed creation of the bridge leaves of the namespace is still a namespace with one
paired link. -/
theorem PartlyWired.of_residue {k' : Kernel}
    (h : Residue (entered name (wire name host inside k)) name k') :
    PartlyWired k name { k' with current := k.current } := by
  obtain ⟨-, hpending, hspaces | ⟨link, hpeer, hspaces | hspaces⟩⟩ := h
  · exact .of_spaces hpaired rfl hpending.subset hspaces
  · refine .of_spaces (hpaired.withLink hpeer) rfl hpending.subset ?_
    rw [hspaces]
    exact modify_wire_inside hcurrent hnew _
  · refine .of_spaces (hpaired.withLink hpeer).withoutLink rfl hpending.subset ?_
    have hstands : (entered name (wire name host inside k)).spaces.modify (some name)
        (Kernel.withLink name link) = (wire name host (Kernel.withLink name link inside) k).spaces :=
      modify_wire_inside hcurrent hnew _
    have hunpaired : (lookup (wire name host (Kernel.withLink name link inside) k).spaces
        (some name) name).bind Link.peer = none := by
      rw [← link?_eq_lookup, link?_wire_inside hcurrent hnew]
      exact (hpaired.withLink hpeer).others name (spaceLinkName_ne name).symm
    rw [hspaces, show (entered name (wire name host inside k)).current = some name from rfl,
      hstands, removeLink_of_unpaired hunpaired, modify_wire_inside hcurrent hnew,
      modify_wire_inside hcurrent hnew]

/-- The bridge inside. -/
theorem ends_bridge_step {address : Cidr} {step : String}
    (hfree : inside.links[name]? = none) :
    Ends ((createBridgeWithAddress links name address true).annotate step)
      (entered name (wire name host inside k))
      (fun _ k' =>
        k' = entered name (wire name host (Kernel.withLink name (bridgeLink address) inside) k) ∧
          Paired name k.current host (Kernel.withLink name (bridgeLink address) inside))
      (fun _ k' => PartlyWired k name { k' with current := k.current }) := by
  have hmem : some name ∈ (wire name host inside k).spaces := by
    rw [Std.ExtTreeMap.mem_iff_isSome_getElem?, getElem?_wire_inside hcurrent hnew]
    rfl
  have hmissing : (wire name host inside k).link? (some name) name = none := by
    rw [link?_wire_inside hcurrent hnew, hfree]
  refine Ends.annotate (Ends.mono (ends_createBridge (k := entered name (wire name host inside k))
    hmem hmissing) ?_ ?_)
  · rintro _ _ rfl
    exact ⟨update_entered_wire hcurrent hnew _, hpaired.withLink rfl⟩
  · intro _ k' hresidue
    exact .of_residue hcurrent hnew hpaired hresidue

/-- Attaching the end inside to the bridge. -/
theorem ends_master_step {step : String} {bridge far : Link}
    (hbridge : inside.links[name]? = some bridge) (hkind : bridge.kind = .bridge)
    (hfar : inside.links[spaceLinkName name]? = some far) :
    let f : Link → Link := fun link => { link with master := some name }
    Ends ((links.setMaster (spaceLinkName name) name).annotate step)
      (entered name (wire name host inside k))
      (fun _ k' => k' =
          entered name (wire name host (withLinkChanged (spaceLinkName name) f inside) k) ∧
        Paired name k.current host (withLinkChanged (spaceLinkName name) f inside))
      (fun _ k' => PartlyWired k name { k' with current := k.current }) := by
  intro f
  have hmaster : (entered name (wire name host inside k)).link? (some name) name = some bridge := by
    rw [← hbridge]
    exact link?_wire_inside hcurrent hnew name
  have hlink : (entered name (wire name host inside k)).link? (some name) (spaceLinkName name) =
      some far := by
    rw [← hfar]
    exact link?_wire_inside hcurrent hnew (spaceLinkName name)
  refine Ends.annotate (ends_setMaster ?_ ?_ ?_ ?_ ?_)
  · intro _
    exact .of_spaces hpaired rfl List.erase_subset rfl
  · intro hnone
    cases hmaster.symm.trans hnone
  · intro other hother hne
    obtain rfl := Option.some.inj (hmaster.symm.trans hother)
    exact absurd hkind hne
  · intro hnone
    cases hlink.symm.trans hnone
  · intro _ _ _ _ _ _
    have hpeers : ∀ n, peerOf (withLinkChanged (spaceLinkName name) f inside) n = peerOf inside n :=
      peerOf_withLinkChanged (f := f) (fun _ => rfl) inside _
    exact ⟨update_entered_wire hcurrent hnew _, hpaired.of_peerOf rfl hpeers⟩

/-- The default route inside, through the bridge. -/
theorem ends_route_step {step : String} {bridge : Link} {gateway : V4}
    (hbridge : inside.links[name]? = some bridge) (hroute : inside.defaultRoute = none) :
    Ends ((links.addDefaultRoute name gateway).annotate step)
      (entered name (wire name host inside k))
      (fun _ k' => k' = entered name
        (wire name host { inside with defaultRoute := some (name, gateway) } k))
      (fun _ k' => PartlyWired k name { k' with current := k.current }) := by
  have hlink : (entered name (wire name host inside k)).link? (some name) name = some bridge := by
    rw [← hbridge]
    exact link?_wire_inside hcurrent hnew name
  have hnoRoute : (entered name (wire name host inside k)).route? (some name) = none := by
    rw [← hroute]
    exact route?_wire_inside hcurrent hnew
  refine Ends.annotate (ends_addDefaultRoute ?_ ?_ ?_ ?_)
  · intro _
    exact .of_spaces hpaired rfl List.erase_subset rfl
  · intro hnone
    cases hlink.symm.trans hnone
  · intro hrouted
    obtain ⟨route, hsome⟩ := Option.isSome_iff_exists.1 hrouted
    cases hnoRoute.symm.trans hsome
  · intro _ _ _ _
    exact update_entered_wire hcurrent hnew _

end Inside

section Provision

variable {p : NetworkPlan Kernel} (hlinks : p.links = links)
variable (hcurrent : k.current ∈ k.spaces) (hnew : some p.name ∉ k.spaces)

include hlinks hcurrent hnew

theorem ends_provisionInside (hpaired : Paired p.name k.current host (bareInside p.name k.current)) :
    Ends (provisionInside p)
      (entered p.name (wire p.name host (bareInside p.name k.current) k))
      (fun _ k' => k' = entered p.name (wire p.name host
        (interior p.name k.current (p.subnet.withAddress p.bridge) p.gateway) k))
      (fun _ k' => PartlyWired k p.name { k' with current := k.current }) := by
  unfold provisionInside
  rw [hlinks]
  have hne := spaceLinkName_ne p.name
  refine Ends.bind (ends_bridge_step hcurrent hnew hpaired ?_) ?_
  · rw [getElem?_bareInside, if_neg hne.symm]
  rintro _ _ ⟨rfl, hpaired⟩
  have hfar : (Kernel.withLink p.name (bridgeLink (p.subnet.withAddress p.bridge))
      (bareInside p.name k.current)).links[spaceLinkName p.name]? = some
        { kind := .veth (hostLinkName p.name) k.current,
          peer := some (k.current, hostLinkName p.name) } := by
    rw [Kernel.withLink, Maps.getElem?_insert_of_ne hne.symm, getElem?_bareInside, if_pos rfl]
  refine Ends.bind (ends_inside_step hcurrent hnew hpaired hfar fun _ => rfl) ?_
  rintro _ _ ⟨rfl, hpaired⟩
  have hbridge : (withLinkChanged (spaceLinkName p.name) (fun link => { link with state := .up })
      (Kernel.withLink p.name (bridgeLink (p.subnet.withAddress p.bridge))
        (bareInside p.name k.current))).links[p.name]? =
          some (bridgeLink (p.subnet.withAddress p.bridge)) := by
    rw [withLinkChanged, Maps.getElem?_modify_of_ne hne, Kernel.withLink,
      Std.ExtTreeMap.getElem?_insert_self]
  refine Ends.bind (ends_master_step hcurrent hnew hpaired hbridge rfl
    (Std.ExtTreeMap.getElem?_modify_self.trans (congrArg _ hfar))) ?_
  rintro _ _ ⟨rfl, hpaired⟩
  rw [← interior_eq]
  exact ends_route_step hcurrent hnew hpaired ((Maps.getElem?_modify_of_ne hne).trans hbridge) rfl

/-- The provisioning of a pair just created ends with the network, or fails with its ends still
paired. -/
theorem ends_provision :
    Ends (provision namespaces p) (wire p.name (bareHost p.name) (bareInside p.name k.current) k)
      (fun _ k' => k' = wire p.name (hostEnd p.name (p.subnet.withAddress p.gateway))
        (interior p.name k.current (p.subnet.withAddress p.bridge) p.gateway) k)
      (fun _ => PartlyWired k p.name) := by
  have hpaired := paired_bare p.name k.current
  unfold provision
  dsimp only
  rw [hlinks]
  refine Ends.bind (ends_host_step hcurrent hpaired) ?_
  rintro _ _ rfl
  have hpaired : Paired p.name k.current
      (assign (p.subnet.withAddress p.gateway) (bareHost p.name)) (bareInside p.name k.current) :=
    hpaired.of_peerOf rfl fun _ => rfl
  refine Ends.bind (ends_host_step hcurrent hpaired) ?_
  rintro _ _ rfl
  have hpaired : Paired p.name k.current (hostEnd p.name (p.subnet.withAddress p.gateway))
      (bareInside p.name k.current) := hpaired.of_peerOf rfl fun _ => rfl
  refine ends_within ?_ ?_ ?_
  · intro _
    exact .of_spaces hpaired rfl List.erase_subset rfl
  · intro hmissing
    refine absurd ?_ hmissing
    rw [Std.ExtTreeMap.mem_iff_isSome_getElem?, getElem?_wire_inside hcurrent hnew]
    rfl
  · intro _ _
    refine Ends.mono (ends_provisionInside hlinks hcurrent hnew hpaired) ?_ fun _ _ h => h
    rintro _ _ rfl
    rfl

end Provision

/-! ## Cleanup -/

section Cleanup

/-- Deleting the namespace gives back the namespaces of before when nothing in it is paired. -/
theorem ends_deleteSpace_unpaired {k₁ : Kernel} (hnew : some name ∉ k.spaces) (hk₁ : k₁.current = k.current)
    (hspaces : k₁.spaces = k.spaces.insert (some name) inside)
    (hpeers : ∀ n, peerOf inside n = none) (hpending : (.deleteNamespace, name) ∉ k₁.pending) :
    Ends (deleteSpace name) k₁ (fun _ k' => k'.spaces = k.spaces ∧ k'.current = k.current)
      (fun _ k' => k'.spaces = k.spaces ∧ k'.current = k.current) := by
  refine ends_deleteSpace (fun h => absurd h hpending) ?_ ?_
  · intro hmissing
    rw [hspaces] at hmissing
    exact absurd Std.ExtTreeMap.mem_insert_self hmissing
  · intro space _ hspace
    rw [hspaces, Std.ExtTreeMap.getElem?_insert_self] at hspace
    obtain rfl := Option.some.inj hspace
    refine ⟨?_, hk₁⟩
    dsimp only
    rw [hspaces, Maps.erase_insert_self hnew]
    refine removePeers_eq_self fun link hlink far peer hpeer => ?_
    obtain ⟨n, hn⟩ := Maps.mem_values_iff.1 hlink
    have hnone := hpeers n
    rw [peerOf, hn, Option.bind_some, hpeer] at hnone
    cases hnone

variable (hcurrent : k.current ∈ k.spaces) (hnew : some name ∉ k.spaces)
variable (hpaired : Paired name k.current host inside)
variable (hfree : k.link? k.current (hostLinkName name) = none)
variable (hroute : ∀ s, k.spaces[k.current]? = some s →
  s.defaultRoute.map Prod.fst ≠ some (hostLinkName name))

include hcurrent hnew hpaired hfree hroute

/-- Deleting the namespace takes the host end with it when that is still there. -/
theorem ends_deleteSpace_paired {k₁ : Kernel} (hk₁ : k₁.current = k.current)
    (hspaces : k₁.spaces = (wire name host inside k).spaces)
    (hpending : (.deleteNamespace, name) ∉ k₁.pending) :
    Ends (deleteSpace name) k₁ (fun _ k' => k'.spaces = k.spaces ∧ k'.current = k.current)
      (fun _ k' => k'.spaces = k.spaces ∧ k'.current = k.current) := by
  have hne := current_ne hcurrent hnew
  have hinside : k₁.spaces[(some name : SpaceName)]? = some inside := by
    rw [hspaces, getElem?_wire_inside hcurrent hnew]
  refine ends_deleteSpace (fun h => absurd h hpending) ?_ ?_
  · intro hmissing
    rw [Std.ExtTreeMap.getElem?_eq_none hmissing] at hinside
    cases hinside
  · intro space _ hspace
    obtain rfl := Option.some.inj (hinside.symm.trans hspace)
    refine ⟨?_, hk₁⟩
    have herased : k₁.spaces.erase (some name) =
        k.spaces.modify k.current (Kernel.withLink (hostLinkName name) host) := by
      rw [hspaces, wire, Maps.erase_modify_of_ne hne, Maps.erase_insert_self hnew]
    have hremoved : removeLink k.current (hostLinkName name)
        (k.spaces.modify k.current (Kernel.withLink (hostLinkName name) host)) = k.spaces := by
      rw [removeLink_withLink hcurrent hfree hroute hpaired.host hne, Maps.modify_of_not_mem hnew]
    dsimp only
    rw [herased, removePeers_eq_removeLink _ _ _, hremoved]
    · intro link hlink
      obtain ⟨n, hn⟩ := Maps.mem_values_iff.1 hlink
      have hpeer : peerOf inside n = link.peer := by rw [peerOf, hn, Option.bind_some]
      by_cases hfar : n = spaceLinkName name
      · right
        rw [← hpeer, hfar, hpaired.far]
      · left
        rw [← hpeer, hpaired.others n hfar]
    · obtain ⟨far, hlink, hpeer⟩ := Option.bind_eq_some_iff.1 hpaired.far
      exact ⟨far, Maps.mem_values_iff.2 ⟨_, hlink⟩, hpeer⟩
    · rw [hremoved]
      exact removeLink_eq_self hfree hroute

/-- After the host end was deleted, its partner is gone too. -/
theorem removeLink_wire :
    removeLink k.current (hostLinkName name) (wire name host inside k).spaces =
      k.spaces.insert (some name) (withoutLink (spaceLinkName name) inside) := by
  have hne := current_ne hcurrent hnew
  unfold wire
  rw [removeLink_withLink (Std.ExtTreeMap.mem_insert.2 (Or.inr hcurrent)) ?_ ?_ hpaired.host hne,
    Maps.modify_insert_self]
  · rw [lookup, Maps.getElem?_insert_of_ne hne.symm]
    exact hfree
  · rw [Maps.getElem?_insert_of_ne hne.symm]
    exact hroute

end Cleanup

/-- Without its partner, nothing inside is paired. -/
theorem Paired.peerOf_withoutLink {near : SpaceName} (hpaired : Paired name near host inside)
    (n : String) : peerOf (Kernel.withoutLink (spaceLinkName name) inside) n = none := by
  by_cases hn : n = spaceLinkName name
  · subst hn
    simp [peerOf, Kernel.withoutLink]
  · rw [peerOf, Kernel.withoutLink, Maps.getElem?_erase_of_ne (Ne.symm hn)]
    exact hpaired.others n hn

/-- The cleanup after a failed provisioning. -/
theorem ends_release_partlyWired {k₁ : Kernel} (hcurrent : k.current ∈ k.spaces)
    (hnew : some name ∉ k.spaces) (hfree : k.link? k.current (hostLinkName name) = none)
    (hroute : ∀ s, k.spaces[k.current]? = some s →
      s.defaultRoute.map Prod.fst ≠ some (hostLinkName name))
    (hpending : (.deleteNamespace, name) ∉ k.pending) (h : PartlyWired k name k₁) :
    Ends (release links namespaces name) k₁
      (fun _ k' => k'.spaces = k.spaces ∧ k'.current = k.current)
      (fun _ k' => k'.spaces = k.spaces ∧ k'.current = k.current) := by
  obtain ⟨hk₁, hsubset, host, inside, hpaired, hspaces⟩ := h
  have hcalm : (.deleteNamespace, name) ∉ k₁.pending := fun hmem => hpending (hsubset hmem)
  refine ends_release (R := fun k' => k'.spaces = k.spaces ∧ k'.current = k.current)
    (M := fun k₂ => k₂.current = k.current ∧ (.deleteNamespace, name) ∉ k₂.pending ∧
      (k₂.spaces = (wire name host inside k).spaces ∨
        k₂.spaces = k.spaces.insert (some name)
          (Kernel.withoutLink (spaceLinkName name) inside))) (ends_deleteLink ?_ ?_) ?_
  · intro _
    exact ⟨hk₁, fun hmem => hcalm (List.erase_subset hmem), Or.inl hspaces⟩
  · intro _
    refine ⟨hk₁, hcalm, Or.inr ?_⟩
    dsimp only
    rw [hspaces, hk₁]
    exact removeLink_wire hcurrent hnew hpaired hfree hroute
  · rintro k₂ ⟨hk₂, hcalm₂, hwired | hunpaired⟩
    · exact ends_deleteSpace_paired hcurrent hnew hpaired hfree hroute hk₂ hwired hcalm₂
    · exact ends_deleteSpace_unpaired hnew hk₂ hunpaired hpaired.peerOf_withoutLink hcalm₂

/-! ## The whole build -/

section Build

variable {p : NetworkPlan Kernel} (hlinks : p.links = links)
variable (hcurrent : k.current ∈ k.spaces) (hnew : some p.name ∉ k.spaces)

include hlinks hcurrent hnew

/-- Creating the pair after the namespace. -/
theorem ends_addVeth_new :
    Ends (addVeth p) { k with spaces := k.spaces.insert (some p.name) {} }
      (fun _ k' => k.link? k.current (hostLinkName p.name) = none ∧
        k' = wire p.name (bareHost p.name) (bareInside p.name k.current) k)
      (fun _ k' => k'.current = k.current ∧ k'.pending ⊆ k.pending ∧
        k'.spaces = k.spaces.insert (some p.name) {}) := by
  have hne := current_ne hcurrent hnew
  have hsettled : settle { k with spaces := k.spaces.insert (some p.name) {} } =
      { k with spaces := k.spaces.insert (some p.name) {} } :=
    settle_eq_self (Std.ExtTreeMap.mem_insert.2 (Or.inr hcurrent))
  unfold addVeth
  rw [hlinks]
  refine Ends.annotate (ends_addVeth ?_ ?_ ?_ ?_ ?_)
  · intro _
    exact ⟨rfl, List.erase_subset, rfl⟩
  · intro _
    exact ⟨rfl, fun _ h => h, rfl⟩
  · intro hmissing
    rw [hsettled] at hmissing
    exact absurd Std.ExtTreeMap.mem_insert_self hmissing
  · intro _
    rw [hsettled]
    exact ⟨rfl, fun _ h => h, rfl⟩
  · intro _ hfree _ _
    refine ⟨?_, ?_⟩
    · rw [link?_eq_lookup, lookup, Maps.getElem?_insert_of_ne hne.symm] at hfree
      exact hfree
    · dsimp only
      rw [hsettled, Option.some_or, Maps.modify_insert_self]
      rfl

theorem ends_ofPlan_new (hroute : k.link? k.current (hostLinkName p.name) = none →
      ∀ s, k.spaces[k.current]? = some s →
        s.defaultRoute.map Prod.fst ≠ some (hostLinkName p.name))
    (hpending : (.deleteNamespace, p.name) ∉ k.pending) :
    Ends (ofPlan namespaces p) k
      (fun net k' => net = ⟨p.name, .ready⟩ ∧ k.link? k.current (hostLinkName p.name) = none ∧
        k' = wire p.name (hostEnd p.name (p.subnet.withAddress p.gateway))
          (interior p.name k.current (p.subnet.withAddress p.bridge) p.gateway) k)
      (fun _ k' => k'.spaces = k.spaces ∧ k'.current = k.current) := by
  refine ends_ofPlan (E := fun k' => k'.spaces = k.spaces ∧ k'.current = k.current)
    (C := fun k₁ => k₁ = { k with spaces := k.spaces.insert (some p.name) {} })
    (U := fun k₁ => k.link? k.current (hostLinkName p.name) = none ∧ PartlyWired k p.name k₁)
    hlinks (ends_createSpace ?_ ?_) (fun _ h => h ▸ ends_addVeth_new hlinks hcurrent hnew)
    ?_ ?_ ?_
  · intro _
    exact ⟨rfl, rfl⟩
  · intro _
    rw [Maps.insertIfNew_of_not_mem hnew]
  · rintro k₁ failure ⟨hk₁, hsubset, hspaces⟩
    have hfresh : k.spaces.contains (some p.name) = false :=
      Bool.eq_false_iff.2 fun h => hnew (Std.ExtTreeMap.mem_iff_contains.2 h)
    rw [hfresh]
    refine ends_abandon_created (R := fun k' => k'.spaces = k.spaces ∧ k'.current = k.current) ?_
    refine ends_deleteSpace_unpaired hnew hk₁ hspaces (fun n => ?_) fun h => hpending (hsubset h)
    simp [peerOf]
  · rintro _ ⟨hfree, rfl⟩
    refine Ends.mono (ends_provision hlinks hcurrent hnew) ?_ ?_
    · intro _ _ h
      exact ⟨rfl, hfree, h⟩
    · intro _ _ h
      exact ⟨hfree, h⟩
  · rintro k₁ ⟨hfree, hpartly⟩
    exact ends_release_partlyWired hcurrent hnew hfree (hroute hfree) hpending hpartly

end Build

/-- Every default route goes through a link that exists. -/
def Routed (k : Kernel) : Prop :=
  ∀ (space : SpaceName) (s : Space), k.spaces[space]? = some s →
    ∀ device gateway, s.defaultRoute = some (device, gateway) → device ∈ s.links

/-- A build whose namespace is new adds exactly the network, or fails and leaves every namespace with
its links and its route, and the current namespace, as they were. Any failures may be pending but
that of deleting the namespace. -/
theorem build_atomic (settings : Session.NetworkSettings) (k : Kernel)
    (hcurrent : k.current ∈ k.spaces) (hnew : some settings.name ∉ k.spaces) (hroutes : Routed k)
    (hpending : (.deleteNamespace, settings.name) ∉ k.pending) :
    (∀ failure k', (build namespaces settings.request).on k = (.error failure, k') →
      k'.spaces = k.spaces ∧ k'.current = k.current) ∧
    ∀ net k', (build namespaces settings.request).on k = (.ok net, k') →
      net = ⟨settings.name, .ready⟩ ∧ k.link? k.current (hostLinkName settings.name) = none ∧
      ∃ subnet gateway bridge, settings.subnet = some subnet ∧ settings.gateway = some gateway ∧
        settings.bridge = some bridge ∧
        k' = wire settings.name (hostEnd settings.name (subnet.withAddress gateway))
          (interior settings.name k.current (subnet.withAddress bridge) gateway) k := by
  rw [and_comm, ← ends_iff]
  refine ends_build (E := fun k' => k'.spaces = k.spaces ∧ k'.current = k.current)
    (fun _ _ => ⟨rfl, rfl⟩) fun p hp => ?_
  obtain ⟨hname, hsubnet, hgateway, hbridge, -⟩ := plan_ok hp
  have hname : p.name = settings.name := hname
  rw [← hname] at hnew hpending
  have hroute : k.link? k.current (hostLinkName p.name) = none →
      ∀ s, k.spaces[k.current]? = some s →
        s.defaultRoute.map Prod.fst ≠ some (hostLinkName p.name) := by
    intro hfree s hs hdevice
    obtain ⟨⟨device, gateway⟩, hdefault, hfst⟩ := Option.map_eq_some_iff.1 hdevice
    obtain rfl : device = hostLinkName p.name := hfst
    have hlink := hroutes k.current s hs _ gateway hdefault
    rw [Std.ExtTreeMap.mem_iff_isSome_getElem?] at hlink
    rw [link?, hs, Option.bind_some] at hfree
    rw [hfree] at hlink
    cases hlink
  refine Ends.mono (ends_ofPlan_new (links_of_plan_ok hp) hcurrent hnew hroute hpending) ?_
    fun _ _ h => h
  rintro net k' ⟨rfl, hfree, rfl⟩
  rw [← hname]
  exact ⟨rfl, hfree, p.subnet, p.gateway, p.bridge, hsubnet, hgateway, hbridge, rfl⟩

/-- Both ways to end occur: undisturbed, and with the address and the deletion of the host end
failing. -/
theorem build_atomic_demo :
    (∃ k', (build namespaces demoSettings.request).on initial = (.ok ⟨"vm1", .ready⟩, k') ∧
      ∃ subnet gateway bridge, demoSettings.subnet = some subnet ∧
        demoSettings.gateway = some gateway ∧ demoSettings.bridge = some bridge ∧
        k' = wire "vm1" (hostEnd "vm1" (subnet.withAddress gateway))
          (interior "vm1" none (subnet.withAddress bridge) gateway) initial) ∧
    ∃ failure k', (build namespaces demoSettings.request).on
        ((initial.failOnce .setIp "vm1-host").failOnce .deleteLink "vm1-host") =
          (.error failure, k') ∧ k'.spaces = initial.spaces ∧ k'.current = none := by
  have hroutes : ∀ pending, Routed { initial with pending } := by
    intro pending space s hs device gateway hroute
    simp only [initial, Std.ExtTreeMap.getElem?_insert, Std.ExtTreeMap.getElem?_empty] at hs
    split at hs
    · obtain rfl := Option.some.inj hs
      cases hroute
    · cases hs
  refine ⟨?_, ?_⟩
  · have h := (build_atomic demoSettings initial (by decide +kernel) (by decide +kernel)
      (hroutes []) (by decide)).2
    rcases hon : (build namespaces demoSettings.request).on initial with ⟨failure | net, k'⟩
    · have hok : ((build namespaces demoSettings.request).on initial).1.isOk = true := by
        decide +kernel
      rw [hon] at hok
      cases hok
    · obtain ⟨rfl, -, hwired⟩ := h net k' hon
      exact ⟨k', rfl, hwired⟩
  · have h := (build_atomic demoSettings
      ((initial.failOnce .setIp "vm1-host").failOnce .deleteLink "vm1-host")
      (by decide +kernel) (by decide +kernel) (hroutes _) (by decide)).1
    rcases hon : (build namespaces demoSettings.request).on
      ((initial.failOnce .setIp "vm1-host").failOnce .deleteLink "vm1-host") with ⟨failure | net, k'⟩
    · exact ⟨failure, k', rfl, h failure k' hon⟩
    · have hfails : ((build namespaces demoSettings.request).on
          ((initial.failOnce .setIp "vm1-host").failOnce .deleteLink "vm1-host")).1.isOk = false := by
        decide +kernel
      rw [hon] at hfails
      cases hfails

end WorkloadNet.Network
