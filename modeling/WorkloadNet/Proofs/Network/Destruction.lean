import WorkloadNet.Network.Lifecycle
import WorkloadNet.Proofs.Kernel.Moves

/-!
# Destroying a network

Destroying deletes the host end of the veth pair and then the namespace. Each deletion takes the
other end of every pair that it cuts, so they overlap: whichever of them succeeds takes both ends of
the network's own pair. What is reported depends on the injected failures alone, and what is left
depends on them through the look-ups of `removeLink` and `withoutSpace`.
-/

namespace WorkloadNet.Network

open WorkloadNet.Action Kernel

variable {k k' : Kernel} {name : String}

/-! ## What is reported -/

/-- What a failed deletion of the host end is reported as. -/
def linkFailure (name : String) : Failure :=
  .context s!"failed to delete link {hostLinkName name}"
    (injected .deleteLink (hostLinkName name))

/-- What a failed deletion of the namespace is reported as. -/
def spaceFailure (name : String) : Failure :=
  .context s!"failed to delete namespace {name}" (injected .deleteNamespace name)

/-- The deletion of the host end is made to fail. -/
def LinkStuck (name : String) (k : Kernel) : Prop :=
  (.deleteLink, hostLinkName name) ∈ k.pending

/-- The deletion of the namespace is made to fail. -/
def SpaceStuck (name : String) (k : Kernel) : Prop := (.deleteNamespace, name) ∈ k.pending

instance : Decidable (LinkStuck name k) := inferInstanceAs (Decidable (_ ∈ k.pending))

instance : Decidable (SpaceStuck name k) := inferInstanceAs (Decidable (_ ∈ k.pending))

/-- The namespaces after the deletion of the host end was attempted. -/
def afterLink (name : String) (k : Kernel) : Spaces :=
  if LinkStuck name k then k.spaces else removeLink k.current (hostLinkName name) k.spaces

/-- The namespaces after both deletions were attempted. -/
def afterRelease (name : String) (k : Kernel) : Spaces :=
  if SpaceStuck name k then afterLink name k else withoutSpace name (afterLink name k)

/-- What both deletions amount to. -/
def releaseResult (name : String) (k : Kernel) : Except Failure Unit :=
  if LinkStuck name k then
    if SpaceStuck name k then .error (.multiple [linkFailure name, spaceFailure name])
    else .error (linkFailure name)
  else if SpaceStuck name k then .error (spaceFailure name) else .ok ()

/-- What the deletion of the host end reports and leaves. -/
theorem on_deleteHost (k : Kernel) (name : String) :
    ∃ pending, (∀ n, (.deleteNamespace, n) ∈ pending ↔ (.deleteNamespace, n) ∈ k.pending) ∧
      ((deleteLink (hostLinkName name)).annotate
        s!"failed to delete link {hostLinkName name}").on k =
          (if LinkStuck name k then .error (linkFailure name) else .ok (),
            { k with spaces := afterLink name k, pending }) := by
  rw [on_annotate, on_deleteLink]
  unfold afterLink
  by_cases hstuck : (.deleteLink, hostLinkName name) ∈ k.pending
  · refine ⟨k.pending.erase (.deleteLink, hostLinkName name), fun n => ?_, ?_⟩
    · exact List.mem_erase_of_ne (by simp)
    · simp only [LinkStuck, hstuck, if_true]
      rfl
  · refine ⟨k.pending, fun n => Iff.rfl, ?_⟩
    simp only [LinkStuck, hstuck, if_false]

/-- What the deletion of the namespace reports and leaves. -/
theorem on_deleteOwn (k : Kernel) (name : String) :
    ∃ pending, ((deleteSpace name).annotate s!"failed to delete namespace {name}").on k =
      (if SpaceStuck name k then .error (spaceFailure name) else .ok (),
        { k with
          spaces := if SpaceStuck name k then k.spaces else withoutSpace name k.spaces, pending }) := by
  rw [on_annotate, on_deleteSpace]
  by_cases hstuck : (.deleteNamespace, name) ∈ k.pending
  · refine ⟨k.pending.erase (.deleteNamespace, name), ?_⟩
    simp only [SpaceStuck, hstuck, if_true]
    rfl
  · refine ⟨k.pending, ?_⟩
    simp only [SpaceStuck, hstuck, if_false]

/-- Both deletions are attempted; the result and the namespaces depend on the injected failures
alone. -/
theorem on_release (k : Kernel) (name : String) :
    ∃ pending, (release links namespaces name).on k =
      (releaseResult name k, { k with spaces := afterRelease name k, pending }) := by
  obtain ⟨pending₁, hpending, hlink⟩ := on_deleteHost k name
  obtain ⟨pending₂, hspace⟩ :=
    on_deleteOwn { k with spaces := afterLink name k, pending := pending₁ } name
  have hstuck : SpaceStuck name { k with spaces := afterLink name k, pending := pending₁ } ↔
      SpaceStuck name k := hpending name
  refine ⟨pending₂, ?_⟩
  have hdeleteLink : links.delete = deleteLink := rfl
  have hdeleteSpace : namespaces.delete = deleteSpace := rfl
  unfold release releaseResult afterRelease
  rw [hdeleteLink, hdeleteSpace, on_bind, on_attempt, hlink]
  dsimp only
  rw [on_bind, on_attempt, hspace]
  simp only [hstuck]
  by_cases hl : LinkStuck name k <;> by_cases hs : SpaceStuck name k <;>
    simp [hl, hs, Failure.ofList]

/-- Destroying a network releases it, and the network is destroyed whatever that reports. -/
theorem on_destroy (k : Kernel) (net : Network) :
    ∃ pending, (net.destroy links namespaces).run k =
      (({ net with state := .destroyed }, releaseResult net.name k),
        { k with spaces := afterRelease net.name k, pending }) := by
  obtain ⟨pending, hrelease⟩ := on_release k net.name
  refine ⟨pending, ?_⟩
  have hrun : (net.destroy links namespaces).run k =
      (({ net with state := .destroyed }, ((release links namespaces net.name).on k).1),
        ((release links namespaces net.name).on k).2) := rfl
  rw [hrun, hrelease]

theorem linkFailure_ne_spaceFailure (name : String) : linkFailure name ≠ spaceFailure name := by
  intro h
  unfold linkFailure spaceFailure at h
  have hstep := congrArg (fun step => step.toList.take 18) (Failure.context.inj h).1
  rw [String.toList_append, String.toList_append, List.take_append_of_le_length (by decide),
    List.take_append_of_le_length (by decide)] at hstep
  exact absurd hstep (by decide)

/-- Which result it is, by what fails. -/
theorem releaseResult_iff (name : String) (k : Kernel) :
    (releaseResult name k = .ok () ↔ ¬ LinkStuck name k ∧ ¬ SpaceStuck name k) ∧
      (releaseResult name k = .error (linkFailure name) ↔ LinkStuck name k ∧ ¬ SpaceStuck name k) ∧
      (releaseResult name k = .error (spaceFailure name) ↔
        ¬ LinkStuck name k ∧ SpaceStuck name k) ∧
      (releaseResult name k = .error (.multiple [linkFailure name, spaceFailure name]) ↔
        LinkStuck name k ∧ SpaceStuck name k) := by
  have hne := linkFailure_ne_spaceFailure name
  have hlink : linkFailure name ≠ .multiple [linkFailure name, spaceFailure name] :=
    Failure.noConfusion
  have hspace : spaceFailure name ≠ .multiple [linkFailure name, spaceFailure name] :=
    Failure.noConfusion
  unfold releaseResult
  by_cases hl : LinkStuck name k <;> by_cases hs : SpaceStuck name k <;>
    simp [hl, hs, hne, hne.symm, hlink, hlink.symm, hspace, hspace.symm]

/-! ## What is left -/

/-- The links that a network owns: those in its namespace, and the host end of its pair. -/
def Owned (name : String) (k : Kernel) (space : SpaceName) (n : String) : Prop :=
  space = some name ∨ (space, n) = (k.current, hostLinkName name)

/-- The namespace is gone, with every link in it and the host end. -/
structure CleanedUp (name : String) (k k' : Kernel) : Prop where
  space : some name ∉ k'.spaces
  inside : ∀ n, k'.link? (some name) n = none
  host : k'.link? k.current (hostLinkName name) = none

/-- Every link is as it was, but for those that the network owns and the other ends of their
pairs; every other namespace is still there. -/
structure Confined (name : String) (k k' : Kernel) : Prop where
  current : k'.current = k.current
  links : ∀ space n, ¬ Owned name k space n →
    (∀ far m, Owned name k far m → peer? k.spaces far m ≠ some (space, n)) →
      k'.link? space n = k.link? space n
  spaces : ∀ space, space ≠ some name → (space ∈ k'.spaces ↔ space ∈ k.spaces)

/-- The host end is missing, or its other end is in the namespace. -/
def Attached (name : String) (k : Kernel) : Prop :=
  k.link? k.current (hostLinkName name) = none ∨
    ∃ m, peer? k.spaces k.current (hostLinkName name) = some (some name, m)

/-- Links may be missing, but none is changed. -/
def Fewer (spaces spaces' : Spaces) : Prop :=
  ∀ space n, lookup spaces' space n = none ∨ lookup spaces' space n = lookup spaces space n

section Fewer

variable {spaces spaces₁ spaces₂ : Spaces} {space far : SpaceName} {n m : String}

theorem Fewer.none (h : Fewer spaces spaces₁) (hnone : lookup spaces space n = none) :
    lookup spaces₁ space n = none := by
  rcases h space n with hgone | hkept
  · exact hgone
  · rw [hkept, hnone]

theorem Fewer.peer (h : Fewer spaces spaces₁) (hpeer : peer? spaces₁ space n = some (far, m)) :
    peer? spaces space n = some (far, m) := by
  rcases h space n with hgone | hkept
  · rw [peer?_of_lookup_none hgone] at hpeer
    cases hpeer
  · rwa [peer?, hkept] at hpeer

theorem Fewer.trans (h : Fewer spaces spaces₁) (h' : Fewer spaces₁ spaces₂) :
    Fewer spaces spaces₂ := by
  intro space n
  rcases h' space n with hgone | hkept
  · exact Or.inl hgone
  · rw [hkept]
    exact h space n

theorem Fewer.refl (spaces : Spaces) : Fewer spaces spaces := fun _ _ => Or.inr rfl

theorem fewer_removeLink (spaces : Spaces) (space : SpaceName) (name : String) :
    Fewer spaces (removeLink space name spaces) := by
  intro other n
  rw [lookup_removeLink]
  split
  · exact Or.inl rfl
  · exact Or.inr rfl

theorem fewer_erase (spaces : Spaces) (gone : SpaceName) : Fewer spaces (spaces.erase gone) := by
  intro other n
  rw [lookup_erase]
  split
  · exact Or.inl rfl
  · exact Or.inr rfl

theorem fewer_removePeers (links : List Link) (spaces : Spaces) :
    Fewer spaces (removePeers links spaces) := by
  induction links generalizing spaces with
  | nil => exact .refl spaces
  | cons link rest ih =>
    cases hpeer : link.peer with
    | none =>
      rw [removePeers_cons_none hpeer]
      exact ih spaces
    | some peer =>
      rw [removePeers_cons_some hpeer]
      exact (fewer_removeLink spaces _ _).trans (ih _)

theorem fewer_withoutSpace (name : String) (spaces : Spaces) :
    Fewer spaces (withoutSpace name spaces) := by
  unfold withoutSpace
  split
  · exact .refl spaces
  · exact (fewer_erase spaces _).trans (fewer_removePeers _ _)

end Fewer

theorem fewer_afterLink (name : String) (k : Kernel) : Fewer k.spaces (afterLink name k) := by
  unfold afterLink
  split
  · exact .refl k.spaces
  · exact fewer_removeLink _ _ _

theorem coupled_afterLink (hk : Coupled k.spaces) : Coupled (afterLink name k) := by
  unfold afterLink
  split
  · exact hk
  · exact coupled_removeLink hk

/-- A release takes links away and changes none. -/
theorem fewer_afterRelease (name : String) (k : Kernel) :
    Fewer k.spaces (afterRelease name k) := by
  unfold afterRelease
  split
  · exact fewer_afterLink name k
  · exact (fewer_afterLink name k).trans (fewer_withoutSpace name _)

/-- What is left of a pair is both of its ends or none. -/
theorem coupled_afterRelease (hk : Coupled k.spaces) : Coupled (afterRelease name k) := by
  unfold afterRelease
  split
  · exact coupled_afterLink hk
  · exact coupled_withoutSpace (coupled_afterLink hk)

theorem mem_afterRelease {space : SpaceName} (hspace : space ≠ some name) :
    space ∈ afterRelease name k ↔ space ∈ k.spaces := by
  have hlink : space ∈ afterLink name k ↔ space ∈ k.spaces := by
    unfold afterLink
    split
    · exact Iff.rfl
    · exact mem_removeLink
  unfold afterRelease
  split
  · exact hlink
  · rw [mem_withoutSpace, hlink]
    exact and_iff_right hspace

theorem lookup_of_not_mem {spaces : Spaces} {space : SpaceName} (h : space ∉ spaces) (n : String) :
    lookup spaces space n = none := by
  rw [lookup, Std.ExtTreeMap.getElem?_eq_none h, Option.bind_none]

/-- Once the namespace is deleted, only the host end can be left. -/
theorem cleanedUp_of_host (hspace : ¬ SpaceStuck name k) (hk' : k'.spaces = afterRelease name k)
    (hhost : lookup (withoutSpace name (afterLink name k)) k.current (hostLinkName name) = none) :
    CleanedUp name k k' := by
  have hafter : k'.spaces = withoutSpace name (afterLink name k) := hk'.trans (if_neg hspace)
  have hgone : some name ∉ k'.spaces := by
    rw [hafter, mem_withoutSpace]
    exact fun h => h.1 rfl
  refine ⟨hgone, fun n => ?_, ?_⟩
  · rw [link?_eq_lookup]
    exact lookup_of_not_mem hgone n
  · rw [link?_eq_lookup, hafter]
    exact hhost

/-- What the deletion of the host end took stays away. -/
theorem lookup_host_of_not_stuck (hlink : ¬ LinkStuck name k) :
    lookup (withoutSpace name (afterLink name k)) k.current (hostLinkName name) = none := by
  have hremoved : afterLink name k = removeLink k.current (hostLinkName name) k.spaces := if_neg hlink
  refine (fewer_withoutSpace name _).none ?_
  rw [hremoved, lookup_removeLink, if_pos (Or.inl rfl)]

/-- A release that succeeds leaves nothing behind, whatever the links were. -/
theorem cleanedUp_of_ok (hok : releaseResult name k = .ok ()) (hk' : k'.spaces = afterRelease name k) :
    CleanedUp name k k' := by
  obtain ⟨hlink, hspace⟩ := (releaseResult_iff name k).1.1 hok
  exact cleanedUp_of_host hspace hk' (lookup_host_of_not_stuck hlink)

/-- Once the namespace is deleted the host end is gone too: the deletion of the link took it, or
with it in place the deletion of the namespace took the other end of its pair. -/
theorem cleanedUp_of_release (hk : Coupled k.spaces) (hattached : Attached name k)
    (hspace : ¬ SpaceStuck name k) (hk' : k'.spaces = afterRelease name k) :
    CleanedUp name k k' := by
  refine cleanedUp_of_host hspace hk' ?_
  rcases hattached with hmissing | ⟨m, hpaired⟩
  · exact (fewer_withoutSpace name _).none ((fewer_afterLink name k).none hmissing)
  · by_cases hlink : LinkStuck name k
    · have hsame : afterLink name k = k.spaces := if_pos hlink
      rw [hsame]
      exact (lookup_withoutSpace hk _).1 (Or.inr ⟨m, hk _ _ _ _ hpaired⟩)
    · exact lookup_host_of_not_stuck hlink

/-- A release takes nothing but what the network owns and the other ends of it. -/
theorem confined_of_release (hk : Coupled k.spaces) (hcurrent : k'.current = k.current)
    (hk' : k'.spaces = afterRelease name k) : Confined name k k' := by
  refine ⟨hcurrent, fun space n howned hpeer => ?_, fun space hspace => ?_⟩
  · have hlink : lookup (afterLink name k) space n = lookup k.spaces space n := by
      unfold afterLink
      split
      · rfl
      · rw [lookup_removeLink, if_neg]
        rintro (hhost | hpaired)
        · exact howned (Or.inr hhost)
        · exact hpeer _ _ (Or.inr rfl) hpaired
    rw [link?_eq_lookup, link?_eq_lookup, hk', ← hlink]
    unfold afterRelease
    split
    · rfl
    · refine (lookup_withoutSpace (coupled_afterLink hk) n).2 ?_
      rintro (hspace | ⟨m, hm⟩)
      · exact howned (Or.inl hspace)
      · exact hpeer _ _ (Or.inl rfl) ((fewer_afterLink name k).peer hm)
  · rw [hk']
    exact mem_afterRelease hspace

theorem Attached.of_fewer (h : Attached name k) (hcurrent : k'.current = k.current)
    (hfewer : Fewer k.spaces k'.spaces) : Attached name k' := by
  unfold Attached
  rw [hcurrent, link?_eq_lookup]
  rcases h with hmissing | ⟨m, hpaired⟩
  · exact Or.inl (hfewer.none hmissing)
  · rcases hfewer k.current (hostLinkName name) with hgone | hkept
    · exact Or.inl hgone
    · refine Or.inr ⟨m, ?_⟩
      rw [peer?, hkept]
      exact hpaired

theorem CleanedUp.of_current {k₂ : Kernel} (h : CleanedUp name k' k₂)
    (hcurrent : k'.current = k.current) : CleanedUp name k k₂ :=
  ⟨h.space, h.inside, hcurrent ▸ h.host⟩

/-- A destruction that is tried again touches no more links than the first one. -/
theorem Confined.trans {k₂ : Kernel} (h : Confined name k k') (h' : Confined name k' k₂)
    (hfewer : Fewer k.spaces k'.spaces) : Confined name k k₂ := by
  have howned : ∀ space n, Owned name k' space n ↔ Owned name k space n := by
    intro space n
    unfold Owned
    rw [h.current]
  refine ⟨h'.current.trans h.current, fun space n hnot hpeer => ?_, fun space hspace => ?_⟩
  · have hfirst := h.links space n hnot hpeer
    rw [← hfirst]
    refine h'.links space n (fun hown => hnot ((howned space n).1 hown)) fun far m hown hm => ?_
    exact hpeer far m ((howned far m).1 hown) (hfewer.peer hm)
  · exact (h'.spaces space hspace).trans (h.spaces space hspace)

/-- Destroying a network on any kernel that is reached, with any failures pending, where the host end
of the network is missing or paired into its namespace. The network is destroyed in every case, and
what is reported says exactly which deletion failed. Unless that was the deletion of the namespace,
the namespace, its links and the host end are gone; other links are not touched. After a failure the
same is reached by destroying again when no failure of the two deletions is left. -/
theorem destroy_cleans_up (net : Network) (k : Kernel) (hreach : Reaches initial k)
    (hattached : Attached net.name k) :
    ∃ result k', (net.destroy links namespaces).run k =
        (({ net with state := .destroyed }, result), k') ∧
      (result = .ok () ↔ ¬ LinkStuck net.name k ∧ ¬ SpaceStuck net.name k) ∧
      (result = .error (linkFailure net.name) ↔
        LinkStuck net.name k ∧ ¬ SpaceStuck net.name k) ∧
      (result = .error (spaceFailure net.name) ↔
        ¬ LinkStuck net.name k ∧ SpaceStuck net.name k) ∧
      (result = .error (.multiple [linkFailure net.name, spaceFailure net.name]) ↔
        LinkStuck net.name k ∧ SpaceStuck net.name k) ∧
      (¬ SpaceStuck net.name k → CleanedUp net.name k k') ∧ Confined net.name k k' ∧
      ∀ pending, (.deleteLink, net.hostLink) ∉ pending → (.deleteNamespace, net.name) ∉ pending →
        ∃ k'', (({ net with state := .destroyed } : Network).destroy links namespaces).run
            { k' with pending } = (({ net with state := .destroyed }, .ok ()), k'') ∧
          CleanedUp net.name k k'' ∧ Confined net.name k k'' := by
  have hk := coupled_of_reaches hreach
  obtain ⟨left, hdestroy⟩ := on_destroy k net
  obtain ⟨hok, hlink, hspace, hboth⟩ := releaseResult_iff net.name k
  refine ⟨_, _, hdestroy, hok, hlink, hspace, hboth, fun hfree => ?_, ?_, fun pending hl hs => ?_⟩
  · exact cleanedUp_of_release hk hattached hfree rfl
  · exact confined_of_release hk rfl rfl
  · -- The second destruction starts from fewer links and is not disturbed.
    obtain ⟨left', hagain⟩ := on_destroy
      { k with spaces := afterRelease net.name k, pending } { net with state := .destroyed }
    have hfewer : Fewer k.spaces (afterRelease net.name k) := fewer_afterRelease net.name k
    have hk₁ : Coupled (afterRelease net.name k) := coupled_afterRelease hk
    have hattached₁ : Attached net.name { k with spaces := afterRelease net.name k, pending } :=
      hattached.of_fewer rfl hfewer
    have hresult : releaseResult net.name { k with spaces := afterRelease net.name k, pending } =
        .ok () := (releaseResult_iff _ _).1.2 ⟨hl, hs⟩
    dsimp only at hagain
    rw [hresult] at hagain
    refine ⟨_, hagain, ?_, ?_⟩
    · exact (cleanedUp_of_release hk₁ hattached₁ hs rfl).of_current rfl
    · have hfirst : Confined net.name k { k with spaces := afterRelease net.name k, pending } :=
        confined_of_release hk rfl rfl
      exact hfirst.trans (confined_of_release hk₁ rfl rfl) hfewer

/-- The kernel in which a namespace holds one end of a pair and the host the other. -/
def demoPaired : Kernel :=
  ((addLink "vm1-host" (.veth (spaceLinkName "vm1") (some "vm1"))).on
    ((createSpace "vm1").on initial).2).2

theorem reaches_demoPaired : Reaches initial demoPaired :=
  Relation.ReflTransGen.head (Move.space (.create "vm1") initial)
    (.single (Move.link (.add "vm1-host" (.veth (spaceLinkName "vm1") (some "vm1"))) _))

/-- One deletion fails and everything is gone; both fail, and a second try completes them. -/
theorem destroy_cleans_up_demo :
    (∃ k', (destroy links namespaces ⟨"vm1", .ready⟩).run
        (demoPaired.failOnce .deleteLink "vm1-host") =
          ((⟨"vm1", .destroyed⟩, .error (linkFailure "vm1")), k') ∧
      CleanedUp "vm1" (demoPaired.failOnce .deleteLink "vm1-host") k') ∧
    ∃ k', (destroy links namespaces ⟨"vm1", .ready⟩).run
        ((demoPaired.failOnce .deleteLink "vm1-host").failOnce .deleteNamespace "vm1") =
          ((⟨"vm1", .destroyed⟩, .error (.multiple [linkFailure "vm1", spaceFailure "vm1"])), k') ∧
      ∃ k'', (destroy links namespaces ⟨"vm1", .destroyed⟩).run { k' with pending := [] } =
        ((⟨"vm1", .destroyed⟩, .ok ()), k'') ∧ some "vm1" ∉ k''.spaces := by
  have hfirst : Reaches initial (demoPaired.failOnce .deleteLink "vm1-host") :=
    reaches_demoPaired.tail (.failing _ _ _)
  constructor
  · obtain ⟨result, k', hrun, -, hlink, -, -, hclean, -⟩ :=
      destroy_cleans_up ⟨"vm1", .ready⟩ (demoPaired.failOnce .deleteLink "vm1-host") hfirst
        (Or.inr ⟨spaceLinkName "vm1", by decide +kernel⟩)
    obtain rfl := hlink.2 ⟨by decide +kernel, by decide +kernel⟩
    exact ⟨k', hrun, hclean (by decide +kernel)⟩
  · obtain ⟨result, k', hrun, -, -, -, hboth, -, -, hagain⟩ :=
      destroy_cleans_up ⟨"vm1", .ready⟩
        ((demoPaired.failOnce .deleteLink "vm1-host").failOnce .deleteNamespace "vm1")
        (hfirst.tail (.failing _ _ _)) (Or.inr ⟨spaceLinkName "vm1", by decide +kernel⟩)
    obtain rfl := hboth.2 ⟨by decide +kernel, by decide +kernel⟩
    obtain ⟨k'', hrun', hclean, -⟩ := hagain [] (by simp) (by simp)
    exact ⟨k', hrun, k'', hrun', hclean.space⟩

end WorkloadNet.Network
