import WorkloadNet.Proofs.Kernel.Bridge
import WorkloadNet.Proofs.Network.Phases

/-!
# A network in the kernel

`wire` is what a network that is being built adds to a kernel in which its namespace is new: the
host end of the pair in the current namespace, and a namespace with whatever stands inside by then.
Every step of the provisioning changes the host end or the inside. Whichever step fails, the two ends
are still paired with each other and with nothing else, and that is all that the cleanup needs.
-/

namespace WorkloadNet.Network

open WorkloadNet.Action Kernel

variable {k k' : Kernel} {name : String} {host link : Link} {inside : Space}

/-! ## What a network consists of -/

/-- The kernel with one namespace more, and one link more in the current namespace. -/
def wire (name : String) (host : Link) (inside : Space) (k : Kernel) : Kernel :=
  { k with
    spaces := (k.spaces.insert (some name) inside).modify k.current
      (withLink (hostLinkName name) host) }

/-- The kernel seen from inside the namespace of a network. -/
def entered (name : String) (k : Kernel) : Kernel := { k with current := some name }

/-- The host end of a network that is ready. -/
def hostEnd (name : String) (address : Cidr) : Link where
  kind := .veth (spaceLinkName name) (some name)
  addresses := [address]
  state := .up
  peer := some (some name, spaceLinkName name)

/-- The other end of a network that is ready. -/
def spaceEnd (name : String) (near : SpaceName) : Link where
  kind := .veth (hostLinkName name) near
  state := .up
  master := some name
  peer := some (near, hostLinkName name)

/-- The namespace of a network that is ready. -/
def interior (name : String) (near : SpaceName) (address : Cidr) (gateway : V4) : Space where
  links := ((∅ : Links).insert name (bridgeLink address)).insert (spaceLinkName name)
    (spaceEnd name near)
  defaultRoute := some (name, gateway)

/-- The host end of a pair just created. -/
def bareHost (name : String) : Link where
  kind := .veth (spaceLinkName name) (some name)
  peer := some (some name, spaceLinkName name)

/-- The namespace with the other end of a pair just created. -/
def bareInside (name : String) (near : SpaceName) : Space :=
  withLink (spaceLinkName name)
    { kind := .veth (hostLinkName name) near, peer := some (near, hostLinkName name) } {}

theorem spaceLinkName_ne (name : String) : spaceLinkName name ≠ name := by
  intro h
  have hlength := congrArg String.length h
  simp [spaceLinkName, String.length_append] at hlength

/-! ## Pairs -/

/-- The other end of the pair of a link. -/
def peerOf (space : Space) (n : String) : Option (SpaceName × String) :=
  space.links[n]?.bind Link.peer

/-- The two ends are paired with each other, and nothing else inside belongs to a pair. -/
structure Paired (name : String) (near : SpaceName) (host : Link) (inside : Space) : Prop where
  host : host.peer = some (some name, spaceLinkName name)
  far : peerOf inside (spaceLinkName name) = some (near, hostLinkName name)
  others : ∀ n, n ≠ spaceLinkName name → peerOf inside n = none

/-- A change of links that keeps their other ends keeps the pair. -/
theorem Paired.of_peerOf {near : SpaceName} {host' : Link} {inside' : Space}
    (h : Paired name near host inside) (hhost : host'.peer = host.peer)
    (hinside : ∀ n, peerOf inside' n = peerOf inside n) : Paired name near host' inside' := by
  refine ⟨?_, ?_, fun n hn => ?_⟩
  · rw [hhost, h.host]
  · rw [hinside, h.far]
  · rw [hinside, h.others n hn]

theorem getElem?_bareInside (near : SpaceName) (n : String) :
    (bareInside name near).links[n]? = if n = spaceLinkName name then some
      { kind := .veth (hostLinkName name) near, peer := some (near, hostLinkName name) }
    else none := by
  unfold bareInside withLink
  rw [Std.ExtTreeMap.getElem?_insert]
  by_cases hn : n = spaceLinkName name
  · simp [hn]
  · simp [hn, Ne.symm hn]

/-- The two ends are paired as soon as they are there. -/
theorem paired_bare (name : String) (near : SpaceName) :
    Paired name near (bareHost name) (bareInside name near) := by
  refine ⟨rfl, ?_, fun n hn => ?_⟩
  · unfold peerOf
    rw [getElem?_bareInside, if_pos rfl]
    rfl
  · unfold peerOf
    rw [getElem?_bareInside, if_neg hn]
    rfl

/-- What the steps inside the namespace make of it. -/
theorem interior_eq (name : String) (near : SpaceName) (address : Cidr) (gateway : V4) :
    ⟨(withLinkChanged (spaceLinkName name) (fun link => { link with master := some name })
        (withLinkChanged (spaceLinkName name) (fun link => { link with state := .up })
          (withLink name (bridgeLink address) (bareInside name near)))).links,
      some (name, gateway)⟩ = interior name near address gateway := by
  have hne := spaceLinkName_ne name
  unfold interior bareInside withLink withLinkChanged spaceEnd
  simp only [Space.mk.injEq, and_true]
  apply Std.ExtTreeMap.ext_getElem?
  intro n
  simp only [Std.ExtTreeMap.getElem?_modify, Std.ExtTreeMap.getElem?_insert,
    Std.ExtTreeMap.getElem?_empty]
  by_cases hn : spaceLinkName name = n
  · subst hn
    simp [hne.symm]
  · simp [hn]

theorem peerOf_withLinkChanged {f : Link → Link} (hf : ∀ link, (f link).peer = link.peer)
    (space : Space) (changed n : String) :
    peerOf (withLinkChanged changed f space) n = peerOf space n := by
  unfold peerOf withLinkChanged
  rw [Std.ExtTreeMap.getElem?_modify]
  by_cases hn : changed = n
  · subst hn
    cases space.links[changed]? with
    | none => simp
    | some link => simpa using hf link
  · simp [hn]

/-- The link of a network's own name is not the end inside, so it may come and go. -/
theorem Paired.withLink {near : SpaceName} (h : Paired name near host inside)
    (hpeer : link.peer = none) : Paired name near host (withLink name link inside) := by
  have hother : ∀ n, peerOf (Kernel.withLink name link inside) n =
      if n = name then none else peerOf inside n := by
    intro n
    unfold peerOf Kernel.withLink
    rw [Std.ExtTreeMap.getElem?_insert]
    by_cases hn : n = name
    · simp [hn, hpeer]
    · simp [hn, Ne.symm hn]
  refine ⟨h.host, ?_, fun n hn => ?_⟩
  · rw [hother, if_neg (spaceLinkName_ne name), h.far]
  · rw [hother, h.others n hn, ite_self]

/-- Deleting that link, with the route through it, keeps the pair. -/
theorem Paired.withoutLink {near : SpaceName} (h : Paired name near host inside) :
    Paired name near host (withoutRouteVia name (withoutLink name inside)) := by
  have hother : ∀ n, peerOf (withoutRouteVia name (Kernel.withoutLink name inside)) n =
      if n = name then none else peerOf inside n := by
    intro n
    unfold peerOf
    rw [links_withoutRouteVia, Kernel.withoutLink, Std.ExtTreeMap.getElem?_erase]
    by_cases hn : n = name
    · simp [hn]
    · simp [hn, Ne.symm hn]
  refine ⟨h.host, ?_, fun n hn => ?_⟩
  · rw [hother, if_neg (spaceLinkName_ne name), h.far]
  · rw [hother, h.others n hn, ite_self]

/-! ## Looking at and changing what is wired -/

theorem link?_wire_host (hcurrent : k.current ∈ k.spaces) :
    (wire name host inside k).link? k.current (hostLinkName name) = some host :=
  link?_update_withLink (k := { k with spaces := k.spaces.insert (some name) inside })
    (Std.ExtTreeMap.mem_insert.2 (Or.inr hcurrent))

/-- A change of the host end is a change of what is wired. -/
theorem update_wire_host (f : Link → Link) :
    (wire name host inside k).update (withLinkChanged (hostLinkName name) f) =
      wire name (f host) inside k :=
  update_withLink_withLinkChanged (k := { k with spaces := k.spaces.insert (some name) inside }) f

section Changes

variable (hcurrent : k.current ∈ k.spaces) (hnew : some name ∉ k.spaces)

include hcurrent hnew

theorem current_ne : k.current ≠ some name := by
  intro h
  rw [h] at hcurrent
  exact hnew hcurrent

theorem getElem?_wire_inside :
    (wire name host inside k).spaces[(some name : SpaceName)]? = some inside := by
  have hne := current_ne hcurrent hnew
  unfold wire
  rw [Maps.getElem?_modify_of_ne hne, Std.ExtTreeMap.getElem?_insert_self]

theorem link?_wire_inside (n : String) :
    (wire name host inside k).link? (some name) n = inside.links[n]? := by
  unfold link?
  rw [getElem?_wire_inside hcurrent hnew]
  rfl

theorem route?_wire_inside :
    (wire name host inside k).route? (some name) = inside.defaultRoute := by
  unfold route?
  rw [getElem?_wire_inside hcurrent hnew]
  rfl

theorem modify_wire_inside (f : Space → Space) :
    (wire name host inside k).spaces.modify (some name) f =
      (wire name host (f inside) k).spaces := by
  have hne := current_ne hcurrent hnew
  unfold wire
  rw [Maps.modify_comm hne, Maps.modify_insert_self]

/-- Inside the namespace, a change of the namespace is a change of what is wired. -/
theorem update_entered_wire (f : Space → Space) :
    (entered name (wire name host inside k)).update f =
      entered name (wire name host (f inside) k) := by
  have hspaces : (wire name host inside k).spaces.modify (some name) f =
      (wire name host (f inside) k).spaces := modify_wire_inside hcurrent hnew f
  unfold update entered
  dsimp only
  rw [hspaces]
  rfl

end Changes

end WorkloadNet.Network
