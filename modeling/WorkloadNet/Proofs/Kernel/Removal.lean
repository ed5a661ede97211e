import WorkloadNet.Proofs.Kernel.Operations

/-!
# What deletions take away

Deleting a link takes away the link, the other end of its pair and the default route through it;
deleting a namespace takes away the namespace and the other ends of the pairs of its links. The
lemmas here say what remains, first for one link, then for the links of a namespace that is gone.
-/

namespace WorkloadNet.Kernel

/-! ## One link -/

/-- A link of a namespace. -/
def lookup (spaces : Spaces) (space : SpaceName) (name : String) : Option Link :=
  spaces[space]?.bind fun s => s.links[name]?

theorem link?_eq_lookup (k : Kernel) (space : SpaceName) (name : String) :
    k.link? space name = lookup k.spaces space name := rfl

@[simp] theorem links_withoutRouteVia (device : String) (space : Space) :
    (withoutRouteVia device space).links = space.links := by
  unfold withoutRouteVia
  split <;> rfl

theorem lookup_withoutLink (spaces : Spaces) (space other : SpaceName) (name n : String) :
    lookup (spaces.modify space (withoutLink name)) other n =
      if (other, n) = (space, name) then none else lookup spaces other n := by
  unfold lookup
  rw [Std.ExtTreeMap.getElem?_modify]
  by_cases hspace : space = other
  · subst hspace
    cases spaces[space]? with
    | none => simp
    | some s =>
      by_cases hname : n = name
      · simp [withoutLink, hname]
      · simp [withoutLink, hname, Std.ExtTreeMap.getElem?_erase, Ne.symm hname]
  · simp [hspace, Ne.symm hspace]

theorem lookup_withLink (spaces : Spaces) (space other : SpaceName) (name n : String) (link : Link) :
    lookup (spaces.modify space (withLink name link)) other n =
      if (other, n) = (space, name) then spaces[space]?.map fun _ => link
      else lookup spaces other n := by
  unfold lookup
  rw [Std.ExtTreeMap.getElem?_modify]
  by_cases hspace : space = other
  · subst hspace
    cases spaces[space]? with
    | none => simp
    | some s =>
      by_cases hname : n = name
      · simp [withLink, hname]
      · simp [withLink, hname, Std.ExtTreeMap.getElem?_insert, Ne.symm hname]
  · simp [hspace, Ne.symm hspace]

theorem lookup_withLinkChanged (spaces : Spaces) (space other : SpaceName) (name n : String)
    (f : Link → Link) :
    lookup (spaces.modify space (withLinkChanged name f)) other n =
      if (other, n) = (space, name) then (lookup spaces space name).map f
      else lookup spaces other n := by
  unfold lookup
  rw [Std.ExtTreeMap.getElem?_modify]
  by_cases hspace : space = other
  · subst hspace
    cases spaces[space]? with
    | none => simp
    | some s =>
      by_cases hname : n = name
      · simp [withLinkChanged, hname]
      · simp [withLinkChanged, hname, Std.ExtTreeMap.getElem?_modify, Ne.symm hname]
  · simp [hspace, Ne.symm hspace]

/-- A change of one namespace that leaves its links leaves all links. -/
theorem lookup_modify_of_links {spaces : Spaces} {far space : SpaceName} {n : String} {f : Space → Space}
    (hf : ∀ s, (f s).links = s.links) : lookup (spaces.modify far f) space n = lookup spaces space n := by
  unfold lookup
  rw [Std.ExtTreeMap.getElem?_modify]
  split
  · rename_i heq
    obtain rfl := Std.LawfulEqOrd.eq_of_compare heq
    cases spaces[far]? with
    | none => rfl
    | some s => exact congrArg (·[n]?) (hf s)
  · rfl

theorem lookup_withoutRouteVia (spaces : Spaces) (space other : SpaceName) (device n : String) :
    lookup (spaces.modify space (withoutRouteVia device)) other n = lookup spaces other n :=
  lookup_modify_of_links (links_withoutRouteVia device)

/-- A change of one namespace that leaves its default route leaves every other namespace and route. -/
theorem map_defaultRoute_modify {spaces : Spaces} {space other : SpaceName} {f : Space → Space}
    (hf : space = other → ∀ s, (f s).defaultRoute = s.defaultRoute) :
    (spaces.modify space f)[other]?.map Space.defaultRoute =
      spaces[other]?.map Space.defaultRoute := by
  by_cases hother : space = other
  · subst hother
    rw [Std.ExtTreeMap.getElem?_modify_self, Option.map_map]
    exact Option.map_congr fun s _ => hf rfl s
  · rw [Maps.getElem?_modify_of_ne hother]

theorem mem_removeLink {spaces : Spaces} {space other : SpaceName} {name : String} :
    other ∈ removeLink space name spaces ↔ other ∈ spaces := by
  unfold removeLink
  dsimp only
  cases (spaces[space]?.bind fun s => s.links[name]?).bind Link.peer <;>
    simp only [Std.ExtTreeMap.mem_modify]

theorem removeLink_of_unpaired {spaces : Spaces} {space : SpaceName} {name : String}
    (h : (lookup spaces space name).bind Link.peer = none) :
    removeLink space name spaces =
      (spaces.modify space (withoutLink name)).modify space (withoutRouteVia name) := by
  have hpeer : (spaces[space]?.bind fun s => s.links[name]?).bind Link.peer = none := h
  unfold removeLink
  dsimp only
  rw [hpeer]

theorem removeLink_of_paired {spaces : Spaces} {space far : SpaceName} {name peer : String}
    (h : (lookup spaces space name).bind Link.peer = some (far, peer)) :
    removeLink space name spaces =
      ((spaces.modify space (withoutLink name)).modify far (withoutLink peer)).modify space
        (withoutRouteVia name) := by
  have hpeer : (spaces[space]?.bind fun s => s.links[name]?).bind Link.peer = some (far, peer) := h
  unfold removeLink
  dsimp only
  rw [hpeer]

/-- Whatever is neither the link nor the other end of its pair remains. -/
theorem lookup_removeLink (spaces : Spaces) (space other : SpaceName) (name n : String) :
    lookup (removeLink space name spaces) other n =
      if (other, n) = (space, name) ∨ (lookup spaces space name).bind Link.peer = some (other, n)
      then none else lookup spaces other n := by
  cases hpeer : (lookup spaces space name).bind Link.peer with
  | none => simp [removeLink_of_unpaired hpeer, lookup_withoutRouteVia, lookup_withoutLink]
  | some peer =>
    simp only [removeLink_of_paired hpeer, lookup_withoutRouteVia, lookup_withoutLink]
    grind

/-- Removing what is not there, neither as a link nor as the device of the route. -/
theorem removeLink_eq_self {spaces : Spaces} {space : SpaceName} {name : String}
    (hfree : lookup spaces space name = none)
    (hroute : ∀ s, spaces[space]? = some s → s.defaultRoute.map Prod.fst ≠ some name) :
    removeLink space name spaces = spaces := by
  rw [removeLink_of_unpaired (by rw [hfree]; rfl), Maps.modify_modify]
  refine Maps.modify_eq_self fun s hs => ?_
  have hmissing : s.links[name]? = none := by simpa [lookup, hs] using hfree
  have hlinks : s.links.erase name = s.links := by
    apply Std.ExtTreeMap.ext_getElem?
    grind
  rw [Function.comp_apply, withoutLink, hlinks, withoutRouteVia, if_neg (hroute s hs)]

/-- A link that is added and taken away again, in a namespace that had no such link. -/
theorem withoutRouteVia_withLink {s : Space} {name : String} {link : Link}
    (hmissing : s.links[name]? = none) (hroute : s.defaultRoute.map Prod.fst ≠ some name) :
    withoutRouteVia name (withoutLink name (withLink name link s)) = s := by
  have hlinks : (s.links.insert name link).erase name = s.links := by
    apply Std.ExtTreeMap.ext_getElem?
    grind
  simp only [withLink, withoutLink, hlinks]
  rw [withoutRouteVia, if_neg hroute]

section Added

variable {spaces : Spaces} {space : SpaceName} {name : String} {link : Link}

/-- Removing a link that was added leaves what was there before. -/
theorem removeLink_withLink_unpaired (hfree : lookup spaces space name = none)
    (hroute : ∀ s, spaces[space]? = some s → s.defaultRoute.map Prod.fst ≠ some name)
    (hpeer : link.peer = none) :
    removeLink space name (spaces.modify space (withLink name link)) = spaces := by
  have hunpaired :
      (lookup (spaces.modify space (withLink name link)) space name).bind Link.peer = none := by
    rw [lookup_withLink, if_pos rfl]
    cases spaces[space]? with
    | none => rfl
    | some _ => exact hpeer
  rw [removeLink_of_unpaired hunpaired, Maps.modify_modify, Maps.modify_modify]
  refine Maps.modify_eq_self fun s hs => ?_
  have hmissing : s.links[name]? = none := by simpa [lookup, hs] using hfree
  exact withoutRouteVia_withLink hmissing (hroute s hs)

/-- Removing a link that was added leaves the end of its pair to be removed. -/
theorem removeLink_withLink {far : SpaceName} {peer : String} (hspace : space ∈ spaces)
    (hfree : lookup spaces space name = none)
    (hroute : ∀ s, spaces[space]? = some s → s.defaultRoute.map Prod.fst ≠ some name)
    (hpeer : link.peer = some (far, peer)) (hne : space ≠ far) :
    removeLink space name (spaces.modify space (withLink name link)) =
      spaces.modify far (withoutLink peer) := by
  have hadded : lookup (spaces.modify space (withLink name link)) space name = some link := by
    rw [lookup_withLink, if_pos rfl, Std.ExtTreeMap.getElem?_eq_some_getElem hspace, Option.map_some]
  rw [removeLink_of_paired (by rw [hadded]; exact hpeer), Maps.modify_comm (Ne.symm hne),
    Maps.modify_modify, Maps.modify_modify]
  congr 1
  refine Maps.modify_eq_self fun s hs => ?_
  have hmissing : s.links[name]? = none := by simpa [lookup, hs] using hfree
  exact withoutRouteVia_withLink hmissing (hroute s hs)

end Added

/-! ## The links of a namespace that is gone -/

theorem removePeers_cons_none {link : Link} {rest : List Link} {spaces : Spaces}
    (h : link.peer = none) : removePeers (link :: rest) spaces = removePeers rest spaces := by
  unfold removePeers
  rw [List.foldl_cons, h]

theorem removePeers_cons_some {link : Link} {rest : List Link} {spaces : Spaces}
    {space : SpaceName} {peer : String} (h : link.peer = some (space, peer)) :
    removePeers (link :: rest) spaces = removePeers rest (removeLink space peer spaces) := by
  unfold removePeers
  rw [List.foldl_cons, h]

theorem mem_removePeers {links : List Link} {other : SpaceName} :
    ∀ {spaces : Spaces}, other ∈ removePeers links spaces ↔ other ∈ spaces := by
  induction links with
  | nil => exact Iff.rfl
  | cons link rest ih =>
    intro spaces
    rcases hpeer : link.peer with _ | ⟨space, peer⟩
    · rw [removePeers_cons_none hpeer, ih]
    · rw [removePeers_cons_some hpeer, ih, mem_removeLink]

/-- Nothing changes when the other ends are gone already. -/
theorem removePeers_eq_self {links : List Link} {spaces : Spaces}
    (h : ∀ link ∈ links, ∀ space peer, link.peer = some (space, peer) →
      removeLink space peer spaces = spaces) : removePeers links spaces = spaces := by
  induction links with
  | nil => rfl
  | cons link rest ih =>
    have hrest := ih fun l hl => h l (List.mem_cons_of_mem _ hl)
    rcases hpeer : link.peer with _ | ⟨space, peer⟩
    · rw [removePeers_cons_none hpeer, hrest]
    · rw [removePeers_cons_some hpeer, h link List.mem_cons_self space peer hpeer, hrest]

/-- When the links are paired with one link only, that link is what is removed, wherever in the list
its partner stands. -/
theorem removePeers_eq_removeLink {links : List Link} {spaces : Spaces} {space : SpaceName}
    {peer : String} (hpeers : ∀ link ∈ links, link.peer = none ∨ link.peer = some (space, peer))
    (hpaired : ∃ link ∈ links, link.peer = some (space, peer))
    (hagain : removeLink space peer (removeLink space peer spaces) = removeLink space peer spaces) :
    removePeers links spaces = removeLink space peer spaces := by
  induction links with
  | nil => simp at hpaired
  | cons link rest ih =>
    have hrest : ∀ l ∈ rest, l.peer = none ∨ l.peer = some (space, peer) :=
      fun l hl => hpeers l (List.mem_cons_of_mem _ hl)
    rcases hpeers link List.mem_cons_self with hnone | hsome
    · rw [removePeers_cons_none hnone]
      obtain ⟨partner, hmem, hpartner⟩ := hpaired
      rcases List.mem_cons.1 hmem with rfl | hmem
      · rw [hnone] at hpartner
        cases hpartner
      · exact ih hrest ⟨partner, hmem, hpartner⟩
    · rw [removePeers_cons_some hsome]
      -- The partner has been met: the rest removes the same link again, if anything.
      refine removePeers_eq_self fun l hl s p hsp => ?_
      rcases hrest l hl with hnone | hsome'
      · rw [hnone] at hsp
        cases hsp
      · obtain ⟨rfl, rfl⟩ := Prod.mk.inj (Option.some.inj (hsome'.symm.trans hsp))
        exact hagain

end WorkloadNet.Kernel
