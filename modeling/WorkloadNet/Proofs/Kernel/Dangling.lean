import WorkloadNet.Proofs.Kernel.Moves

/-!
# References that name nothing

A default route names the device that it goes through, a link the bridge that it is attached to. When an
event leaves such a reference without what it names, the reference named nothing before the event either,
or the event is a deletion of one kind: of the link whose other end the device is, or of the bridge by its
name. Every other deletion takes the references to what it removes along.
-/

namespace WorkloadNet.Kernel

variable {k : Kernel} {e : Event} {spaces spaces' : Spaces} {space far : SpaceName}
variable {name device n master : String} {gateway : V4}

/-! ## Namespaces -/

/-- A namespace stays unless it is deleted. -/
theorem Effect.present (h : Effect k e spaces') (hspace : space ∈ k.spaces) :
    space ∈ spaces' ∨ ∃ name, space = some name ∧ e = .space (.delete name) := by
  have hsettled : space ∈ k.settle.spaces := Std.ExtTreeMap.mem_insertIfNew.2 (Or.inr hspace)
  cases h with
  | same => exact Or.inl hspace
  | settled => exact Or.inl hsettled
  | edited => exact Or.inl (Std.ExtTreeMap.mem_modify.2 hspace)
  | routed => exact Or.inl (Std.ExtTreeMap.mem_modify.2 hspace)
  | added => exact Or.inl (Std.ExtTreeMap.mem_modify.2 hsettled)
  | paired => exact Or.inl (Std.ExtTreeMap.mem_modify.2 (Std.ExtTreeMap.mem_modify.2 hsettled))
  | removed => exact Or.inl (mem_removeLink.2 hspace)
  | created => exact Or.inl (Std.ExtTreeMap.mem_insertIfNew.2 (Or.inr hspace))
  | @dropped name =>
    by_cases heq : space = some name
    · exact Or.inr ⟨name, heq, rfl⟩
    · exact Or.inl (mem_withoutSpace.2 ⟨heq, hspace⟩)

/-! ## Default routes -/

/-- The default route of a namespace. -/
def routeOf (spaces : Spaces) (space : SpaceName) : Option (String × V4) :=
  spaces[space]?.bind Space.defaultRoute

theorem routeOf_modify {f : Space → Space} (hf : ∀ s, (f s).defaultRoute = s.defaultRoute) :
    routeOf (spaces.modify far f) space = routeOf spaces space := by
  have hroute : (spaces.modify far f)[space]?.map Space.defaultRoute =
      spaces[space]?.map Space.defaultRoute := map_defaultRoute_modify fun _ => hf
  simpa [routeOf, Option.bind_map] using congrArg (·.bind id) hroute

theorem routeOf_insertIfNew : routeOf (spaces.insertIfNew far {}) space = routeOf spaces space := by
  unfold routeOf
  by_cases h : far ∈ spaces
  · rw [Maps.insertIfNew_of_mem h]
  · rw [Maps.insertIfNew_of_not_mem h]
    by_cases heq : far = space
    · subst heq
      rw [Std.ExtTreeMap.getElem?_insert_self, Std.ExtTreeMap.getElem?_eq_none h]
      rfl
    · rw [Maps.getElem?_insert_of_ne heq]

theorem routeOf_withoutRouteVia :
    routeOf (spaces.modify far (withoutRouteVia name)) space = some (device, gateway) ↔
      routeOf spaces space = some (device, gateway) ∧ (space, device) ≠ (far, name) := by
  unfold routeOf
  by_cases h : far = space
  · subst h
    rw [Std.ExtTreeMap.getElem?_modify_self]
    cases spaces[far]? with
    | none => simp
    | some s =>
      simp only [Option.map_some, Option.bind_some, withoutRouteVia]
      split <;> grind
  · rw [Maps.getElem?_modify_of_ne h]
    grind

/-- With a link goes the default route of its namespace through it. -/
theorem routeOf_removeLink :
    routeOf (removeLink far name spaces) space = some (device, gateway) ↔
      routeOf spaces space = some (device, gateway) ∧ (space, device) ≠ (far, name) := by
  have hkept : ∀ {spaces : Spaces} {far : SpaceName} {name : String},
      routeOf (spaces.modify far (withoutLink name)) space = routeOf spaces space :=
    routeOf_modify fun _ => rfl
  cases hpeer : (lookup spaces far name).bind Link.peer with
  | none => rw [removeLink_of_unpaired hpeer, routeOf_withoutRouteVia, hkept]
  | some peer => rw [removeLink_of_paired hpeer, routeOf_withoutRouteVia, hkept, hkept]

theorem routeOf_removePeers {links : List Link} :
    ∀ {spaces : Spaces}, routeOf (removePeers links spaces) space = some (device, gateway) →
      routeOf spaces space = some (device, gateway) ∧
        ∀ link ∈ links, link.peer ≠ some (space, device) := by
  induction links with
  | nil => exact fun h => ⟨h, fun _ hmem => nomatch hmem⟩
  | cons link rest ih =>
    intro spaces h
    rcases hpeer : link.peer with _ | ⟨far, peer⟩
    · rw [removePeers_cons_none hpeer] at h
      obtain ⟨hroute, hrest⟩ := ih h
      refine ⟨hroute, List.forall_mem_cons.2 ⟨?_, hrest⟩⟩
      rw [hpeer]
      exact nofun
    · rw [removePeers_cons_some hpeer] at h
      obtain ⟨hremoved, hrest⟩ := ih h
      obtain ⟨hroute, hne⟩ := routeOf_removeLink.1 hremoved
      refine ⟨hroute, List.forall_mem_cons.2 ⟨?_, hrest⟩⟩
      rw [hpeer]
      exact fun heq => hne (Option.some.inj heq).symm

/-- With a namespace go the default routes, in it and elsewhere, through the links that go. -/
theorem routeOf_withoutSpace (h : routeOf (withoutSpace name spaces) space = some (device, gateway)) :
    routeOf spaces space = some (device, gateway) ∧ ¬ CutBy spaces name space device := by
  unfold withoutSpace at h
  split at h
  · rename_i hmissing
    refine ⟨h, ?_⟩
    rintro (rfl | ⟨m, hm⟩)
    · simp [routeOf, hmissing] at h
    · simp [peer?, lookup, hmissing] at hm
  · rename_i s hs
    obtain ⟨herased, hpeers⟩ := routeOf_removePeers h
    have hne : space ≠ some name := by
      rintro rfl
      simp [routeOf] at herased
    refine ⟨?_, ?_⟩
    · rwa [routeOf, Maps.getElem?_erase_of_ne (Ne.symm hne)] at herased
    · rintro (heq | hcut)
      · exact hne heq
      · obtain ⟨link, hmem, hpeer⟩ := (peer?_iff_mem_values hs).2 hcut
        exact hpeers link hmem hpeer

theorem routeOf_initial (space : SpaceName) : routeOf initial.spaces space = none := by
  unfold routeOf initial
  rw [Std.ExtTreeMap.getElem?_insert]
  split <;> simp

/-- A route that is there after an event was there before, or is new and goes through a link. -/
theorem Effect.route (h : Effect k e spaces') (hroute : routeOf spaces' space = some (device, gateway)) :
    routeOf k.spaces space = some (device, gateway) ∨ (lookup k.spaces space device).isSome := by
  have hsettled : routeOf k.settle.spaces space = routeOf k.spaces space := routeOf_insertIfNew
  have hadded : ∀ {spaces : Spaces} {far : SpaceName} {name : String} {link : Link},
      routeOf (spaces.modify far (withLink name link)) space = routeOf spaces space :=
    routeOf_modify fun _ => rfl
  have hchanged : ∀ {spaces : Spaces} {far : SpaceName} {name : String} {f : Link → Link},
      routeOf (spaces.modify far (withLinkChanged name f)) space = routeOf spaces space :=
    routeOf_modify fun _ => rfl
  cases h with
  | same => exact Or.inl hroute
  | settled => exact Or.inl (hsettled ▸ hroute)
  | edited =>
    rw [hchanged] at hroute
    exact Or.inl hroute
  | routed hdevice =>
    by_cases heq : k.current = space
    · subst heq
      rw [routeOf, Std.ExtTreeMap.getElem?_modify_self] at hroute
      obtain ⟨s, hs, hsome⟩ := Option.bind_eq_some_iff.1 hroute
      obtain ⟨_, -, rfl⟩ := Option.map_eq_some_iff.1 hs
      obtain ⟨rfl, rfl⟩ := Prod.mk.inj (Option.some.inj hsome)
      exact Or.inr hdevice
    · rw [routeOf, Maps.getElem?_modify_of_ne heq] at hroute
      exact Or.inl hroute
  | added =>
    rw [hadded, hsettled] at hroute
    exact Or.inl hroute
  | paired =>
    rw [hadded, hadded, hsettled] at hroute
    exact Or.inl hroute
  | removed => exact Or.inl (routeOf_removeLink.1 hroute).1
  | created => exact Or.inl (routeOf_insertIfNew ▸ hroute)
  | dropped => exact Or.inl (routeOf_withoutSpace hroute).1

/-- The default route of a namespace goes through a device that is not there. -/
def StrayRoute (spaces : Spaces) (space : SpaceName) (device : String) : Prop :=
  (∃ gateway, routeOf spaces space = some (device, gateway)) ∧ lookup spaces space device = none

/-- A route loses its device only when that goes as the other end of a link that is deleted. -/
theorem Effect.strayRoute (h : Effect k e spaces') (hk : Coupled k.spaces)
    (hstray : StrayRoute spaces' space device) :
    StrayRoute k.spaces space device ∨
      ∃ near, e = .link (.delete near) ∧ peer? k.spaces k.current near = some (space, device) := by
  obtain ⟨⟨gateway, hroute⟩, hmissing⟩ := hstray
  -- The route is old, and both deletions by name and with a namespace would have taken it along.
  have hbefore := h.route hroute
  have hfate := h.fate hk space device
  rw [hmissing] at hfate
  generalize hold : lookup k.spaces space device = old at hfate
  cases hfate with
  | kept =>
    rw [hold] at hbefore
    exact Or.inl ⟨⟨gateway, hbefore.resolve_right nofun⟩, hold⟩
  | cut hevent hspaces hcut =>
    rw [hspaces] at hroute
    exact Or.inr ⟨_, hevent, hcut.resolve_left (routeOf_removeLink.1 hroute).2⟩
  | swept hevent hspaces hcut =>
    rw [hspaces] at hroute
    exact absurd hcut (routeOf_withoutSpace hroute).2

/-! ## Masters -/

/-- A link of a namespace is attached to a bridge that is not there. -/
def StrayMaster (spaces : Spaces) (space : SpaceName) (n master : String) : Prop :=
  (∃ link, lookup spaces space n = some link ∧ link.master = some master) ∧
    ¬ HasBridge spaces space master

theorem peer?_of_hasBridge (hmarked : AllMarked k.spaces) (h : HasBridge k.spaces space n) :
    peer? k.spaces space n = none := by
  obtain ⟨bridge, hbridge, hkind⟩ := h
  rw [peer?, hbridge, Option.bind_some, ← Option.not_isSome_iff_eq_none]
  intro hpeer
  obtain ⟨peer, far, hveth⟩ := (hmarked space n bridge hbridge).1 hpeer
  rw [hkind] at hveth
  cases hveth

/-- A bridge stays a bridge unless it is deleted by its name, or goes with its namespace. -/
theorem Effect.bridge (h : Effect k e spaces') (hk : Coupled k.spaces) (hmarked : AllMarked k.spaces)
    (hbridge : HasBridge k.spaces space n) :
    HasBridge spaces' space n ∨ (e = .link (.delete n) ∧ space = k.current) ∨
      ∀ m, lookup spaces' space m = none := by
  -- A bridge is no end of a pair, so no other deletion takes it along.
  have hunpaired := peer?_of_hasBridge hmarked hbridge
  have hlone : ∀ far m, peer? k.spaces far m ≠ some (space, n) := by
    intro far m hpeer
    cases hunpaired.symm.trans (hk _ _ _ _ hpeer)
  obtain ⟨bridge, hbridge, hkind⟩ := hbridge
  have hfate := h.fate hk space n
  rw [hbridge] at hfate
  generalize hnew : lookup spaces' space n = new at hfate
  cases hfate with
  | kept => exact Or.inl ⟨bridge, hnew, hkind⟩
  | altered hkept _ _ => exact Or.inl ⟨_, hnew, hkept.trans hkind⟩
  | cut hevent _ hcut =>
    rcases hcut with hself | hpeer
    · obtain ⟨hspace, rfl⟩ := Prod.mk.inj hself
      exact Or.inr (Or.inl ⟨hevent, hspace⟩)
    · exact absurd hpeer (hlone _ _)
  | swept _ hspaces hcut =>
    rcases hcut with hspace | ⟨m, hpeer⟩
    · refine Or.inr (Or.inr fun m => ?_)
      rw [hspaces]
      exact (lookup_withoutSpace hk m).1 (Or.inl hspace)
    · exact absurd hpeer (hlone _ _)

/-- A link that is attached after an event was attached to the same bridge before, or the bridge is
there. -/
theorem Effect.attached (h : Effect k e spaces') (hk : Coupled k.spaces) {link : Link}
    (hlink : lookup spaces' space n = some link) (hmaster : link.master = some master) :
    (∃ old, lookup k.spaces space n = some old ∧ old.master = some master) ∨
      HasBridge k.spaces space master := by
  have hfate := h.fate hk space n
  rw [hlink] at hfate
  generalize hold : lookup k.spaces space n = old at hfate
  cases hfate with
  | kept => exact Or.inl ⟨link, rfl, hmaster⟩
  | altered _ _ haltered =>
    rcases haltered with hsame | ⟨other, hother, hbridge⟩
    · exact Or.inl ⟨_, rfl, hsame.symm.trans hmaster⟩
    · obtain rfl := Option.some.inj (hother.symm.trans hmaster)
      exact Or.inr hbridge
  | born _ hnone =>
    rw [hnone] at hmaster
    cases hmaster

/-- A link loses its bridge only when that is deleted by its name. -/
theorem Effect.strayMaster (h : Effect k e spaces') (hk : Coupled k.spaces)
    (hmarked : AllMarked k.spaces) (hstray : StrayMaster spaces' space n master) :
    StrayMaster k.spaces space n master ∨
      (e = .link (.delete master) ∧ space = k.current ∧ HasBridge k.spaces space master) := by
  obtain ⟨⟨link, hlink, hmaster⟩, hmissing⟩ := hstray
  by_cases hbridge : HasBridge k.spaces space master
  · rcases h.bridge hk hmarked hbridge with hthere | ⟨hevent, hspace⟩ | hempty
    · exact absurd hthere hmissing
    · exact Or.inr ⟨hevent, hspace, hbridge⟩
    · rw [hempty] at hlink
      cases hlink
  · exact Or.inl ⟨(h.attached hk hlink hmaster).resolve_right hbridge, hbridge⟩

end WorkloadNet.Kernel
