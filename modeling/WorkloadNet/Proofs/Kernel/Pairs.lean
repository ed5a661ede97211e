import WorkloadNet.Proofs.Kernel.Growth

/-!
# The two ends of a pair

A link that is one end of a pair names the other end, and the other end names it: `Coupled`. Adding and
removing links keeps this. It makes the deletions exact: what they take away is the link or the namespace
and the other ends of the pairs that are cut, and nothing else.
-/

namespace WorkloadNet.Kernel

open WorkloadNet.Action

variable {k k' : Kernel} {spaces spaces' : Spaces} {space far : SpaceName} {name peer : String}

/-- Namespace and name of the other end of the pair that a link belongs to. -/
def peer? (spaces : Spaces) (space : SpaceName) (name : String) : Option (SpaceName × String) :=
  (lookup spaces space name).bind Link.peer

/-- The other end of the other end of a pair is the link itself. -/
def Coupled (spaces : Spaces) : Prop :=
  ∀ space n far m, peer? spaces space n = some (far, m) → peer? spaces far m = some (space, n)

theorem peer?_of_lookup_none (h : lookup spaces space name = none) :
    peer? spaces space name = none := by
  rw [peer?, h]
  rfl

theorem Coupled.of_peers (h : Coupled spaces)
    (hpeers : ∀ space n, peer? spaces' space n = peer? spaces space n) : Coupled spaces' := by
  intro space n far m hpeer
  rw [hpeers] at hpeer ⊢
  exact h space n far m hpeer

/-- Links may go, each with the other end of its pair. -/
theorem Coupled.of_removed (gone : SpaceName → String → Prop) (h : Coupled spaces)
    (hclosed : ∀ space n far m, gone space n → peer? spaces space n = some (far, m) → gone far m)
    (hgone : ∀ space n, gone space n → lookup spaces' space n = none)
    (hkept : ∀ space n, ¬ gone space n → lookup spaces' space n = lookup spaces space n) :
    Coupled spaces' := by
  intro space n far m hpeer
  have hhere : ¬ gone space n := by
    intro hn
    rw [peer?_of_lookup_none (hgone space n hn)] at hpeer
    cases hpeer
  have hold : peer? spaces space n = some (far, m) := by
    rwa [peer?, hkept space n hhere] at hpeer
  have hback : peer? spaces far m = some (space, n) := h space n far m hold
  have hthere : ¬ gone far m := fun hm => hhere (hclosed far m space n hm hback)
  rwa [peer?, hkept far m hthere]

/-! ## What deletions leave of coupled links -/

/-- Removing a link whose other end is gone already takes away the link alone. -/
theorem lookup_removeLink_lone
    (hlone : ∀ far m, peer? spaces space name = some (far, m) → lookup spaces far m = none)
    (other : SpaceName) (n : String) :
    lookup (removeLink space name spaces) other n =
      if (other, n) = (space, name) then none else lookup spaces other n := by
  rw [lookup_removeLink]
  by_cases hself : (other, n) = (space, name)
  · rw [if_pos (Or.inl hself), if_pos hself]
  · rw [if_neg hself]
    split
    · rename_i h
      rcases h with h | h
      · exact absurd h hself
      · exact (hlone other n h).symm
    · rfl

/-- When a namespace is gone, the other ends of the pairs of its links go one after the other, and
with each no link that is still there. -/
theorem lookup_removePeers {links : List Link} (hlone : ∀ link ∈ links, ∀ far m,
      link.peer = some (far, m) → ∀ back b, peer? spaces far m = some (back, b) →
        lookup spaces back b = none) (other : SpaceName) (n : String) :
    lookup (removePeers links spaces) other n =
      if ∃ link ∈ links, link.peer = some (other, n) then none else lookup spaces other n := by
  induction links generalizing spaces with
  | nil => simp [removePeers]
  | cons link rest ih =>
    have hrest := fun l hl => hlone l (List.mem_cons_of_mem link hl)
    rcases hpeer : link.peer with _ | ⟨far, m⟩
    · rw [removePeers_cons_none hpeer, ih hrest]
      simp [hpeer]
    · have hremoved := lookup_removeLink_lone (hlone link List.mem_cons_self far m hpeer)
      have hfewer : ∀ space b, lookup spaces space b = none →
          lookup (removeLink far m spaces) space b = none := by
        intro space b h
        rw [hremoved, h, ite_self]
      rw [removePeers_cons_some hpeer, ih, hremoved]
      · simp only [List.mem_cons, exists_eq_or_imp, hpeer, Option.some.injEq, eq_comm (a := (far, m))]
        by_cases hlater : ∃ l ∈ rest, l.peer = some (other, n)
        · rw [if_pos hlater, if_pos (Or.inr hlater)]
        · simp only [hlater, or_false, if_false]
      · intro l hl far' m' hl' back b hback
        refine hfewer back b (hrest l hl far' m' hl' back b ?_)
        -- The other end of the next link is where it was, or it has been removed by now.
        rw [peer?, hremoved] at hback
        split at hback
        · cases hback
        · exact hback

/-- The namespaces without one of them, and without the other ends of the pairs of its links. -/
def withoutSpace (name : String) (spaces : Spaces) : Spaces :=
  match spaces[(some name : SpaceName)]? with
  | none => spaces
  | some space => removePeers space.links.values (spaces.erase (some name))

theorem on_deleteSpace (k : Kernel) (name : String) :
    (deleteSpace name).on k =
      if (.deleteNamespace, name) ∈ k.pending then
        (.error (injected .deleteNamespace name), k.spend .deleteNamespace name)
      else (.ok (), { k with spaces := withoutSpace name k.spaces }) := by
  unfold deleteSpace withoutSpace
  rw [on_bind, on_takeFailure]
  by_cases hpending : (.deleteNamespace, name) ∈ k.pending
  · rw [if_pos hpending, if_pos hpending]
  · rw [if_neg hpending, if_neg hpending]
    dsimp only
    rw [on_modify]
    cases k.spaces[(some name : SpaceName)]? <;> rfl

theorem on_deleteLink (k : Kernel) (name : String) :
    (deleteLink name).on k =
      if (.deleteLink, name) ∈ k.pending then
        (.error (injected .deleteLink name), k.spend .deleteLink name)
      else (.ok (), { k with spaces := removeLink k.current name k.spaces }) := by
  unfold deleteLink
  rw [on_bind, on_takeFailure]
  by_cases hpending : (.deleteLink, name) ∈ k.pending
  · rw [if_pos hpending, if_pos hpending]
  · rw [if_neg hpending, if_neg hpending]
    rfl

theorem mem_withoutSpace : far ∈ withoutSpace name spaces ↔ far ≠ some name ∧ far ∈ spaces := by
  unfold withoutSpace
  split
  · rename_i hnone
    have hmissing : some name ∉ spaces := by simp [Std.ExtTreeMap.mem_iff_isSome_getElem?, hnone]
    refine ⟨fun hmem => ⟨?_, hmem⟩, And.right⟩
    rintro rfl
    exact hmissing hmem
  · rw [mem_removePeers, Std.ExtTreeMap.mem_erase, ne_eq, Std.LawfulEqOrd.compare_eq_iff_eq]
    exact and_congr_left' (not_congr eq_comm)

/-- A link goes with a namespace when it is in it or its other end is. -/
def CutBy (spaces : Spaces) (name : String) (space : SpaceName) (n : String) : Prop :=
  space = some name ∨ ∃ m, peer? spaces (some name) m = some (space, n)

/-- The other end of a link, looked up in the list of the links of its namespace. -/
theorem peer?_iff_mem_values {s : Space} (hs : spaces[space]? = some s) {m : String} :
    (∃ link ∈ s.links.values, link.peer = some (far, m)) ↔
      ∃ n, peer? spaces space n = some (far, m) := by
  constructor
  · rintro ⟨link, hmem, hpeer⟩
    obtain ⟨n, hn⟩ := Maps.mem_values_iff.1 hmem
    exact ⟨n, by simp [peer?, lookup, hs, hn, hpeer]⟩
  · rintro ⟨n, hn⟩
    obtain ⟨link, hlink, hpeer⟩ := Option.bind_eq_some_iff.1 hn
    obtain ⟨s', hs', hlink⟩ := Option.bind_eq_some_iff.1 hlink
    obtain rfl := Option.some.inj (hs.symm.trans hs')
    exact ⟨link, Maps.mem_values_iff.2 ⟨n, hlink⟩, hpeer⟩

theorem lookup_erase (spaces : Spaces) (gone other : SpaceName) (n : String) :
    lookup (spaces.erase gone) other n = if other = gone then none else lookup spaces other n := by
  unfold lookup
  by_cases h : gone = other
  · subst h
    simp
  · rw [Maps.getElem?_erase_of_ne h, if_neg (Ne.symm h)]

/-- What goes with a namespace is gone, everything else remains. -/
theorem lookup_withoutSpace (h : Coupled spaces) (n : String) :
    (CutBy spaces name space n → lookup (withoutSpace name spaces) space n = none) ∧
      (¬ CutBy spaces name space n →
        lookup (withoutSpace name spaces) space n = lookup spaces space n) := by
  unfold withoutSpace
  split
  · rename_i hmissing
    have hempty : ∀ m, lookup spaces (some name) m = none := fun m => by simp [lookup, hmissing]
    refine ⟨?_, fun _ => rfl⟩
    rintro (rfl | ⟨m, hm⟩)
    · exact hempty n
    · rw [peer?_of_lookup_none (hempty m)] at hm
      cases hm
  · rename_i s hs
    have hlone : ∀ link ∈ s.links.values, ∀ far m, link.peer = some (far, m) → ∀ back b,
        peer? (spaces.erase (some name)) far m = some (back, b) →
          lookup (spaces.erase (some name)) back b = none := by
      intro link hmem far m hlink back b hback
      obtain ⟨n', hn'⟩ := (peer?_iff_mem_values hs).1 ⟨link, hmem, hlink⟩
      rw [peer?, lookup_erase] at hback
      split at hback
      · cases hback
      · obtain ⟨rfl, rfl⟩ := Prod.mk.inj (Option.some.inj ((h _ _ _ _ hn').symm.trans hback))
        rw [lookup_erase, if_pos rfl]
    rw [lookup_removePeers hlone, lookup_erase]
    constructor
    · rintro (rfl | hcut)
      · rw [if_pos rfl, ite_self]
      · rw [if_pos ((peer?_iff_mem_values hs).2 hcut)]
    · intro hcut
      rw [if_neg fun hpeer => hcut (Or.inr ((peer?_iff_mem_values hs).1 hpeer)),
        if_neg fun hspace => hcut (Or.inl hspace)]

/-! ## Coupling is kept -/

theorem coupled_withoutSpace (h : Coupled spaces) : Coupled (withoutSpace name spaces) := by
  refine h.of_removed (CutBy spaces name) ?_ (fun _ n => (lookup_withoutSpace h n).1)
    (fun _ n => (lookup_withoutSpace h n).2)
  rintro space n far m (rfl | ⟨b, hb⟩) hpeer
  · exact Or.inr ⟨n, hpeer⟩
  · obtain ⟨rfl, rfl⟩ := Prod.mk.inj (Option.some.inj ((h _ _ _ _ hb).symm.trans hpeer))
    exact Or.inl rfl

theorem coupled_removeLink (h : Coupled spaces) : Coupled (removeLink space name spaces) := by
  have hlookup := lookup_removeLink spaces space
  refine h.of_removed
    (fun other n => (other, n) = (space, name) ∨ peer? spaces space name = some (other, n))
    ?_ (fun other n hgone => ?_) (fun other n hkept => ?_)
  · rintro other n far m (hself | hother) hpeer
    · cases hself
      exact Or.inr hpeer
    · exact Or.inl (Option.some.inj (hpeer.symm.trans (h _ _ _ _ hother)))
  · rw [hlookup]
    exact if_pos hgone
  · rw [hlookup]
    exact if_neg hkept

/-- A link that is no end of a pair may be added where its name is free. -/
theorem coupled_withLink {link : Link} (h : Coupled spaces) (hlink : link.peer = none)
    (hfree : lookup spaces space name = none) :
    Coupled (spaces.modify space (withLink name link)) := by
  refine h.of_peers fun other n => ?_
  unfold peer?
  rw [lookup_withLink]
  split
  · rename_i heq
    obtain ⟨rfl, rfl⟩ := Prod.mk.inj heq
    rw [hfree]
    cases spaces[other]? with
    | none => rfl
    | some _ => exact hlink
  · rfl

/-- The other ends after a pair was added. -/
theorem peer?_withPair {near distant : Link} (hspace : space ∈ spaces) (hfar : far ∈ spaces)
    (hnear : near.peer = some (far, peer)) (hdistant : distant.peer = some (space, name))
    (other : SpaceName) (n : String) :
    peer? ((spaces.modify far (withLink peer distant)).modify space (withLink name near)) other n =
      if (other, n) = (space, name) then some (far, peer)
      else if (other, n) = (far, peer) then some (space, name) else peer? spaces other n := by
  have hmem : space ∈ spaces.modify far (withLink peer distant) :=
    Std.ExtTreeMap.mem_modify.2 hspace
  unfold peer?
  rw [lookup_withLink, lookup_withLink, Std.ExtTreeMap.getElem?_eq_some_getElem hmem,
    Std.ExtTreeMap.getElem?_eq_some_getElem hfar]
  split
  · simp [hnear]
  · split
    · simp [hdistant]
    · rfl

/-- No link is paired with one that is not there. -/
theorem Coupled.ne_of_free (h : Coupled spaces) (hfree : lookup spaces space name = none)
    {other far' : SpaceName} {n m : String} (hpeer : peer? spaces other n = some (far', m)) :
    (far', m) ≠ (space, name) := by
  have hback := h _ _ _ _ hpeer
  rintro ⟨⟩
  rw [peer?_of_lookup_none hfree] at hback
  cases hback

/-- A pair may be added where both names are free. -/
theorem coupled_withPair {near distant : Link} (h : Coupled spaces) (hspace : space ∈ spaces)
    (hfar : far ∈ spaces) (hfree : lookup spaces space name = none)
    (hfarFree : lookup spaces far peer = none) (hnear : near.peer = some (far, peer))
    (hdistant : distant.peer = some (space, name)) :
    Coupled ((spaces.modify far (withLink peer distant)).modify space (withLink name near)) := by
  intro other n far' m hpeer
  rw [peer?_withPair hspace hfar hnear hdistant] at hpeer ⊢
  split at hpeer
  · rename_i heq
    cases heq
    cases hpeer
    by_cases hself : (far, peer) = (space, name)
    · rw [if_pos hself, hself]
    · rw [if_neg hself, if_pos rfl]
  · split at hpeer
    · rename_i hne heq
      cases heq
      cases hpeer
      rw [if_pos rfl]
    · rw [if_neg (h.ne_of_free hfree hpeer), if_neg (h.ne_of_free hfarFree hpeer)]
      exact h _ _ _ _ hpeer

end WorkloadNet.Kernel
