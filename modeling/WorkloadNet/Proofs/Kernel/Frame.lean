import WorkloadNet.Proofs.Kernel.Moves

/-!
# What operations on links do elsewhere

Operations on links act in the current namespace. Another namespace stays as it is, but for the ends
in it of pairs that are created or deleted from the current one: `Apart`. No namespace comes or goes,
no default route elsewhere changes, and every other link elsewhere is the same.
-/

namespace WorkloadNet.Kernel

open WorkloadNet.Action Session

variable {k k₁ k₂ : Kernel} {here other : SpaceName} {steps later : List LinkStep} {op : KernelOp}
variable {name : String}

/-! ## Changes in other namespaces -/

/-- What steps in the namespace `here` may make of the link of a name in another namespace: it is as
it was; or what was there is gone with the other end of its pair, which a step deletes, and what is
there now came with the other end of its pair, which a step creates. -/
def Moved (here : SpaceName) (steps : List LinkStep) (other : SpaceName) (name : String)
    (old new : Option Link) : Prop :=
  new = old ∨
    (∀ link, old = some link → ∃ near, link.peer = some (here, near) ∧ .delete near ∈ steps) ∧
      ∀ link, new = some link → ∃ near,
        link = { kind := .veth near here, peer := some (here, near) } ∧
          .add near (.veth name other) ∈ steps

/-- Steps in the namespace `here` lead from the first kernel to the second, as far as other namespaces
show it. -/
structure Apart (here : SpaceName) (steps : List LinkStep) (k k' : Kernel) : Prop where
  spaces : ∀ other, other ≠ here →
    k'.spaces[other]?.map Space.defaultRoute = k.spaces[other]?.map Space.defaultRoute
  links : ∀ other name, other ≠ here →
    Moved here steps other name (k.link? other name) (k'.link? other name)

theorem Moved.mono {old new : Option Link} (h : Moved here steps other name old new)
    (hsteps : steps ⊆ later) : Moved here later other name old new := by
  rcases h with h | ⟨hold, hnew⟩
  · exact Or.inl h
  · refine Or.inr ⟨fun link hlink => ?_, fun link hlink => ?_⟩
    · obtain ⟨near, hpeer, hmem⟩ := hold link hlink
      exact ⟨near, hpeer, hsteps hmem⟩
    · obtain ⟨near, hnear, hmem⟩ := hnew link hlink
      exact ⟨near, hnear, hsteps hmem⟩

theorem Moved.trans {old mid new : Option Link} (h : Moved here steps other name old mid)
    (h' : Moved here steps other name mid new) : Moved here steps other name old new := by
  rcases h with rfl | ⟨hold, hmid⟩
  · exact h'
  · rcases h' with rfl | ⟨-, hnew⟩
    · exact Or.inr ⟨hold, hmid⟩
    · exact Or.inr ⟨hold, hnew⟩

theorem Apart.refl (here : SpaceName) (steps : List LinkStep) (k : Kernel) : Apart here steps k k :=
  ⟨fun _ _ => rfl, fun _ _ _ => Or.inl rfl⟩

/-- The namespaces are all that counts. -/
theorem Apart.of_spaces {k' k₁' : Kernel} (h : Apart here steps k k₁) (hk : k'.spaces = k.spaces)
    (hk₁ : k₁'.spaces = k₁.spaces) : Apart here steps k' k₁' := by
  refine ⟨fun other hother => ?_, fun other name hother => ?_⟩
  · rw [hk, hk₁]
    exact h.spaces other hother
  · rw [link?, link?, hk, hk₁]
    exact h.links other name hother

theorem Apart.mono (h : Apart here steps k k₁) (hsteps : steps ⊆ later) : Apart here later k k₁ :=
  ⟨h.spaces, fun other name hother => (h.links other name hother).mono hsteps⟩

theorem Apart.trans (h : Apart here steps k k₁) (h' : Apart here steps k₁ k₂) :
    Apart here steps k k₂ := by
  refine ⟨fun other hother => ?_, fun other name hother => ?_⟩
  · exact (h'.spaces other hother).trans (h.spaces other hother)
  · exact (h.links other name hother).trans (h'.links other name hother)

/-- Steps after steps. -/
theorem Apart.append (h : Apart here steps k k₁) (h' : Apart here later k₁ k₂) :
    Apart here (steps ++ later) k k₂ :=
  (h.mono (List.subset_append_left steps later)).trans
    (h'.mono (List.subset_append_right steps later))

/-! ## Changes of the current namespace -/

/-- Nothing but the current namespace has changed. -/
structure Local (k k' : Kernel) : Prop where
  current : k'.current = k.current
  spaces : ∀ other, other ≠ k.current → k'.spaces[other]? = k.spaces[other]?

theorem Local.refl (k : Kernel) : Local k k := ⟨rfl, fun _ _ => rfl⟩

theorem Local.trans (h : Local k k₁) (h' : Local k₁ k₂) : Local k k₂ := by
  refine ⟨h'.current.trans h.current, fun other hother => ?_⟩
  have hfirst := h.spaces other hother
  have hsecond := h'.spaces other (by rwa [h.current])
  exact hsecond.trans hfirst

theorem Local.apart (h : Local k k₁) (hhere : k.current = here) : Apart here steps k k₁ := by
  subst hhere
  refine ⟨fun other hother => by rw [h.spaces other hother], fun other name hother => Or.inl ?_⟩
  rw [link?, link?, h.spaces other hother]

theorem local_spend : Local k (k.spend op name) := ⟨rfl, fun _ _ => rfl⟩

theorem local_settle (k : Kernel) : Local k k.settle := by
  refine ⟨rfl, fun other hother => ?_⟩
  have hne : compare k.current other ≠ .eq := fun h => hother (Std.LawfulEqOrd.eq_of_compare h).symm
  rw [settle, Std.ExtTreeMap.getElem?_insertIfNew]
  exact if_neg fun h => hne h.1

theorem local_update (f : Space → Space) : Local k (k.update f) :=
  ⟨rfl, fun _ hother => Maps.getElem?_modify_of_ne (Ne.symm hother)⟩

/-! ## Single steps -/

theorem local_hasLink : Ends (hasLink name) k (fun _ => Local k) (fun _ => Local k) := by
  refine ends_guarded (fun _ => local_spend) fun _ => ?_
  unfold Ends
  rw [on_bind, on_here]
  exact local_settle k

/-- Every step but the creation of a pair and a deletion changes the current namespace only. -/
theorem local_linkStep {step : LinkStep} (hadd : ∀ name peer space, step ≠ .add name (.veth peer space))
    (hdelete : ∀ name, step ≠ .delete name) :
    Ends (step.run links) k (fun _ => Local k) (fun _ => Local k) := by
  have hsilent : ∀ {action : Action Kernel Unit}, Ends action k (fun _ => Local k) (fun _ => Local k) →
      Ends (silent action) k (fun _ => Local k) (fun _ => Local k) :=
    fun h => Ends.bind h fun _ _ h => ends_pure h
  have hedit : ∀ {op name f}, Ends (do takeFailure op name; editLink name f) k
      (fun _ => Local k) (fun _ => Local k) :=
    ends_edit (fun _ => local_spend) (fun _ => local_settle k) fun _ _ _ => local_update _
  cases step with
  | add name kind =>
    have hkind : ∀ peer space, kind ≠ .veth peer space := by
      rintro peer space rfl
      exact hadd name peer space rfl
    refine hsilent (ends_addLink hkind (fun _ => local_spend) (fun _ => .refl k) fun _ _ => ?_)
    exact (local_settle k).trans (local_update _)
  | setAddress name address => exact hsilent hedit
  | hasAddress name address =>
    refine Ends.bind (P := fun _ => Local k) ?_ fun _ _ h => ends_pure h
    exact ends_hasAddress (fun _ => local_spend) (fun _ => local_settle k) fun _ _ _ => .refl k
  | has name => exact Ends.bind local_hasLink fun _ _ h => ends_pure h
  | setMaster name master =>
    exact hsilent (ends_setMaster (fun _ => local_spend) (fun _ => local_settle k)
      (fun _ _ _ => .refl k) (fun _ => local_settle k) fun _ _ _ _ _ _ => local_update _)
  | bringUp name => exact hsilent hedit
  | delete name => exact absurd rfl (hdelete name)
  | disableTxOffload name => exact hsilent hedit
  | addDefaultRoute name gateway =>
    exact hsilent (ends_addDefaultRoute (fun _ => local_spend) (fun _ => local_settle k)
      (fun _ => .refl k) fun _ _ _ _ => local_update _)

/-- A far end is added where its name is free. -/
theorem apart_withFar (name : String) {peer : String} {space : SpaceName}
    (hfree : k.link? (space.or k.current) peer = none) :
    let far : Link := { kind := .veth name k.current, peer := some (k.current, name) }
    Apart k.current [.add name (.veth peer space)] k
      { k with spaces := k.spaces.modify (space.or k.current) (withLink peer far) } := by
  constructor
  · intro other hother
    exact map_defaultRoute_modify fun _ _ => rfl
  · intro other n hother
    rw [link?_eq_lookup, link?_eq_lookup, lookup_withLink]
    split
    · rename_i hfar
      obtain ⟨rfl, rfl⟩ := Prod.mk.inj hfar
      have hspace : space.or k.current = space := by
        cases space with
        | none => exact absurd rfl hother
        | some _ => rfl
      refine Or.inr ⟨fun link hlink => ?_, fun link hlink => ⟨name, ?_, ?_⟩⟩
      · cases hlink.symm.trans hfree
      · obtain ⟨_, -, rfl⟩ := Option.map_eq_some_iff.1 hlink
        rfl
      · rw [hspace]
        exact List.mem_singleton_self _
    · exact Or.inl rfl

/-- The far end of a new pair is all that its creation leaves elsewhere. -/
theorem apart_addVeth {peer : String} {space : SpaceName} :
    Ends (addLink name (.veth peer space)) k
      (fun _ => Apart k.current [.add name (.veth peer space)] k)
      (fun _ => Apart k.current [.add name (.veth peer space)] k) := by
  refine ends_addVeth (fun _ => local_spend.apart rfl) (fun _ => .refl _ _ k)
    (fun _ => (local_settle k).apart rfl) (fun _ => (local_settle k).apart rfl) ?_
  intro _ _ hfree _
  have hfar := apart_withFar (k := k.settle) name ((link?_settle _ _).trans hfree)
  exact (((local_settle k).apart rfl).trans hfar).trans ((local_update _).apart rfl)

/-- The other end of its pair is all that a deletion takes elsewhere. -/
theorem apart_deleteLink (hk : Coupled k.spaces) :
    Ends (deleteLink name) k (fun _ => Apart k.current [.delete name] k)
      (fun _ => Apart k.current [.delete name] k) := by
  refine ends_deleteLink (fun _ => local_spend.apart rfl) fun _ => ⟨?_, ?_⟩
  · intro other hother
    have hnear : k.current = other → False := fun h => hother h.symm
    have hroutes : ∀ {spaces : Spaces} {far peer}, (spaces.modify far (withoutLink peer))[other]?.map
        Space.defaultRoute = spaces[other]?.map Space.defaultRoute :=
      map_defaultRoute_modify fun _ _ => rfl
    change (removeLink k.current name k.spaces)[other]?.map _ = _
    rcases hpeer : (lookup k.spaces k.current name).bind Link.peer with _ | ⟨far, peer⟩
    · rw [removeLink_of_unpaired hpeer, map_defaultRoute_modify fun h => (hnear h).elim, hroutes]
    · rw [removeLink_of_paired hpeer, map_defaultRoute_modify fun h => (hnear h).elim, hroutes,
        hroutes]
  · intro other n hother
    have hnear : (other, n) ≠ (k.current, name) := fun h => hother (Prod.mk.inj h).1
    rw [link?_eq_lookup, link?_eq_lookup, lookup_removeLink]
    split
    · rename_i hgone
      -- The far end that goes has named the deleted link all along.
      have hback := hk _ _ _ _ (hgone.resolve_left hnear)
      refine Or.inr ⟨fun link hlink => ⟨name, ?_, List.mem_singleton_self _⟩, fun _ h => nomatch h⟩
      rwa [peer?, hlink] at hback
    · exact Or.inl rfl

/-- What one step does to the namespaces other than its own. -/
theorem apart_linkStep (step : LinkStep) (hk : Coupled k.spaces) :
    Apart k.current [step] k ((step.run links).on k).2 := by
  by_cases hadd : ∃ name peer space, step = .add name (.veth peer space)
  · obtain ⟨name, peer, space, rfl⟩ := hadd
    exact ends_state (Ends.bind apart_addVeth fun _ _ h => ends_pure h)
  by_cases hdelete : ∃ name, step = .delete name
  · obtain ⟨name, rfl⟩ := hdelete
    exact ends_state (Ends.bind (apart_deleteLink hk) fun _ _ h => ends_pure h)
  have hlocal : Local k ((step.run links).on k).2 :=
    ends_state (local_linkStep (fun name peer space h => hadd ⟨name, peer, space, h⟩)
      fun name h => hdelete ⟨name, h⟩)
  exact hlocal.apart rfl

end WorkloadNet.Kernel
