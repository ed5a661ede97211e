import WorkloadNet.Link.Tap
import WorkloadNet.Proofs.Kernel.Removal

/-!
# The builders of links

A builder looks whether its link is there, adds it if not, and configures it. For each builder there is
one rule here, in the form of `Ends`: what has to be shown where the name is free, and what where a link
has it. What a configuration does to a link is `configured`; one that fails has at most extended the
link, which `Touched` says.

From the rules follows what a creation of a bridge that succeeds leaves: a link that carries the address.
The link is a bridge that serves, unless the name was taken by a link of another kind, or by one that
carried the address already and is left as it was.
-/

namespace WorkloadNet

/-! ## Links -/

namespace Link

/-- A link with further settings: it is what it was, and keeps its addresses. -/
structure Extends (old new : Link) : Prop where
  kind : new.kind = old.kind
  master : new.master = old.master
  peer : new.peer = old.peer
  addresses : old.addresses <+: new.addresses

@[refl] theorem Extends.refl (link : Link) : Extends link link :=
  ⟨rfl, rfl, rfl, List.prefix_refl _⟩

theorem Extends.trans {l₁ l₂ l₃ : Link} (h : Extends l₁ l₂) (h' : Extends l₂ l₃) : Extends l₁ l₃ :=
  ⟨h'.kind.trans h.kind, h'.master.trans h.master, h'.peer.trans h.peer,
    h.addresses.trans h'.addresses⟩

/-- The link is a bridge with the address, up, and with offloading off if that is asked for. -/
structure Serves (address : Cidr) (off : Bool) (link : Link) : Prop where
  kind : link.kind = .bridge
  carries : address ∈ link.addresses
  up : link.state = .up
  off : off = true → link.txOffloadOff = true

end Link

namespace Kernel

open WorkloadNet.Action

variable {k k₁ k₂ : Kernel} {op : KernelOp} {name : String} {link : Link}

theorem extends_assign (address : Cidr) (link : Link) : link.Extends (assign address link) := by
  unfold assign
  split
  · exact .refl link
  · exact ⟨rfl, rfl, rfl, List.prefix_append _ _⟩

theorem mem_addresses_assign (address : Cidr) (link : Link) :
    address ∈ (assign address link).addresses := by
  unfold assign
  split
  · assumption
  · exact List.mem_append_right _ (List.mem_singleton.2 rfl)

/-- A link as the configuration of a bridge leaves it. -/
def configured (address : Cidr) (off : Bool) (link : Link) : Link :=
  { assign address link with state := .up, txOffloadOff := off || (assign address link).txOffloadOff }

theorem extends_configured (address : Cidr) (off : Bool) (link : Link) :
    link.Extends (configured address off link) := by
  obtain ⟨hkind, hmaster, hpeer, haddresses⟩ := extends_assign address link
  exact ⟨hkind, hmaster, hpeer, haddresses⟩

/-! ## Kernels with one link extended -/

/-- One link may have been extended, and failures of anything but deletions may have struck. -/
structure Touched (name : String) (k k' : Kernel) : Prop where
  current : k'.current = k.current
  pending : Spent k k'
  deletions : ∀ n, k'.pending.count (.deleteLink, n) = k.pending.count (.deleteLink, n)
  spaces : ∃ f : Link → Link, (∀ link : Link, link.Extends (f link)) ∧
    k'.spaces = k.spaces.modify k.current (withLinkChanged name f)

@[simp] theorem withLinkChanged_id (name : String) : withLinkChanged name id = id := by
  funext space
  have hlinks : space.links.modify name id = space.links := Maps.modify_eq_self fun _ _ => rfl
  rw [withLinkChanged, hlinks]
  rfl

theorem withLinkChanged_comp (name : String) (f g : Link → Link) :
    withLinkChanged name g ∘ withLinkChanged name f = withLinkChanged name (g ∘ f) := by
  funext space
  simp only [Function.comp_apply, withLinkChanged, Maps.modify_modify]

/-- Failures of other operations have struck, and that is all. -/
theorem Touched.of_spaces (hcurrent : k₁.current = k.current) (hspaces : k₁.spaces = k.spaces)
    (hpending : Spent k k₁)
    (hdeletions : ∀ n, k₁.pending.count (.deleteLink, n) = k.pending.count (.deleteLink, n)) :
    Touched name k k₁ := by
  refine ⟨hcurrent, hpending, hdeletions, id, Link.Extends.refl, ?_⟩
  rw [withLinkChanged_id, hspaces]
  exact (Maps.modify_eq_self fun _ _ => rfl).symm

@[refl] theorem Touched.refl (k : Kernel) : Touched name k k :=
  .of_spaces rfl rfl (.refl k) fun _ => rfl

theorem Touched.trans (h : Touched name k k₁) (h' : Touched name k₁ k₂) : Touched name k k₂ := by
  obtain ⟨f, hf, hspaces⟩ := h.spaces
  obtain ⟨g, hg, hspaces'⟩ := h'.spaces
  refine ⟨h'.current.trans h.current, h.pending.trans h'.pending,
    fun n => (h'.deletions n).trans (h.deletions n), g ∘ f,
    fun link => (hf link).trans (hg (f link)), ?_⟩
  rw [hspaces', hspaces, h.current, Maps.modify_modify, withLinkChanged_comp]

theorem touched_spend (hop : op ∉ [.deleteLink, .deleteNamespace]) {n : String} :
    Touched name k (k.spend op n) := by
  obtain ⟨hlink, hspace⟩ : op ≠ .deleteLink ∧ op ≠ .deleteNamespace := by simpa using hop
  refine .of_spaces rfl rfl (spent_spend hspace) fun m => List.count_erase_of_ne ?_
  intro heq
  exact hlink (congrArg Prod.fst heq).symm

theorem touched_update {f : Link → Link} (hf : ∀ link : Link, link.Extends (f link)) :
    Touched name k (k.update (withLinkChanged name f)) :=
  ⟨rfl, ⟨fun _ h => h, fun _ h => h⟩, fun _ => rfl, f, hf, rfl⟩

theorem Touched.kept (h : Touched name k k₁) {space : SpaceName} {n : String} (old : Link)
    (hold : k.link? space n = some old) : ∃ new, k₁.link? space n = some new ∧ old.Extends new := by
  obtain ⟨f, hf, hspaces⟩ := h.spaces
  rw [link?_eq_lookup, hspaces, lookup_withLinkChanged]
  split
  · rename_i heq
    obtain ⟨rfl, rfl⟩ := Prod.mk.inj heq
    exact ⟨f old, by rw [← link?_eq_lookup, hold, Option.map_some], hf old⟩
  · exact ⟨old, hold, .refl old⟩

/-- A step of a configuration has failed, and says which. -/
structure Interrupted (name : String) (k : Kernel) (failure : Failure) (k' : Kernel) : Prop where
  step : ∃ step cause, failure = .context step cause
  touched : Touched name k k'

/-- An injected failure of a step. -/
theorem interrupted_spend (hop : op ∉ [.deleteLink, .deleteNamespace]) (step : String) {n : String} :
    Interrupted name k (.context step (injected op n)) (k.spend op n) :=
  ⟨⟨step, _, rfl⟩, touched_spend hop⟩

theorem Interrupted.after {failure : Failure} (h : Interrupted name k₁ failure k₂)
    (hk : Touched name k k₁) : Interrupted name k failure k₂ :=
  ⟨h.step, hk.trans h.touched⟩

/-! ## Configuring a link -/

section Configuring

theorem link?_update_withLink (hcurrent : k.current ∈ k.spaces) :
    (k.update (withLink name link)).link? k.current name = some link := by
  rw [link?_eq_lookup, update, lookup_withLink, if_pos rfl,
    Std.ExtTreeMap.getElem?_eq_some_getElem hcurrent, Option.map_some]

/-- Changing a link that was just added is adding the changed link. -/
theorem update_withLink_withLinkChanged (f : Link → Link) :
    (k.update (withLink name link)).update (withLinkChanged name f) =
      k.update (withLink name (f link)) := by
  have hcomp : withLinkChanged name f ∘ withLink name link = withLink name (f link) := by
    funext space
    simp [withLinkChanged, withLink, Maps.modify_insert_self]
  simp only [update, Maps.modify_modify, hcomp]

theorem link?_update_withLinkChanged {f : Link → Link} (hlink : k.link? k.current name = some link) :
    (k.update (withLinkChanged name f)).link? k.current name = some (f link) := by
  rw [link?_eq_lookup, update, lookup_withLinkChanged, if_pos rfl, ← link?_eq_lookup, hlink,
    Option.map_some]

/-- Two changes of a link in a row are one. -/
theorem update_withLinkChanged (f g : Link → Link) :
    (k.update (withLinkChanged name f)).update (withLinkChanged name g) =
      k.update (withLinkChanged name (g ∘ f)) := by
  simp only [update, Maps.modify_modify, withLinkChanged_comp]

/-- One step on a link that is there: it fails as injected, or changes the link. -/
theorem ends_touch {step : String} {f : Link → Link} (hop : op ∉ [.deleteLink, .deleteNamespace])
    (hlink : k.link? k.current name = some link) :
    Ends ((do takeFailure op name; editLink name f : Action Kernel Unit).annotate step) k
      (fun _ k' => k' = k.update (withLinkChanged name f)) (Interrupted name k) := by
  refine Ends.annotate (ends_edit (fun _ => interrupted_spend hop step) ?_ fun _ _ _ => rfl)
  intro hmissing
  rw [hlink] at hmissing
  cases hmissing

/-- The configuration of a link that is there. -/
theorem ends_configure {address : Cidr} {off : Bool} (hlink : k.link? k.current name = some link) :
    Ends (configureBridgeLink links name address off) k
      (fun _ k' => k' = k.update (withLinkChanged name (configured address off)))
      (Interrupted name k) := by
  have hassign : Touched name k (k.update (withLinkChanged name (assign address))) :=
    touched_update (extends_assign address)
  have hup : ∀ link : Link, link.Extends { link with state := .up } :=
    fun _ => ⟨rfl, rfl, rfl, List.prefix_refl _⟩
  refine Ends.bind (ends_touch (by decide) hlink) ?_
  rintro _ _ rfl
  refine Ends.bind (Ends.mono (ends_touch (by decide) (link?_update_withLinkChanged hlink))
    (fun _ _ h => h) fun _ _ h => h.after hassign) ?_
  rintro _ _ rfl
  cases off with
  | false =>
    rw [update_withLinkChanged]
    exact ends_pure rfl
  | true =>
    refine Ends.mono (ends_touch (by decide)
      (link?_update_withLinkChanged (link?_update_withLinkChanged hlink))) ?_
      fun _ _ h => h.after (hassign.trans (touched_update hup))
    rintro _ _ rfl
    rw [update_withLinkChanged, update_withLinkChanged]
    rfl

end Configuring

/-! ## The rules of the builders -/

section Builders

variable {Q : Unit → Kernel → Prop} {E : Failure → Kernel → Prop}

/-- The creation of a bridge adds the link where the name is free, and configures it; a link that has
the name is configured unless it carries the address. -/
theorem ends_createBridgeWithAddress {address : Cidr} {off : Bool}
    (hadd : E (.context s!"failed to add bridge {name}" (injected .addLink name)) (k.spend .addLink name))
    (hask : E (.context "failed to list interface addresses" (injected .hasIp name))
      (k.spend .hasIp name))
    (hfree : k.link? k.current name = none →
      Ends (links.orUndo name "failed to delete link" (configureBridgeLink links name address off))
        (k.settle.update (withLink name { kind := .bridge })) Q E)
    (htaken : ∀ link, k.link? k.current name = some link → address ∉ link.addresses →
      Ends (configureBridgeLink links name address off) k Q E)
    (hpresent : ∀ link, k.link? k.current name = some link → address ∈ link.addresses → Q () k) :
    Ends (createBridgeWithAddress links name address off) k Q E := by
  have hlinks : Ends (addLink name .bridge) k
      (fun _ k' => k.link? k.current name = none ∧
        k' = k.settle.update (withLink name { kind := .bridge }))
      (fun failure k' =>
        failure = .alreadyExists "link" name ∧ (k.link? k.current name).isSome ∧ k' = k ∨
        failure = injected .addLink name ∧ k' = k.spend .addLink name) :=
    ends_addLink (fun _ _ => LinkKind.noConfusion) (fun _ => Or.inr ⟨rfl, rfl⟩)
      (fun h => Or.inl ⟨rfl, h, rfl⟩) fun _ h => ⟨h, rfl⟩
  refine Ends.bind (Ends.outcome hlinks) ?_
  rintro (failure | _) k₁ h
  · obtain ⟨rfl, hsome, rfl⟩ | ⟨rfl, rfl⟩ := h
    · obtain ⟨link, hlink⟩ := Option.isSome_iff_exists.1 hsome
      have hcarries : Ends ((links.hasAddress name address).annotate
          "failed to list interface addresses") k₁
          (fun present k' => present = decide (address ∈ link.addresses) ∧ k' = k₁) E := by
        refine Ends.annotate (ends_hasAddress (fun _ => hask) ?_ ?_)
        · intro hmissing
          rw [hlink] at hmissing
          cases hmissing
        · intro _ _ hlink'
          obtain rfl := Option.some.inj (hlink.symm.trans hlink')
          exact ⟨rfl, rfl⟩
      refine Ends.bind hcarries ?_
      rintro _ _ ⟨rfl, rfl⟩
      by_cases hmem : address ∈ link.addresses
      · simp only [hmem, decide_true, if_true]
        exact ends_pure (hpresent link hlink hmem)
      · simp only [hmem, decide_false, Bool.false_eq_true, if_false]
        exact htaken link hlink hmem
    · exact ends_fail hadd
  · obtain ⟨hnone, rfl⟩ := h
    exact hfree hnone

/-- The creation of a tap device adds the link where the name is free, and attaches it and brings it
up; a link that has the name is only brought up. -/
theorem ends_createTap {bridge : String}
    (hask : E (.context "unexpected error checking link" (injected .exists name))
      (k.spend .exists name))
    (hadd : k.link? k.current name = none →
      E (.context s!"failed to add tap device {name}" (injected .addLink name))
        (k.settle.spend .addLink name))
    (hfree : k.link? k.current name = none →
      Ends (links.orUndo name "failed to delete tap" (configureTap links name bridge))
        (k.settle.update (withLink name { kind := .tap })) Q E)
    (htaken : ∀ link, k.link? k.current name = some link → Ends (bringTapUp links name) k Q E) :
    Ends (createTap links name bridge) k Q E := by
  have hhas : Ends ((links.has name).annotate "unexpected error checking link") k
      (fun present k' => present = (k.link? k.current name).isSome ∧ k' = k.settle) E := by
    refine Ends.annotate (ends_guarded (fun _ => hask) fun _ => ?_)
    unfold Ends
    rw [on_bind, on_here]
    refine ⟨?_, rfl⟩
    rw [Std.ExtTreeMap.contains_eq_isSome_getElem?, getElem?_links_current]
  refine Ends.bind hhas ?_
  rintro _ _ ⟨rfl, rfl⟩
  cases hlink : k.link? k.current name with
  | some link =>
    rw [settle_eq_self (current_mem_of_link? hlink)]
    exact htaken link hlink
  | none =>
    have hsettled : k.settle.link? k.settle.current name = none := by
      rw [link?_settle]
      exact hlink
    have htwice : k.settle.settle = k.settle := settle_eq_self Std.ExtTreeMap.mem_insertIfNew_self
    have hadds : Ends (addLink name .tap) k.settle
        (fun _ k' => k' = k.settle.update (withLink name { kind := .tap }))
        (fun failure => E (.context s!"failed to add tap device {name}" failure)) := by
      refine ends_addLink (fun _ _ => LinkKind.noConfusion) (fun _ => hadd hlink) ?_ ?_
      · intro htaken
        rw [hsettled] at htaken
        cases htaken
      · intro _ _
        rw [htwice]
    refine Ends.bind (Ends.annotate hadds) ?_
    rintro _ _ rfl
    exact hfree hlink

/-- Steps on a link just added: what they leave when they fail is what the deletion starts from. -/
theorem ends_orUndo {step : String} {steps : Action Kernel Unit} {F : Failure → Kernel → Prop}
    (hsteps : Ends steps k Q F)
    (hundo : ∀ primary k', F primary k' → Ends (deleteLink name) k' (fun _ => E primary)
      fun cleanup => E (.rollback primary (.context step cleanup))) :
    Ends (links.orUndo name step steps) k Q E := by
  refine Ends.bind (Ends.outcome hsteps) ?_
  rintro (primary | _) k' h
  · refine Ends.bind (Ends.outcome (hundo primary k' h)) ?_
    rintro (cleanup | _) k'' h'
    · exact ends_fail h'
    · exact ends_fail h'
  · exact ends_pure h

end Builders

/-! ## The address of a bridge -/

theorem bridgeAddress_ok {subnet : String} {address : Cidr} (h : bridgeAddress subnet = .ok address) :
    ∃ cidr first, Cidr.ofText subnet = .ok cidr ∧ cidr.firstUsable? = some first ∧
      address = cidr.withAddress first := by
  unfold bridgeAddress at h
  split at h
  · cases h
  · rename_i cidr hcidr
    split at h
    · cases h
    · rename_i first hfirst
      cases h
      exact ⟨cidr, first, hcidr, hfirst, rfl⟩

theorem bridgeAddress_error {subnet : String} {failure : Failure}
    (h : bridgeAddress subnet = .error failure) : ∃ message, failure = .config message := by
  unfold bridgeAddress at h
  split at h
  · cases h
    exact ⟨_, rfl⟩
  · split at h
    · cases h
      exact ⟨_, rfl⟩
    · cases h

/-! ## A bridge that was created -/

/-- The link of a name after a successful creation, by what the name was before. -/
structure Built (address : Cidr) (off : Bool) (before : Option Link) (link : Link) : Prop where
  carries : address ∈ link.addresses
  kind : link.kind = (before.map Link.kind).getD .bridge
  ready : (∀ old, before = some old → address ∉ old.addresses) →
    link.state = .up ∧ (off = true → link.txOffloadOff = true)
  untouched : ∀ old, before = some old → address ∈ old.addresses → link = old

section Built

variable {address : Cidr} {off : Bool} {before : Option Link}

theorem built_configured {old : Link} (hkind : old.kind = (before.map Link.kind).getD .bridge)
    (habsent : ∀ link, before = some link → address ∉ link.addresses) :
    Built address off before (configured address off old) := by
  refine ⟨mem_addresses_assign address old, (extends_configured address off old).kind.trans hkind,
    fun _ => ⟨rfl, ?_⟩, fun link hlink hmem => absurd hmem (habsent link hlink)⟩
  rintro rfl
  rfl

theorem built_self {old : Link} (hcarries : address ∈ old.addresses) :
    Built address off (some old) old := by
  refine ⟨hcarries, rfl, fun habsent => absurd hcarries (habsent old rfl), fun link hlink _ => ?_⟩
  exact Option.some.inj hlink

/-- Only a link that had the name can be in the way of a bridge that serves: one of another kind, or one
with the address that did not serve. -/
theorem Built.serves_iff (h : Built address off before link) :
    link.Serves address off ↔ ∀ old, before = some old →
      old.kind = .bridge ∧ (address ∈ old.addresses → old.Serves address off) := by
  constructor
  · rintro hserves old rfl
    refine ⟨h.kind.symm.trans hserves.kind, fun hmem => ?_⟩
    rwa [← h.untouched old rfl hmem]
  · intro hold
    cases before with
    | none =>
      obtain ⟨hup, hoff⟩ := h.ready fun _ hnone => nomatch hnone
      exact ⟨h.kind, h.carries, hup, hoff⟩
    | some old =>
      obtain ⟨hkind, hserves⟩ := hold old rfl
      by_cases hmem : address ∈ old.addresses
      · rw [h.untouched old rfl hmem]
        exact hserves hmem
      · obtain ⟨hup, hoff⟩ := h.ready (by rintro _ ⟨⟩; exact hmem)
        exact ⟨h.kind.trans hkind, h.carries, hup, hoff⟩

/-- The kernels before and after a creation that succeeded: what the link is, and when it serves. -/
def Created (name : String) (address : Cidr) (off : Bool) (k k' : Kernel) : Prop :=
  k'.current = k.current ∧
  ∃ link, k'.link? k.current name = some link ∧ Built address off (k.link? k.current name) link ∧
    (link.Serves address off ↔ ∀ old, k.link? k.current name = some old →
      old.kind = .bridge ∧ (address ∈ old.addresses → old.Serves address off))

theorem Built.created {k' : Kernel} (h : Built address off (k.link? k.current name) link)
    (hcurrent : k'.current = k.current) (hlink : k'.link? k.current name = some link) :
    Created name address off k k' :=
  ⟨hcurrent, link, hlink, h, h.serves_iff⟩

theorem ends_created :
    Ends (createBridgeWithAddress links name address off) k
      (fun _ => Created name address off k) (fun _ _ => True) := by
  refine ends_createBridgeWithAddress trivial trivial ?_ ?_ ?_
  · intro hfree
    have hlink : (k.settle.update (withLink name { kind := .bridge })).link? k.current name =
        some { kind := .bridge } :=
      link?_update_withLink (k := k.settle) Std.ExtTreeMap.mem_insertIfNew_self
    refine ends_orUndo (Ends.mono (ends_configure hlink) ?_ fun _ _ _ => trivial) ?_
    · rintro _ _ rfl
      refine Built.created ?_ rfl (link?_update_withLinkChanged hlink)
      rw [hfree]
      exact built_configured rfl fun _ hnone => nomatch hnone
    · intro _ _ _
      exact ends_deleteLink (fun _ => trivial) fun _ => trivial
  · intro old hold habsent
    refine Ends.mono (ends_configure hold) ?_ fun _ _ _ => trivial
    rintro _ _ rfl
    refine Built.created ?_ rfl (link?_update_withLinkChanged hold)
    rw [hold]
    refine built_configured rfl ?_
    rintro _ ⟨⟩
    exact habsent
  · intro old hold hcarries
    refine Built.created ?_ rfl hold
    rw [hold]
    exact built_self hcarries

end Built

/-- A creation of a bridge that succeeds leaves a link that carries the address. It serves when the name
was free; a link that had the name keeps its kind, is configured if it lacked the address, and is left as
it was if it carried it. -/
theorem createBridge_builds (k : Kernel) (name : String) (off : Bool) :
    (∀ address k', (createBridgeWithAddress links name address off).on k = (.ok (), k') →
      Created name address off k k') ∧
    ∀ subnet k', (createBridge links name subnet off).on k = (.ok (), k') →
      ∃ cidr first, Cidr.ofText subnet = .ok cidr ∧ cidr.firstUsable? = some first ∧
        Created name (cidr.withAddress first) off k k' := by
  refine ⟨fun address k' hon => ends_created.of_ok hon, fun subnet k' hon => ?_⟩
  have hends : Ends (createBridge links name subnet off) k
      (fun _ k' => ∃ address, bridgeAddress subnet = .ok address ∧ Created name address off k k')
      (fun _ _ => True) := by
    refine Ends.bind (ends_ofExcept (fun address haddress => ?_) fun _ _ => trivial) fun _ _ h => h
    exact Ends.mono ends_created (fun _ _ h => ⟨address, haddress, h⟩) fun _ _ _ => trivial
  obtain ⟨address, haddress, hcreated⟩ := hends.of_ok hon
  obtain ⟨cidr, first, hcidr, hfirst, rfl⟩ := bridgeAddress_ok haddress
  exact ⟨cidr, first, hcidr, hfirst, hcreated⟩

/-- The address of the bridges below. -/
def demoAddress : Cidr := ⟨⟨0x0a000001⟩, 16, by decide⟩

/-- Both creations succeed where the name is free, and the bridge serves. -/
theorem createBridge_builds_demo :
    (∃ k' link, (createBridgeWithAddress links "br0" demoAddress true).on initial = (.ok (), k') ∧
      k'.link? none "br0" = some link ∧ link.Serves demoAddress true) ∧
    ∃ k' cidr first link, (createBridge links "br0" "10.0.0.0/16" true).on initial = (.ok (), k') ∧
      Cidr.ofText "10.0.0.0/16" = .ok cidr ∧ cidr.firstUsable? = some first ∧
      k'.link? none "br0" = some link ∧ link.Serves (cidr.withAddress first) true := by
  have hfree : initial.link? none "br0" = none := by decide +kernel
  have hserves : ∀ {address : Cidr} {k'}, Created "br0" address true initial k' →
      ∃ link, k'.link? none "br0" = some link ∧ link.Serves address true := by
    rintro address k' ⟨-, link, hlink, -, hserves⟩
    refine ⟨link, hlink, hserves.2 fun old hold => ?_⟩
    cases hfree.symm.trans hold
  obtain ⟨hwith, htext⟩ := createBridge_builds initial "br0" true
  obtain ⟨_, k₁, hon₁⟩ := on_eq_ok (createBridgeWithAddress links "br0" demoAddress true) initial
    (by decide +kernel)
  obtain ⟨_, k₂, hon₂⟩ := on_eq_ok (createBridge links "br0" "10.0.0.0/16" true) initial
    (by decide +kernel)
  obtain ⟨link₁, hlink₁, hserves₁⟩ := hserves (hwith demoAddress k₁ hon₁)
  obtain ⟨cidr, first, hcidr, hfirst, hcreated⟩ := htext "10.0.0.0/16" k₂ hon₂
  obtain ⟨link₂, hlink₂, hserves₂⟩ := hserves hcreated
  exact ⟨⟨k₁, link₁, hon₁, hlink₁, hserves₁⟩, k₂, cidr, first, link₂, hon₂, hcidr, hfirst, hlink₂,
    hserves₂⟩

/-- A creation that fails half way and cannot be undone leaves a link that carries the address: the next
one succeeds and leaves it down. A tap device of the name is configured and stays one. -/
theorem createBridge_not_serving :
    (∃ failure k₁ k₂ link,
      (createBridgeWithAddress links "br0" demoAddress true).on
        ((initial.failOnce .bringUp "br0").failOnce .deleteLink "br0") = (.error failure, k₁) ∧
      (createBridgeWithAddress links "br0" demoAddress true).on k₁ = (.ok (), k₂) ∧
      k₂.link? k₁.current "br0" = some link ∧ link.state = .down ∧ link.txOffloadOff = false ∧
      ¬ link.Serves demoAddress true) ∧
    ∃ k₁ k₂ link, (addLink "br0" .tap).on initial = (.ok (), k₁) ∧
      (createBridgeWithAddress links "br0" demoAddress true).on k₁ = (.ok (), k₂) ∧
      k₂.link? k₁.current "br0" = some link ∧ link.kind = .tap ∧ ¬ link.Serves demoAddress true := by
  constructor
  · refine ⟨_, _, _, { kind := .bridge, addresses := [demoAddress] }, rfl, rfl, ?_, rfl, rfl, ?_⟩
    · decide +kernel
    · intro h
      cases h.up
  · refine ⟨_, _, { kind := .tap, addresses := [demoAddress], state := .up, txOffloadOff := true },
      rfl, rfl, ?_, rfl, ?_⟩
    · decide +kernel
    · intro h
      cases h.kind

end Kernel

end WorkloadNet
