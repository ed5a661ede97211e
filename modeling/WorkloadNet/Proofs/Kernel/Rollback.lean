import WorkloadNet.Proofs.Network.Atomicity
import WorkloadNet.Session.Run

/-!
# What a builder leaves when it fails

A builder owns the link that it adds. When a later step fails it deletes that link again, and the kernel
is as it was; should the deletion fail too, the failure carries both. A link that was there before is
never deleted: it keeps what it had. The link of the builder apart, nothing is changed.
-/

namespace WorkloadNet.Session.BuilderStep

/-- The name of the link. -/
def link : BuilderStep → String
  | bridge name _ _ => name
  | bridgeWithAddress name _ _ => name
  | tap name _ => name

/-- The kind of the link that is added where the name is free. -/
def kind : BuilderStep → LinkKind
  | bridge _ _ _ => .bridge
  | bridgeWithAddress _ _ _ => .bridge
  | tap _ _ => .tap

/-- The steps that follow the addition of the link. -/
def finish : BuilderStep → Action Kernel Unit
  | bridge name subnet off => do
    let address ← Action.ofExcept (bridgeAddress subnet)
    configureBridgeLink Kernel.links name address off
  | bridgeWithAddress name address off => configureBridgeLink Kernel.links name address off
  | tap name master => configureTap Kernel.links name master

/-- The annotation of a deletion that fails. -/
def undoing : BuilderStep → String
  | bridge _ _ _ => "failed to delete link"
  | bridgeWithAddress _ _ _ => "failed to delete link"
  | tap _ _ => "failed to delete tap"

end WorkloadNet.Session.BuilderStep

namespace WorkloadNet.Kernel

open WorkloadNet.Action Session

variable {k k' : Kernel} {name : String} {step : BuilderStep} {failure : Failure}

/-- The kernel with the link of a builder added. -/
def added (step : BuilderStep) (k : Kernel) : Kernel :=
  k.update (withLink step.link { kind := step.kind })

/-- A failure that was pending for the deletion of the link has struck. -/
def DeletionFailed (name : String) (k k' : Kernel) : Prop :=
  k'.pending.count (.deleteLink, name) < k.pending.count (.deleteLink, name)

/-- What a builder that fails leaves, and what it reports. -/
structure RolledBack (step : BuilderStep) (k : Kernel) (failure : Failure) (k' : Kernel) : Prop where
  current : k'.current = k.current
  restored : k.link? k.current step.link = none → ¬ DeletionFailed step.link k k' →
    k'.spaces = k.spaces
  reported : DeletionFailed step.link k k' → k.link? k.current step.link = none ∧
    ∃ primary cleanup stuck, step.finish.on (added step k) = (.error primary, stuck) ∧
      (deleteLink step.link).on stuck = (.error cleanup, k') ∧
      failure = .rollback primary (.context step.undoing cleanup)
  single : ¬ DeletionFailed step.link k k' → ∀ primary cleanup, failure ≠ .rollback primary cleanup
  kept : ∀ old, k.link? k.current step.link = some old →
    ∃ new, k'.link? k.current step.link = some new ∧ old.Extends new
  others : ∀ space n, (space, n) ≠ (k.current, step.link) → k'.link? space n = k.link? space n
  routes : ∀ space : SpaceName,
    k'.spaces[space]?.map Space.defaultRoute = k.spaces[space]?.map Space.defaultRoute

theorem not_deletionFailed
    (h : k'.pending.count (.deleteLink, name) = k.pending.count (.deleteLink, name)) :
    ¬ DeletionFailed name k k' := by
  unfold DeletionFailed
  rw [h]
  exact Nat.lt_irrefl _

/-! ## Nothing was added -/

theorem Touched.spaces_eq (h : Touched name k k') (hfree : k.link? k.current name = none) :
    k'.spaces = k.spaces := by
  obtain ⟨f, -, hspaces⟩ := h.spaces
  rw [hspaces]
  refine Maps.modify_eq_self fun s hs => ?_
  have hmissing : s.links[name]? = none := by
    rwa [link?, hs, Option.bind_some] at hfree
  have hlinks : s.links.modify name f = s.links := by
    refine Maps.modify_eq_self fun link hlink => ?_
    rw [hmissing] at hlink
    cases hlink
  rw [withLinkChanged, hlinks]

/-- A builder that added nothing and reports one failure. -/
theorem Touched.rolledBack (h : Touched step.link k k')
    (hsingle : ∀ primary cleanup, failure ≠ .rollback primary cleanup) :
    RolledBack step k failure k' := by
  have hcalm : ¬ DeletionFailed step.link k k' := not_deletionFailed (h.deletions step.link)
  obtain ⟨f, -, hspaces⟩ := h.spaces
  refine ⟨h.current, fun hfree _ => h.spaces_eq hfree, fun hfailed => absurd hfailed hcalm,
    fun _ => hsingle, fun old hold => h.kept old hold, fun space n hne => ?_, fun space => ?_⟩
  · rw [link?_eq_lookup, hspaces, lookup_withLinkChanged, if_neg hne, link?_eq_lookup]
  · rw [hspaces]
    exact map_defaultRoute_modify fun _ _ => rfl

theorem Interrupted.rolledBack (h : Interrupted step.link k failure k') :
    RolledBack step k failure k' := by
  refine h.touched.rolledBack fun primary cleanup heq => ?_
  obtain ⟨text, cause, hstep⟩ := h.step
  cases hstep.symm.trans heq

/-! ## A link was added -/

/-- A step has failed after the link was added, and the link stands. -/
structure Halted (name : String) (k : Kernel) (failure : Failure) (k' : Kernel) : Prop where
  step : ∃ step cause, failure = .context step cause
  standing : Standing k name k'
  deletions : k'.pending.count (.deleteLink, name) = k.pending.count (.deleteLink, name)

theorem Interrupted.halted {link : Link}
    (h : Interrupted name (k.update (withLink name link)) failure k') (hpeer : link.peer = none) :
    Halted name k failure k' :=
  ⟨h.step, h.touched.standing hpeer, h.touched.deletions name⟩

/-- No default route goes through a link that is missing. -/
theorem route_ne_of_routed (hroutes : Network.Routed k) {space : SpaceName}
    (hfree : k.link? space name = none) :
    ∀ s, k.spaces[space]? = some s → s.defaultRoute.map Prod.fst ≠ some name := by
  intro s hs hdevice
  obtain ⟨⟨device, gateway⟩, hdefault, hfst⟩ := Option.map_eq_some_iff.1 hdevice
  obtain rfl : device = name := hfst
  have hlink := hroutes space s hs device gateway hdefault
  rw [link?, hs, Option.bind_some] at hfree
  rw [Std.ExtTreeMap.mem_iff_isSome_getElem?, hfree] at hlink
  cases hlink

/-- The link that stood is deleted: the kernel is what it was before the addition. -/
theorem Halted.withdrawn {stuck : Kernel} (h : Halted step.link k failure stuck)
    (hroutes : Network.Routed k) (hfree : k.link? k.current step.link = none)
    (hcurrent : k'.current = stuck.current)
    (hspaces : k'.spaces = removeLink stuck.current step.link stuck.spaces)
    (hpending : k'.pending = stuck.pending) : RolledBack step k failure k' := by
  obtain ⟨⟨text, cause, hstep⟩, ⟨hstuck, -, link, hpeer, hadded⟩, hdeletions⟩ := h
  have hcalm : ¬ DeletionFailed step.link k k' := by
    refine not_deletionFailed ?_
    rw [hpending, hdeletions]
  have hback : k'.spaces = k.spaces := by
    rw [hspaces, hstuck, hadded]
    exact removeLink_withLink_unpaired hfree (route_ne_of_routed hroutes hfree) hpeer
  refine ⟨hcurrent.trans hstuck, fun _ _ => hback, fun hfailed => absurd hfailed hcalm,
    fun _ p c heq => ?_, fun old hold => ?_, fun space n _ => ?_, fun space => by rw [hback]⟩
  · cases hstep.symm.trans heq
  · cases hfree.symm.trans hold
  · rw [link?_eq_lookup, hback, link?_eq_lookup]

/-- The deletion fails as injected: the link stands, and the failure carries both. -/
theorem Halted.stranded {primary cleanup : Failure} {stuck : Kernel}
    (h : Halted step.link k primary stuck) (hfree : k.link? k.current step.link = none)
    (hon : step.finish.on (added step k) = (.error primary, stuck))
    (hdelete : (deleteLink step.link).on stuck =
      (.error cleanup, stuck.spend .deleteLink step.link))
    (hpending : (.deleteLink, step.link) ∈ stuck.pending) :
    RolledBack step k (.rollback primary (.context step.undoing cleanup))
      (stuck.spend .deleteLink step.link) := by
  obtain ⟨-, ⟨hcurrent, -, link, -, hadded⟩, hdeletions⟩ := h
  have hfailed : DeletionFailed step.link k (stuck.spend .deleteLink step.link) := by
    unfold DeletionFailed
    rw [← hdeletions]
    show (stuck.pending.erase _).count _ < _
    rw [List.count_erase_self]
    have hpos := List.count_pos_iff.2 hpending
    omega
  refine ⟨hcurrent, fun _ hcalm => absurd hfailed hcalm,
    fun _ => ⟨hfree, primary, cleanup, stuck, hon, hdelete, rfl⟩,
    fun hcalm => absurd hfailed hcalm, fun old hold => ?_, fun space n hne => ?_, fun space => ?_⟩
  · cases hfree.symm.trans hold
  · show lookup stuck.spaces space n = lookup k.spaces space n
    rw [hadded, lookup_withLink, if_neg hne]
  · show stuck.spaces[space]?.map Space.defaultRoute = _
    rw [hadded]
    exact map_defaultRoute_modify fun _ _ => rfl

/-- The deletion of the link after a step has failed. -/
theorem ends_withdraw {primary : Failure} {stuck : Kernel} (hroutes : Network.Routed k)
    (hfree : k.link? k.current step.link = none)
    (hon : step.finish.on (added step k) = (.error primary, stuck))
    (h : Halted step.link k primary stuck) :
    Ends (deleteLink step.link) stuck (fun _ => RolledBack step k primary)
      (fun cleanup => RolledBack step k (.rollback primary (.context step.undoing cleanup))) := by
  refine Ends.mono (Ends.run (ends_deleteLink
    (Q := fun _ => RolledBack step k primary)
    (E := fun _ k' => (.deleteLink, step.link) ∈ stuck.pending ∧
      k' = stuck.spend .deleteLink step.link)
    (fun hpending => ⟨hpending, rfl⟩) fun _ => h.withdrawn hroutes hfree rfl rfl rfl)) ?_ ?_
  · rintro _ k' ⟨-, hrolled⟩
    exact hrolled
  · rintro cleanup _ ⟨hdelete, hpending, rfl⟩
    exact h.stranded hfree hon hdelete hpending

/-! ## The builders -/

/-- A tap device just added is attached and brought up, or it stands. -/
theorem ends_configureTap {master : String} (hcurrent : k.current ∈ k.spaces) :
    Ends (configureTap links name master) (k.update (withLink name { kind := .tap }))
      (fun _ _ => True) (Halted name k) := by
  have hlink : (k.update (withLink name { kind := .tap })).link? k.current name =
      some { kind := .tap } := link?_update_withLink hcurrent
  have hsettled : (k.update (withLink name { kind := .tap })).settle =
      k.update (withLink name { kind := .tap }) :=
    settle_eq_self (Std.ExtTreeMap.mem_modify.2 hcurrent)
  have hhalted : ∀ text cause, Halted name k (.context text cause)
      (k.update (withLink name { kind := .tap })) :=
    fun text cause => Interrupted.halted ⟨⟨text, cause, rfl⟩, .refl _⟩ rfl
  have hattach : Ends ((links.setMaster name master).annotate s!"failed to set master for tap {name}")
      (k.update (withLink name { kind := .tap }))
      (fun _ k' => k' = k.update (withLink name { kind := .tap, master := some master }))
      (Halted name k) := by
    refine Ends.annotate (ends_setMaster ?_ ?_ ?_ ?_ ?_)
    · intro _
      exact (interrupted_spend (by decide) _).halted rfl
    · intro _
      rw [hsettled]
      exact hhalted _ _
    · intro _ _ _
      exact hhalted _ _
    · intro _
      rw [hsettled]
      exact hhalted _ _
    · intro _ _ _ _ _ _
      exact update_withLink_withLinkChanged _
  refine Ends.bind hattach ?_
  rintro _ _ rfl
  have hup : Ends (bringTapUp links name)
      (k.update (withLink name { kind := .tap, master := some master }))
      (fun _ _ => True)
      (Interrupted name (k.update (withLink name { kind := .tap, master := some master }))) :=
    Ends.mono (ends_touch (by decide) (link?_update_withLink hcurrent)) (fun _ _ _ => trivial)
      fun _ _ h => h
  exact Ends.mono hup (fun _ _ h => h) fun _ _ h => h.halted rfl

section Builders

variable (hcurrent : k.current ∈ k.spaces) (hroutes : Network.Routed k)

include hroutes in
/-- Steps on a link just added, with the deletion that follows when one fails. -/
theorem ends_finish (step : BuilderStep) {steps : Action Kernel Unit}
    (hfree : k.link? k.current step.link = none)
    (hfinish : ∀ k, step.finish.on k = steps.on k)
    (hsteps : Ends steps (added step k) (fun _ _ => True) (Halted step.link k)) :
    Ends (links.orUndo step.link step.undoing steps) (added step k) (fun _ _ => True)
      (RolledBack step k) := by
  refine ends_orUndo (Ends.mono (Ends.run hsteps) (fun _ _ _ => trivial) fun _ _ h => h) ?_
  rintro primary stuck ⟨hon, hhalted⟩
  exact ends_withdraw hroutes hfree ((hfinish _).trans hon) hhalted

include hcurrent hroutes

theorem ends_createBridge_rolledBack (step : BuilderStep) {address : Cidr} {off : Bool}
    (hkind : step.kind = .bridge) (hundoing : step.undoing = "failed to delete link")
    (hfinish : ∀ k, step.finish.on k = (configureBridgeLink links step.link address off).on k) :
    Ends (createBridgeWithAddress links step.link address off) k (fun _ _ => True)
      (RolledBack step k) := by
  refine ends_createBridgeWithAddress (interrupted_spend (by decide) _).rolledBack
    (interrupted_spend (by decide) _).rolledBack (fun hfree => ?_) (fun old hold _ => ?_)
    fun _ _ _ => trivial
  · have hsteps : Ends (configureBridgeLink links step.link address off) (added step k)
        (fun _ _ => True) (Halted step.link k) :=
      Ends.mono (ends_configure (link?_update_withLink hcurrent)) (fun _ _ _ => trivial)
        fun _ _ h => h.halted rfl
    have hends := ends_finish hroutes step hfree hfinish hsteps
    rw [added, hkind, hundoing] at hends
    rwa [settle_eq_self hcurrent]
  · exact Ends.mono (ends_configure hold) (fun _ _ _ => trivial) fun _ _ h => h.rolledBack

theorem ends_createTap_rolledBack (name master : String) :
    Ends (createTap links name master) k (fun _ _ => True) (RolledBack (.tap name master) k) := by
  have hrefused : ∀ op text, op ∉ [KernelOp.deleteLink, .deleteNamespace] →
      RolledBack (.tap name master) k (.context text (injected op name)) (k.spend op name) :=
    fun op text hop => Interrupted.rolledBack (interrupted_spend hop text)
  refine ends_createTap (hrefused _ _ (by decide)) (fun _ => ?_) (fun hfree => ?_) fun old hold => ?_
  · rw [settle_eq_self hcurrent]
    exact hrefused _ _ (by decide)
  · rw [settle_eq_self hcurrent]
    exact ends_finish hroutes (.tap name master) hfree (fun _ => rfl) (ends_configureTap hcurrent)
  · have hup : Ends (bringTapUp links name) k (fun _ _ => True) (Interrupted name k) :=
      Ends.mono (ends_touch (by decide) hold) (fun _ _ _ => trivial) fun _ _ h => h
    exact Ends.mono hup (fun _ _ h => h) fun _ _ h => Interrupted.rolledBack h

theorem ends_builderStep :
    Ends (step.run links) k (fun _ _ => True) (RolledBack step k) := by
  cases step with
  | bridgeWithAddress name address off =>
    have hends := ends_createBridge_rolledBack hcurrent hroutes (.bridgeWithAddress name address off)
      rfl rfl fun _ => rfl
    exact Ends.bind hends fun _ _ _ => ends_pure trivial
  | tap name master =>
    exact Ends.bind (ends_createTap_rolledBack hcurrent hroutes name master)
      fun _ _ _ => ends_pure trivial
  | bridge name subnet off =>
    have hcreate : Ends (createBridge links name subnet off) k (fun _ _ => True)
        (RolledBack (.bridge name subnet off) k) := by
      refine Ends.bind (ends_ofExcept (Q := fun address k' => bridgeAddress subnet = .ok address ∧ k' = k)
        (fun _ haddress => ⟨haddress, rfl⟩) fun failure hfailure => ?_) ?_
      · obtain ⟨message, rfl⟩ := bridgeAddress_error hfailure
        exact (Touched.refl k).rolledBack fun _ _ => Failure.noConfusion
      · rintro address _ ⟨haddress, rfl⟩
        refine ends_createBridge_rolledBack hcurrent hroutes (.bridge name subnet off) rfl rfl ?_
        intro k
        show (Action.ofExcept (bridgeAddress subnet) >>= _ : Action Kernel Unit).on k = _
        rw [haddress]
        rfl
    exact Ends.bind hcreate fun _ _ _ => ends_pure trivial

end Builders

theorem routed_initial (pending : List (KernelOp × String)) :
    Network.Routed { initial with pending } := by
  intro space s hs device gateway hroute
  simp only [initial, Std.ExtTreeMap.getElem?_insert, Std.ExtTreeMap.getElem?_empty] at hs
  split at hs
  · obtain rfl := Option.some.inj hs
    cases hroute
  · cases hs

/-- A builder that fails leaves every namespace, link and route as it was where it added the link, unless
the deletion of the link failed as well: then, and only then, the failure is a rollback that carries the
failed step and the failed deletion. A link that was there before keeps its kind, its master and its
addresses. No other link is changed. Any failures may be pending. -/
theorem builder_rolls_back (step : BuilderStep) (k k' : Kernel) (failure : Failure)
    (hcurrent : k.current ∈ k.spaces) (hroutes : Network.Routed k)
    (hon : (step.run links).on k = (.error failure, k')) : RolledBack step k failure k' :=
  (ends_builderStep hcurrent hroutes).of_error hon

/-- A tap device without its bridge is taken away again; a bridge whose deletion fails is reported with
both failures. -/
theorem builder_rolls_back_demo :
    (∃ failure k', ((BuilderStep.tap "tap0" "br0").run links).on initial = (.error failure, k') ∧
      k'.spaces = initial.spaces ∧ ∀ primary cleanup, failure ≠ .rollback primary cleanup) ∧
    ∃ primary cleanup k', ((BuilderStep.bridgeWithAddress "br0" demoAddress true).run links).on
        ((initial.failOnce .bringUp "br0").failOnce .deleteLink "br0") =
      (.error (.rollback primary (.context "failed to delete link" cleanup)), k') := by
  constructor
  · obtain ⟨failure, k', hon⟩ := on_eq_error ((BuilderStep.tap "tap0" "br0").run links) initial
      (by decide +kernel)
    have h := builder_rolls_back (.tap "tap0" "br0") initial k' failure (by decide +kernel)
      (routed_initial []) hon
    have hcalm : ¬ DeletionFailed "tap0" initial k' := Nat.not_lt_zero _
    exact ⟨failure, k', hon, h.restored (by decide +kernel) hcalm, h.single hcalm⟩
  · have hfails : DeletionFailed "br0" ((initial.failOnce .bringUp "br0").failOnce .deleteLink "br0")
        (((BuilderStep.bridgeWithAddress "br0" demoAddress true).run links).on
          ((initial.failOnce .bringUp "br0").failOnce .deleteLink "br0")).2 := by
      unfold DeletionFailed
      decide +kernel
    obtain ⟨failure, k', hon⟩ := on_eq_error
      ((BuilderStep.bridgeWithAddress "br0" demoAddress true).run links)
      ((initial.failOnce .bringUp "br0").failOnce .deleteLink "br0") (by decide +kernel)
    have h := builder_rolls_back (.bridgeWithAddress "br0" demoAddress true)
      ((initial.failOnce .bringUp "br0").failOnce .deleteLink "br0") k' failure (by decide +kernel)
      (routed_initial _) hon
    rw [hon] at hfails
    obtain ⟨-, primary, cleanup, -, -, -, rfl⟩ := h.reported hfails
    exact ⟨primary, cleanup, k', hon⟩

end WorkloadNet.Kernel
