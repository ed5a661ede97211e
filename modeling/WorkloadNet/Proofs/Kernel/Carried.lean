import WorkloadNet.Link.Tap
import WorkloadNet.Network.Lifecycle
import WorkloadNet.Proofs.Action.Leads
import WorkloadNet.Proofs.Kernel.Operations
import WorkloadNet.Proofs.Network.Phases
import WorkloadNet.Session.Run

/-!
# Relations that the operations of a kernel carry

A relation between the kernel before and the kernel after is carried by the operations when each of
them leads along it, failed or not, and when it can be taken into a namespace and out again: `Carried`.
Whatever is made of the operations then leads along it too: the builders of links, and the building, the
taking up and the destruction of networks.
-/

namespace WorkloadNet.Kernel

open WorkloadNet.Action Session

variable {R : Kernel → Kernel → Prop} {α : Type} {name : String}

/-- Every operation of a kernel leads along the relation. -/
structure Carried (R : Kernel → Kernel → Prop) : Prop where
  refl : ∀ k, R k k
  trans : ∀ {k₁ k₂ k₃}, R k₁ k₂ → R k₂ k₃ → R k₁ k₃
  link : ∀ step : LinkStep, Leads R (step.run links)
  space : ∀ step : SpaceStep, Leads R (step.run namespaces)
  failing : ∀ op name k, R k (k.failOnce op name)
  refused : ∀ {name k}, (.enterNamespace, name) ∈ k.pending → R k (k.spend .enterNamespace name)
  inside : ∀ {name k k'}, (.enterNamespace, name) ∉ k.pending → some name ∈ k.spaces →
    R { k with current := some name } k' → R k { k' with current := k.current }

namespace Carried

variable (hR : Carried R)

include hR

/-- Two actions that lead along the relation do so one after the other. -/
theorem bind {β : Type} {action : Action Kernel α} {next : α → Action Kernel β}
    (h : Leads R action) (hnext : ∀ a, Leads R (next a)) : Leads R (action >>= next) :=
  Leads.bind (R := R) (fun _ _ _ => hR.trans) h hnext

/-- Creating a link leads along the relation. -/
theorem add (name : String) (kind : LinkKind) : Leads R (links.add name kind) :=
  (hR.link (.add name kind)).of_value

theorem setAddress (name : String) (address : Cidr) : Leads R (links.setAddress name address) :=
  (hR.link (.setAddress name address)).of_value

theorem bringUp (name : String) : Leads R (links.bringUp name) := (hR.link (.bringUp name)).of_value

/-- Deleting a link leads along the relation. -/
theorem delete (name : String) : Leads R (links.delete name) := (hR.link (.delete name)).of_value

/-- Creating a namespace leads along the relation. -/
theorem createSpace (name : String) : Leads R (namespaces.create name) :=
  (hR.space (.create name)).of_value

/-- Deleting a namespace leads along the relation. -/
theorem deleteSpace (name : String) : Leads R (namespaces.delete name) :=
  (hR.space (.delete name)).of_value

theorem hasSpace (name : String) : Leads R (namespaces.has name) :=
  (hR.space (.has name)).of_value

/-- A body inside a namespace leads along the relation when it does so by itself. -/
theorem within {body : Action Kernel α} (hbody : Leads R body) :
    Leads R (namespaces.within name body) := by
  intro k
  have hswitch : (namespaces.switch name).on k = (switch name).on k := rfl
  unfold NamespaceManager.within
  rw [on_of, hswitch, on_switch]
  by_cases hpending : (.enterNamespace, name) ∈ k.pending
  · rw [if_pos hpending]
    exact hR.refused hpending
  · rw [if_neg hpending]
    by_cases hspace : some name ∈ k.spaces
    · rw [if_pos hspace]
      exact hR.inside hpending hspace (hbody _)
    · rw [if_neg hspace]
      exact hR.refl k

/-! ## Builders -/

/-- Steps that are undone by deleting a link when they fail lead along the relation if they do so by
themselves. -/
theorem orUndo {step : String} {steps : Action Kernel Unit} (h : Leads R steps) :
    Leads R (links.orUndo name step steps) := by
  refine hR.bind h.attempt fun result => ?_
  cases result with
  | ok _ => exact leads_pure hR.refl ()
  | error failure =>
    refine hR.bind (hR.delete name).attempt fun cleanup => ?_
    cases cleanup <;> exact leads_fail hR.refl _

/-- Giving a bridge its address and bringing it up leads along the relation. -/
theorem configureBridgeLink {address : Cidr} {off : Bool} :
    Leads R (configureBridgeLink links name address off) := by
  refine hR.bind (hR.setAddress name address).annotate fun _ => ?_
  refine hR.bind (hR.bringUp name).annotate fun _ => ?_
  cases off with
  | false => exact leads_pure hR.refl ()
  | true => exact (hR.link (.disableTxOffload name)).of_value.annotate

/-- So does making a bridge, new or taken as it is found. -/
theorem createBridgeWithAddress {address : Cidr} {off : Bool} :
    Leads R (createBridgeWithAddress links name address off) := by
  refine hR.bind (hR.add name .bridge).attempt fun result => ?_
  cases result with
  | ok _ => exact hR.orUndo hR.configureBridgeLink
  | error failure =>
    dsimp only
    split
    · have hlisted : Leads R (links.hasAddress name address) :=
        (hR.link (.hasAddress name address)).of_value
      refine hR.bind hlisted.annotate fun present => ?_
      split
      · exact leads_pure hR.refl ()
      · exact hR.configureBridgeLink
    · exact leads_fail hR.refl _

/-- So does making a tap on a bridge, new or taken as it is found. -/
theorem createTap {bridge : String} : Leads R (createTap links name bridge) := by
  have hpresent : Leads R (links.has name) := (hR.link (.has name)).of_value
  have hup : Leads R (bringTapUp links name) := (hR.bringUp name).annotate
  refine hR.bind hpresent.annotate fun present => ?_
  split
  · exact hup
  · refine hR.bind (hR.add name .tap).annotate fun _ => hR.orUndo ?_
    have hattach : Leads R (links.setMaster name bridge) :=
      (hR.link (.setMaster name bridge)).of_value
    exact hR.bind hattach.annotate fun _ => hup

/-- Every builder of links leads along the relation. -/
theorem builderStep (step : BuilderStep) : Leads R (step.run links) := by
  have hsilent : ∀ {action : Action Kernel Unit}, Leads R action → Leads R (silent action) :=
    fun h => hR.bind h fun _ => leads_pure hR.refl _
  cases step with
  | bridge name subnet off =>
    refine hsilent (hR.bind (leads_ofExcept hR.refl _) fun _ => ?_)
    exact hR.createBridgeWithAddress
  | bridgeWithAddress name address off => exact hsilent hR.createBridgeWithAddress
  | tap name bridge => exact hsilent hR.createTap

/-! ## Networks -/

/-- Deleting what a network owns leads along the relation, whichever deletions fail. -/
theorem release : Leads R (Network.release links namespaces name) := by
  refine hR.bind (hR.delete _).annotate.attempt fun link => ?_
  refine hR.bind (hR.deleteSpace name).annotate.attempt fun space => ?_
  dsimp only
  split
  · exact leads_pure hR.refl ()
  · exact leads_fail hR.refl _

/-- Cleaning up before the veth pair exists leads along the relation. -/
theorem abandon {existed : Bool} {failure : Failure} :
    Leads R (Network.abandon namespaces name existed failure : Action Kernel α) := by
  unfold Network.abandon
  cases existed with
  | true => exact leads_fail hR.refl failure
  | false =>
    refine hR.bind (hR.deleteSpace name).attempt fun cleanup => ?_
    cases cleanup <;> exact leads_fail hR.refl _

/-- Cleaning up after the veth pair exists leads along the relation. -/
theorem unwind {failure : Failure} :
    Leads R (Network.unwind links namespaces name failure : Action Kernel α) := by
  refine hR.bind hR.release.attempt fun cleanup => ?_
  cases cleanup <;> exact leads_fail hR.refl _

/-- Building from a plan leads along the relation, at whichever step it fails. -/
theorem ofPlan {plan : NetworkPlan Kernel} (hlinks : plan.links = links) :
    Leads R (Network.ofPlan namespaces plan) := by
  have hveth : Leads R (Network.addVeth plan) := by
    unfold Network.addVeth
    rw [hlinks]
    exact (hR.add _ _).annotate
  have hinside : Leads R (Network.provisionInside plan) := by
    unfold Network.provisionInside
    rw [hlinks]
    refine hR.bind hR.createBridgeWithAddress.annotate fun _ => ?_
    refine hR.bind (hR.bringUp _).annotate fun _ => ?_
    refine hR.bind (hR.link (.setMaster _ _)).of_value.annotate fun _ => ?_
    exact (hR.link (.addDefaultRoute _ _)).of_value.annotate
  have hprovision : Leads R (Network.provision namespaces plan) := by
    unfold Network.provision
    rw [hlinks]
    refine hR.bind (hR.setAddress _ _).annotate fun _ => ?_
    exact hR.bind (hR.bringUp _).annotate fun _ => hR.within hinside
  refine hR.bind (hR.hasSpace _) fun existed => ?_
  refine hR.bind (hR.createSpace _).annotate fun _ => ?_
  refine hR.bind hveth.attempt fun veth => ?_
  cases veth with
  | error failure => exact hR.abandon
  | ok _ =>
    refine hR.bind hprovision.attempt fun provisioned => ?_
    cases provisioned with
    | ok _ => exact leads_pure hR.refl _
    | error failure =>
      dsimp only
      rw [hlinks]
      exact hR.unwind

/-- Building from settings leads along the relation; settings that make no plan change nothing. -/
theorem build (settings : NetworkSettings) :
    Leads R (Network.build namespaces settings.request) :=
  leads_ofExcept_bind hR.refl fun _ hplan => hR.ofPlan (Network.links_of_plan_ok hplan)

/-- Taking up a network that was built before leads along the relation. -/
theorem takeUp (settings : NetworkSettings) :
    Leads R (Network.open namespaces settings.request) := by
  unfold Network.open
  dsimp only
  split
  · exact leads_fail_bind hR.refl
  · split
    · exact leads_fail_bind hR.refl
    · refine hR.bind (hR.hasSpace _) fun present => ?_
      split
      · exact leads_pure hR.refl _
      · exact leads_fail hR.refl _

end Carried

end WorkloadNet.Kernel
