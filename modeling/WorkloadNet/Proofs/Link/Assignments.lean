import WorkloadNet.Proofs.Address.Subnets
import WorkloadNet.Proofs.Kernel.Building

/-!
# The address of a bridge in its subnet

A bridge that is created for a subnet carries the address after the base. Only a subnet of one address has
none, and the creation is then refused; no later step fails in the way this refusal does. Otherwise the
address is in the subnet, and no other address plays a part in the creation, whatever holds the links.
-/

namespace WorkloadNet

open WorkloadNet.Action

/-! ## What a creation asks for -/

/-- Two holders of links do the same wherever a bridge of this name gets this address. -/
structure LinkManager.AgreeOn {σ : Type} (name : String) (address : Cidr)
    (links links' : LinkManager σ) : Prop where
  add : links.add name .bridge = links'.add name .bridge
  setAddress : links.setAddress name address = links'.setAddress name address
  hasAddress : links.hasAddress name address = links'.hasAddress name address
  bringUp : links.bringUp name = links'.bringUp name
  disableTxOffload : links.disableTxOffload name = links'.disableTxOffload name
  delete : links.delete name = links'.delete name

/-- A failure that names the step at which it was met, or was left by a cleanup. -/
def Failure.isStep : Failure → Bool
  | .context _ _ => true
  | .rollback _ _ => true
  | _ => false

section

variable {σ : Type} {links links' : LinkManager σ} {name : String} {address : Cidr} {off : Bool}

theorem createBridgeWithAddress_congr (h : links.AgreeOn name address links') :
    createBridgeWithAddress links name address off =
      createBridgeWithAddress links' name address off := by
  simp only [createBridgeWithAddress, configureBridgeLink, LinkManager.orUndo, LinkManager.undo,
    h.add, h.setAddress, h.hasAddress, h.bringUp, h.disableTxOffload, h.delete]

/-- A step fails with its name. -/
theorem ends_annotate_step {α : Type} (action : Action σ α) (step : String) (s : σ) :
    Ends (action.annotate step) s (fun _ _ => True) (fun failure _ => failure.isStep = true) :=
  Ends.annotate (ends_iff.2 ⟨fun _ _ _ => trivial, fun _ _ _ => rfl⟩)

theorem ends_configureBridgeLink_step (s : σ) :
    Ends (configureBridgeLink links name address off) s (fun _ _ => True)
      (fun failure _ => failure.isStep = true) := by
  refine Ends.bind (ends_annotate_step _ _ s) fun _ s _ => ?_
  refine Ends.bind (ends_annotate_step _ _ s) fun _ s _ => ?_
  cases off with
  | false => exact ends_pure trivial
  | true => exact ends_annotate_step _ _ s

/-- Whatever holds the links, a creation fails at one of its steps. -/
theorem ends_createBridgeWithAddress_step (s : σ) :
    Ends (createBridgeWithAddress links name address off) s (fun _ _ => True)
      (fun failure _ => failure.isStep = true) := by
  have hany {α : Type} (action : Action σ α) (s : σ) :
      Ends action s (fun _ _ => True) (fun _ _ => True) :=
    ends_iff.2 ⟨fun _ _ _ => trivial, fun _ _ _ => trivial⟩
  refine Ends.bind (Ends.outcome (hany _ s)) ?_
  rintro (failure | _) s -
  · by_cases htaken : failure.isAlreadyExists = true
    · simp only [htaken, if_true]
      refine Ends.bind (ends_annotate_step _ _ s) fun present s _ => ?_
      cases present with
      | false => exact ends_configureBridgeLink_step s
      | true => exact ends_pure trivial
    · simp only [htaken, Bool.false_eq_true, if_false]
      exact ends_fail rfl
  · refine Ends.bind (Ends.outcome (ends_configureBridgeLink_step s)) ?_
    rintro (primary | _) s h
    · refine Ends.bind (Ends.outcome (hany _ s)) ?_
      rintro (cleanup | _) s -
      · exact ends_fail rfl
      · exact ends_fail h
    · exact ends_pure trivial

end

/-! ## The first usable address -/

namespace Cidr

/-- The failure where a subnet has no address for a bridge. -/
def noUsable (subnet : String) : Failure := .config s!"subnet {subnet} has no usable address"

/-- A creation of a bridge for a subnet depends on no address but this one, and one that succeeds leaves a
link that carries it. -/
structure Assigned (subnet : String) (address : Cidr) : Prop where
  only : ∀ (σ : Type) (links links' : LinkManager σ) (name : String) (off : Bool),
    links.AgreeOn name address links' →
      createBridge links name subnet off = createBridge links' name subnet off
  carried : ∀ (name : String) (off : Bool) (k k' : Kernel),
    (createBridge Kernel.links name subnet off).on k = (.ok (), k') →
      ∃ link, k'.link? k.current name = some link ∧ address ∈ link.addresses

variable {c : Cidr} {subnet : String}

theorem bridgeAddress_of_some {a : V4} (hparsed : ofText subnet = .ok c) (h : c.firstUsable? = some a) :
    bridgeAddress subnet = .ok (c.withAddress a) := by
  simp only [bridgeAddress, hparsed, h]

theorem createBridge_of_ok {σ : Type} {links : LinkManager σ} {name : String} {off : Bool}
    {address : Cidr} (h : bridgeAddress subnet = .ok address) :
    createBridge links name subnet off = createBridgeWithAddress links name address off := by
  rw [createBridge, h]
  rfl

theorem assigned_of_ok {address : Cidr} (h : bridgeAddress subnet = .ok address) :
    Assigned subnet address := by
  constructor
  · intro σ links links' name off hagree
    rw [createBridge_of_ok h, createBridge_of_ok h, createBridgeWithAddress_congr hagree]
  · intro name off k k' hon
    rw [createBridge_of_ok h] at hon
    obtain ⟨-, link, hlink, hbuilt, -⟩ := Kernel.ends_created.of_ok hon
    exact ⟨link, hlink, hbuilt.carries⟩

/-- A creation is refused for want of an address exactly when the subnet has only one. -/
theorem createBridge_noUsable_iff {σ : Type} {links : LinkManager σ} {name : String} {off : Bool}
    (hparsed : ofText subnet = .ok c) (s : σ) :
    ((createBridge links name subnet off).on s).1 = .error (noUsable subnet) ↔ c.length = 32 := by
  constructor
  · intro hon
    by_contra hne
    have hlength := c.length_le
    obtain ⟨a, ha⟩ := Option.ne_none_iff_exists'.1 (mt firstUsable?_eq_none_iff.1 hne)
    rw [createBridge_of_ok (bridgeAddress_of_some hparsed ha)] at hon
    have hstep := (ends_createBridgeWithAddress_step s).of_error (Prod.ext hon rfl)
    cases hstep
  · intro hfull
    have hnone : bridgeAddress subnet = .error (noUsable subnet) := by
      simp only [bridgeAddress, hparsed, firstUsable?_eq_none_iff.2 hfull]
      rfl
    rw [createBridge, hnone]
    rfl

/-- The first usable address of a subnet is the one after the base, and a subnet has one unless its prefix
is as long as an address. It is in the subnet, and is the least address there above the base. The base and
the length of the prefix decide it. A bridge for the subnet gets it, and is refused when there is none. -/
theorem first_usable_address (c : Cidr) :
    (c.firstUsable?.isSome = true ↔ c.length ≤ 31) ∧
      (∀ a, c.firstUsable? = some a → c.base + 1 < V4.count ∧ a.toNat = c.base + 1 ∧
        c.contains a = true ∧ ∀ b : V4, c.contains b = true → c.base < b.toNat → a.toNat ≤ b.toNat) ∧
      c.base = (c.address.bits &&& c.mask).toNat ∧
      (∀ d : Cidr, d.base = c.base → d.length = c.length → d.firstUsable? = c.firstUsable?) ∧
      ∀ subnet, ofText subnet = .ok c →
        (∀ (σ : Type) (links : LinkManager σ) (name : String) (off : Bool) (s : σ),
          ((createBridge links name subnet off).on s).1 = .error (noUsable subnet) ↔ c.length = 32) ∧
        (c.length ≤ 31 → ∃ a, c.contains a = true ∧ c.firstUsable? = some a ∧
          Assigned subnet (c.withAddress a)) := by
  have hlength := c.length_le
  have hend := c.base_add_size_le
  have hroom : c.length ≤ 31 → ∃ a, c.contains a = true ∧ c.firstUsable? = some a := by
    intro hshort
    have hsize := one_lt_size_iff.2 hshort
    have ha : (V4.ofNat (c.base + 1)).toNat = c.base + 1 := V4.toNat_ofNat (by omega)
    exact ⟨_, contains_iff.2 (by omega), firstUsable?_eq_some_iff.2 ⟨hshort, ha⟩⟩
  refine ⟨?_, ?_, c.base_eq_mask, ?_, fun subnet hparsed =>
    ⟨fun σ links name off s => createBridge_noUsable_iff hparsed s, fun hshort => ?_⟩⟩
  · rw [← Option.ne_none_iff_isSome, Ne, firstUsable?_eq_none_iff]
    omega
  · intro a ha
    obtain ⟨hshort, hnext⟩ := firstUsable?_eq_some_iff.1 ha
    have hsize := one_lt_size_iff.2 hshort
    exact ⟨by omega, hnext, contains_iff.2 (by omega), fun b _ hb => by omega⟩
  · intro d hbase hsame
    refine Option.ext fun a => ?_
    rw [firstUsable?_eq_some_iff, firstUsable?_eq_some_iff, hbase, hsame]
  · obtain ⟨a, hin, ha⟩ := hroom hshort
    exact ⟨a, hin, ha, assigned_of_ok (bridgeAddress_of_some hparsed ha)⟩

/-- A subnet that is given by one of its hosts. -/
def demoSubnet : Cidr := ⟨V4.ofOctets 172 16 5 77, 20, by decide⟩

/-- A bridge for this subnet gets the address after the base, as for the subnet that is given by its base,
and also from a holder of links that knows no routes. The last address alone is refused. -/
theorem first_usable_address_demo :
    (∃ a, demoSubnet.firstUsable? = some a ∧ a.text = "172.16.0.1" ∧
      demoSubnet.contains a = true ∧ a.toNat = demoSubnet.base + 1 ∧
      (demoSubnet.withAddress (V4.ofOctets 172 16 0 0)).firstUsable? = some a ∧
      ∃ k' link, (createBridge Kernel.links "br0" "172.16.5.77/20" true).on Kernel.initial = (.ok (), k') ∧
        k'.link? none "br0" = some link ∧ demoSubnet.withAddress a ∈ link.addresses ∧
        (createBridge { Kernel.links with addDefaultRoute := fun _ _ => Action.fail .noDefaultRoute }
          "br0" "172.16.5.77/20" true).on Kernel.initial = (.ok (), k')) ∧
      ((createBridge Kernel.links "br0" "255.255.255.255/32" true).on Kernel.initial).1 =
        .error (noUsable "255.255.255.255/32") := by
  have hparsed : ofText "172.16.5.77/20" = .ok demoSubnet := by decide +kernel
  obtain ⟨-, hfirst, -, hsame, hcreate⟩ := first_usable_address demoSubnet
  obtain ⟨a, hin, ha, hassigned⟩ := (hcreate _ hparsed).2 (by decide)
  obtain ⟨-, hnext, -, -⟩ := hfirst a ha
  obtain ⟨_, k', hon⟩ := on_eq_ok (createBridge Kernel.links "br0" "172.16.5.77/20" true) Kernel.initial
    (by decide +kernel)
  obtain ⟨link, hlink, hcarries⟩ := hassigned.carried "br0" true _ k' hon
  have hroutes : createBridge Kernel.links "br0" "172.16.5.77/20" true = createBridge
      { Kernel.links with addDefaultRoute := fun _ _ => Action.fail .noDefaultRoute }
      "br0" "172.16.5.77/20" true :=
    hassigned.only _ _ _ _ _ ⟨rfl, rfl, rfl, rfl, rfl, rfl⟩
  have htext : a = V4.ofOctets 172 16 0 1 := V4.toNat_inj.1 (hnext.trans (by decide +kernel))
  have hlast : ofText "255.255.255.255/32" = .ok ⟨V4.ofOctets 255 255 255 255, 32, by decide⟩ := by
    decide +kernel
  refine ⟨⟨a, ha, by rw [htext]; decide +kernel, hin, hnext,
    (hsame _ (by decide +kernel) rfl).trans ha, k', link, hon, hlink, hcarries, hroutes ▸ hon⟩, ?_⟩
  exact (((first_usable_address _).2.2.2.2 _ hlast).1 _ _ _ _ _).2 rfl

end Cidr

end WorkloadNet
