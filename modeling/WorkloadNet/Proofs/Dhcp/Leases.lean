import WorkloadNet.Proofs.Address.Subnets
import WorkloadNet.Proofs.Dhcp.Arguments

/-!
# Leases in the subnet

Settings that do have a range with both ends in their subnet. A subnet is an unbroken run of addresses, so
no address of the range that the lease engine is told of lies outside it.
-/

namespace WorkloadNet.Dhcp

variable {s : LeaseSettings}

theorem LeaseSettings.subnet_of_check {first last : Host} {router : V4}
    (h : s.check = .ok (first, last, router)) :
    ∃ subnet, s.subnet = some subnet ∧ subnet.isRange first last = true := by
  unfold check at h
  split at h
  · nomatch h
  · rename_i subnet hneeded
    split at h
    · nomatch h
    · rename_i hrange
      split at h
      · nomatch h
      · cases h
        unfold needed at hneeded
        split at hneeded
        · nomatch hneeded
        · rename_i hsubnet
          cases hneeded
          exact ⟨_, hsubnet, by simpa using hrange⟩
        · nomatch hneeded

/-- The addresses of a subnet are those that agree with it under its mask. A range has both ends among them,
in ascending order, and all that lies between is in the subnet too. So every address is in the subnet that a
lease engine may hand out when it is told of settings that do. -/
theorem leases_in_subnet (c : Cidr) (first last : Host) :
    (∀ a, c.contains a = true ↔ a.bits &&& c.mask = c.address.bits &&& c.mask) ∧
      (c.isRange first last = true ↔ ∃ low high, first = .v4 low ∧ last = .v4 high ∧
        c.contains low = true ∧ c.contains high = true ∧ low.toNat < high.toNat) ∧
      (∀ low high, c.isRange (.v4 low) (.v4 high) = true →
        ∀ a : V4, low.toNat ≤ a.toNat → a.toNat ≤ high.toNat → c.contains a = true) ∧
      ∀ (s : LeaseSettings) (ends : Host × Host × V4), s.check = .ok ends →
        ∃ subnet directives orders, s.subnet = some subnet ∧ s.directives = .ok directives ∧
          Orders.of? Directive.arguments directives = some orders ∧
          s.range = some (.v4 orders.first, .v4 orders.last) ∧
          ∀ a : V4, orders.first.toNat ≤ a.toNat → a.toNat ≤ orders.last.toNat →
            subnet.contains a = true := by
  have hbetween : ∀ (subnet : Cidr) low high, subnet.isRange (.v4 low) (.v4 high) = true →
      ∀ a : V4, low.toNat ≤ a.toNat → a.toNat ≤ high.toNat → subnet.contains a = true := by
    intro subnet low high hrange a
    obtain ⟨_, _, hlow, hhigh, hlowin, hhighin, -⟩ := Cidr.isRange_iff.1 hrange
    cases hlow
    cases hhigh
    exact Cidr.contains_of_between hlowin hhighin
  refine ⟨fun a => Cidr.contains_iff_mask, Cidr.isRange_iff, hbetween c, ?_⟩
  rintro s ⟨first, last, router⟩ hcheck
  obtain ⟨⟨low, high, rfl, rfl⟩, hrange, -, -⟩ := LeaseSettings.check_eq_ok hcheck
  obtain ⟨subnet, hsubnet, hin⟩ := LeaseSettings.subnet_of_check hcheck
  have hdirectives : s.directives = .ok (s.directivesOf (.v4 low) (.v4 high) router) := by
    rw [LeaseSettings.directives, hcheck]
  exact ⟨subnet, _, _, hsubnet, hdirectives, Orders.of?_arguments, hrange, hbetween subnet low high hin⟩

/-- The subnet of the last two addresses, given by the last. -/
def lastSubnet : Cidr := ⟨V4.ofOctets 255 255 255 255, 31, by decide⟩

/-- The last two addresses are a range in their subnet; and all of the range that a lease engine is told of
in a small subnet is in it, an address inside the range for one. -/
theorem leases_in_subnet_small :
    lastSubnet.isRange (.v4 (V4.ofOctets 255 255 255 254)) (.v4 (V4.ofOctets 255 255 255 255)) = true ∧
      lastSubnet.contains (V4.ofOctets 255 255 255 254) = true ∧
      ∃ subnet directives orders, smallSettings.subnet = some subnet ∧
        smallSettings.directives = .ok directives ∧
        Orders.of? Directive.arguments directives = some orders ∧
        orders.first = V4.ofOctets 10 10 0 10 ∧ orders.last = V4.ofOctets 10 10 0 100 ∧
        subnet.contains (V4.ofOctets 10 10 0 55) = true := by
  have hlast : lastSubnet.isRange (.v4 (V4.ofOctets 255 255 255 254))
      (.v4 (V4.ofOctets 255 255 255 255)) = true := by decide +kernel
  have hcheck : smallSettings.check = .ok (.v4 (V4.ofOctets 10 10 0 10),
      .v4 (V4.ofOctets 10 10 0 100), V4.ofOctets 10 10 0 1) := by decide +kernel
  obtain ⟨-, -, hbetween, hsettings⟩ := leases_in_subnet lastSubnet
    (.v4 (V4.ofOctets 255 255 255 254)) (.v4 (V4.ofOctets 255 255 255 255))
  obtain ⟨subnet, directives, orders, hsubnet, hdirectives, horders, hrange, hin⟩ :=
    hsettings smallSettings _ hcheck
  simp only [smallSettings, Option.some.injEq, Prod.mk.injEq, Host.v4.injEq] at hrange
  obtain ⟨hfirst, hlast'⟩ := hrange
  refine ⟨hlast, hbetween _ _ hlast _ (by decide) (by decide), subnet, directives, orders, hsubnet,
    hdirectives, horders, hfirst.symm, hlast'.symm, hin _ ?_ ?_⟩
  · rw [← hfirst]
    decide
  · rw [← hlast']
    decide

end WorkloadNet.Dhcp
