import Mathlib.Data.Nat.Bitwise
import WorkloadNet.Address.Cidr

/-!
# Subnets as runs of addresses

The addresses of a subnet are those that agree with it under the mask of its prefix. As numbers they are an
unbroken run that starts at the base: a range with both ends in the subnet lies in it as a whole, and the
address after the base is in it unless the base is alone there.
-/

namespace WorkloadNet.Cidr

variable {c : Cidr} {a : V4}

/-! ## The run of addresses -/

theorem size_eq (c : Cidr) : c.size = 2 ^ (32 - c.length) := rfl

theorem size_pos (c : Cidr) : 0 < c.size := Nat.two_pow_pos _

theorem size_dvd_count (c : Cidr) : c.size ∣ V4.count :=
  Nat.pow_dvd_pow 2 (Nat.sub_le 32 c.length)

theorem size_le_count (c : Cidr) : c.size ≤ V4.count :=
  Nat.pow_le_pow_right (by decide) (Nat.sub_le 32 c.length)

/-- The base is alone in its subnet exactly when the prefix is as long as an address. -/
theorem one_lt_size_iff : 1 < c.size ↔ c.length ≤ 31 := by
  have hlength := c.length_le
  rw [size_eq, Nat.one_lt_two_pow_iff]
  omega

theorem contains_iff : c.contains a = true ↔ c.base ≤ a.toNat ∧ a.toNat < c.base + c.size := by
  have hsize := c.size_pos
  rw [contains, beq_iff_eq, Nat.div_eq_iff hsize, base]
  omega

/-- The run ends with the last address of all, or before. -/
theorem base_add_size_le (c : Cidr) : c.base + c.size ≤ V4.count := by
  obtain ⟨blocks, hblocks⟩ := c.size_dvd_count
  have hblock : c.address.toNat / c.size < blocks :=
    Nat.div_lt_of_lt_mul (hblocks ▸ c.address.toNat_lt)
  calc c.base + c.size = c.size * (c.address.toNat / c.size + 1) := by rw [base, Nat.mul_add_one, Nat.mul_comm]
    _ ≤ c.size * blocks := Nat.mul_le_mul_left c.size hblock
    _ = V4.count := hblocks.symm

/-! ## Masks -/

/-- The mask of a prefix: ones under the prefix, then zeros. -/
def mask (c : Cidr) : UInt32 := ~~~UInt32.ofNat (c.size - 1)

theorem size_sub_one_lt (c : Cidr) : c.size - 1 < V4.count :=
  Nat.lt_of_lt_of_le (Nat.sub_lt c.size_pos Nat.one_pos) c.size_le_count

theorem toNat_mask (c : Cidr) : c.mask.toNat = V4.count - c.size := by
  have hhost : (UInt32.ofNat (c.size - 1)).toNat = c.size - 1 :=
    UInt32.toNat_ofNat_of_lt' c.size_sub_one_lt
  rw [mask, UInt32.toNat_not, hhost, Nat.sub_sub, Nat.add_sub_cancel' c.size_pos]
  rfl

/-- What the mask leaves of an address is the base of its run. -/
theorem toNat_and_mask (c : Cidr) (a : V4) : (a.bits &&& c.mask).toNat = a.toNat / c.size * c.size := by
  have hmask : V4.count - c.size = 2 ^ 32 - ((c.size - 1) + 1) := by
    rw [Nat.sub_add_cancel c.size_pos]
    rfl
  rw [UInt32.toNat_and, toNat_mask, hmask]
  refine Nat.eq_of_testBit_eq fun i => ?_
  -- Bit by bit: those of the host are cleared, the others are those of the address.
  rw [Nat.testBit_and, Nat.testBit_two_pow_sub_succ c.size_sub_one_lt]
  simp only [size_eq, Nat.testBit_two_pow_sub_one, Nat.testBit_mul_two_pow,
    Nat.testBit_div_two_pow]
  by_cases hi : 32 - c.length ≤ i
  · have hback : i - (32 - c.length) + (32 - c.length) = i := Nat.sub_add_cancel hi
    by_cases hbit : i < 32
    · simp [hi, hbit, hback, V4.toNat]
    · have hpow : 2 ^ 32 ≤ 2 ^ i := Nat.pow_le_pow_right (by decide) (Nat.le_of_not_lt hbit)
      have hzero : a.bits.toNat.testBit i = false :=
        Nat.testBit_lt_two_pow (Nat.lt_of_lt_of_le a.toNat_lt hpow)
      simp [hback, hzero, V4.toNat]
  · simp [hi]
    omega

theorem base_eq_mask (c : Cidr) : c.base = (c.address.bits &&& c.mask).toNat :=
  (c.toNat_and_mask c.address).symm

/-- An address is in a subnet exactly when it agrees with it under the mask. -/
theorem contains_iff_mask :
    c.contains a = true ↔ a.bits &&& c.mask = c.address.bits &&& c.mask := by
  rw [← UInt32.toNat_inj, toNat_and_mask, toNat_and_mask, contains, beq_iff_eq,
    Nat.mul_left_inj (Nat.ne_of_gt c.size_pos)]

/-! ## Ranges -/

/-- A range has its ends, in this order, among the IPv4 addresses of the subnet. -/
theorem isRange_iff {first last : Host} :
    c.isRange first last = true ↔ ∃ low high, first = .v4 low ∧ last = .v4 high ∧
      c.contains low = true ∧ c.contains high = true ∧ low.toNat < high.toNat := by
  cases first <;> cases last <;> simp [isRange, and_assoc]

/-- What lies between two addresses of a subnet is in it. -/
theorem contains_of_between {low high : V4} (hlow : c.contains low = true)
    (hhigh : c.contains high = true) (h : low.toNat ≤ a.toNat) (h' : a.toNat ≤ high.toNat) :
    c.contains a = true := by
  rw [contains_iff] at hlow hhigh ⊢
  omega

/-! ## The first usable address -/

/-- The address after the base is usable exactly when the base is not alone. -/
theorem firstUsable?_eq_some_iff :
    c.firstUsable? = some a ↔ c.length ≤ 31 ∧ a.toNat = c.base + 1 := by
  have hend := c.base_add_size_le
  rw [firstUsable?, Option.ite_none_right_eq_some, Option.some.injEq, ← one_lt_size_iff]
  constructor
  · rintro ⟨⟨hlt, hcontains⟩, rfl⟩
    rw [contains_iff, V4.toNat_ofNat hlt] at hcontains
    exact ⟨by omega, V4.toNat_ofNat hlt⟩
  · rintro ⟨hsize, ha⟩
    have hlt : c.base + 1 < V4.count := by omega
    obtain rfl : V4.ofNat (c.base + 1) = a := by rw [← ha, V4.ofNat_toNat]
    exact ⟨⟨hlt, contains_iff.2 (by omega)⟩, rfl⟩

theorem firstUsable?_eq_none_iff : c.firstUsable? = none ↔ c.length = 32 := by
  have hlength := c.length_le
  have hend := c.base_add_size_le
  rw [Option.eq_none_iff_forall_ne_some]
  constructor
  · intro hnone
    by_contra hne
    have hshort : c.length ≤ 31 := by omega
    have hsize := one_lt_size_iff.2 hshort
    exact hnone _ (firstUsable?_eq_some_iff.2 ⟨hshort, V4.toNat_ofNat (by omega)⟩)
  · rintro hfull a ha
    have hshort := (firstUsable?_eq_some_iff.1 ha).1
    omega

end WorkloadNet.Cidr
