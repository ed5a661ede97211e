import Mathlib.Data.List.Count
import Mathlib.Data.List.Perm.Subperm
import WorkloadNet.Dns.Watch

/-!
# Same members as permutations

Taking a value from a tally uses up one of its counts and leaves the others. A tally of a list therefore
covers another list when no value occurs more often in that one, and lists of equal length then are
permutations of each other. So it makes no difference which of two lists is asked about the other: a watch
that holds back a change would hold back the change in the other direction as well.
-/

namespace WorkloadNet.Dns

variable {α : Type} [DecidableEq α] {tally tally' : Tally α} {a b : List α} {x z : α}

namespace Tally

/-- How often a value may still occur. -/
def left (z : α) : Tally α → Nat
  | [] => 0
  | (y, n) :: rest => if y = z then n else left z rest

theorem left_add (tally : Tally α) (x z : α) :
    (tally.add x).left z = tally.left z + if x = z then 1 else 0 := by
  induction tally with
  | nil =>
    unfold add left
    split <;> simp [left]
  | cons entry rest ih =>
    obtain ⟨y, n⟩ := entry
    unfold add
    split
    · rename_i heq
      subst heq
      unfold left
      split <;> simp
    · rename_i hne
      unfold left
      split
      · rename_i heq
        rw [if_neg fun hx => hne (heq.trans hx.symm), Nat.add_zero]
      · exact ih

/-- A tally of a list counts how often each value occurs. -/
theorem left_ofList (l : List α) (z : α) : (ofList l).left z = l.count z := by
  have hfold : ∀ tally : Tally α,
      (l.foldl (fun tally x => tally.add x) tally).left z = tally.left z + l.count z := by
    induction l with
    | nil => exact fun tally => rfl
    | cons x rest ih =>
      intro tally
      rw [List.foldl_cons, ih, left_add, List.count_cons]
      simp only [beq_iff_eq]
      omega
  exact (hfold []).trans (Nat.zero_add _)

theorem take_eq_none (h : tally.take x = none) : tally.left x = 0 := by
  induction tally with
  | nil => rfl
  | cons entry rest ih =>
    obtain ⟨y, n⟩ := entry
    unfold take at h
    unfold left
    split at h
    · rename_i heq
      rw [if_pos heq]
      split at h
      · assumption
      · cases h
    · rename_i hne
      rw [if_neg hne]
      exact ih (Option.map_eq_none_iff.1 h)

/-- Taking a value from a tally leaves one less of it, and as many of every other. -/
theorem left_take (h : tally.take x = some tally') (z : α) :
    tally.left z = tally'.left z + if x = z then 1 else 0 := by
  induction tally generalizing tally' with
  | nil => cases h
  | cons entry rest ih =>
    obtain ⟨y, n⟩ := entry
    unfold take at h
    split at h
    · rename_i heq
      subst heq
      split at h
      · cases h
      · cases h
        unfold left
        split <;> omega
    · rename_i hne
      obtain ⟨rest', hrest, rfl⟩ := Option.map_eq_some_iff.1 h
      unfold left
      split
      · rename_i heq
        rw [if_neg fun hx => hne (heq.trans hx.symm), Nat.add_zero]
      · exact ih hrest

/-- A tally covers the lists that have no value more often than it. -/
theorem covers_iff {l : List α} : tally.covers l = true ↔ ∀ z, l.count z ≤ tally.left z := by
  induction l generalizing tally with
  | nil => simp [covers]
  | cons x rest ih =>
    unfold covers
    cases htake : tally.take x with
    | none =>
      have hleft := take_eq_none htake
      refine iff_of_false Bool.false_ne_true fun h => ?_
      have hcount := h x
      rw [List.count_cons_self, hleft] at hcount
      omega
    | some tally' =>
      have hleft := left_take htake
      rw [ih]
      refine forall_congr' fun z => ?_
      rw [hleft z, List.count_cons]
      simp only [beq_iff_eq]
      omega

end Tally

/-- Two lists have the same members exactly if each is a permutation of the other. -/
theorem sameMembers_iff_perm : sameMembers a b = true ↔ a.Perm b := by
  unfold sameMembers
  rw [Bool.and_eq_true, decide_eq_true_iff, Tally.covers_iff]
  simp only [Tally.left_ofList]
  constructor
  · rintro ⟨hlength, hcounts⟩
    have hsub : b.Subperm a := List.subperm_iff_count.2 hcounts
    exact (hsub.perm_of_length_le (Nat.le_of_eq hlength)).symm
  · intro hperm
    exact ⟨hperm.length_eq, fun z => Nat.le_of_eq (hperm.count_eq z).symm⟩

theorem sameMembers_comm (a b : List α) : sameMembers a b = sameMembers b a := by
  rw [Bool.eq_iff_iff, sameMembers_iff_perm, sameMembers_iff_perm, List.perm_comm]

/-- Lists with the same members are the permutations of each other, which is an equivalence; and a watch
holds back a new set of servers after an old one exactly when it would hold back the old one after the
new. -/
theorem same_members_permuted (α : Type) [DecidableEq α] :
    (∀ a b : List α, sameMembers a b = true ↔ b.Perm a) ∧
      Equivalence (fun a b : List α => sameMembers a b = true) ∧
      ∀ (base : String) (access : Bool) (names : List String) (old new : ServerSet),
        Watch.change? base old.endpoints (.touched access names new) = none ↔
          Watch.change? base new.endpoints (.touched access names old) = none := by
  refine ⟨fun a b => sameMembers_iff_perm.trans List.perm_comm, ⟨?_, ?_, ?_⟩, ?_⟩
  · intro a
    exact sameMembers_iff_perm.2 (.refl a)
  · intro a b h
    rw [sameMembers_comm, h]
  · intro a b d h h'
    exact sameMembers_iff_perm.2 ((sameMembers_iff_perm.1 h).trans (sameMembers_iff_perm.1 h'))
  · intro base access names old new
    unfold Watch.change? Watch.Report.reading?
    by_cases htold : (!access && names.contains base) = true
    · simp only [htold, if_true, Option.filter_eq_none_iff, Option.some.injEq, forall_eq',
        sameMembers_comm old.endpoints]
    · simp only [htold, Bool.false_eq_true, if_false, Option.filter_none]

end WorkloadNet.Dns
