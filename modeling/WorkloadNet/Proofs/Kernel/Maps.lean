import Std.Data.ExtTreeMap

/-!
# Laws of finite maps

Namespaces, links and tables are kept in finite maps that are equal when they look up the same. The
laws here say how a change of one key meets another change of the same key or of a different one.
-/

namespace WorkloadNet.Maps

variable {κ β : Type} [Ord κ] [Std.TransOrd κ] [Std.LawfulEqOrd κ]
variable {m : Std.ExtTreeMap κ β} {key other : κ} {v w : β} {f g : β → β}

theorem getElem?_modify_of_ne (h : key ≠ other) : (m.modify key f)[other]? = m[other]? := by
  rw [Std.ExtTreeMap.getElem?_modify, if_neg]
  exact fun heq => h (Std.LawfulEqOrd.eq_of_compare heq)

theorem getElem?_insert_of_ne (h : key ≠ other) : (m.insert key v)[other]? = m[other]? := by
  rw [Std.ExtTreeMap.getElem?_insert, if_neg]
  exact fun heq => h (Std.LawfulEqOrd.eq_of_compare heq)

theorem getElem?_erase_of_ne (h : key ≠ other) : (m.erase key)[other]? = m[other]? := by
  rw [Std.ExtTreeMap.getElem?_erase, if_neg]
  exact fun heq => h (Std.LawfulEqOrd.eq_of_compare heq)

theorem modify_eq_self (h : ∀ v, m[key]? = some v → f v = v) : m.modify key f = m := by
  apply Std.ExtTreeMap.ext_getElem?
  intro other
  by_cases heq : key = other
  · subst heq
    rw [Std.ExtTreeMap.getElem?_modify_self]
    cases hv : m[key]? with
    | none => rfl
    | some v => rw [Option.map_some, h v hv]
  · exact getElem?_modify_of_ne heq

theorem modify_of_not_mem (h : key ∉ m) : m.modify key f = m := by
  refine modify_eq_self fun v hv => ?_
  rw [Std.ExtTreeMap.getElem?_eq_none h] at hv
  cases hv

theorem modify_modify : (m.modify key f).modify key g = m.modify key (g ∘ f) := by
  apply Std.ExtTreeMap.ext_getElem?
  intro other
  by_cases heq : key = other
  · subst heq
    simp
  · simp only [getElem?_modify_of_ne heq]

theorem modify_comm (h : key ≠ other) :
    (m.modify key f).modify other g = (m.modify other g).modify key f := by
  apply Std.ExtTreeMap.ext_getElem?
  intro a
  grind

theorem modify_insert_self : (m.insert key v).modify key f = m.insert key (f v) := by
  apply Std.ExtTreeMap.ext_getElem?
  intro a
  grind

theorem erase_modify_of_ne (h : key ≠ other) :
    (m.modify key f).erase other = (m.erase other).modify key f := by
  apply Std.ExtTreeMap.ext_getElem?
  intro a
  grind

theorem erase_insert_self (h : key ∉ m) : (m.insert key v).erase key = m := by
  apply Std.ExtTreeMap.ext_getElem?
  intro a
  grind

theorem insertIfNew_of_mem (h : key ∈ m) : m.insertIfNew key v = m := by
  apply Std.ExtTreeMap.ext_getElem?
  intro a
  grind

theorem insertIfNew_of_not_mem (h : key ∉ m) : m.insertIfNew key v = m.insert key v := by
  apply Std.ExtTreeMap.ext_getElem?
  intro a
  grind

/-- A change of values leaves the keys and their order. -/
theorem keys_modify : (m.modify key f).keys = m.keys := by
  have hmap : (m.modify key f).map (fun _ _ => ()) = m.map fun _ _ => () := by
    apply Std.ExtTreeMap.ext_getElem?
    intro a
    rw [Std.ExtTreeMap.getElem?_map, Std.ExtTreeMap.getElem?_map, Std.ExtTreeMap.getElem?_modify]
    split
    · rename_i h
      obtain rfl := Std.LawfulEqOrd.eq_of_compare h
      cases m[key]? <;> rfl
    · rfl
  have hkeys := congrArg Std.ExtTreeMap.keys hmap
  rwa [Std.ExtTreeMap.keys_map, Std.ExtTreeMap.keys_map] at hkeys

/-- A key above all others comes last. -/
theorem keys_insert_of_lt (h : ∀ k ∈ m, compare k key = .lt) :
    (m.insert key v).keys = m.keys ++ [key] := by
  have hlt : ∀ k ∈ m.keys, compare k key = .lt := fun k hk => h k (Std.ExtTreeMap.mem_keys.1 hk)
  have hsorted : (m.keys ++ [key]).Pairwise fun a b => compare a b = .lt := by
    rw [List.pairwise_append]
    refine ⟨Std.ExtTreeMap.ordered_keys, List.pairwise_singleton _ _, fun a ha b hb => ?_⟩
    rw [List.mem_singleton.1 hb]
    exact hlt a ha
  have hnodup : (m.keys ++ [key]).Nodup := by
    refine hsorted.imp fun {a b} hab heq => ?_
    rw [heq, Std.ReflOrd.compare_self] at hab
    cases hab
  refine List.Perm.eq_of_pairwise ?_ Std.ExtTreeMap.ordered_keys hsorted ?_
  · intro a b _ _ hab hba
    rw [Std.OrientedCmp.gt_of_lt hab] at hba
    cases hba
  · rw [List.perm_ext_iff_of_nodup Std.ExtTreeMap.nodup_keys hnodup]
    intro a
    rw [Std.ExtTreeMap.mem_keys, Std.ExtTreeMap.mem_insert, List.mem_append, List.mem_singleton,
      Std.ExtTreeMap.mem_keys, Std.LawfulEqOrd.compare_eq_iff_eq]
    rw [or_comm, @eq_comm _ key]

theorem mem_values_iff : v ∈ m.values ↔ ∃ key : κ, m[key]? = some v := by
  have hvalues : m.values = m.foldr (fun _ v vs => v :: vs) [] := rfl
  have hfold : ∀ pairs : List (κ × β),
      pairs.foldr (fun pair vs => pair.2 :: vs) [] = pairs.map Prod.snd := by
    intro pairs
    induction pairs with
    | nil => rfl
    | cons pair rest ih => rw [List.foldr_cons, ih, List.map_cons]
  rw [hvalues, Std.ExtTreeMap.foldr_eq_foldr_toList, hfold, List.mem_map]
  constructor
  · rintro ⟨⟨key, w⟩, hmem, rfl⟩
    exact ⟨key, Std.ExtTreeMap.mem_toList_iff_getElem?_eq_some.1 hmem⟩
  · rintro ⟨key, hkey⟩
    exact ⟨(key, v), Std.ExtTreeMap.mem_toList_iff_getElem?_eq_some.2 hkey, rfl⟩

end WorkloadNet.Maps
