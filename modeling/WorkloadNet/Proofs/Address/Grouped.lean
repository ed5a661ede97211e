import WorkloadNet.Proofs.Address.Dotted
import WorkloadNet.Proofs.Text.Hexadecimal

/-!
# Addresses in groups

An IPv6 address is read back from its text, whichever of the three forms that has: all groups, groups on both
sides of a double colon, or the form that shows an IPv4 address. So is a host of either family.
-/

namespace WorkloadNet.V6

open Address Text

variable {g room : Nat} {first : Bool} {groups front back : List Nat} {digits rest text : List Char}
  {a : V6}

/-! ## Where groups end -/

/-- A text that continues neither a group nor an IPv4 address. -/
def Broken (rest : List Char) : Prop := ∀ c ∈ rest.head?, hexDigit? c = none ∧ c ≠ '.'

/-- A text in front of which groups end: a colon in it is followed by no group. -/
def Closed (rest : List Char) : Prop := Broken rest ∧ ∀ more, rest = ':' :: more → Broken more

theorem broken_nil : Broken [] := nofun

theorem broken_colon (more : List Char) : Broken (':' :: more) := by
  simp [Broken, hexDigit?]

theorem closed_nil : Closed [] := ⟨broken_nil, nofun⟩

theorem closed_colons (more : List Char) : Closed (':' :: ':' :: more) := by
  refine ⟨broken_colon _, ?_⟩
  rintro _ ⟨⟩
  exact broken_colon more

/-- No IPv4 address begins with digits that no dot follows. -/
theorem readV4_eq_none (hdigits : Hexadecimal digits) (hrest : Broken rest) :
    V4.read (digits ++ rest) = none := by
  rw [Option.eq_none_iff_forall_ne_some]
  rintro ⟨b, after⟩ hread
  obtain ⟨htext, -⟩ := V4.read_eq_some_iff.1 hread
  rw [V4.toList_text, V4.dotted, List.append_assoc, List.cons_append, List.append_eq_append_iff] at htext
  obtain ⟨_ | ⟨c, more⟩, hdecimal, rfl⟩ | ⟨_ | ⟨c, more⟩, rfl, hdot⟩ := htext
  · exact (hrest '.' rfl).2 rfl
  · have hmem : c ∈ (decimal (b.toNat / 16777216)).toList := by simp [hdecimal]
    have hc := isDigit_eq_false_of_hexDigit? (hrest c rfl).1
    rw [isDigit_of_mem_decimal hmem] at hc
    cases hc
  · rw [List.nil_append] at hdot
    exact (hrest '.' (hdot ▸ rfl)).2 rfl
  · obtain ⟨rfl, -⟩ := List.cons.inj hdot
    exact absurd (hdigits '.' (by simp)) (by decide)

/-! ## Groups -/

theorem readGroup_hexadecimal (hg : g < 65536) (hrest : Broken rest) :
    readGroup ((hexadecimal g).toList ++ rest) = some (g, rest) := by
  obtain ⟨digits, hrun, hlength, hvalue⟩ := digitRun_hexadecimal g fun c hc => (hrest c hc).1
  have hne : digits ≠ [] := by
    rintro rfl
    exact hexadecimal_ne_nil g (List.length_eq_zero_iff.1 hlength.symm)
  have hshort : digits.length ≤ 4 := by
    rw [hlength, toList_hexadecimal, Nat.length_toDigits_le_iff (by omega) (by omega)]
    omega
  simp only [readGroup, hrun, hvalue]
  rw [if_neg (not_or.2 ⟨hne, by omega⟩)]

theorem readGroup_broken (h : Broken text) : readGroup text = none := by
  have hrun : digitRun hexDigit? text = ([], text) := by
    cases text with
    | nil => rfl
    | cons c text => simp [digitRun, (h c rfl).1]
  simp only [readGroup, hrun]
  rfl

theorem readGroups_group (hg : g < 65536) (hrest : Broken rest)
    (htext : afterSeparator first text = some ((hexadecimal g).toList ++ rest)) :
    readGroups first (room + 1) text = (g :: (readGroups false room rest).1, (readGroups false room rest).2) := by
  rw [readGroups, htext]
  simp only [Option.bind_some, readV4_eq_none (hexadecimal_hexadecimal g) hrest, ite_self,
    readGroup_hexadecimal hg hrest]

theorem readGroups_closed (first : Bool) (room : Nat) (h : Closed rest) :
    readGroups first room rest = ([], false, rest) := by
  have hnone : ∀ text, Broken text → V4.read text = none ∧ readGroup text = none := by
    intro text htext
    have hv4 : V4.read ([] ++ text) = none := readV4_eq_none nofun htext
    exact ⟨hv4, readGroup_broken htext⟩
  have hgroup : ∀ text, afterSeparator first rest = some text → Broken text := by
    intro text htext
    cases first with
    | true =>
      obtain rfl := Option.some.inj htext
      exact h.1
    | false => exact h.2 text (readChar_eq_some_iff.1 htext)
  cases room with
  | zero => rfl
  | succ room =>
    rw [readGroups]
    cases htext : afterSeparator first rest with
    | none => simp
    | some text =>
      obtain ⟨hv4, hread⟩ := hnone text (hgroup text htext)
      simp only [Option.bind_some, hv4, hread, ite_self]

/-- Groups, each behind a colon. -/
def behindColons (groups : List Nat) : List Char :=
  groups.flatMap fun g => ':' :: (hexadecimal g).toList

theorem toList_groupsText_cons (g : Nat) (groups : List Nat) :
    (groupsText (g :: groups)).toList = (hexadecimal g).toList ++ behindColons groups := by
  induction groups generalizing g with
  | nil => simp [groupsText, behindColons]
  | cons next groups ih =>
    have hnext := ih next
    unfold groupsText at hnext ⊢
    rw [List.map_cons, List.map_cons, String.intercalate_cons_cons, String.toList_append,
      String.toList_append, ← List.map_cons, hnext]
    simp [behindColons]

theorem broken_behindColons (h : Broken rest) : Broken (behindColons groups ++ rest) := by
  cases groups with
  | nil => exact h
  | cons g groups => exact broken_colon _

theorem readGroups_behindColons (hgroups : ∀ g ∈ groups, g < 65536) (hroom : groups.length ≤ room)
    (hrest : Closed rest) : readGroups false room (behindColons groups ++ rest) = (groups, false, rest) := by
  induction groups generalizing room with
  | nil => exact readGroups_closed false room hrest
  | cons g groups ih =>
    obtain ⟨hg, hmore⟩ := List.forall_mem_cons.1 hgroups
    rw [List.length_cons] at hroom
    obtain ⟨room, rfl⟩ := Nat.exists_eq_add_one_of_ne_zero (Nat.ne_of_gt (Nat.zero_lt_of_lt hroom))
    have htext : afterSeparator false (behindColons (g :: groups) ++ rest) =
        some ((hexadecimal g).toList ++ (behindColons groups ++ rest)) := by
      simp [behindColons, afterSeparator, readChar]
    rw [readGroups_group hg (broken_behindColons hrest.1) htext,
      ih hmore (Nat.le_of_succ_le_succ hroom)]

/-- Groups are read up to where they end. -/
theorem readGroups_groupsText (hgroups : ∀ g ∈ groups, g < 65536) (hroom : groups.length ≤ room)
    (hrest : Closed rest) :
    readGroups true room ((groupsText groups).toList ++ rest) = (groups, false, rest) := by
  cases groups with
  | nil => exact readGroups_closed true room hrest
  | cons g groups =>
    obtain ⟨hg, hmore⟩ := List.forall_mem_cons.1 hgroups
    rw [List.length_cons] at hroom
    obtain ⟨room, rfl⟩ := Nat.exists_eq_add_one_of_ne_zero (Nat.ne_of_gt (Nat.zero_lt_of_lt hroom))
    rw [toList_groupsText_cons, List.append_assoc,
      readGroups_group hg (broken_behindColons hrest.1) rfl,
      readGroups_behindColons hmore (Nat.le_of_succ_le_succ hroom) hrest]

/-! ## The groups of an address -/

theorem length_toList (a : V6) : a.toList.length = 8 := by simp [toList]

theorem lt_of_mem_toList (h : g ∈ a.toList) : g < 65536 := by
  obtain ⟨u, -, rfl⟩ := List.mem_map.1 h
  exact u.toNat_lt

theorem ofGroups_toList (a : V6) : ofGroups a.toList = a := by
  obtain ⟨groups⟩ := a
  simp only [ofGroups, toList, mk.injEq]
  refine Vector.ext fun i hi => ?_
  simp

theorem zeroRun_eq (groups : List Nat) :
    groups = List.replicate (zeroRun groups) 0 ++ groups.drop (zeroRun groups) := by
  induction groups with
  | nil => rfl
  | cons g groups ih =>
    by_cases hg : g = 0
    · subst hg
      have hrun : zeroRun (0 :: groups) = zeroRun groups + 1 := by simp [zeroRun]
      rw [hrun, List.replicate_succ, List.drop_succ_cons, List.cons_append, ← ih]
    · simp [zeroRun, hg]

/-- The longest run of zeros is a run of zeros. -/
theorem longestZeros_eq (start : Nat) (groups : List Nat) :
    ∃ before length, longestZeros start groups = (start + before, length) ∧
      groups = groups.take before ++ List.replicate length 0 ++ groups.drop (before + length) := by
  induction groups generalizing start with
  | nil => exact ⟨0, 0, rfl, rfl⟩
  | cons g groups ih =>
    obtain ⟨before, length, hlater, hgroups⟩ := ih (start + 1)
    simp only [longestZeros, hlater]
    split
    · refine ⟨0, zeroRun (g :: groups), rfl, ?_⟩
      rw [List.take_zero, List.nil_append, Nat.zero_add]
      exact zeroRun_eq (g :: groups)
    · refine ⟨before + 1, length, by rw [Nat.add_assoc, Nat.add_comm 1], ?_⟩
      rw [List.take_succ_cons, Nat.add_right_comm, List.drop_succ_cons, List.cons_append,
        List.cons_append, ← hgroups]

/-- The three forms that the text of an address can have. -/
theorem toList_text (a : V6) :
    a.text.toList = (groupsText a.toList).toList ∨
      (∃ front back zeros, 1 < zeros ∧ a.toList = front ++ List.replicate zeros 0 ++ back ∧
        a.text.toList = (groupsText front).toList ++ ':' :: ':' :: (groupsText back).toList) ∨
      ∃ high low, a.toList = [0, 0, 0, 0, 0, 65535, high, low] ∧
        a.text.toList = "::ffff:".toList ++ (V4.ofNat (high * 65536 + low)).text.toList := by
  unfold text
  dsimp only
  split
  · rename_i hembedded
    obtain ⟨high, low, htail⟩ : ∃ high low, a.toList.drop 6 = [high, low] :=
      List.length_eq_two.1 (by rw [List.length_drop, length_toList])
    have hgroups : a.toList = [0, 0, 0, 0, 0, 65535, high, low] := by
      rw [← List.take_append_drop 6 a.toList, hembedded, htail]
      rfl
    refine .inr (.inr ⟨high, low, hgroups, ?_⟩)
    rw [hgroups, String.toList_append]
    rfl
  · obtain ⟨before, zeros, hrun, hgroups⟩ := longestZeros_eq 0 a.toList
    rw [Nat.zero_add] at hrun
    rw [hrun]
    dsimp only
    split
    · rename_i hzeros
      refine .inr (.inl ⟨_, _, zeros, hzeros, hgroups, ?_⟩)
      rw [String.toList_append, String.toList_append, List.append_assoc]
      rfl
    · exact .inl rfl

/-- What stands in front of an IPv4 address. -/
theorem toList_mark : "::ffff:".toList = ':' :: ':' :: ((hexadecimal 65535).toList ++ [':']) := by
  have hmark : hexadecimal 65535 = "ffff" := by decide +kernel
  rw [hmark]
  decide

/-- An IPv4 address behind a colon takes the place of two groups. -/
theorem readGroups_embedded {b : V4} (h : Broken rest) :
    readGroups false (room + 2) (':' :: (b.text.toList ++ rest)) =
      ([b.toNat / 65536, b.toNat % 65536], true, rest) := by
  have hread : V4.read (b.text.toList ++ rest) = some (b, rest) :=
    V4.read_eq_some_iff.2 ⟨rfl, fun c hc => isDigit_eq_false_of_hexDigit? (h c hc).1⟩
  simp [readGroups, afterSeparator, readChar, hread]

/-- An address is read from its text that nothing continues. -/
theorem read_text (h : Closed rest) : read (a.text.toList ++ rest) = some (a, rest) := by
  have hlength := a.length_toList
  have hgroups : ∀ g ∈ a.toList, g < 65536 := fun g => lt_of_mem_toList
  have haddress := a.ofGroups_toList
  obtain htext | ⟨front, back, zeros, hzeros, hall, htext⟩ | ⟨high, low, hall, htext⟩ := toList_text a
  · rw [htext, read, readGroups_groupsText hgroups (Nat.le_of_eq hlength) h]
    simp only [hlength, if_true, haddress]
  · rw [hall] at hlength hgroups haddress
    simp only [List.length_append, List.length_replicate] at hlength
    have hfront : ∀ g ∈ front, g < 65536 := fun g hg => hgroups g (by simp [hg])
    have hback : ∀ g ∈ back, g < 65536 := fun g hg => hgroups g (by simp [hg])
    have hrest : 8 - front.length - back.length = zeros := by omega
    rw [htext, List.append_assoc, List.cons_append, List.cons_append, read,
      readGroups_groupsText hfront (by omega) (closed_colons _)]
    dsimp only
    rw [if_neg (by omega)]
    simp only [Bool.false_eq_true, if_false, readChar, if_true, Option.bind_eq_bind, Option.bind_some,
      readGroups_groupsText hback (show back.length ≤ 7 - front.length by omega) h, hrest, haddress]
    rfl
  · have hhigh : high < 65536 := hgroups high (by simp [hall])
    have hlow : low < 65536 := hgroups low (by simp [hall])
    have hembedded : (V4.ofNat (high * 65536 + low)).toNat = high * 65536 + low :=
      V4.toNat_ofNat (by unfold V4.count; omega)
    have hback : readGroups true 7 ((hexadecimal 65535).toList ++
        ':' :: ((V4.ofNat (high * 65536 + low)).text.toList ++ rest)) = ([65535, high, low], true, rest) := by
      have hparts : (high * 65536 + low) / 65536 = high ∧ (high * 65536 + low) % 65536 = low := by omega
      rw [readGroups_group (by omega) (broken_colon _) rfl, readGroups_embedded h.1, hembedded,
        hparts.1, hparts.2]
    have hprefix : "::ffff:".toList ++ (V4.ofNat (high * 65536 + low)).text.toList ++ rest =
        ':' :: ':' :: ((hexadecimal 65535).toList ++
          ':' :: ((V4.ofNat (high * 65536 + low)).text.toList ++ rest)) := by
      rw [toList_mark, List.append_assoc]
      simp only [List.cons_append, List.append_assoc, List.nil_append]
    rw [htext, hprefix, read, readGroups_closed true 8 (closed_colons _)]
    simp only [List.length_nil, Nat.zero_ne_add_one, Bool.false_eq_true, if_false, readChar, if_true,
      Option.bind_eq_bind, Option.bind_some, Nat.sub_zero, hback]
    rw [hall] at haddress
    rw [← haddress]
    rfl

/-! ## The characters of a text -/

theorem mem_groupsText {c : Char} (h : c ∈ (groupsText groups).toList) :
    (hexDigit? c).isSome = true ∨ c = ':' := by
  cases groups with
  | nil => simp [groupsText] at h
  | cons g groups =>
    rw [toList_groupsText_cons] at h
    obtain h | h := List.mem_append.1 h
    · exact .inl (hexadecimal_hexadecimal g c h)
    · obtain ⟨g, -, hg⟩ := List.mem_flatMap.1 h
      obtain rfl | hg := List.mem_cons.1 hg
      · exact .inr rfl
      · exact .inl (hexadecimal_hexadecimal g c hg)

theorem mem_text {c : Char} (h : c ∈ a.text.toList) :
    (hexDigit? c).isSome = true ∨ c = ':' ∨ c = '.' := by
  obtain htext | ⟨front, back, zeros, -, -, htext⟩ | ⟨high, low, -, htext⟩ := toList_text a
  · rw [htext] at h
    exact (mem_groupsText h).imp_right .inl
  · rw [htext] at h
    simp only [List.mem_append, List.mem_cons] at h
    obtain h | rfl | rfl | h := h
    · exact (mem_groupsText h).imp_right .inl
    · exact .inr (.inl rfl)
    · exact .inr (.inl rfl)
    · exact (mem_groupsText h).imp_right .inl
  · rw [htext, toList_mark] at h
    simp only [List.cons_append, List.mem_append, List.mem_cons, List.not_mem_nil, or_false] at h
    obtain rfl | rfl | (h | rfl) | h := h
    · exact .inr (.inl rfl)
    · exact .inr (.inl rfl)
    · exact .inl (hexadecimal_hexadecimal 65535 c h)
    · exact .inr (.inl rfl)
    · exact (V4.isDigit_or_eq_dot h).imp hexDigit?_of_isDigit .inr

/-- A colon is what ends the first run of digits in a text. -/
theorem exists_digits_colon (a : V6) :
    ∃ digits rest, a.text.toList = digits ++ ':' :: rest ∧ Hexadecimal digits := by
  have hgroups : ∀ groups more, ∃ digits rest,
      (groupsText groups).toList ++ ':' :: more = digits ++ ':' :: rest ∧ Hexadecimal digits := by
    intro groups more
    cases groups with
    | nil => exact ⟨[], more, by simp [groupsText], nofun⟩
    | cons g groups =>
      refine ⟨(hexadecimal g).toList, ?_⟩
      rw [toList_groupsText_cons, List.append_assoc]
      cases groups with
      | nil => exact ⟨more, rfl, hexadecimal_hexadecimal g⟩
      | cons next groups => exact ⟨_, rfl, hexadecimal_hexadecimal g⟩
  obtain htext | ⟨front, back, zeros, -, -, htext⟩ | ⟨high, low, -, htext⟩ := toList_text a
  · have hlength := a.length_toList
    match hall : a.toList, hlength with
    | g :: next :: groups, _ =>
      have hsplit : (groupsText (g :: next :: groups)).toList =
          (groupsText [g]).toList ++ ':' :: ((hexadecimal next).toList ++ behindColons groups) := by
        simp [toList_groupsText_cons, behindColons]
      rw [htext, hall, hsplit]
      exact hgroups [g] _
  · rw [htext]
    exact hgroups front _
  · rw [htext, toList_mark, List.cons_append]
    exact ⟨[], _, rfl, nofun⟩

/-- The text of an address is one word. -/
theorem word_text (a : V6) : Word a.text.toList := by
  obtain ⟨digits, rest, htext, -⟩ := exists_digits_colon a
  refine ⟨by simp [htext], fun c hc => ?_⟩
  obtain hdigit | rfl | rfl := mem_text hc
  · exact not_isBlank_of_hexDigit? hdigit
  · decide
  · decide

end WorkloadNet.V6

namespace WorkloadNet.Host

open Text

/-- A host is read back from its text. -/
theorem ofText?_text (host : Host) : ofText? host.text = some host := by
  cases host with
  | v4 a => exact ofText?_eq_v4_iff.2 (V4.ofText?_text a)
  | v6 a =>
    obtain ⟨digits, rest, htext, hdigits⟩ := V6.exists_digits_colon a
    have hv4 : V4.read a.text.toList = none := by
      rw [htext]
      exact V6.readV4_eq_none hdigits (V6.broken_colon rest)
    have hread : V6.read a.text.toList = some (a, []) := by
      rw [← List.append_nil a.text.toList]
      exact V6.read_text V6.closed_nil
    simp only [ofText?, text, read, hv4, hread, Option.map_some]

theorem text_injective {host host' : Host} (h : host.text = host'.text) : host = host' := by
  rw [← Option.some_inj, ← ofText?_text, h, ofText?_text]

theorem word_text (host : Host) : Word host.text.toList := by
  cases host with
  | v4 a => exact a.word_text
  | v6 a => exact a.word_text

end WorkloadNet.Host
