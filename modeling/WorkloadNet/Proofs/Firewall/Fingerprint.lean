import WorkloadNet.Network.Settings
import WorkloadNet.Firewall.Rule
import WorkloadNet.Proofs.Text.Fields

/-!
# When fingerprints differ

A fingerprint is the text of a rule, and rules are only told apart by it. The texts of two outbound
rules of networks differ unless network and host interface are the same, and none is the text of a
rule for return traffic. Both rest on the limit on the length of interface names: the text between
the two names starts with a sign that it does not repeat, so it cannot overlap itself, and return
rules are longer than what two names can make up for. In rules for return traffic the text between
the names starts and ends with a blank, so it can overlap itself; they differ as long as no host
interface has a blank in its name.
-/

namespace WorkloadNet.Firewall

/-! ## Lengths -/

theorem length_le_utf8ByteSize (s : String) : s.length ≤ s.utf8ByteSize := by
  have hlist : ∀ cs : List Char, cs.length ≤ (String.ofList cs).utf8ByteSize := by
    intro cs
    induction cs with
    | nil => exact Nat.zero_le _
    | cons c rest ih =>
      have hsplit : String.ofList (c :: rest) = String.ofList [c] ++ String.ofList rest :=
        (String.ofList_append : String.ofList ([c] ++ rest) = _)
      have hc : (String.ofList [c]).utf8ByteSize = c.utf8Size := String.utf8ByteSize_singleton
      have hpos := c.utf8Size_pos
      rw [hsplit, String.utf8ByteSize_append, hc, List.length_cons]
      omega
  have h := hlist s.toList
  rwa [String.ofList_toList, String.length_toList] at h

theorem length_of_isLinkName {name : String} (h : isLinkName name) : name.length ≤ maxLinkName := by
  have hsize : name.utf8ByteSize ≤ maxLinkName := by
    unfold isLinkName at h
    simp only [Bool.and_eq_true, decide_eq_true_eq] at h
    exact h.2
  exact Nat.le_trans (length_le_utf8ByteSize name) hsize

/-- The suffix of the host end leaves ten characters for the name of a network. -/
theorem length_network {network : String} (h : isLinkName (hostLinkName network)) :
    network.length ≤ 10 := by
  have hlength := length_of_isLinkName h
  rw [hostLinkName, String.length_append] at hlength
  have hsuffix : "-host".length = 5 := by decide
  have hmax : maxLinkName = 15 := rfl
  omega

/-! ## Separators -/

/-- A separator whose first sign is not repeated in it splits a text in one way only, as long as the
parts before it differ in length by less than the separator. -/
theorem append_separator_inj {first : Char} {rest x y x' y' : List Char} (hfirst : first ∉ rest)
    (hle : x.length ≤ x'.length) (hlt : x'.length < x.length + (rest.length + 1))
    (h : x ++ first :: rest ++ y = x' ++ first :: rest ++ y') : x = x' ∧ y = y' := by
  by_cases hlength : x.length = x'.length
  · rw [List.append_assoc, List.append_assoc] at h
    obtain ⟨hx, hy⟩ := List.append_inj h hlength
    exact ⟨hx, List.append_cancel_left hy⟩
  · -- At the end of the longer part stands the first sign, and on the other side a later one.
    exfalso
    obtain ⟨d, hd⟩ : ∃ d, x'.length = x.length + (d + 1) := ⟨x'.length - x.length - 1, by omega⟩
    have hright : (x' ++ first :: rest ++ y')[x'.length]? = some first := by
      rw [List.append_assoc, List.getElem?_append_right (Nat.le_refl _), Nat.sub_self]
      rfl
    have hleft : (x ++ first :: rest ++ y)[x'.length]? = rest[d]? := by
      rw [List.append_assoc, List.getElem?_append_right hle, hd, Nat.add_sub_cancel_left,
        List.cons_append, List.getElem?_cons_succ, List.getElem?_append_left (by omega)]
    rw [h, hright] at hleft
    exact hfirst (List.mem_of_getElem? hleft.symm)

/-- What stands before the first blank of a text. -/
theorem append_blank_inj {x y x' y' : List Char} (hx : ' ' ∉ x) (hx' : ' ' ∉ x')
    (h : x ++ ' ' :: y = x' ++ ' ' :: y') : x = x' := by
  have hplain : ∀ {x : List Char}, ' ' ∉ x → ∀ c ∈ x, (c == ' ') = false := by
    intro x hx c hc
    refine beq_eq_false_iff_ne.2 ?_
    rintro rfl
    exact hx hc
  exact (Text.append_cons_inj_of_first (hplain hx) (hplain hx') rfl rfl h).1

/-! ## Outbound rules -/

variable {network network' hostIf hostIf' chain table chain' table' : String}

theorem toList_fingerprint_outbound :
    (Rule.outbound chain table hostIf (hostLinkName network)).fingerprint.toList =
      "guestnet: iifname ".toList ++ (network.toList ++ "-host oifname ".toList ++
        (hostIf.toList ++ " accept".toList)) := by
  simp [Rule.fingerprint, Rule.text, Rule.outbound, Match.text, Verdict.text, hostLinkName,
    String.toList_append, String.join]

theorem toList_fingerprint_returnTraffic :
    (Rule.returnTraffic chain table hostIf (hostLinkName network)).fingerprint.toList =
      "guestnet: iifname ".toList ++ (hostIf.toList ++ (" oifname ".toList ++
        (network.toList ++ "-host ct state established,related accept".toList))) := by
  simp [Rule.fingerprint, Rule.text, Rule.returnTraffic, Match.text, Verdict.text, ConnState.text,
    hostLinkName, String.toList_append, String.join]

/-- Outbound rules of different networks, or for different host interfaces, differ in their texts. -/
theorem fingerprint_outbound_inj (hnetwork : isLinkName (hostLinkName network))
    (hnetwork' : isLinkName (hostLinkName network'))
    (h : (Rule.outbound chain table hostIf (hostLinkName network)).fingerprint =
      (Rule.outbound chain' table' hostIf' (hostLinkName network')).fingerprint) :
    network = network' ∧ hostIf = hostIf' := by
  have htext := congrArg String.toList h
  rw [toList_fingerprint_outbound, toList_fingerprint_outbound] at htext
  have hparts := List.append_cancel_left htext
  have hfirst : '-' ∉ "host oifname ".toList := by decide
  have hseparator : "host oifname ".toList.length = 13 := by decide
  have hlength := length_network hnetwork
  have hlength' := length_network hnetwork'
  rw [← String.length_toList] at hlength hlength'
  -- The separator is longer than the names can differ, whichever of them is the longer one.
  have hnames : network.toList = network'.toList ∧
      hostIf.toList ++ " accept".toList = hostIf'.toList ++ " accept".toList := by
    rcases Nat.le_total network.toList.length network'.toList.length with hle | hle
    · exact append_separator_inj hfirst hle (by omega) hparts
    · obtain ⟨hx, hy⟩ := append_separator_inj hfirst hle (by omega) hparts.symm
      exact ⟨hx.symm, hy.symm⟩
  exact ⟨String.toList_inj.1 hnames.1, String.toList_inj.1 (List.append_cancel_right hnames.2)⟩

/-- No outbound rule has the text of a rule for return traffic. -/
theorem fingerprint_outbound_ne_returnTraffic (hnetwork : isLinkName (hostLinkName network))
    (hhostIf : isLinkName hostIf) :
    (Rule.outbound chain table hostIf (hostLinkName network)).fingerprint ≠
      (Rule.returnTraffic chain' table' hostIf' (hostLinkName network')).fingerprint := by
  intro h
  have htext := congrArg (fun fingerprint => fingerprint.toList.length) h
  have hlength := length_network hnetwork
  have hlength' := length_of_isLinkName hhostIf
  rw [← String.length_toList] at hlength hlength'
  have hmax : maxLinkName = 15 := rfl
  have hstart : "guestnet: iifname ".toList.length = 18 := by decide
  have hmiddle : "-host oifname ".toList.length = 14 := by decide
  have haccept : " accept".toList.length = 7 := by decide
  have hto : " oifname ".toList.length = 9 := by decide
  have hstates : "-host ct state established,related accept".toList.length = 41 := by decide
  simp only [toList_fingerprint_outbound, toList_fingerprint_returnTraffic, List.length_append]
    at htext
  omega

/-! ## Rules for return traffic -/

/-- Rules for return traffic tell two host interfaces apart: they are the same, or neither has a blank
in its name. -/
def Separated (hostIf hostIf' : String) : Prop :=
  hostIf = hostIf' ∨ ' ' ∉ hostIf.toList ∧ ' ' ∉ hostIf'.toList

/-- Rules for return traffic of different networks, or for different host interfaces, differ in their
texts, as long as the host interfaces can be told apart. -/
theorem fingerprint_returnTraffic_inj (hseparated : Separated hostIf hostIf')
    (h : (Rule.returnTraffic chain table hostIf (hostLinkName network)).fingerprint =
      (Rule.returnTraffic chain' table' hostIf' (hostLinkName network')).fingerprint) :
    network = network' ∧ hostIf = hostIf' := by
  have htext := congrArg String.toList h
  rw [toList_fingerprint_returnTraffic, toList_fingerprint_returnTraffic] at htext
  have hparts := List.append_cancel_left htext
  have hhostIf : hostIf = hostIf' := by
    rcases hseparated with heq | ⟨hblank, hblank'⟩
    · exact heq
    · have hto : " oifname ".toList = ' ' :: "oifname ".toList := by decide
      rw [hto] at hparts
      exact String.toList_inj.1 (append_blank_inj hblank hblank' hparts)
  rw [hhostIf] at hparts
  have hnetwork := List.append_cancel_right
    (List.append_cancel_left (List.append_cancel_left hparts))
  exact ⟨String.toList_inj.1 hnetwork, hhostIf⟩

/-- Rules for return traffic of one network differ in their texts for different host interfaces. -/
theorem fingerprint_returnTraffic_inj_hostIf
    (h : (Rule.returnTraffic chain table hostIf (hostLinkName network)).fingerprint =
      (Rule.returnTraffic chain' table' hostIf' (hostLinkName network)).fingerprint) :
    hostIf = hostIf' := by
  have htext := congrArg String.toList h
  rw [toList_fingerprint_returnTraffic, toList_fingerprint_returnTraffic] at htext
  exact String.toList_inj.1 (List.append_cancel_right (List.append_cancel_left htext))

/-! ## Masquerading rules -/

theorem toList_fingerprint_masquerade :
    (Rule.masquerade chain table hostIf).fingerprint.toList =
      "guestnet: oifname ".toList ++ (hostIf.toList ++ " masquerade".toList) := by
  simp [Rule.fingerprint, Rule.text, Rule.masquerade, Match.text, Verdict.text,
    String.toList_append, String.join]

/-- Masquerading rules for different host interfaces differ in their texts. -/
theorem fingerprint_masquerade_inj
    (h : (Rule.masquerade chain table hostIf).fingerprint =
      (Rule.masquerade chain' table' hostIf').fingerprint) : hostIf = hostIf' := by
  have htext := congrArg String.toList h
  rw [toList_fingerprint_masquerade, toList_fingerprint_masquerade] at htext
  exact String.toList_inj.1 (List.append_cancel_right (List.append_cancel_left htext))

end WorkloadNet.Firewall
