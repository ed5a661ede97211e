import WorkloadNet.Dhcp.Document
import WorkloadNet.Proofs.Address.Dotted

/-!
# Arguments of a lease engine

The arguments of a directive are joined by spaces, and the lease engine takes them apart again at blanks.
Addresses and durations are words and come through. The path of the lease file comes through exactly when
it is a word. The duration of a lease is given in whole seconds, so a part of a second is lost on the way.
-/

namespace WorkloadNet.Dhcp

open Text

variable {s : LeaseSettings} {low high router : V4}

/-! ## Taking arguments apart -/

namespace Directive

/-- The arguments that a lease engine takes from the text of a directive: its fields. -/
def heard (d : Directive) : List String := (blankFields d.joined.toList).map String.ofList

/-- Arguments that are words are heard as they are. -/
theorem heard_eq_arguments {d : Directive} (h : ∀ argument ∈ d.arguments, Word argument.toList) :
    d.heard = d.arguments := by
  rw [heard, joined, blankFields_intercalate h, List.map_map]
  exact List.map_id'' (fun _ => String.ofList_toList) d.arguments

/-- What is heard of a first argument that is followed by words. -/
theorem heard_cons {name first second : String} {more : List String}
    (h : ∀ argument ∈ second :: more, Word argument.toList) :
    heard ⟨name, first :: second :: more⟩ =
      (blankFields first.toList).map String.ofList ++ second :: more := by
  have hjoined : (joined ⟨name, first :: second :: more⟩).toList =
      first.toList ++ ' ' :: (joined ⟨name, second :: more⟩).toList := by
    simp [joined, String.intercalate_cons_cons]
  rw [heard, hjoined, blankFields_append_cons (by decide), List.map_append]
  congr 1
  exact heard_eq_arguments h

end Directive

/-! ## Reading arguments -/

/-- Reads a duration in whole seconds, as nanoseconds. -/
def duration? (text : String) : Option Nat :=
  match text.toList.getLast? with
  | some 's' => (decimal? text.toList.dropLast).map (· * nanosPerSecond)
  | _ => none

/-- Reads one address. -/
def address? : List String → Option V4
  | [address] => V4.ofText? address
  | _ => none

/-- Reads a lease file, the ends of a range and a duration. -/
def leases? : List String → Option (String × V4 × V4 × Nat)
  | [file, first, last, duration] => do
    return (file, ← V4.ofText? first, ← V4.ofText? last, ← duration? duration)
  | _ => none

/-- What a lease engine is to do. -/
structure Orders where
  /-- The address that the server is known by. -/
  server : V4
  /-- The file that keeps the leases. -/
  leaseFile : String
  /-- The first address handed out. -/
  first : V4
  /-- The last address handed out. -/
  last : V4
  /-- For how long an address is handed out, in nanoseconds. -/
  leaseNanos : Nat
  /-- The router that clients are told of. -/
  router : V4
  /-- The name servers that clients are told of. -/
  dns : List V4
  deriving DecidableEq

namespace Orders

variable (taken : Directive → List String)

/-- The arguments that are taken from the first directive of a name. -/
def argumentsOf (name : String) (directives : List Directive) : Option (List String) :=
  (directives.find? (·.name = name)).map taken

/-- The orders that directives give to an engine that takes these arguments from each. -/
def of? (directives : List Directive) : Option Orders := do
  let server ← (argumentsOf taken "server_id" directives).bind address?
  let (leaseFile, first, last, leaseNanos) ← (argumentsOf taken "range" directives).bind leases?
  let router ← (argumentsOf taken "router" directives).bind address?
  let dns ← ((argumentsOf taken "dns" directives).getD []).mapM V4.ofText?
  return { server, leaseFile, first, last, leaseNanos, router, dns }

end Orders

namespace LeaseSettings

/-- The orders that settings stand for. -/
def orders (s : LeaseSettings) (low high router : V4) : Orders where
  server := router
  leaseFile := s.leaseFile
  first := low
  last := high
  leaseNanos := s.leaseNanos
  router := router
  dns := s.dns

/-- The duration of a lease without its part of a second. -/
def wholeNanos (s : LeaseSettings) : Nat := s.leaseNanos / nanosPerSecond * nanosPerSecond

end LeaseSettings

/-! ## Durations -/

theorem toList_durationText (nanos : Nat) :
    (LeaseSettings.durationText nanos).toList = (decimal (nanos / nanosPerSecond)).toList ++ ['s'] := by
  rw [LeaseSettings.durationText, String.toList_append]
  rfl

theorem word_durationText (nanos : Nat) : Word (LeaseSettings.durationText nanos).toList := by
  rw [toList_durationText]
  refine ⟨by simp, fun c hc => ?_⟩
  obtain hdigit | hunit := List.mem_append.1 hc
  · exact not_isBlank_of_isDigit (isDigit_of_mem_decimal hdigit)
  · rw [List.mem_singleton.1 hunit]
    decide

/-- A duration is read without its part of a second. -/
theorem duration?_durationText (nanos : Nat) :
    duration? (LeaseSettings.durationText nanos) = some (nanos / nanosPerSecond * nanosPerSecond) := by
  rw [duration?, toList_durationText, List.getLast?_concat, List.dropLast_concat]
  simp only [decimal?_decimal, Option.map_some]

namespace LeaseSettings

theorem wholeNanos_eq_iff : s.wholeNanos = s.leaseNanos ↔ nanosPerSecond ∣ s.leaseNanos :=
  ⟨fun h => ⟨s.leaseNanos / nanosPerSecond, by rw [Nat.mul_comm]; exact h.symm⟩, Nat.div_mul_cancel⟩

theorem wholeNanos_pos_iff : 0 < s.wholeNanos ↔ nanosPerSecond ≤ s.leaseNanos := by
  unfold wholeNanos nanosPerSecond
  omega

/-! ## Directives -/

/-- The ends of a range are IPv4 addresses. -/
theorem exists_v4_of_isRange {subnet : Cidr} {first last : Host} (h : subnet.isRange first last = true) :
    ∃ low high, first = .v4 low ∧ last = .v4 high := by
  unfold Cidr.isRange at h
  split at h
  · exact ⟨_, _, rfl, rfl⟩
  · nomatch h

theorem needed_eq_ok {first last : Host} {subnet : Cidr}
    (h : s.needed = .ok (first, last, router, subnet)) :
    s.range = some (first, last) ∧ s.router = some router := by
  unfold needed at h
  split at h
  · nomatch h
  · rename_i hrange hrouter _
    cases h
    exact ⟨hrange, hrouter⟩
  · nomatch h

theorem check_eq_ok {first last : Host} (h : s.check = .ok (first, last, router)) :
    (∃ low high, first = .v4 low ∧ last = .v4 high) ∧ s.range = some (first, last) ∧
      s.router = some router ∧ 0 < s.leaseNanos := by
  unfold check at h
  split at h
  · nomatch h
  · rename_i hneeded
    split at h
    · nomatch h
    · rename_i hrange
      split at h
      · nomatch h
      · rename_i htime
        cases h
        obtain ⟨hends, hrouter⟩ := needed_eq_ok hneeded
        exact ⟨exists_v4_of_isRange (by simpa using hrange), hends, hrouter, Nat.pos_of_ne_zero htime⟩

/-- The directive that names the lease file. -/
def rangeDirective (s : LeaseSettings) (low high : V4) : Directive :=
  ⟨"range", [s.leaseFile, low.text, high.text, durationText s.leaseNanos]⟩

theorem mem_directivesOf {d : Directive} (h : d ∈ s.directivesOf (.v4 low) (.v4 high) router) :
    d = s.rangeDirective low high ∨
      d.name ≠ "range" ∧ ∀ argument ∈ d.arguments, Word argument.toList := by
  simp only [directivesOf, List.mem_append, List.mem_cons, List.not_mem_nil, or_false] at h
  obtain (rfl | rfl | rfl) | hdns := h
  · exact .inr ⟨by simp, by simpa using router.word_text⟩
  · exact .inl rfl
  · exact .inr ⟨by simp, by simpa using router.word_text⟩
  · split at hdns
    · nomatch hdns
    · rw [List.mem_singleton.1 hdns]
      refine .inr ⟨by simp, fun argument hargument => ?_⟩
      obtain ⟨server, -, rfl⟩ := List.mem_map.1 hargument
      exact server.word_text

/-- Of the path of the lease file its fields are heard, of everything else the text as it is. -/
theorem heard_rangeDirective :
    (s.rangeDirective low high).heard =
      (blankFields s.leaseFile.toList).map String.ofList ++
        [low.text, high.text, durationText s.leaseNanos] := by
  refine Directive.heard_cons fun argument hargument => ?_
  simp only [List.mem_cons, List.not_mem_nil, or_false] at hargument
  obtain rfl | rfl | rfl := hargument
  · exact low.word_text
  · exact high.word_text
  · exact word_durationText s.leaseNanos

theorem map_ofList_eq_iff {text : String} :
    (blankFields text.toList).map String.ofList = [text] ↔ Word text.toList := by
  rw [← blankFields_eq_singleton_iff]
  constructor
  · intro h
    have hlists := congrArg (List.map String.toList) h
    simpa [List.map_map, Function.comp_def] using hlists
  · intro h
    rw [h, List.map_singleton, String.ofList_toList]

/-- The directive for the range is heard as it is exactly if the path is a word. -/
theorem heard_rangeDirective_eq_iff :
    (s.rangeDirective low high).heard = (s.rangeDirective low high).arguments ↔
      Word s.leaseFile.toList := by
  have harguments : (s.rangeDirective low high).arguments =
      [s.leaseFile] ++ [low.text, high.text, durationText s.leaseNanos] := rfl
  rw [heard_rangeDirective, harguments, List.append_left_inj, map_ofList_eq_iff]

/-- Only the directive that names the lease file can be heard with other arguments than its own. -/
theorem heard_eq_iff_of_mem {d : Directive}
    (h : d ∈ s.directivesOf (.v4 low) (.v4 high) router) :
    d.heard = d.arguments ↔ (d.name = "range" → Word s.leaseFile.toList) := by
  obtain rfl | ⟨hname, hwords⟩ := mem_directivesOf h
  · rw [heard_rangeDirective_eq_iff]
    exact ⟨fun hword _ => hword, fun hword => hword rfl⟩
  · exact ⟨fun _ hrange => absurd hrange hname, fun _ => Directive.heard_eq_arguments hwords⟩

end LeaseSettings

/-! ## Orders -/

theorem mapM_ofText?_text (addresses : List V4) :
    (addresses.map V4.text).mapM V4.ofText? = some addresses := by
  induction addresses with
  | nil => rfl
  | cons a more ih => simp [List.mapM_cons, V4.ofText?_text, ih]

theorem leases?_arguments :
    leases? (s.rangeDirective low high).arguments = some (s.leaseFile, low, high, s.wholeNanos) := by
  simp [leases?, LeaseSettings.rangeDirective, V4.ofText?_text, duration?_durationText,
    LeaseSettings.wholeNanos]

theorem leases?_eq_some {arguments : List String} {file : String} {first last : V4} {nanos : Nat}
    (h : leases? arguments = some (file, first, last, nanos)) :
    arguments.length = 4 ∧ arguments.head? = some file := by
  unfold leases? at h
  split at h
  · obtain ⟨_, -, h⟩ := Option.bind_eq_some_iff.1 h
    obtain ⟨_, -, h⟩ := Option.bind_eq_some_iff.1 h
    obtain ⟨_, -, h⟩ := Option.bind_eq_some_iff.1 h
    cases h
    exact ⟨rfl, rfl⟩
  · nomatch h

/-- The range is read as meant exactly if the path is a word and the lease has whole seconds. -/
theorem leases?_heard_eq_some_iff :
    leases? (s.rangeDirective low high).heard = some (s.leaseFile, low, high, s.leaseNanos) ↔
      Word s.leaseFile.toList ∧ nanosPerSecond ∣ s.leaseNanos := by
  constructor
  · intro h
    obtain ⟨hlength, hfile⟩ := leases?_eq_some h
    have hword : Word s.leaseFile.toList := by
      rw [LeaseSettings.heard_rangeDirective] at hlength hfile
      obtain ⟨only, honly⟩ : ∃ only, blankFields s.leaseFile.toList = [only] :=
        List.length_eq_one_iff.1 (by simpa using hlength)
      rw [honly] at hfile
      rw [← LeaseSettings.map_ofList_eq_iff, honly, List.map_singleton, ← Option.some.inj hfile]
    rw [LeaseSettings.heard_rangeDirective_eq_iff.2 hword, leases?_arguments] at h
    simp only [Option.some.injEq, Prod.mk.injEq, true_and] at h
    exact ⟨hword, LeaseSettings.wholeNanos_eq_iff.1 h⟩
  · rintro ⟨hword, hwhole⟩
    rw [LeaseSettings.heard_rangeDirective_eq_iff.2 hword, leases?_arguments,
      LeaseSettings.wholeNanos_eq_iff.2 hwhole]

namespace Orders

/-- The orders that the directives for settings give to an engine that takes all arguments as they are,
those of the range apart. -/
theorem of?_directivesOf {taken : Directive → List String}
    (h : ∀ d ∈ s.directivesOf (.v4 low) (.v4 high) router, d.name ≠ "range" → taken d = d.arguments) :
    of? taken (s.directivesOf (.v4 low) (.v4 high) router) =
      (leases? (taken (s.rangeDirective low high))).map fun (file, first, last, nanos) =>
        ⟨router, file, first, last, nanos, router, s.dns⟩ := by
  have hserver : argumentsOf taken "server_id" (s.directivesOf (.v4 low) (.v4 high) router) =
      some (taken ⟨"server_id", [router.text]⟩) := by
    simp [argumentsOf, LeaseSettings.directivesOf]
  have hrange : argumentsOf taken "range" (s.directivesOf (.v4 low) (.v4 high) router) =
      some (taken (s.rangeDirective low high)) := by
    simp [argumentsOf, LeaseSettings.directivesOf, LeaseSettings.rangeDirective, Host.text]
  have hrouter : argumentsOf taken "router" (s.directivesOf (.v4 low) (.v4 high) router) =
      some (taken ⟨"router", [router.text]⟩) := by
    simp [argumentsOf, LeaseSettings.directivesOf]
  have hdns : (argumentsOf taken "dns" (s.directivesOf (.v4 low) (.v4 high) router)).getD [] =
      s.dns.map V4.text := by
    cases hempty : s.dns.isEmpty with
    | true => simp [argumentsOf, LeaseSettings.directivesOf, List.isEmpty_iff.1 hempty]
    | false =>
      have htaken : taken ⟨"dns", s.dns.map V4.text⟩ = s.dns.map V4.text :=
        h _ (by simp [LeaseSettings.directivesOf, hempty]) (by simp)
      simp [argumentsOf, LeaseSettings.directivesOf, hempty, htaken]
  rw [of?, hserver, hrange, hrouter, hdns, mapM_ofText?_text]
  rw [h ⟨"server_id", [router.text]⟩ (by simp [LeaseSettings.directivesOf]) (by simp),
    h ⟨"router", [router.text]⟩ (by simp [LeaseSettings.directivesOf]) (by simp)]
  simp only [Option.bind_some, address?, V4.ofText?_text, Option.bind_eq_bind]
  cases leases? (taken (s.rangeDirective low high)) <;> rfl

/-- With their own arguments, the directives give the orders but for the part of a second. -/
theorem of?_arguments :
    of? Directive.arguments (s.directivesOf (.v4 low) (.v4 high) router) =
      some { s.orders low high router with leaseNanos := s.wholeNanos } := by
  rw [of?_directivesOf fun _ _ _ => rfl, leases?_arguments]
  rfl

/-- As they are heard, they give the orders exactly if nothing is lost on the way. -/
theorem of?_heard_eq_some_iff :
    of? Directive.heard (s.directivesOf (.v4 low) (.v4 high) router) =
        some (s.orders low high router) ↔
      Word s.leaseFile.toList ∧ nanosPerSecond ∣ s.leaseNanos := by
  have hheard : ∀ d ∈ s.directivesOf (.v4 low) (.v4 high) router, d.name ≠ "range" →
      d.heard = d.arguments := fun d hd hname =>
    (LeaseSettings.heard_eq_iff_of_mem hd).2 fun hrange => absurd hrange hname
  rw [of?_directivesOf hheard, ← leases?_heard_eq_some_iff, Option.map_eq_some_iff]
  constructor
  · rintro ⟨⟨file, first, last, nanos⟩, hleases, horders⟩
    cases horders
    exact hleases
  · intro hleases
    exact ⟨_, hleases, rfl⟩

end Orders

/-- What a lease engine receives of settings that do. Directives are heard with their own arguments, but for
the range when the path of the lease file is not a word. Arguments that are heard say what was set, but for
the part of a second in the duration of a lease. So the engine receives what was set exactly when the path
is a word and the duration a whole number of seconds; below a second it receives no duration at all. -/
theorem orders_received {first last : Host} (h : s.check = .ok (first, last, router)) :
    ∃ low high directives, s.range = some (.v4 low, .v4 high) ∧ s.router = some router ∧
      0 < s.leaseNanos ∧ s.directives = .ok directives ∧
      document s = .ok (documentOf directives) ∧
      (∀ d ∈ directives, d.heard = d.arguments ↔ (d.name = "range" → Word s.leaseFile.toList)) ∧
      Orders.of? Directive.arguments directives =
        some { s.orders low high router with leaseNanos := s.wholeNanos } ∧
      (0 < s.wholeNanos ↔ nanosPerSecond ≤ s.leaseNanos) ∧
      (Orders.of? Directive.heard directives = some (s.orders low high router) ↔
        Word s.leaseFile.toList ∧ nanosPerSecond ∣ s.leaseNanos) := by
  obtain ⟨⟨low, high, rfl, rfl⟩, hrange, hrouter, htime⟩ := LeaseSettings.check_eq_ok h
  have hdirectives : s.directives = .ok (s.directivesOf (.v4 low) (.v4 high) router) := by
    rw [LeaseSettings.directives, h]
  have hdocument : document s = .ok (documentOf (s.directivesOf (.v4 low) (.v4 high) router)) := by
    rw [document, hdirectives]
    rfl
  exact ⟨low, high, _, hrange, hrouter, htime, hdirectives, hdocument,
    fun _ => LeaseSettings.heard_eq_iff_of_mem, Orders.of?_arguments,
    LeaseSettings.wholeNanos_pos_iff, Orders.of?_heard_eq_some_iff⟩

/-- Settings of a small subnet. -/
def smallSettings : LeaseSettings where
  range := some (.v4 (V4.ofOctets 10 10 0 10), .v4 (V4.ofOctets 10 10 0 100))
  dns := [V4.ofOctets 10 10 0 1, V4.ofOctets 1 1 1 1]
  router := some (V4.ofOctets 10 10 0 1)
  subnet := Cidr.ofLength? (V4.ofOctets 10 10 0 0) 24

theorem orders_received_small :
    smallSettings.check = .ok (.v4 (V4.ofOctets 10 10 0 10), .v4 (V4.ofOctets 10 10 0 100),
        V4.ofOctets 10 10 0 1) ∧
      ∃ directives, smallSettings.directives = .ok directives ∧
        Orders.of? Directive.heard directives = some (smallSettings.orders (V4.ofOctets 10 10 0 10)
          (V4.ofOctets 10 10 0 100) (V4.ofOctets 10 10 0 1)) := by
  have hcheck : smallSettings.check = .ok (.v4 (V4.ofOctets 10 10 0 10),
      .v4 (V4.ofOctets 10 10 0 100), V4.ofOctets 10 10 0 1) := by decide +kernel
  obtain ⟨low, high, directives, hrange, -, -, hdirectives, -, -, -, -, hreceived⟩ :=
    orders_received hcheck
  cases hrange
  exact ⟨hcheck, directives, hdirectives, hreceived.2 (by decide +kernel)⟩

/-- Settings that do and that are not what the engine receives: half a second becomes no time, and a path
with a space in it becomes two arguments. -/
theorem orders_lost :
    (∃ directives, { smallSettings with leaseNanos := 500000000 }.directives = .ok directives ∧
      (Orders.of? Directive.heard directives).map Orders.leaseNanos = some 0) ∧
    ∃ directives, { smallSettings with leaseFile := "/tmp/my leases" }.directives = .ok directives ∧
      (∃ d ∈ directives, d.heard ≠ d.arguments) ∧ Orders.of? Directive.heard directives = none := by
  exact ⟨⟨_, rfl, by decide +kernel⟩, ⟨_, rfl, by decide +kernel, by decide +kernel⟩⟩

end WorkloadNet.Dhcp
