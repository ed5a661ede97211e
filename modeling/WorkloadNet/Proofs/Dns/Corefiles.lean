import Mathlib.Data.List.Basic
import WorkloadNet.Dns.Corefile
import WorkloadNet.Proofs.Address.Grouped
import WorkloadNet.Proofs.Text.Fields

/-!
# What a corefile says

A corefile has a header with zone and port, four lines inside and one that closes the block. Zone and path
stand in it as they are. Without line feeds in them the file has these six lines and zone, port, host and path
are read back from it. A line feed makes a line more, and then the file may be that of other settings too,
with a zone that reaches into the path of the first.
-/

namespace WorkloadNet.Dns

open Text

variable {s t : ForwarderSettings} {e f : Endpoint} {path path' : List Char}

/-! ## Blocks -/

/-- What a corefile says. -/
structure Block where
  /-- The zone. -/
  zone : String
  /-- The port. -/
  port : Nat
  /-- The host that the server is bound to. -/
  host : Host
  /-- The path of the resolver file. -/
  resolvConf : String
  deriving DecidableEq

/-- What the corefile for settings is to say. -/
def ForwarderSettings.block (s : ForwarderSettings) (e : Endpoint) : Block where
  zone := s.zone
  port := e.port
  host := e.host
  resolvConf := s.resolvConf

/-- Reads a zone and a port off a header. -/
def headerOf? (line : List Char) : Option (String × Nat) :=
  match line.reverse with
  | '\x7b' :: ' ' :: rest =>
    match rest.dropWhile (· ≠ ':') with
    | _ :: zone => (decimal? (rest.takeWhile (· ≠ ':')).reverse).map (String.ofList zone.reverse, ·)
    | [] => none
  | _ => none

/-- Reads a corefile, line by line: the header, four directives and the end. -/
def blockOf? (text : String) : Option Block :=
  match text.toList.splitOnP (· = '\n') with
  | [header, bind, forward, log, errors, closing, []] => do
    let (zone, port) ← headerOf? header
    let host ← Host.ofText? (String.ofList (← "    bind ".toList.isPrefixOf? bind))
    let path ← "    forward . ".toList.isPrefixOf? forward
    if log = "    log".toList ∧ errors = "    errors".toList ∧ closing = ['\x7d'] then
      some ⟨zone, port, host, String.ofList path⟩
    else none
  | _ => none

/-! ## The text -/

/-- What stands between zone and path, but for the colon in front. -/
def between (e : Endpoint) : List Char :=
  (decimal e.port).toList ++ " \x7b\n    bind ".toList ++ e.host.text.toList ++ "\n    forward . ".toList

/-- What stands after the path. -/
def ending : List Char := "\n    log\n    errors\n\x7d\n".toList

/-- A corefile up to the end of the path. -/
def upToPath (s : ForwarderSettings) (e : Endpoint) : List Char :=
  s.zone.toList ++ ':' :: (between e ++ s.resolvConf.toList)

theorem toList_forward : "\n    forward . ".toList = '\n' :: "    forward . ".toList := by decide

theorem toList_corefileOf (s : ForwarderSettings) (e : Endpoint) :
    (corefileOf s e).toList = upToPath s e ++ ending := by
  have hcolon : ":".toList = [':'] := rfl
  have hbind : " \x7b\n".toList ++ "    bind ".toList = " \x7b\n    bind ".toList := by decide
  have hforward : "\n".toList ++ "    forward . ".toList = "\n    forward . ".toList := by decide
  have hending : "\n".toList ++ ("    log\n".toList ++ ("    errors\n".toList ++ "\x7d\n".toList)) =
      ending := by decide
  rw [corefileOf, upToPath, between, ← hending, ← hbind, ← hforward]
  simp only [String.toList_append, hcolon, List.append_assoc, List.cons_append, List.nil_append]

theorem corefile_of_check (h : s.check = .ok e) : corefile s = .ok (corefileOf s e) := by
  rw [corefile, h]
  rfl

theorem not_isBlank_of_mem_decimal {n : Nat} {c : Char} (h : c ∈ (decimal n).toList) :
    isBlank c = false :=
  not_isBlank_of_hexDigit? (hexDigit?_of_isDigit (isDigit_of_mem_decimal h))

theorem lineFeed_not_mem_decimal (n : Nat) : '\n' ∉ (decimal n).toList := by
  intro h
  exact absurd (not_isBlank_of_mem_decimal h) (by decide)

theorem lineFeed_not_mem_host (host : Host) : '\n' ∉ host.text.toList := by
  intro h
  exact absurd (host.word_text.2 _ h) (by decide)

/-- A line for the header, four directives and the end, and a line more for each line feed. -/
theorem count_lineFeed_corefileOf (s : ForwarderSettings) (e : Endpoint) :
    (corefileOf s e).toList.count '\n' =
      6 + s.zone.toList.count '\n' + s.resolvConf.toList.count '\n' := by
  have hport := List.count_eq_zero.2 (lineFeed_not_mem_decimal e.port)
  have hhost := List.count_eq_zero.2 (lineFeed_not_mem_host e.host)
  have hbind : " \x7b\n    bind ".toList.count '\n' = 1 := by decide
  have hforward : "\n    forward . ".toList.count '\n' = 1 := by decide
  have hending : ending.count '\n' = 4 := by decide
  have hcolon : (':' == '\n') = false := by decide
  rw [toList_corefileOf, upToPath, between]
  simp only [List.count_append, List.count_cons, hport, hhost, hbind, hforward, hending, hcolon]
  simp only [Bool.false_eq_true, if_false]
  omega

/-! ## Reading back -/

theorem headerOf?_header (zone : String) (port : Nat) :
    headerOf? (zone.toList ++ ':' :: ((decimal port).toList ++ [' ', '\x7b'])) = some (zone, port) := by
  have hdigits : ∀ c ∈ (decimal port).toList.reverse, decide (c ≠ ':') = true := by
    intro c hc
    have hdigit := isDigit_of_mem_decimal (List.mem_reverse.1 hc)
    refine decide_eq_true ?_
    rintro rfl
    cases hdigit
  have hreverse : (zone.toList ++ ':' :: ((decimal port).toList ++ [' ', '\x7b'])).reverse =
      '\x7b' :: ' ' :: ((decimal port).toList.reverse ++ ':' :: zone.toList.reverse) := by simp
  simp only [headerOf?, hreverse]
  rw [List.takeWhile_append_of_pos hdigits, List.dropWhile_append_of_pos hdigits]
  simp [decimal?_decimal]

theorem splitOnP_line_append {line : List Char} (h : '\n' ∉ line) (rest : List Char) :
    (line ++ '\n' :: rest).splitOnP (· = '\n') = line :: rest.splitOnP (· = '\n') := by
  have hline : line.splitOnP (· = '\n') = [line] := by
    refine List.splitOnP_eq_singleton fun c hc => decide_eq_false ?_
    rintro rfl
    exact h hc
  rw [List.splitOnP_append_cons _ _ (by decide), hline, List.singleton_append]

/-- Without line feeds in zone and path these are the lines. -/
theorem splitOnP_corefileOf (e : Endpoint) (hzone : '\n' ∉ s.zone.toList)
    (hpath : '\n' ∉ s.resolvConf.toList) :
    (corefileOf s e).toList.splitOnP (· = '\n') =
      [s.zone.toList ++ ':' :: ((decimal e.port).toList ++ [' ', '\x7b']),
        "    bind ".toList ++ e.host.text.toList, "    forward . ".toList ++ s.resolvConf.toList,
        "    log".toList, "    errors".toList, ['\x7d'], []] := by
  have hheader : '\n' ∉ s.zone.toList ++ ':' :: ((decimal e.port).toList ++ [' ', '\x7b']) := by
    simp [hzone, lineFeed_not_mem_decimal]
  have hbind : '\n' ∉ "    bind ".toList ++ e.host.text.toList := by
    simp [lineFeed_not_mem_host]
  have hforward : '\n' ∉ "    forward . ".toList ++ s.resolvConf.toList := by
    simp [hpath]
  have hlines : (corefileOf s e).toList =
      (s.zone.toList ++ ':' :: ((decimal e.port).toList ++ [' ', '\x7b'])) ++ '\n' ::
        (("    bind ".toList ++ e.host.text.toList) ++ '\n' ::
          (("    forward . ".toList ++ s.resolvConf.toList) ++ '\n' ::
            "    log\n    errors\n\x7d\n".toList)) := by
    have hopen : " \x7b\n    bind ".toList = [' ', '\x7b'] ++ '\n' :: "    bind ".toList := by decide
    have hending : ending = '\n' :: "    log\n    errors\n\x7d\n".toList := by decide
    rw [toList_corefileOf, upToPath, between, hopen, toList_forward, hending]
    simp only [List.append_assoc, List.cons_append]
  have hlast : "    log\n    errors\n\x7d\n".toList.splitOnP (· = '\n') =
      ["    log".toList, "    errors".toList, ['\x7d'], []] := by decide
  rw [hlines, splitOnP_line_append hheader, splitOnP_line_append hbind, splitOnP_line_append hforward, hlast]

theorem isPrefixOf?_append (front rest : List Char) : front.isPrefixOf? (front ++ rest) = some rest := by
  induction front with
  | nil => rfl
  | cons c front ih => simp [List.isPrefixOf?, ih]

/-- A text is read only if it has six lines. -/
theorem blockOf?_eq_none {text : String} (h : text.toList.count '\n' ≠ 6) : blockOf? text = none := by
  unfold blockOf?
  split
  · rename_i hlines
    have hlength := length_splitOnP (· = '\n') text.toList
    rw [hlines] at hlength
    have hcount : text.toList.countP (· = '\n') = text.toList.count '\n' := by
      unfold List.count
      congr 1
    simp only [List.length_cons, List.length_nil, hcount] at hlength
    omega
  · rfl

/-- A corefile is read back exactly when neither zone nor path has a line feed. -/
theorem blockOf?_corefileOf (s : ForwarderSettings) (e : Endpoint) :
    blockOf? (corefileOf s e) =
      if '\n' ∈ s.zone.toList ∨ '\n' ∈ s.resolvConf.toList then none else some (s.block e) := by
  split
  · rename_i hfeed
    have hmore : 0 < s.zone.toList.count '\n' ∨ 0 < s.resolvConf.toList.count '\n' :=
      hfeed.imp List.count_pos_iff.2 List.count_pos_iff.2
    have hcount := count_lineFeed_corefileOf s e
    exact blockOf?_eq_none (by omega)
  · rename_i hplain
    obtain ⟨hzone, hpath⟩ := not_or.1 hplain
    simp only [blockOf?, splitOnP_corefileOf e hzone hpath, headerOf?_header, isPrefixOf?_append,
      Option.bind_eq_bind, Option.bind_some, String.ofList_toList, Host.ofText?_text]
    simp
    rfl

/-! ## Files of several settings -/

/-- The zone of `t` is the file of `s` up to some place in the path, and the path of `s` goes on from there as
the file of `t` does behind its zone. -/
def Nested (s : ForwarderSettings) (e : Endpoint) (t : ForwarderSettings) (f : Endpoint) : Prop :=
  ∃ middle, t.zone.toList = s.zone.toList ++ ':' :: (between e ++ middle) ∧
    s.resolvConf.toList = middle ++ ':' :: (between f ++ t.resolvConf.toList)

theorem between_append (e : Endpoint) (path : List Char) :
    between e ++ path = (decimal e.port).toList ++ ' ' :: ("\x7b\n    bind ".toList ++
      (e.host.text.toList ++ '\n' :: ("    forward . ".toList ++ path))) := by
  have hbind : " \x7b\n    bind ".toList = ' ' :: "\x7b\n    bind ".toList := by decide
  rw [between, hbind, toList_forward]
  simp only [List.append_assoc, List.cons_append]

theorem between_append_inj (h : between e ++ path = between f ++ path') :
    e.port = f.port ∧ e.host = f.host ∧ path = path' := by
  rw [between_append, between_append] at h
  -- The port ends at the first blank, and so does the host after it.
  obtain ⟨hport, -, hafter⟩ := append_cons_inj_of_first (fun _ => not_isBlank_of_mem_decimal)
    (fun _ => not_isBlank_of_mem_decimal) (by decide) (by decide) h
  obtain ⟨hhost, -, hpath⟩ := append_cons_inj_of_first e.host.word_text.2 f.host.word_text.2
    (by decide) (by decide) (List.append_cancel_left hafter)
  have hdecimal := congrArg decimal? hport
  rw [decimal?_decimal, decimal?_decimal] at hdecimal
  exact ⟨Option.some.inj hdecimal, Host.text_injective (String.toList_inj.1 hhost),
    List.append_cancel_left hpath⟩

/-- A separator that is not in front stands in the rest. -/
theorem exists_of_not_mem_front {c : Char} {front rest before after : List Char} (hfront : c ∉ front)
    (h : front ++ rest = before ++ c :: after) : ∃ middle, rest = middle ++ c :: after := by
  obtain ⟨middle, -, hrest⟩ | ⟨_ | ⟨d, extra⟩, rfl, hover⟩ := List.append_eq_append_iff.1 h
  · exact ⟨middle, hrest⟩
  · exact ⟨[], hover.symm⟩
  · obtain ⟨rfl, -⟩ := List.cons.inj hover
    exact absurd (by simp) hfront

/-- A separator that is not at the back stands in front of it. -/
theorem exists_of_not_mem_back {c : Char} {middle back before after : List Char} (hback : c ∉ back)
    (h : middle ++ back = before ++ c :: after) :
    ∃ part, middle = before ++ c :: part ∧ after = part ++ back := by
  obtain ⟨extra, -, rfl⟩ | ⟨_ | ⟨d, part⟩, rfl, hover⟩ := List.append_eq_append_iff.1 h
  · exact absurd (by simp) hback
  · rw [List.nil_append] at hover
    exact absurd (hover ▸ List.mem_cons_self) hback
  · obtain ⟨rfl, hafter⟩ := List.cons.inj hover
    exact ⟨part, rfl, hafter⟩

/-- A colon in this text belongs to the host. -/
theorem between_eq_append_colon {front back : List Char} (h : between e = front ++ ':' :: back) :
    ∃ part, (∀ c ∈ part, isBlank c = false) ∧ back = part ++ "\n    forward . ".toList := by
  have hfront : ':' ∉ (decimal e.port).toList ++ " \x7b\n    bind ".toList := by
    intro hmem
    obtain hmem | hmem := List.mem_append.1 hmem
    · exact absurd (isDigit_of_mem_decimal hmem) (by decide)
    · exact absurd hmem (by decide)
  have hback : ':' ∉ "\n    forward . ".toList := by decide
  rw [between, List.append_assoc] at h
  obtain ⟨before, hafter⟩ := exists_of_not_mem_front hfront h
  obtain ⟨part, hhost, rfl⟩ := exists_of_not_mem_back hback hafter
  refine ⟨part, fun c hc => e.host.word_text.2 c ?_, rfl⟩
  simp [hhost, hc]

theorem between_append_ne {front back : List Char} (h : between e = front ++ ':' :: back) :
    between f ++ path ≠ back ++ path' := by
  intro heq
  obtain ⟨part, hpart, rfl⟩ := between_eq_append_colon h
  rw [between_append, toList_forward, List.append_assoc, List.cons_append] at heq
  -- The first blank is that after the port on one side and the end of the line of the host on the other.
  obtain ⟨-, hblank, -⟩ := append_cons_inj_of_first (fun _ => not_isBlank_of_mem_decimal) hpart
    (by decide) (by decide) heq
  cases hblank

theorem corefileOf_eq_iff_upToPath : corefileOf s e = corefileOf t f ↔ upToPath s e = upToPath t f := by
  rw [← String.toList_inj, toList_corefileOf, toList_corefileOf, List.append_left_inj]

theorem block_eq_of_zone_eq (hzone : t.zone.toList = s.zone.toList)
    (h : between e ++ s.resolvConf.toList = between f ++ t.resolvConf.toList) : t.block f = s.block e := by
  obtain ⟨hport, hhost, hpath⟩ := between_append_inj h
  simp only [ForwarderSettings.block, String.toList_inj.1 hzone, hport, hhost, String.toList_inj.1 hpath]

/-- A longer zone holds the block of the other settings. -/
theorem nested_of_append {more : List Char} (hzone : t.zone.toList = s.zone.toList ++ ':' :: more)
    (h : between e ++ s.resolvConf.toList = more ++ ':' :: (between f ++ t.resolvConf.toList)) :
    Nested s e t f := by
  -- The longer zone ends in the path, right in front of it, or in port and host, which cannot be.
  obtain ⟨middle, rfl, hpath⟩ | ⟨_ | ⟨c, extra⟩, hbetween, hover⟩ := List.append_eq_append_iff.1 h
  · exact ⟨middle, hzone, hpath⟩
  · refine ⟨[], ?_, hover.symm⟩
    rw [hzone, hbetween]
    simp
  · obtain ⟨rfl, hsame⟩ := List.cons.inj hover
    exact absurd hsame (between_append_ne hbetween)

theorem upToPath_eq_of_nested (h : Nested s e t f) : upToPath s e = upToPath t f := by
  obtain ⟨middle, hzone, hpath⟩ := h
  rw [upToPath, upToPath, hzone, hpath]
  simp only [List.append_assoc, List.cons_append]

/-- Two settings have the same file when it is to say the same, or when one file continues in the other. -/
theorem corefileOf_eq_iff :
    corefileOf s e = corefileOf t f ↔ t.block f = s.block e ∨ Nested s e t f ∨ Nested t f s e := by
  rw [corefileOf_eq_iff_upToPath]
  constructor
  · intro h
    -- One zone begins the other, and what it has more begins with the colon behind the shorter one.
    obtain ⟨_ | ⟨c, more⟩, hzone, hrest⟩ | ⟨_ | ⟨c, more⟩, hzone, hrest⟩ := List.append_eq_append_iff.1 h
    · rw [List.append_nil] at hzone
      exact .inl (block_eq_of_zone_eq hzone (List.cons.inj hrest).2)
    · obtain ⟨rfl, hmore⟩ := List.cons.inj hrest
      exact .inr (.inl (nested_of_append hzone hmore))
    · rw [List.append_nil] at hzone
      exact .inl (block_eq_of_zone_eq hzone.symm (List.cons.inj hrest).2.symm)
    · obtain ⟨rfl, hmore⟩ := List.cons.inj hrest
      exact .inr (.inr (nested_of_append hzone hmore))
  · rintro (h | h | h)
    · obtain ⟨hzone, hport, hhost, hpath⟩ := Block.mk.inj h
      simp only [upToPath, between, hzone, hport, hhost, hpath]
    · exact upToPath_eq_of_nested h
    · exact (upToPath_eq_of_nested h).symm

/-- Settings that do have a corefile with a line for the header, four directives and the end, and with a line
more for each line feed in zone and path. Zone, port, host and path are read back from it exactly when there
are none. It is also the corefile of all settings with the same zone, port, host and path, whichever scope
their endpoints have, and of those with which they are nested, but of no others. -/
theorem corefile_reads_back (h : s.check = .ok e) :
    ∃ text, corefile s = .ok text ∧
      text.toList.count '\n' = 6 + s.zone.toList.count '\n' + s.resolvConf.toList.count '\n' ∧
      blockOf? text =
        (if '\n' ∈ s.zone.toList ∨ '\n' ∈ s.resolvConf.toList then none else some (s.block e)) ∧
      ∀ t f, t.check = .ok f →
        (corefile t = .ok text ↔ t.block f = s.block e ∨ Nested s e t f ∨ Nested t f s e) := by
  refine ⟨corefileOf s e, corefile_of_check h, count_lineFeed_corefileOf s e, blockOf?_corefileOf s e, ?_⟩
  intro t f ht
  rw [corefile_of_check ht, Except.ok.injEq, eq_comm]
  exact corefileOf_eq_iff

/-- Settings for all names with the given path. -/
def rootSettings (path : String) : ForwarderSettings where
  address := "10.0.0.1"
  resolvConf := path

/-- Settings for a zone of three lines, the middle one of which binds the host of `rootSettings`. -/
def widerSettings : ForwarderSettings where
  address := "10.0.0.2"
  zone := ".:53 \x7b\n    bind 10.0.0.1\n    forward . x"

/-- A path of three lines, the middle one of which binds the host of `widerSettings`. -/
def widerPath : String := "x:53 \x7b\n    bind 10.0.0.2\n    forward . /etc/resolv.conf"

theorem check_rootSettings (path : String) :
    (rootSettings path).check = .ok ⟨.v4 (V4.ofOctets 10 0 0 1), 0, 53⟩ := by
  have hlisten : (rootSettings path).listen = .ok ⟨.v4 (V4.ofOctets 10 0 0 1), 0, 53⟩ := by
    have hnonempty : trimmed "10.0.0.1" ≠ "" := by decide +kernel
    have hhost : ForwarderSettings.endpointOf? (trimmed "10.0.0.1") =
        some ⟨.v4 (V4.ofOctets 10 0 0 1), 0, 53⟩ := by decide +kernel
    simp only [ForwarderSettings.listen, rootSettings, hnonempty, hhost, if_false]
  rw [ForwarderSettings.check, hlisten]
  rfl

theorem check_widerSettings : widerSettings.check = .ok ⟨.v4 (V4.ofOctets 10 0 0 2), 0, 53⟩ := by
  decide +kernel

theorem nested_widerSettings :
    Nested (rootSettings widerPath) ⟨.v4 (V4.ofOctets 10 0 0 1), 0, 53⟩ widerSettings
      ⟨.v4 (V4.ofOctets 10 0 0 2), 0, 53⟩ :=
  ⟨['x'], by decide +kernel, by decide +kernel⟩

theorem corefile_reads_back_demo :
    (∃ text, corefile (rootSettings "/etc/resolv.conf") = .ok text ∧
      blockOf? text = some ⟨".", 53, .v4 (V4.ofOctets 10 0 0 1), "/etc/resolv.conf"⟩) ∧
    ∃ text, corefile (rootSettings widerPath) = .ok text ∧ corefile widerSettings = .ok text ∧
      blockOf? text = none := by
  obtain ⟨plain, hplain, -, hread, -⟩ := corefile_reads_back (check_rootSettings "/etc/resolv.conf")
  obtain ⟨text, htext, -, hnone, hsame⟩ := corefile_reads_back (check_rootSettings widerPath)
  refine ⟨⟨plain, hplain, ?_⟩, text, htext, ?_, ?_⟩
  · rw [hread]
    decide +kernel
  · exact (hsame _ _ check_widerSettings).2 (.inr (.inl nested_widerSettings))
  · rw [hnone]
    decide +kernel

/-- Listeners on two links have the same corefile, which names neither link, and settings that differ in
zone, address and path have the same corefile of eight lines. -/
theorem corefiles_collide :
    (∃ s t e f text, s.check = .ok e ∧ t.check = .ok f ∧ e ≠ f ∧ corefile s = .ok text ∧
      corefile t = .ok text) ∧
    ∃ s t e f text, s.check = .ok e ∧ t.check = .ok f ∧ s.zone ≠ t.zone ∧ e ≠ f ∧
      s.resolvConf ≠ t.resolvConf ∧ corefile s = .ok text ∧ corefile t = .ok text ∧
      text.toList.count '\n' = 8 := by
  constructor
  · have hfirst : { address := "[fe80::1%3]:53" : ForwarderSettings }.check =
        .ok ⟨.v6 (V6.ofGroups [0xfe80, 0, 0, 0, 0, 0, 0, 1]), 3, 53⟩ := by decide +kernel
    have hsecond : { address := "[fe80::1%4]:53" : ForwarderSettings }.check =
        .ok ⟨.v6 (V6.ofGroups [0xfe80, 0, 0, 0, 0, 0, 0, 1]), 4, 53⟩ := by decide +kernel
    refine ⟨_, _, _, _, _, hfirst, hsecond, by decide, corefile_of_check hfirst, ?_⟩
    rw [corefile_of_check hsecond]
    exact congrArg Except.ok (corefileOf_eq_iff.2 (.inl rfl))
  · have hroot := check_rootSettings widerPath
    refine ⟨_, _, _, _, _, hroot, check_widerSettings, by decide, by decide, by decide,
      corefile_of_check hroot, ?_, ?_⟩
    · rw [corefile_of_check check_widerSettings]
      exact congrArg Except.ok (corefileOf_eq_iff.2 (.inr (.inr nested_widerSettings)))
    · rw [count_lineFeed_corefileOf]
      decide +kernel

end WorkloadNet.Dns
