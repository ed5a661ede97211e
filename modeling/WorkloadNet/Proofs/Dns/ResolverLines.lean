import WorkloadNet.Dns.ResolverFile
import WorkloadNet.Proofs.Address.Dotted
import WorkloadNet.Proofs.Text.Fields

/-!
# What the lines of a resolver file say

Each line of a resolver file stands for itself: the servers of two texts with a line feed between them are
those of the first and then those of the second.

`Written` says how a resolver file is written that names given addresses: it is made of lines, each of which
names one address or none. Every text is such a file, and the servers that are read from it are the addresses
that it names, in order.
-/

namespace WorkloadNet.Dns

open Text

variable {body comment gap indent line rest text word : List Char} {address? : Option V4}
variable {addresses : List V4}

/-! ## Lines -/

/-- The server that the fields of a line name. -/
def serverOfFields : List (List Char) → Option Endpoint
  | word :: address :: _ =>
    if word = "nameserver".toList then
      (V4.ofChars? address).map fun address => .ofV4 address serverPort
    else none
  | _ => none

theorem serverOfLine_eq (line : List Char) :
    serverOfLine line = serverOfFields (blankFields (withoutComment line)) := rfl

/-- A carriage return at the end of a line makes no difference. -/
theorem serverOfLine_return (line : List Char) : serverOfLine (line ++ ['\r']) = serverOfLine line := by
  rw [serverOfLine_eq, serverOfLine_eq, withoutComment, List.takeWhile_append]
  split
  · rename_i hwhole
    have hline : line.takeWhile (fun c => c ≠ '#' && c ≠ ';') = line :=
      (List.takeWhile_sublist _).eq_of_length hwhole
    have hreturn : ['\r'].takeWhile (fun c => c ≠ '#' && c ≠ ';') = ['\r'] := by decide
    rw [withoutComment, hline, hreturn, blankFields_append_cons (by decide), blankFields_nil,
      List.append_nil]
  · rfl

theorem serverOfLine_withoutReturn (line : List Char) :
    serverOfLine (withoutReturn line) = serverOfLine line := by
  unfold withoutReturn
  split
  · rename_i hlast
    obtain ⟨front, rfl⟩ := List.getLast?_eq_some_iff.1 hlast
    rw [List.dropLast_concat, serverOfLine_return]
  · rfl

theorem filterMap_linesOfPieces (pieces : List (List Char)) :
    (linesOfPieces pieces).filterMap serverOfLine = pieces.filterMap serverOfLine := by
  fun_induction linesOfPieces pieces with
  | case1 => rfl
  | case2 => rfl
  | case3 => rfl
  | case4 piece next rest ih =>
    rw [List.filterMap_cons, List.filterMap_cons, serverOfLine_withoutReturn, ih]

/-- How lines end makes no difference either. -/
theorem nameservers_eq (text : List Char) :
    nameservers text = (text.splitOnP (· = '\n')).filterMap serverOfLine :=
  filterMap_linesOfPieces _

/-- Lines stand for themselves. -/
theorem nameservers_append (text rest : List Char) :
    nameservers (text ++ '\n' :: rest) = nameservers text ++ nameservers rest := by
  rw [nameservers_eq, nameservers_eq, nameservers_eq, List.splitOnP_append_cons _ _ (by decide),
    List.filterMap_append]

theorem nameservers_line (h : '\n' ∉ line) : nameservers line = (serverOfLine line).toList := by
  rw [nameservers_eq, List.splitOnP_eq_singleton]
  · cases hserver : serverOfLine line <;> simp [hserver]
  · intro c hc
    refine decide_eq_false fun heq => h ?_
    exact heq ▸ hc

/-! ## How lines are written -/

/-- The first word of a line that names a server. -/
def keyword : List Char := "nameserver".toList

theorem word_keyword : Word keyword := by decide +kernel

/-- What a line holds before its comment, and the address that it names. -/
inductive Entry : Option V4 → List Char → Prop where
  /-- Nothing but blanks. -/
  | blank {gap : List Char} (hgap : Blanks gap) : Entry none gap
  /-- Another word first. -/
  | other {indent word rest : List Char} (hindent : Blanks indent) (hword : Word word)
    (hother : word ≠ keyword) (hrest : Gapped rest) : Entry none (indent ++ (word ++ rest))
  /-- The word for a server with nothing after it. -/
  | bare {indent gap : List Char} (hindent : Blanks indent) (hgap : Blanks gap) :
    Entry none (indent ++ (keyword ++ gap))
  /-- An IPv4 server, whatever follows in further fields. -/
  | server {indent gap rest : List Char} (hindent : Blanks indent) (hgap : Blanks gap) (hne : gap ≠ [])
    (a : V4) (hrest : Gapped rest) :
    Entry (some a) (indent ++ (keyword ++ (gap ++ (a.text.toList ++ rest))))
  /-- An IPv6 server. -/
  | v6 {indent gap word rest : List Char} (hindent : Blanks indent) (hgap : Blanks gap) (hne : gap ≠ [])
    (hword : Word word) {b : V6} (hv6 : Host.ofText? (String.ofList word) = some (.v6 b))
    (hrest : Gapped rest) : Entry none (indent ++ (keyword ++ (gap ++ (word ++ rest))))
  /-- A server with something else than an address. -/
  | malformed {indent gap word rest : List Char} (hindent : Blanks indent) (hgap : Blanks gap)
    (hne : gap ≠ []) (hword : Word word) (hmalformed : Host.ofText? (String.ofList word) = none)
    (hrest : Gapped rest) : Entry none (indent ++ (keyword ++ (gap ++ (word ++ rest))))

/-- A text without a comment mark. -/
def Unmarked (body : List Char) : Prop := ∀ c ∈ body, c ≠ '#' ∧ c ≠ ';'

/-- A comment with its mark, or nothing. -/
def Comment (comment : List Char) : Prop := ∀ c ∈ comment.head?, c = '#' ∨ c = ';'

/-- A line that names this address, or none. -/
def Line (address? : Option V4) (line : List Char) : Prop :=
  ∃ body comment, line = body ++ comment ∧ Entry address? body ∧ Unmarked body ∧ Comment comment

/-- A resolver file that names these addresses: its lines end with a line feed, or with a carriage return
and a line feed, and the last may lack its ending. -/
inductive Written : List V4 → List Char → Prop where
  | last {address? : Option V4} {line : List Char} (hline : Line address? line) (hwhole : '\n' ∉ line) :
    Written address?.toList line
  | line {address? : Option V4} {line ending rest : List Char} {addresses : List V4}
    (hline : Line address? line) (hwhole : '\n' ∉ line)
    (hending : ending = ['\n'] ∨ ending = ['\r', '\n']) (hrest : Written addresses rest) :
    Written (address?.toList ++ addresses) (line ++ (ending ++ rest))

/-! ## What is read -/

/-- The server at an address. -/
def serverAt (a : V4) : Endpoint := .ofV4 a serverPort

theorem gapped_append (hgap : Blanks gap) (hne : gap ≠ []) (rest : List Char) : Gapped (gap ++ rest) := by
  obtain ⟨c, gap, rfl⟩ := List.exists_cons_of_ne_nil hne
  simpa [Gapped] using hgap c List.mem_cons_self

theorem gapped_of_blanks (hgap : Blanks gap) : Gapped gap := fun c hc => hgap c (List.mem_of_mem_head? hc)

/-- The fields of a line that begins with the word for a server. -/
theorem blankFields_server (hindent : Blanks indent) (hgap : Blanks gap) (hne : gap ≠ [])
    (hword : Word word) (hrest : Gapped rest) :
    blankFields (indent ++ (keyword ++ (gap ++ (word ++ rest)))) =
      keyword :: word :: blankFields rest := by
  rw [blankFields_blanks_append hindent, blankFields_word_append word_keyword (gapped_append hgap hne _),
    blankFields_blanks_append hgap, blankFields_word_append hword hrest]

theorem serverOfFields_keyword (word : List Char) (more : List (List Char)) :
    serverOfFields (keyword :: word :: more) = (V4.ofChars? word).map serverAt := by
  unfold serverOfFields
  exact if_pos rfl

theorem serverOfFields_other (hother : word ≠ keyword) (more : List (List Char)) :
    serverOfFields (word :: more) = none := by
  cases more with
  | nil => rfl
  | cons => exact if_neg hother

theorem ofChars?_eq_none (h : ∀ a, Host.ofText? (String.ofList word) ≠ some (.v4 a)) :
    V4.ofChars? word = none := by
  rw [Option.eq_none_iff_forall_ne_some]
  intro a ha
  refine h a (Host.ofText?_eq_v4_iff.2 ?_)
  rwa [V4.ofText?, String.toList_ofList]

/-- An entry is read as the server that it names. -/
theorem Entry.read (h : Entry address? body) :
    serverOfFields (blankFields body) = address?.map serverAt := by
  cases h with
  | blank hgap =>
    rw [blankFields_blanks hgap]
    rfl
  | other hindent hword hother hrest =>
    rw [blankFields_blanks_append hindent, blankFields_word_append hword hrest]
    exact serverOfFields_other hother _
  | bare hindent hgap =>
    rw [blankFields_blanks_append hindent,
      blankFields_word_append word_keyword (gapped_of_blanks hgap), blankFields_blanks hgap]
    rfl
  | server hindent hgap hne a hrest =>
    rw [blankFields_server hindent hgap hne a.word_text hrest, serverOfFields_keyword,
      V4.ofChars?_eq_some_iff.2 rfl]
  | v6 hindent hgap hne hword hv6 hrest =>
    rw [blankFields_server hindent hgap hne hword hrest, serverOfFields_keyword,
      ofChars?_eq_none (by simp [hv6]), Option.map_none]
  | malformed hindent hgap hne hword hmalformed hrest =>
    rw [blankFields_server hindent hgap hne hword hrest, serverOfFields_keyword,
      ofChars?_eq_none (by simp [hmalformed]), Option.map_none]

theorem withoutComment_append (hbody : Unmarked body) (hcomment : Comment comment) :
    withoutComment (body ++ comment) = body := by
  rw [withoutComment, List.takeWhile_append_of_pos fun c hc => by simpa using hbody c hc]
  cases comment with
  | nil => simp
  | cons c comment => obtain rfl | rfl := hcomment c rfl <;> simp

/-- A line is read as the server that it names, whatever its comment says. -/
theorem Line.read (h : Line address? line) : serverOfLine line = address?.map serverAt := by
  obtain ⟨body, comment, rfl, hentry, hbody, hcomment⟩ := h
  rw [serverOfLine_eq, withoutComment_append hbody hcomment, hentry.read]

theorem Line.nameservers (h : Line address? line) (hwhole : '\n' ∉ line) :
    nameservers line = address?.toList.map serverAt := by
  rw [nameservers_line hwhole, h.read, Option.toList_map]

/-- A file is read as the servers at the addresses that its lines name. -/
theorem Written.read (h : Written addresses text) : nameservers text = addresses.map serverAt := by
  induction h with
  | last hline hwhole => exact hline.nameservers hwhole
  | @line address? line ending rest addresses hline hwhole hending hrest ih =>
    have hfirst : Dns.nameservers (line ++ (ending ++ rest)) =
        Dns.nameservers line ++ Dns.nameservers rest := by
      obtain rfl | rfl := hending
      · exact nameservers_append line rest
      · have hreturn : '\n' ∉ line ++ ['\r'] := by simpa using hwhole
        have hsplit : line ++ (['\r', '\n'] ++ rest) = (line ++ ['\r']) ++ '\n' :: rest := by simp
        rw [hsplit, nameservers_append, nameservers_line hreturn, serverOfLine_return,
          nameservers_line hwhole]
    rw [hfirst, hline.nameservers hwhole, ih, List.map_append]

/-! ## Every text is a resolver file -/

/-- A text that no blank begins is empty or begins with a word. -/
theorem exists_word (h : ∀ c ∈ text.head?, isBlank c = false) :
    text = [] ∨ ∃ word rest, text = word ++ rest ∧ Word word ∧ Gapped rest := by
  obtain ⟨word, rest, rfl, hword, hrest⟩ := exists_span (fun c => !isBlank c) text
  by_cases hnil : word = []
  · subst hnil
    cases rest with
    | nil => exact .inl rfl
    | cons c rest =>
      have hc := hrest c rfl
      rw [h c rfl] at hc
      cases hc
  · exact .inr ⟨word, rest, rfl, ⟨hnil, fun c hc => by simpa using hword c hc⟩,
      fun c hc => by simpa using hrest c hc⟩

/-- Between two words there is a blank. -/
theorem gap_ne_nil (hgapped : Gapped (gap ++ (word ++ rest))) (hword : Word word) : gap ≠ [] := by
  rintro rfl
  obtain ⟨c, word, rfl⟩ := List.exists_cons_of_ne_nil hword.1
  have hblank : isBlank c = true := hgapped c rfl
  rw [hword.2 c List.mem_cons_self] at hblank
  cases hblank

/-- Whatever stands before a comment is an entry of some kind. -/
theorem exists_entry (body : List Char) : ∃ address?, Entry address? body := by
  obtain ⟨indent, rest, rfl, hindent, hrest⟩ := exists_span isBlank body
  obtain rfl | ⟨first, rest, rfl, hfirst, hgapped⟩ := exists_word hrest
  · rw [List.append_nil]
    exact ⟨none, .blank hindent⟩
  by_cases hkeyword : first = keyword
  · subst hkeyword
    obtain ⟨gap, rest, rfl, hgap, hrest⟩ := exists_span isBlank rest
    obtain rfl | ⟨word, rest, rfl, hword, hafter⟩ := exists_word hrest
    · rw [List.append_nil]
      exact ⟨none, .bare hindent hgap⟩
    have hne := gap_ne_nil hgapped hword
    cases hhost : Host.ofText? (String.ofList word) with
    | none => exact ⟨none, .malformed hindent hgap hne hword hhost hafter⟩
    | some host =>
      cases host with
      | v4 a =>
        have hread := Host.ofText?_eq_v4_iff.1 hhost
        rw [V4.ofText?, String.toList_ofList, V4.ofChars?_eq_some_iff] at hread
        exact ⟨some a, hread ▸ .server hindent hgap hne a hafter⟩
      | v6 b => exact ⟨none, .v6 hindent hgap hne hword hhost hafter⟩
  · exact ⟨none, .other hindent hfirst hkeyword hgapped⟩

/-- Every text without a line end is a line of some kind. -/
theorem exists_line (line : List Char) : ∃ address?, Line address? line := by
  obtain ⟨body, comment, rfl, hbody, hcomment⟩ := exists_span (fun c => c ≠ '#' && c ≠ ';') line
  obtain ⟨address?, hentry⟩ := exists_entry body
  refine ⟨address?, body, comment, rfl, hentry, fun c hc => by simpa using hbody c hc, fun c hc => ?_⟩
  have hmark := hcomment c hc
  simp at hmark
  tauto

/-- Every text is a resolver file of some addresses. -/
theorem exists_written (text : List Char) : ∃ addresses, Written addresses text := by
  induction hn : text.length using Nat.strongRecOn generalizing text with
  | ind n ih =>
    obtain ⟨line, rest, rfl, hline, hrest⟩ := exists_span (· ≠ '\n') text
    have hwhole : '\n' ∉ line := fun h => by simpa using hline _ h
    obtain ⟨address?, hsays⟩ := exists_line line
    cases rest with
    | nil =>
      rw [List.append_nil]
      exact ⟨_, .last hsays hwhole⟩
    | cons c rest =>
      obtain rfl : c = '\n' := by simpa using hrest c rfl
      have hshorter : rest.length < n := by
        rw [← hn, List.length_append, List.length_cons]
        omega
      obtain ⟨addresses, hlater⟩ := ih rest.length hshorter rest rfl
      exact ⟨_, .line hsays hwhole (.inl rfl) hlater⟩

theorem serverAt_injective : Function.Injective serverAt := by
  intro a b h
  injection h with hhost
  exact Host.v4.inj hhost

/-- Lines stand for themselves, and a text names exactly the servers at the addresses that are written in
it, in order; every text is written so. -/
theorem nameservers_as_written :
    (∀ text rest, nameservers (text ++ '\n' :: rest) = nameservers text ++ nameservers rest) ∧
    (∀ text addresses, Written addresses text ↔
      nameservers text = addresses.map fun a => .ofV4 a serverPort) ∧
    ∀ text, ∃ addresses, Written addresses text := by
  refine ⟨nameservers_append, fun text addresses => ⟨Written.read, fun h => ?_⟩, exists_written⟩
  obtain ⟨others, hwritten⟩ := exists_written text
  have hsame : others.map serverAt = addresses.map serverAt := hwritten.read.symm.trans h
  exact serverAt_injective.list_map hsame ▸ hwritten

/-- A comment, a search list, an IPv6 server, and a server that is named twice. -/
example : nameservers
    "# generated\nsearch lan\r\nnameserver ::1\nnameserver 10.0.0.1\n\tnameserver\t10.0.0.1 x;y".toList =
      [.ofV4 (V4.ofOctets 10 0 0 1) 53, .ofV4 (V4.ofOctets 10 0 0 1) 53] := by decide +kernel

end WorkloadNet.Dns
