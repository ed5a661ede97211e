import WorkloadNet.Proofs.Dns.Publications
import WorkloadNet.Proofs.Runs

/-!
# A watch publishes every change once

A watch that is not cancelled puts the sets of its reports into the channel in order, each once, whatever it
and its reader do first. With every move of its own, and every set that is taken, less is left to do; when
nothing is left, the reader has taken every set, and no other but the last value of a watch whose reports
have ended.
-/

namespace WorkloadNet.Dns.Watch

open Text

variable {path base : String} {content : FileContent} {events : List Event}
variable {first : ServerSet} {arrived : List Report} {servers : List Endpoint}

/-! ## Moves -/

namespace Watching

variable {w w' : Watching} {m : Move} {moves : List Move}

/-- What a move can do, and when. -/
inductive Made (base : String) (w : Watching) : Move → Watching → Prop where
  | cancel : Made base w .cancel { w with cancelled := true }
  | report (r : Report) (hopen : w.closed = false) :
    Made base w (.report r) { w with pending := w.pending ++ [r] }
  | close : Made base w .close { w with closed := true }
  | change {r : Report} {rest : List Report} {next : ServerSet} (hphase : w.phase = .waiting)
    (hpending : w.pending = r :: rest) (hchange : change? base w.current r = some next) :
    Made base w .look { w with phase := .offering next, current := next.endpoints, pending := rest }
  | keep {r : Report} {rest : List Report} (hphase : w.phase = .waiting)
    (hpending : w.pending = r :: rest) (hchange : change? base w.current r = none) :
    Made base w .look { w with pending := rest }
  | finish (hphase : w.phase = .waiting) (hpending : w.pending = []) (hclosed : w.closed = true) :
    Made base w .look { w with phase := .closing closedReason }
  | first {set : ServerSet} (hphase : w.phase = .opening set) (hroom : w.channel = none) :
    Made base w .send { w with phase := .waiting, channel := some set }
  | next {set : ServerSet} (hphase : w.phase = .offering set) (hroom : w.channel = none) :
    Made base w .send { w with phase := .waiting, channel := some set }
  | last {reason : String} (hphase : w.phase = .closing reason) (hroom : w.channel = none) :
    Made base w .send { w with phase := .ended, channel := some (ServerSet.terminal reason) }
  | leave {set : ServerSet} (hcancelled : w.cancelled = true) (hphase : w.phase = .opening set) :
    Made base w .heed { w with phase := .ended }
  | heed (hcancelled : w.cancelled = true)
    (hphase : w.phase = .waiting ∨ ∃ set, w.phase = .offering set) :
    Made base w .heed { w with phase := .closing cancelledReason }
  | read {set : ServerSet} (hchannel : w.channel = some set) :
    Made base w .read { w with channel := none, received := w.received ++ [set] }

/-- Every move that is possible is one of those that `Made` lists. -/
theorem made (h : w.move? base m = some w') : Made base w m w' := by
  cases m with
  | cancel =>
    obtain rfl := Option.some.inj h
    exact .cancel
  | report r =>
    obtain ⟨hopen, hw⟩ := Option.ite_none_left_eq_some.1 h
    obtain rfl := Option.some.inj hw
    exact .report r (Bool.eq_false_iff.2 hopen)
  | close =>
    obtain rfl := Option.some.inj h
    exact .close
  | look =>
    unfold move? at h
    dsimp only at h
    split at h
    · rename_i r rest hphase hpending
      split at h
      · rename_i next hchange
        obtain rfl := Option.some.inj h
        exact .change hphase hpending hchange
      · rename_i hchange
        obtain rfl := Option.some.inj h
        exact .keep hphase hpending hchange
    · rename_i hphase hpending
      obtain ⟨hclosed, hw⟩ := Option.ite_none_right_eq_some.1 h
      obtain rfl := Option.some.inj hw
      exact .finish hphase hpending hclosed
    · cases h
  | send =>
    unfold move? at h
    dsimp only at h
    split at h
    · obtain rfl := Option.some.inj h
      exact .first ‹_› ‹_›
    · obtain rfl := Option.some.inj h
      exact .next ‹_› ‹_›
    · obtain rfl := Option.some.inj h
      exact .last ‹_› ‹_›
    · cases h
  | heed =>
    obtain ⟨hcancelled, h⟩ := Option.ite_none_right_eq_some.1 h
    split at h
    · obtain rfl := Option.some.inj h
      exact .leave hcancelled ‹_›
    · obtain rfl := Option.some.inj h
      exact .heed hcancelled (.inl ‹_›)
    · obtain rfl := Option.some.inj h
      exact .heed hcancelled (.inr ⟨_, ‹_›⟩)
    · cases h
  | read =>
    obtain ⟨set, hchannel, rfl⟩ := Option.map_eq_some_iff.1 h
    exact .read hchannel

/-- A run is the fold of its moves. -/
theorem run?_eq_foldlM (w : Watching) (moves : List Move) :
    w.run? base moves = moves.foldlM (move? base) w := by
  induction moves generalizing w with
  | nil => rfl
  | cons m rest ih => exact congrArg (w.move? base m).bind (funext ih)

end Watching

/-! ## What has been put out -/

namespace Phase

/-- The sets that are still to be put into the channel. -/
def offered : Phase → List ServerSet
  | opening set | offering set => [set]
  | closing reason => [ServerSet.terminal reason]
  | waiting | ended => []

/-- What follows on the sets of the reports. -/
def farewell : Phase → List ServerSet
  | closing _ | ended => [ServerSet.terminal Watching.closedReason]
  | opening _ | waiting | offering _ => []

end Phase

namespace Watching

variable {w w' : Watching} {m : Move}

/-- The sets that the reader has taken or will take when nothing more is looked at. -/
def emitted (w : Watching) : List ServerSet := w.received ++ w.channel.toList ++ w.phase.offered

/-- The report that arrives with a move. -/
def Move.arrivals : Move → List Report
  | report r => [r]
  | _ => []

/-- Where a watch on a file that read `first` stands when these reports have arrived and it has not been
cancelled. -/
structure Kept (base : String) (first : ServerSet) (arrived : List Report) (w : Watching) : Prop where
  looked : ∃ looked, looked ++ w.pending = arrived ∧
    w.current = standing base first.endpoints looked ∧
    w.emitted = published base first looked ++ w.phase.farewell
  closing : w.phase.farewell ≠ [] → w.closed = true ∧ w.pending = []
  reason : ∀ reason, w.phase = .closing reason → reason = closedReason
  uncancelled : w.cancelled = false

/-- At the start nothing has arrived, and the first set is on offer. -/
theorem kept_start : Kept base first [] (start first) where
  looked := ⟨[], rfl, rfl, rfl⟩
  closing h := absurd rfl h
  reason _ h := nomatch h
  uncancelled := rfl

/-- Looking at a report puts what it changes on offer, right after what is out. -/
theorem Kept.look (h : Kept base first arrived w) (hmove : w.move? base .look = some w') :
    Kept base first arrived w' := by
  obtain ⟨⟨looked, harrived, hcurrent, hemitted⟩, -, -, huncancelled⟩ := h
  -- While the watch waits, nothing is on offer: what it finds now comes right after what is out.
  have hbefore (hphase : w.phase = .waiting) :
      w.received ++ w.channel.toList = published base first looked := by
    simpa [emitted, hphase, Phase.offered, Phase.farewell] using hemitted
  have hseen {r : Report} {rest : List Report} (hpending : w.pending = r :: rest) :
      looked ++ [r] ++ rest = arrived := by simpa [hpending] using harrived
  cases made hmove with
  | @change r rest next hphase hpending hchange =>
    have hstanding := standing_snoc base first.endpoints looked r
    have hpublished := published_snoc base first looked r
    rw [← hcurrent, hchange] at hstanding hpublished
    refine ⟨⟨looked ++ [r], hseen hpending, hstanding.symm, ?_⟩, fun h => absurd rfl h, nofun,
      huncancelled⟩
    simp [emitted, Phase.offered, Phase.farewell, hpublished, hbefore hphase]
  | @keep r rest hphase hpending hchange =>
    have hstanding := standing_snoc base first.endpoints looked r
    have hpublished := published_snoc base first looked r
    rw [← hcurrent, hchange] at hstanding hpublished
    refine ⟨⟨looked ++ [r], hseen hpending, hstanding.symm, ?_⟩, ?_, ?_, huncancelled⟩
    · simp [emitted, hphase, Phase.offered, Phase.farewell, hpublished, hbefore hphase]
    · simp [hphase, Phase.farewell]
    · simp [hphase]
  | finish hphase hpending hclosed =>
    refine ⟨⟨looked, harrived, hcurrent, ?_⟩, fun _ => ⟨hclosed, hpending⟩, ?_, huncancelled⟩
    · simp [emitted, Phase.offered, Phase.farewell, hbefore hphase]
    · rintro reason ⟨⟩
      rfl

/-- Putting a set into the channel changes where it is, not what has been put out. -/
theorem Kept.send (h : Kept base first arrived w) (hmove : w.move? base .send = some w') :
    Kept base first arrived w' := by
  obtain ⟨⟨looked, harrived, hcurrent, hemitted⟩, hclosing, hreason, huncancelled⟩ := h
  cases made hmove with
  | first hphase hroom =>
    refine ⟨⟨looked, harrived, hcurrent, ?_⟩, fun h => absurd rfl h, nofun, huncancelled⟩
    simpa [emitted, hphase, hroom, Phase.offered, Phase.farewell] using hemitted
  | next hphase hroom =>
    refine ⟨⟨looked, harrived, hcurrent, ?_⟩, fun h => absurd rfl h, nofun, huncancelled⟩
    simpa [emitted, hphase, hroom, Phase.offered, Phase.farewell] using hemitted
  | @last reason hphase hroom =>
    obtain rfl := hreason reason hphase
    refine ⟨⟨looked, harrived, hcurrent, ?_⟩, fun _ => ?_, nofun, huncancelled⟩
    · simpa [emitted, hphase, hroom, Phase.offered, Phase.farewell] using hemitted
    · exact hclosing (by simp [hphase, Phase.farewell])

/-- Neither does taking a set out of the channel. -/
theorem Kept.read (h : Kept base first arrived w) (hmove : w.move? base .read = some w') :
    Kept base first arrived w' := by
  obtain ⟨⟨looked, harrived, hcurrent, hemitted⟩, hclosing, hreason, huncancelled⟩ := h
  cases made hmove with
  | read hchannel =>
    refine ⟨⟨looked, harrived, hcurrent, ?_⟩, hclosing, hreason, huncancelled⟩
    simpa [emitted, hchannel] using hemitted

/-- A report that arrives waits behind the others. -/
theorem Kept.report {r : Report} (h : Kept base first arrived w)
    (hmove : w.move? base (.report r) = some w') : Kept base first (arrived ++ [r]) w' := by
  obtain ⟨⟨looked, harrived, hcurrent, hemitted⟩, hclosing, hreason, huncancelled⟩ := h
  cases made hmove with
  | report r hopen =>
    refine ⟨⟨looked, ?_, hcurrent, hemitted⟩, fun hend => ?_, hreason, huncancelled⟩
    · rw [← harrived, List.append_assoc]
    · rw [(hclosing hend).1] at hopen
      cases hopen

/-- The end of the reports leaves the watch where it stands. -/
theorem Kept.close (h : Kept base first arrived w) : Kept base first arrived { w with closed := true } where
  looked := h.looked
  closing hend := ⟨rfl, (h.closing hend).2⟩
  reason := h.reason
  uncancelled := h.uncancelled

/-- Every move but a cancellation leaves the watch where it should stand. -/
theorem Kept.move (h : Kept base first arrived w) (hcalm : m ≠ .cancel)
    (hmove : w.move? base m = some w') : Kept base first (arrived ++ m.arrivals) w' := by
  cases m with
  | cancel => exact absurd rfl hcalm
  | report r => exact h.report hmove
  | close =>
    obtain rfl := Option.some.inj hmove
    simpa [Move.arrivals] using h.close
  | look => simpa [Move.arrivals] using h.look hmove
  | send => simpa [Move.arrivals] using h.send hmove
  | heed =>
    have huncancelled := h.uncancelled
    cases made hmove with
    | leave hcancelled => simp [huncancelled] at hcancelled
    | heed hcancelled => simp [huncancelled] at hcancelled
  | read => simpa [Move.arrivals] using h.read hmove

/-- After every run without a cancellation the watch is where it should stand. -/
theorem Kept.run {moves : List Move} (h : Kept base first arrived w) (hcalm : .cancel ∉ moves)
    (hrun : w.run? base moves = some w') :
    Kept base first (arrived ++ moves.flatMap Move.arrivals) w' := by
  induction moves generalizing w arrived with
  | nil =>
    obtain rfl := Option.some.inj hrun
    simpa using h
  | cons m rest ih =>
    obtain ⟨hm, hrest⟩ : .cancel ≠ m ∧ .cancel ∉ rest := by simpa using hcalm
    obtain ⟨w₁, hmove, hrun⟩ := Option.bind_eq_some_iff.1 hrun
    have hlater := ih (h.move (Ne.symm hm) hmove) hrest hrun
    rwa [List.append_assoc] at hlater

/-! ## What is left to do -/

/-- The moves of the watch and of its reader. -/
def Move.Internal (m : Move) : Prop := m = .look ∨ m = .send ∨ m = .read

/-- Nothing is left to do. -/
def Settled (base : String) (w : Watching) : Prop := ∀ m : Move, m.Internal → w.move? base m = none

/-- A bound on the moves that a phase still takes, reports apart. -/
def Phase.work (closed : Bool) : Phase → Nat
  | .opening _ | .offering _ => 2 + if closed then 3 else 0
  | .waiting => if closed then 3 else 0
  | .closing _ => 2
  | .ended => 0

/-- A bound on the moves of the watch and of its reader that are left. -/
def work (w : Watching) : Nat :=
  3 * w.pending.length + Phase.work w.closed w.phase + w.channel.toList.length

/-- With every move of the watch or of its reader less is left to do. -/
theorem work_lt (hmove : w.move? base m = some w') (hm : m.Internal) : w'.work < w.work := by
  cases made hmove with
  | cancel | report | close | leave | heed => simp [Move.Internal] at hm
  | change hphase hpending =>
    simp only [work, Phase.work, hphase, hpending, List.length_cons]
    omega
  | keep hphase hpending =>
    simp only [work, hpending, List.length_cons]
    omega
  | finish hphase hpending hclosed => simp [work, Phase.work, hphase, hclosed]
  | first hphase hroom | next hphase hroom =>
    simp only [work, Phase.work, hphase, hroom, Option.toList_some, Option.toList_none,
      List.length_singleton, List.length_nil]
    omega
  | last hphase hroom => simp [work, Phase.work, hphase, hroom]
  | read hchannel => simp [work, hchannel]

/-- No run of such moves is longer than the bound on what is left. -/
theorem length_le_work {moves : List Move} (hinternal : ∀ m ∈ moves, m.Internal)
    (hrun : w.run? base moves = some w') : moves.length ≤ w.work :=
  Runs.length_le (move? base) work_lt hinternal (run?_eq_foldlM w moves ▸ hrun)

/-- Whatever has been done, the rest can be done. -/
theorem exists_settled (base : String) (w : Watching) :
    ∃ more w', (∀ m ∈ more, m.Internal) ∧ w.run? base more = some w' ∧ w'.Settled base := by
  obtain ⟨more, w', hinternal, hrun, hsettled⟩ := Runs.exists_rest (move? base) work_lt w
  exact ⟨more, w', hinternal, (run?_eq_foldlM w more).trans hrun, hsettled⟩

/-- When nothing is left to do, every report has been looked at and every set has been taken. -/
theorem Kept.settled (h : Kept base first arrived w) (hsettled : w.Settled base) :
    w.received = published base first arrived ++ w.phase.farewell := by
  obtain ⟨phase, current, pending, closed, cancelled, channel, received⟩ := w
  obtain ⟨⟨looked, harrived, hcurrent, hemitted⟩, hclosing, hreason, huncancelled⟩ := h
  have hlook := hsettled .look (Or.inl rfl)
  have hsend := hsettled .send (Or.inr (Or.inl rfl))
  obtain rfl : channel = none := Option.map_eq_none_iff.1 (hsettled .read (Or.inr (Or.inr rfl)))
  dsimp only at harrived hclosing
  -- A phase that has something on offer could still send it, as there is room in the channel.
  cases phase with
  | opening set => cases hsend
  | offering set => cases hsend
  | closing reason => cases hsend
  | waiting =>
    cases pending with
    | nil =>
      rw [List.append_nil] at harrived
      subst harrived
      simpa [emitted, Phase.offered] using hemitted
    | cons report rest =>
      unfold move? at hlook
      dsimp only at hlook
      split at hlook <;> cases hlook
  | ended =>
    obtain ⟨-, rfl⟩ := hclosing (List.cons_ne_nil _ _)
    rw [List.append_nil] at harrived
    subst harrived
    simpa [emitted, Phase.offered] using hemitted

end Watching

/-! ## Every change once -/

open Watching

/-- The lists of servers that the reader has taken, without the last value. -/
def Watching.heard (w : Watching) : List (List Endpoint) :=
  (w.received.filter fun set => !set.isTerminal).map (·.endpoints)

/-- What a watch that is not cancelled owes its reader, and what the reader makes of it. -/
structure Faithful (path base : String) (content : FileContent) (events : List Event)
    (servers : List Endpoint) (w : Watching) : Prop where
  sofar : w.heard <+: publications path base content events
  distinct : (publications path base content events).IsChain fun a b => ¬ a.Perm b
  latest : ∃ last, (publications path base content events).getLast? = some last ∧
    last.Perm (lastReading path base content events)
  settled : w.Settled base → w.heard = publications path base content events ∧
    (follow servers w.received).Perm (lastReading path base content events)
  settles : ∃ more w', (∀ m ∈ more, m.Internal) ∧ w.run? base more = some w' ∧ w'.Settled base
  bounded : ∀ more w', (∀ m ∈ more, m.Internal) → w.run? base more = some w' → more.length ≤ w.work

/-- What a watch says last is no set of servers. -/
theorem filter_farewell (phase : Phase) :
    phase.farewell.filter (fun set => !set.isTerminal) = [] := by
  cases phase <;> rfl

/-- Everything that is published on reports is a set of servers. -/
theorem filter_published {reports : List Report}
    (h : reports <+: events.map (Event.report path)) :
    (published base (ServerSet.ofFile path content) reports).filter (fun set => !set.isTerminal) =
      published base (ServerSet.ofFile path content) reports := by
  rw [List.filter_eq_self]
  intro set hset
  rw [isTerminal_of_mem_published ((published_mono h).subset hset)]
  rfl

/-- What the reader has taken so far is a beginning of the publications. -/
theorem heard_prefix {w : Watching}
    (h : Kept base (ServerSet.ofFile path content) (events.map (Event.report path)) w) :
    w.heard <+: publications path base content events := by
  obtain ⟨looked, harrived, -, hemitted⟩ := h.looked
  have hlooked : looked <+: events.map (Event.report path) := ⟨w.pending, harrived⟩
  have hreceived : w.received <+:
      published base (ServerSet.ofFile path content) looked ++ w.phase.farewell := by
    rw [← hemitted, emitted, List.append_assoc]
    exact List.prefix_append _ _
  have hfiltered := hreceived.filter fun set => !set.isTerminal
  rw [List.filter_append, filter_published hlooked, filter_farewell, List.append_nil] at hfiltered
  rw [← map_published]
  exact (hfiltered.trans (published_mono hlooked)).map _

/-- When nothing is left to do, the reader has taken all of them. -/
theorem heard_settled {w : Watching}
    (h : Kept base (ServerSet.ofFile path content) (events.map (Event.report path)) w)
    (hsettled : w.Settled base) : w.heard = publications path base content events := by
  rw [Watching.heard, h.settled hsettled, List.filter_append, filter_published List.prefix_rfl,
    filter_farewell, List.append_nil, map_published]

/-- The last value leaves the servers in use as they are. -/
theorem follow_farewell (phase : Phase) : follow servers phase.farewell = servers := by
  cases phase <;> rfl

/-- When nothing is left to do, the servers in use are those of the last reading, in some order. -/
theorem follow_settled {w : Watching}
    (h : Kept base (ServerSet.ofFile path content) (events.map (Event.report path)) w)
    (hsettled : w.Settled base) :
    (follow servers w.received).Perm (lastReading path base content events) := by
  have hfollow : follow servers w.received = follow servers (published base
      (ServerSet.ofFile path content) (events.map (Event.report path))) := by
    rw [h.settled hsettled, follow_append, follow_farewell]
  obtain ⟨last, hlast, hperm⟩ := exists_last_publication path base content events
  rw [hfollow, follow_of_not_terminal fun _ => isTerminal_of_mem_published, map_published, hlast]
  exact hperm

/-- Whatever the file holds at first and after each event, and whenever reports arrive and sets are taken,
exactly the changes are published, each once. -/
theorem changes_published_once (path base : String) (content : FileContent) (events : List Event)
    (servers : List Endpoint) (moves : List Move) (w : Watching)
    (hrun : (start (ServerSet.ofFile path content)).run? base moves = some w)
    (hcalm : .cancel ∉ moves)
    (harrived : moves.flatMap Move.arrivals = events.map (Event.report path)) :
    Faithful path base content events servers w := by
  have hkept := kept_start.run hcalm hrun
  rw [List.nil_append, harrived] at hkept
  exact {
    sofar := heard_prefix hkept
    distinct := isChain_publications
    latest := exists_last_publication path base content events
    settled := fun hsettled => ⟨heard_settled hkept hsettled, follow_settled hkept hsettled⟩
    settles := exists_settled base w
    bounded := fun _ _ => length_le_work }

/-- The file is reordered, another file changes, the file is only read, the watch fails, the file is gone,
and comes back as it was. -/
def flapping : List Event :=
  [.touched false ["resolv.conf"] (fileOfText "nameserver 10.0.0.2\nnameserver 10.0.0.1"),
    .touched false ["hosts"] noFile, .touched true ["resolv.conf"] noFile, .failed,
    .touched false ["hosts", "resolv.conf"] noFile,
    .touched false ["resolv.conf"] (fileOfText "nameserver 10.0.0.1\nnameserver 10.0.0.2")]

/-- Some events arrive before the first set is sent, and the reader falls behind. -/
def flappingMoves : List Move :=
  (flapping.take 3).map (.report ∘ Event.report "/etc/resolv.conf") ++
    [.send, .look, .look, .read] ++
    (flapping.drop 3).map (.report ∘ Event.report "/etc/resolv.conf") ++
    [.look, .look, .look, .send, .look, .read, .send, .read]

def flappingStart : FileContent := fileOfText "nameserver 10.0.0.1\nnameserver 10.0.0.2"

/-- Six events, and a reader that falls behind: two servers are published, then none, then two again. -/
theorem changes_published_once_demo :
    ∃ w, (start (ServerSet.ofFile "/etc/resolv.conf" flappingStart)).run? "resolv.conf" flappingMoves =
        some w ∧
      .cancel ∉ flappingMoves ∧
      flappingMoves.flatMap Move.arrivals = flapping.map (Event.report "/etc/resolv.conf") ∧
      w.heard.map List.length = [2, 0, 2] ∧
      Faithful "/etc/resolv.conf" "resolv.conf" flappingStart flapping [] w := by
  have hruns : ((start (ServerSet.ofFile "/etc/resolv.conf" flappingStart)).run? "resolv.conf"
      flappingMoves).map (fun w => w.heard.map List.length) = some [2, 0, 2] := by decide +kernel
  obtain ⟨w, hrun, hheard⟩ := Option.map_eq_some_iff.1 hruns
  have hcalm : .cancel ∉ flappingMoves := by simp [flappingMoves, flapping]
  have harrived : flappingMoves.flatMap Move.arrivals =
      flapping.map (Event.report "/etc/resolv.conf") := rfl
  exact ⟨w, hrun, hcalm, harrived, hheard,
    changes_published_once "/etc/resolv.conf" "resolv.conf" flappingStart flapping [] flappingMoves w
      hrun hcalm harrived⟩

end WorkloadNet.Dns.Watch
