import Mathlib.Data.List.Chain
import WorkloadNet.Proofs.Runs
import WorkloadNet.Route.Watcher

/-!
# A watch on the default interface emits the changes

`turns` picks the values of a list that differ from the one just before them. What a watch emits is its
first reading followed by the turns of all its readings: no two emissions in a row are the same, and the
last one is the last reading. Whatever a watch and its reader do, what has been emitted is the beginning
of that; a watch that is not stopped emits all of it, and a watch that is stopped ends.
-/

namespace WorkloadNet.Route

variable {first : Query} {queries looked : List Query}

/-! ## Turns -/

/-- The values that differ from the one just before them. -/
def turns (values : List String) : List String :=
  ((values.zip values.tail).filter fun pair => pair.1 ≠ pair.2).map Prod.snd

/-- The first value does not count, and the second does when it differs from the first. -/
theorem turns_cons_cons (a b : String) (values : List String) :
    turns (a :: b :: values) = if a = b then turns (b :: values) else b :: turns (b :: values) := by
  by_cases h : a = b <;> simp [turns, h]

/-- The readings of the first answer and of later ones. -/
def readings (first : Query) (rest : List Query) : List String := reading first :: rest.map reading

/-- The changes of a watch are the turns of its readings. -/
theorem cons_changes (current : String) (rest : List Query) :
    changes current rest = turns (current :: rest.map reading) := by
  induction rest generalizing current with
  | nil => rfl
  | cons query rest ih =>
    rw [changes, List.map_cons, turns_cons_cons, ih, ih]
    by_cases h : reading query = current
    · rw [if_pos h, if_pos h.symm, h]
    · rw [if_neg h, if_neg (Ne.symm h)]

/-- What is emitted is the first reading and then the turns of all readings. -/
theorem emissions_eq (first : Query) (rest : List Query) :
    emissions first rest = reading first :: turns (readings first rest) :=
  congrArg (reading first :: ·) (cons_changes _ _)

/-- No two values in a row are the same once only turns are kept. -/
theorem isChain_turns (a : String) (values : List String) :
    (a :: turns (a :: values)).IsChain (· ≠ ·) := by
  induction values generalizing a with
  | nil => exact .singleton a
  | cons b values ih =>
    rw [turns_cons_cons]
    split
    · rename_i h
      exact h ▸ ih b
    · rename_i h
      exact .cons_cons h (ih b)

/-- Keeping only turns keeps the last value. -/
theorem getLast?_turns (a : String) (values : List String) :
    (a :: turns (a :: values)).getLast? = (a :: values).getLast? := by
  induction values generalizing a with
  | nil => rfl
  | cons b values ih =>
    rw [turns_cons_cons, List.getLast?_cons_cons, ← ih b]
    split
    · rename_i h
      rw [h]
    · rw [List.getLast?_cons_cons]

/-- The last emission is the last reading. -/
theorem getLast?_emissions : (emissions first queries).getLast? = (readings first queries).getLast? := by
  rw [emissions_eq]
  exact getLast?_turns _ _

/-- One more answer adds its reading to the changes if it differs from the reading before it. -/
theorem changes_snoc {start current : String} (query : Query)
    (h : (start :: looked.map reading).getLast? = some current) :
    changes start (looked ++ [query]) =
      changes start looked ++ if reading query = current then [] else [reading query] := by
  induction looked generalizing start with
  | nil =>
    obtain rfl : start = current := Option.some.inj h
    simp [changes]
  | cons q rest ih =>
    have hrest : (reading q :: rest.map reading).getLast? = some current := by
      rwa [List.map_cons, List.getLast?_cons_cons] at h
    rw [List.cons_append, changes, changes]
    split
    · rename_i hsame
      exact ih (hsame ▸ hrest)
    · rw [ih hrest, List.cons_append]

/-- With one more answer, its reading is emitted if it differs from the reading before it. -/
theorem emissions_snoc {current : String} (query : Query)
    (h : (readings first looked).getLast? = some current) :
    emissions first (looked ++ [query]) =
      emissions first looked ++ if reading query = current then [] else [reading query] :=
  congrArg (reading first :: ·) (changes_snoc query h)

theorem getLast?_readings_snoc (query : Query) :
    (readings first (looked ++ [query])).getLast? = some (reading query) := by
  rw [readings, List.map_append, List.map_singleton, ← List.cons_append, List.getLast?_concat]

theorem exists_getLast?_readings (first : Query) (looked : List Query) :
    ∃ current, (readings first looked).getLast? = some current :=
  ⟨_, List.getLast?_eq_some_getLast (List.cons_ne_nil _ _)⟩

/-- More answers only add to what is emitted. -/
theorem emissions_mono (h : looked <+: queries) : emissions first looked <+: emissions first queries := by
  obtain ⟨rest, rfl⟩ := h
  induction rest using List.reverseRecOn with
  | nil => simp
  | append_singleton rest query ih =>
    obtain ⟨current, hcurrent⟩ := exists_getLast?_readings first (looked ++ rest)
    rw [← List.append_assoc, emissions_snoc query hcurrent]
    exact ih.trans (List.prefix_append _ _)

/-- What a watch in a phase has emitted of all the values that it owes on the answers it has seen. -/
def Phase.Stands (current : String) (emitted all : List String) : Phase → Prop
  | opening | offering => emitted ++ [current] = all
  | waiting => emitted = all
  | ended => emitted <+: all

/-- In every phase, what has been emitted is a beginning of what is owed. -/
theorem Phase.Stands.beginning {phase : Phase} {current : String} {all emitted : List String}
    (h : phase.Stands current emitted all) : emitted <+: all := by
  cases phase with
  | opening | offering => exact ⟨[current], h⟩
  | waiting =>
    obtain rfl : emitted = all := h
    exact List.prefix_rfl
  | ended => exact h

/-- A bound on the moves that a phase still takes. -/
def Phase.left : Phase → Nat
  | opening | offering => 5
  | waiting => 3
  | ended => 0

/-! ## Moves -/

namespace Watching

variable {w w' : Watching} {m : Move} {past moves : List Move}

/-- What a move can do, and when. -/
inductive Made (w : Watching) : Move → Watching → Prop where
  | stop : Made w .stop { w with stopped := true }
  | notify (query : Query) (hopen : w.closed = false) :
    Made w (.notify query) { w with pending := w.pending ++ [query] }
  | close : Made w .close { w with closed := true }
  | keep {query : Query} {rest : List Query} (hphase : w.phase = .waiting)
    (hpending : w.pending = query :: rest) (hsame : reading query = w.current) :
    Made w .look { w with pending := rest }
  | change {query : Query} {rest : List Query} (hphase : w.phase = .waiting)
    (hpending : w.pending = query :: rest) (hnew : reading query ≠ w.current) :
    Made w .look { w with phase := .offering, current := reading query, pending := rest }
  | finish (hphase : w.phase = .waiting) (hpending : w.pending = []) (hclosed : w.closed = true) :
    Made w .look { w with phase := .ended }
  | send (hphase : w.phase = .opening ∨ w.phase = .offering) (hroom : w.channel = none) :
    Made w .send { w with phase := .waiting, channel := some w.current }
  | heed (hstopped : w.stopped = true) (hphase : w.phase ≠ .ended) :
    Made w .heed { w with phase := .ended }
  | read {value : String} (hchannel : w.channel = some value) :
    Made w .read { w with channel := none, received := w.received ++ [value] }

/-- Every move that is possible is one of those that `Made` lists. -/
theorem made (h : w.move? m = some w') : Made w m w' := by
  cases m with
  | stop =>
    obtain rfl := Option.some.inj h
    exact .stop
  | notify query =>
    obtain ⟨hopen, hw⟩ := Option.ite_none_left_eq_some.1 h
    obtain rfl := Option.some.inj hw
    exact .notify query (Bool.eq_false_iff.2 hopen)
  | close =>
    obtain rfl := Option.some.inj h
    exact .close
  | look =>
    unfold move? at h
    dsimp only at h
    split at h
    · rename_i query rest hphase hpending
      obtain rfl := Option.some.inj h
      unfold take
      split
      · exact .keep hphase hpending ‹_›
      · exact .change hphase hpending ‹_›
    · rename_i hphase hpending
      obtain ⟨hclosed, hw⟩ := Option.ite_none_right_eq_some.1 h
      obtain rfl := Option.some.inj hw
      exact .finish hphase hpending hclosed
    · cases h
  | send =>
    unfold move? at h
    dsimp only at h
    split at h
    · obtain rfl := Option.some.inj h
      exact .send (.inl ‹_›) ‹_›
    · obtain rfl := Option.some.inj h
      exact .send (.inr ‹_›) ‹_›
    · cases h
  | heed =>
    obtain ⟨⟨hstopped, hphase⟩, hw⟩ := Option.ite_none_right_eq_some.1 h
    obtain rfl := Option.some.inj hw
    exact .heed hstopped hphase
  | read =>
    obtain ⟨value, hchannel, rfl⟩ := Option.map_eq_some_iff.1 h
    exact .read hchannel

/-- A run is the fold of its moves. -/
theorem run?_eq_foldlM (w : Watching) (moves : List Move) : w.run? moves = moves.foldlM move? w := by
  induction moves generalizing w with
  | nil => rfl
  | cons m rest ih => exact congrArg (w.move? m).bind (funext ih)

/-! ## What has been emitted -/

/-- The answer that comes with a move. -/
def Move.arrivals : Move → List Query
  | notify query => [query]
  | _ => []

/-- What holds of a watch after these moves. -/
structure Kept (first : Query) (past : List Move) (w : Watching) : Prop where
  looked : ∃ looked, looked ++ w.pending = past.flatMap Move.arrivals ∧
    (readings first looked).getLast? = some w.current ∧
    w.phase.Stands w.current w.emitted (emissions first looked)
  ended : w.phase = .ended → w.stopped = true ∨
    (w.closed = true ∧ w.emitted = emissions first (past.flatMap Move.arrivals))
  stopped : w.stopped = true ↔ .stop ∈ past
  closed : w.closed = true ↔ .close ∈ past

/-- At the start nothing has been looked at, and the first reading is owed. -/
theorem kept_start (first : Query) : Kept first [] (start first) where
  looked := ⟨[], rfl, rfl, rfl⟩
  ended := nofun
  stopped := by simp [start]
  closed := by simp [start]

/-- Only a stop stops a watch. -/
theorem stopped_iff (hmove : w.move? m = some w') :
    w'.stopped = true ↔ w.stopped = true ∨ .stop = m := by
  cases made hmove <;> simp

/-- Only the end of the notifications closes a watch. -/
theorem closed_iff (hmove : w.move? m = some w') : w'.closed = true ↔ w.closed = true ∨ .close = m := by
  cases made hmove <;> simp

/-- A move keeps the account of the answers that have been looked at. -/
theorem Kept.looked_move (h : Kept first past w) (hmove : w.move? m = some w') :
    ∃ looked, looked ++ w'.pending = past.flatMap Move.arrivals ++ m.arrivals ∧
      (readings first looked).getLast? = some w'.current ∧
      w'.phase.Stands w'.current w'.emitted (emissions first looked) := by
  obtain ⟨looked, harrived, hcurrent, hstands⟩ := h.looked
  have hsame : looked ++ w.pending = past.flatMap Move.arrivals ++ [] := by
    rw [harrived, List.append_nil]
  cases made hmove with
  | stop | close => exact ⟨looked, hsame, hcurrent, hstands⟩
  | notify query =>
    exact ⟨looked, by rw [← harrived, ← List.append_assoc]; rfl, hcurrent, hstands⟩
  | @keep query rest hphase hpending hold =>
    refine ⟨looked ++ [query], by simp [Move.arrivals, ← harrived, hpending], ?_, ?_⟩
    · rw [getLast?_readings_snoc, hold]
    · rwa [emissions_snoc query hcurrent, if_pos hold, List.append_nil]
  | @change query rest hphase hpending hnew =>
    rw [hphase] at hstands
    refine ⟨looked ++ [query], by simp [Move.arrivals, ← harrived, hpending], ?_, ?_⟩
    · rw [getLast?_readings_snoc]
    · rw [emissions_snoc query hcurrent, if_neg hnew, ← hstands]
      exact rfl
  | finish => exact ⟨looked, hsame, hcurrent, hstands.beginning⟩
  | send hphase hroom =>
    have hoffered : w.emitted ++ [w.current] = emissions first looked := by
      obtain hphase | hphase := hphase <;> (rw [hphase] at hstands; exact hstands)
    refine ⟨looked, hsame, hcurrent, ?_⟩
    simpa [Phase.Stands, emitted, hroom] using hoffered
  | heed => exact ⟨looked, hsame, hcurrent, hstands.beginning⟩
  | @read value hchannel =>
    refine ⟨looked, hsame, hcurrent, ?_⟩
    simpa [emitted, hchannel] using hstands

/-- A watch that a move ends, or leaves ended, was stopped or has emitted all that it owes. -/
theorem Kept.ended_move (h : Kept first past w) (hmove : w.move? m = some w')
    (hended : w'.phase = .ended) :
    w'.stopped = true ∨
      (w'.closed = true ∧ w'.emitted = emissions first (past.flatMap Move.arrivals ++ m.arrivals)) := by
  cases made hmove with
  | stop => exact .inl rfl
  | notify query hopen =>
    -- A watch that can still be notified is not closed, so if it has ended it was stopped.
    refine .inl ((h.ended hended).resolve_right fun hall => ?_)
    rw [hopen] at hall
    exact nomatch hall.1
  | close =>
    rw [show Move.close.arrivals = [] from rfl, List.append_nil]
    exact (h.ended hended).imp_right fun hall => ⟨rfl, hall.2⟩
  | keep hphase =>
    rw [hphase] at hended
    cases hended
  | change | send => cases hended
  | finish hphase hpending hclosed =>
    obtain ⟨looked, harrived, -, hstands⟩ := h.looked
    rw [hphase] at hstands
    rw [hpending, List.append_nil] at harrived
    rw [show Move.look.arrivals = [] from rfl, List.append_nil, ← harrived]
    exact .inr ⟨hclosed, hstands⟩
  | heed hstopped => exact .inl hstopped
  | read hchannel =>
    rw [show Move.read.arrivals = [] from rfl, List.append_nil]
    simpa [emitted, hchannel] using h.ended hended

/-- A move leads from what holds after the moves before it to what holds with it. -/
theorem Kept.move (h : Kept first past w) (hmove : w.move? m = some w') :
    Kept first (past ++ [m]) w' where
  looked := by
    rw [List.flatMap_append, List.flatMap_singleton]
    exact h.looked_move hmove
  ended hended := by
    rw [List.flatMap_append, List.flatMap_singleton]
    exact h.ended_move hmove hended
  stopped := by rw [stopped_iff hmove, h.stopped, List.mem_append, List.mem_singleton]
  closed := by rw [closed_iff hmove, h.closed, List.mem_append, List.mem_singleton]

/-- After every run, what should hold of the watch does. -/
theorem kept_run (hrun : (start first).run? moves = some w) : Kept first moves w := by
  rw [run?_eq_foldlM] at hrun
  exact Runs.of_move move? Kept.move (kept_start first) hrun

/-! ## Coming to rest -/

/-- The moves that a watch and its reader make. -/
def Move.Own (m : Move) : Prop := m = .look ∨ m = .send ∨ m = .heed ∨ m = .read

/-- The watch and its reader have nothing left to do. -/
def AtRest (w : Watching) : Prop := ∀ m : Move, m.Own → w.move? m = none

/-- A bound on the moves of the watch and of its reader that are left. -/
def left (w : Watching) : Nat := 3 * w.pending.length + w.phase.left + w.channel.toList.length

/-- With every move of the watch or of its reader less is left to do. -/
theorem left_lt (hmove : w.move? m = some w') (hm : m.Own) : w'.left < w.left := by
  cases made hmove with
  | stop | notify | close => simp [Move.Own] at hm
  | keep hphase hpending =>
    simp only [left, hpending, List.length_cons]
    omega
  | change hphase hpending =>
    simp only [left, Phase.left, hphase, hpending, List.length_cons]
    omega
  | finish hphase => simp [left, Phase.left, hphase]
  | send hphase hroom =>
    obtain hphase | hphase := hphase <;> simp [left, Phase.left, hphase, hroom]
  | heed hstopped hphase =>
    cases hwas : w.phase with
    | opening | waiting | offering => simp [left, Phase.left, hwas]
    | ended => exact absurd hwas hphase
  | read hchannel => simp [left, hchannel]

/-- At rest, everything that was emitted has been taken. -/
theorem emitted_of_atRest (h : w.AtRest) : w.emitted = w.received := by
  have hchannel : w.channel = none := Option.map_eq_none_iff.1 (h .read (by simp [Move.Own]))
  simp [emitted, hchannel]

/-- A watch at rest has ended, or it has taken up every notification and waits for more. -/
theorem phase_of_atRest (h : w.AtRest) :
    w.phase = .ended ∨
      (w.phase = .waiting ∧ w.pending = [] ∧ w.closed = false ∧ w.stopped = false) := by
  have hchannel : w.channel = none := Option.map_eq_none_iff.1 (h .read (by simp [Move.Own]))
  have hlook := h .look (by simp [Move.Own])
  have hsend := h .send (by simp [Move.Own])
  have hheed := h .heed (by simp [Move.Own])
  cases hphase : w.phase with
  | opening | offering => simp [move?, hphase, hchannel] at hsend
  | waiting =>
    cases hpending : w.pending with
    | cons query rest => simp [move?, hphase, hpending] at hlook
    | nil =>
      have hopen : w.closed = false := by simpa [move?, hphase, hpending] using hlook
      have hrunning : w.stopped = false := by simpa [move?, hphase] using hheed
      exact .inr ⟨rfl, rfl, hopen, hrunning⟩
  | ended => exact .inl rfl

end Watching

/-! ## Exactly the changes -/

open Watching

/-- What a watch whose first question was answered like this owes its reader after these moves. -/
structure Faithful (first : Query) (queries : List Query) (moves : List Move) (w : Watching) : Prop where
  compressed : emissions first queries = reading first :: turns (readings first queries)
  distinct : (emissions first queries).IsChain (· ≠ ·)
  latest : (emissions first queries).getLast? = (readings first queries).getLast?
  sofar : w.emitted <+: emissions first queries
  complete : .stop ∉ moves → w.AtRest → w.received = emissions first queries
  ended : .stop ∈ moves ∨ .close ∈ moves → w.AtRest → w.phase = .ended
  comes : ∃ more w', (∀ m ∈ more, m.Own) ∧ w.run? more = some w' ∧ w'.AtRest
  bounded : ∀ more w', (∀ m ∈ more, m.Own) → w.run? more = some w' → more.length ≤ w.left

/-- What has been emitted so far is a beginning of the emissions of all answers. -/
theorem Watching.Kept.sofar {moves : List Move} {w : Watching} (h : Kept first moves w) :
    w.emitted <+: emissions first (moves.flatMap Move.arrivals) := by
  obtain ⟨looked, harrived, -, hstands⟩ := h.looked
  exact hstands.beginning.trans (emissions_mono ⟨w.pending, harrived⟩)

/-- At rest and not stopped, the reader has taken all of them. -/
theorem Watching.Kept.complete {moves : List Move} {w : Watching} (h : Kept first moves w)
    (hcalm : .stop ∉ moves) (hrest : w.AtRest) :
    w.received = emissions first (moves.flatMap Move.arrivals) := by
  rw [← emitted_of_atRest hrest]
  obtain hended | ⟨hphase, hpending, -⟩ := phase_of_atRest hrest
  · obtain hstopped | ⟨-, hall⟩ := h.ended hended
    · exact absurd (h.stopped.1 hstopped) hcalm
    · exact hall
  · obtain ⟨looked, harrived, -, hstands⟩ := h.looked
    rw [hpending, List.append_nil] at harrived
    rw [hphase] at hstands
    exact harrived ▸ hstands

/-- A watch that was stopped, or that nothing can notify any more, has ended when it is at rest. -/
theorem Watching.Kept.ends {moves : List Move} {w : Watching} (h : Kept first moves w)
    (hends : .stop ∈ moves ∨ .close ∈ moves) (hrest : w.AtRest) : w.phase = .ended := by
  obtain hended | ⟨-, -, hopen, hrunning⟩ := phase_of_atRest hrest
  · exact hended
  · rw [← h.stopped, ← h.closed, hopen, hrunning] at hends
    simp at hends

/-- Whatever a watch is told, and whatever it and its reader do, the changes are emitted: all of them, in
order, when it is not stopped, and otherwise a beginning of them. -/
theorem changes_emitted (first : Query) (moves : List Move) (w : Watching)
    (hrun : (start first).run? moves = some w) :
    Faithful first (moves.flatMap Move.arrivals) moves w := by
  have hkept := kept_run hrun
  exact {
    compressed := emissions_eq _ _
    distinct := by
      rw [emissions_eq]
      exact isChain_turns _ _
    latest := getLast?_emissions
    sofar := hkept.sofar
    complete := hkept.complete
    ended := hkept.ends
    comes := by
      obtain ⟨more, w', hown, hmore, hrest⟩ := Runs.exists_rest move? left_lt w
      exact ⟨more, w', hown, (run?_eq_foldlM w more).trans hmore, hrest⟩
    bounded := fun more w' hown hmore =>
      Runs.length_le move? left_lt hown (run?_eq_foldlM w more ▸ hmore) }

/-- The uplink flaps, is lost and comes back, and the reader falls behind. -/
def flapping : List Move :=
  [.notify (.ok "eth0"), .send, .look, .notify (.ok "wlan0"), .look, .read, .send,
    .notify (.error .noDefaultRoute), .notify (.ok "wlan0"), .look, .read, .send, .close, .look, .read,
    .send, .look, .read]

/-- Of a stretch of flapping, each change is emitted once, the loss of the uplink as an empty name. -/
theorem changes_emitted_demo :
    ∃ w, (start (.ok "eth0")).run? flapping = some w ∧
      w.received = ["eth0", "wlan0", "", "wlan0"] ∧
      Faithful (.ok "eth0") (flapping.flatMap Move.arrivals) flapping w := by
  have hruns : ((start (.ok "eth0")).run? flapping).map Watching.received =
      some ["eth0", "wlan0", "", "wlan0"] := by decide +kernel
  obtain ⟨w, hrun, hreceived⟩ := Option.map_eq_some_iff.1 hruns
  exact ⟨w, hrun, hreceived, changes_emitted (.ok "eth0") flapping w hrun⟩

end WorkloadNet.Route
