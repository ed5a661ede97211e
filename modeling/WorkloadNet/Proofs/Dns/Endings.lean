import WorkloadNet.Proofs.Dns.Watching

/-!
# How a watch ends

A watch that is cancelled, or whose reports end, comes to its end whatever it and its reader do first, and
its reader then takes every value. The last of them, and no other, tells why the watch ended, provided that
the first set has been put into the channel. A watch that sees its cancellation before that ends without a
value.
-/

namespace WorkloadNet.Dns.Watch

open Text

variable {path base : String} {set : ServerSet} {sets : List ServerSet} {events : List Event}

/-! ## Values that are not the last -/

/-- A report after which the file reads as a set that does not end the publication. -/
def Report.Passing (base : String) (r : Report) : Prop :=
  ∀ set, r.reading? base = some set → set.isTerminal = false

theorem passing_report (e : Event) : (e.report path).Passing base := by
  intro set hreading
  cases e with
  | failed => cases hreading
  | touched access names content =>
    obtain ⟨-, hset⟩ := Option.ite_none_right_eq_some.1 hreading
    obtain rfl := Option.some.inj hset
    exact isTerminal_ofFile

/-- Sets of which none ends the publication, and of which there is at least one. -/
def Running (sets : List ServerSet) : Prop := sets ≠ [] ∧ ∀ set ∈ sets, set.isTerminal = false

/-- Sets of which the last one, and only that, ends the publication. -/
def Concluded (sets : List ServerSet) : Prop :=
  ∃ early reason, sets = early ++ [ServerSet.terminal reason] ∧ ∀ set ∈ early, set.isTerminal = false

theorem Concluded.ne_nil (h : Concluded sets) : sets ≠ [] := by
  obtain ⟨early, reason, rfl, -⟩ := h
  simp

theorem Running.snoc (h : ∀ set ∈ sets, set.isTerminal = false) (hset : set.isTerminal = false) :
    Running (sets ++ [set]) :=
  ⟨by simp, List.forall_mem_append.2 ⟨h, List.forall_mem_singleton.2 hset⟩⟩

/-- What a watch in a phase has put into the channel. -/
def Phase.Stands (cancelled : Bool) (put : List ServerSet) : Phase → Prop
  | opening first => put = [] ∧ first.isTerminal = false
  | waiting | closing _ => Running put
  | offering next => Running put ∧ next.isTerminal = false
  | ended => (put = [] ∧ cancelled = true) ∨ Concluded put

/-- A bound on the moves that a phase still takes, cancelled or not. -/
def Phase.left : Phase → Nat
  | opening _ | offering _ => 5
  | waiting => 3
  | closing _ => 2
  | ended => 0

namespace Watching

variable {w w' : Watching} {m : Move} {past moves : List Move}

/-! ## What has been put into the channel -/

/-- The values put into the channel so far. -/
def put (w : Watching) : List ServerSet := w.received ++ w.channel.toList

theorem put_of_empty (h : w.channel = none) : w.put = w.received := by simp [put, h]

/-- The watch has put out what it should in its phase. -/
def Stands (w : Watching) : Prop := w.phase.Stands w.cancelled w.put

theorem Stands.of_phase {phase : Phase} (h : w.Stands) (hphase : w.phase = phase) :
    phase.Stands w.cancelled w.put := hphase ▸ h

/-- A move leaves the channel as the phase that it leads to has it. -/
theorem Stands.move (h : w.Stands) (hpending : ∀ r ∈ w.pending, r.Passing base)
    (hmove : w.move? base m = some w') : w'.Stands := by
  cases made hmove with
  | cancel =>
    change w.phase.Stands true w.put
    cases hphase : w.phase with
    | ended =>
      have hended := h.of_phase hphase
      exact hended.imp_left fun hsilent => ⟨hsilent.1, rfl⟩
    | opening | waiting | offering | closing => exact (h.of_phase hphase :)
  | report | close => exact h
  | @change r rest next hphase hready hchange =>
    have hreading := (Option.filter_eq_some_iff.1 hchange).1
    exact ⟨h.of_phase hphase, hpending r (hready ▸ List.mem_cons_self) next hreading⟩
  | keep => exact h
  | finish hphase => exact (h.of_phase hphase :)
  | first hphase hroom =>
    obtain ⟨hnone, hfirst⟩ := h.of_phase hphase
    rw [put_of_empty hroom] at hnone
    exact Running.snoc (by simp [hnone]) hfirst
  | next hphase hroom =>
    obtain ⟨⟨-, hearlier⟩, hnext⟩ := h.of_phase hphase
    rw [put_of_empty hroom] at hearlier
    exact Running.snoc hearlier hnext
  | @last reason hphase hroom =>
    obtain ⟨-, hearlier⟩ := h.of_phase hphase
    rw [put_of_empty hroom] at hearlier
    exact .inr ⟨w.received, reason, rfl, hearlier⟩
  | leave hcancelled hphase => exact .inl ⟨(h.of_phase hphase).1, hcancelled⟩
  | heed hcancelled hphase =>
    have hrunning : Running w.put := by
      obtain hphase | ⟨set, hphase⟩ := hphase
      · exact h.of_phase hphase
      · exact (h.of_phase hphase).1
    exact hrunning
  | read hchannel => simpa [Stands, put, hchannel] using h

/-! ## What the moves so far say -/

/-- Only a cancellation cancels a watch. -/
theorem cancelled_iff (hmove : w.move? base m = some w') :
    w'.cancelled = true ↔ w.cancelled = true ∨ .cancel = m := by
  cases made hmove <;> simp

/-- Only the end of the reports closes a watch. -/
theorem closed_iff (hmove : w.move? base m = some w') :
    w'.closed = true ↔ w.closed = true ∨ .close = m := by
  cases made hmove <;> simp

/-- Only by sending does a watch put something out. -/
theorem put_ne_nil_iff (hmove : w.move? base m = some w') :
    w'.put ≠ [] ↔ w.put ≠ [] ∨ .send = m := by
  cases made hmove with
  | read hchannel => simp [put, hchannel]
  | _ => simp [put]

theorem mem_pending {r : Report} (hmove : w.move? base m = some w') (hr : r ∈ w'.pending) :
    r ∈ w.pending ∨ r ∈ m.arrivals := by
  cases made hmove with
  | report => exact List.mem_append.1 hr
  | change hphase hpending | keep hphase hpending => exact .inl (hpending ▸ List.mem_cons_of_mem _ hr)
  | _ => exact .inl hr

/-- What holds of a watch after these moves. -/
structure Told (past : List Move) (w : Watching) : Prop where
  stands : w.Stands
  pending : ∀ r ∈ w.pending, r ∈ past.flatMap Move.arrivals
  sent : w.put ≠ [] ↔ .send ∈ past
  cancelled : w.cancelled = true ↔ .cancel ∈ past
  closed : w.closed = true ↔ .close ∈ past

/-- At the start nothing has been put out. -/
theorem told_start {first : ServerSet} (h : first.isTerminal = false) : Told [] (start first) where
  stands := ⟨rfl, h⟩
  pending := nofun
  sent := by simp [put, start]
  cancelled := by simp [start]
  closed := by simp [start]

/-- A move leads from what holds after the moves before it to what holds with it. -/
theorem Told.move (h : Told past w) (hpassing : ∀ r ∈ past.flatMap Move.arrivals, r.Passing base)
    (hmove : w.move? base m = some w') : Told (past ++ [m]) w' where
  stands := h.stands.move (fun r hr => hpassing r (h.pending r hr)) hmove
  pending r hr := by
    rw [List.flatMap_append, List.mem_append]
    exact (mem_pending hmove hr).imp (h.pending r) (by simp)
  sent := by rw [put_ne_nil_iff hmove, h.sent, List.mem_append, List.mem_singleton]
  cancelled := by rw [cancelled_iff hmove, h.cancelled, List.mem_append, List.mem_singleton]
  closed := by rw [closed_iff hmove, h.closed, List.mem_append, List.mem_singleton]

/-- After every run, what should hold of the watch does. -/
theorem told_run {first : ServerSet} (hfirst : first.isTerminal = false)
    (hpassing : ∀ r ∈ moves.flatMap Move.arrivals, r.Passing base)
    (hrun : (start first).run? base moves = some w) : Told moves w := by
  rw [run?_eq_foldlM] at hrun
  refine Runs.of_move (move? base)
    (P := fun past w => (∀ r ∈ past.flatMap Move.arrivals, r.Passing base) → Told past w)
    (fun hpast hmove hpassing => ?_) (fun _ => told_start hfirst) hrun hpassing
  have hearlier := fun r hr => hpassing r (List.flatMap_append ▸ List.mem_append_left _ hr)
  exact (hpast hearlier).move hearlier hmove

/-! ## Coming to the end -/

/-- The moves that a watch and its reader make, cancelled or not. -/
def Move.Own (m : Move) : Prop := m.Internal ∨ m = .heed

/-- The watch and its reader have nothing left to do. -/
def AtRest (base : String) (w : Watching) : Prop := ∀ m : Move, m.Own → w.move? base m = none

/-- A bound on the moves of the watch and of its reader that are left, cancelled or not. -/
def left (w : Watching) : Nat :=
  3 * w.pending.length + w.phase.left + w.channel.toList.length

/-- With every move of the watch or of its reader less is left to do, cancelled or not. -/
theorem left_lt (hmove : w.move? base m = some w') (hm : m.Own) : w'.left < w.left := by
  cases made hmove with
  | cancel | report | close => simp [Move.Own, Move.Internal] at hm
  | change hphase hpending =>
    simp only [left, Phase.left, hphase, hpending, List.length_cons]
    omega
  | keep hphase hpending =>
    simp only [left, hpending, List.length_cons]
    omega
  | finish hphase => simp [left, Phase.left, hphase]
  | first hphase hroom | next hphase hroom | last hphase hroom =>
    simp [left, Phase.left, hphase, hroom]
  | leave hcancelled hphase => simp [left, Phase.left, hphase]
  | heed hcancelled hphase =>
    obtain hphase | ⟨set, hphase⟩ := hphase <;> simp [left, Phase.left, hphase]
  | read hchannel => simp [left, hchannel]

theorem channel_of_atRest (h : w.AtRest base) : w.channel = none :=
  Option.map_eq_none_iff.1 (h .read (.inl (.inr (.inr rfl))))

/-- A watch that is cancelled, or whose reports end, does not rest before it has ended. -/
theorem phase_of_atRest (h : w.AtRest base) (hends : w.cancelled = true ∨ w.closed = true) :
    w.phase = .ended := by
  have hchannel := channel_of_atRest h
  have hlook := h .look (.inl (.inl rfl))
  have hsend := h .send (.inl (.inr (.inl rfl)))
  have hheed := h .heed (.inr rfl)
  cases hphase : w.phase with
  | opening | offering | closing => simp [move?, hphase, hchannel] at hsend
  | waiting =>
    obtain hcancelled | hclosed := hends
    · simp [move?, hphase, hcancelled] at hheed
    · cases hpending : w.pending with
      | nil => simp [move?, hphase, hpending, hclosed] at hlook
      | cons r rest =>
        simp only [move?, hphase, hpending] at hlook
        split at hlook <;> cases hlook
  | ended => rfl

end Watching

/-! ## The last value -/

open Watching

/-- How a watch that is cancelled, or whose reports end, comes to its end after these moves. -/
structure Ending (base : String) (moves : List Move) (w : Watching) : Prop where
  sofar : (∀ set ∈ w.put, set.isTerminal = false) ∨ Concluded w.put
  comes : ∃ more w', (∀ m ∈ more, m.Own) ∧ w.run? base more = some w' ∧ w'.AtRest base
  bounded : ∀ more w', (∀ m ∈ more, m.Own) → w.run? base more = some w' → more.length ≤ w.left
  ended : w.AtRest base → w.phase = .ended
  concluded_iff : w.AtRest base → (Concluded w.received ↔ .send ∈ moves)
  silent : w.AtRest base → .send ∉ moves → w.received = [] ∧ .cancel ∈ moves

/-- What is out ends with the value that ends the publication, or holds no such value. -/
theorem Watching.Told.sofar {moves : List Move} {w : Watching} (h : Told moves w) :
    (∀ set ∈ w.put, set.isTerminal = false) ∨ Concluded w.put := by
  have hstands := h.stands
  cases hphase : w.phase with
  | opening =>
    obtain ⟨hnone, -⟩ := hstands.of_phase hphase
    exact .inl (by simp [hnone])
  | waiting | closing => exact .inl (hstands.of_phase hphase).2
  | offering => exact .inl (hstands.of_phase hphase).1.2
  | ended => exact (hstands.of_phase hphase).imp_left fun hsilent => by simp [hsilent.1]

/-- A watch that is cancelled, or whose reports end, comes to its end. Its reader then has taken values of
which the last one, and only that, ends the publication, exactly if the first set was put into the channel;
otherwise the watch was cancelled before that, and there is no value at all. -/
theorem concluded_iff_opened (path base : String) (content : FileContent) (events : List Event)
    (moves : List Move) (w : Watching)
    (hrun : (start (ServerSet.ofFile path content)).run? base moves = some w)
    (harrived : moves.flatMap Move.arrivals = events.map (Event.report path))
    (hends : .cancel ∈ moves ∨ .close ∈ moves) : Ending base moves w := by
  have hpassing : ∀ r ∈ moves.flatMap Move.arrivals, r.Passing base := by
    rw [harrived]
    exact List.forall_mem_map.2 fun e _ => passing_report e
  have htold := told_run isTerminal_ofFile hpassing hrun
  have hstopped : w.cancelled = true ∨ w.closed = true :=
    hends.imp htold.cancelled.2 htold.closed.2
  -- At rest the reader has taken whatever was put into the channel.
  have hrest (h : w.AtRest base) :
      (w.received = [] ∧ w.cancelled = true) ∨ Concluded w.received := by
    rw [← put_of_empty (channel_of_atRest h)]
    exact htold.stands.of_phase (phase_of_atRest h hstopped)
  have hsent (h : w.AtRest base) : w.received ≠ [] ↔ .send ∈ moves := by
    rw [← put_of_empty (channel_of_atRest h)]
    exact htold.sent
  exact {
    sofar := htold.sofar
    comes := by
      obtain ⟨more, w', hown, hmore, hdone⟩ := Runs.exists_rest (move? base) left_lt w
      exact ⟨more, w', hown, (run?_eq_foldlM w more).trans hmore, hdone⟩
    bounded := fun more w' hown hmore =>
      Runs.length_le (move? base) left_lt hown (run?_eq_foldlM w more ▸ hmore)
    ended := fun h => phase_of_atRest h hstopped
    concluded_iff := fun h =>
      ⟨fun hconcluded => (hsent h).1 hconcluded.ne_nil,
        fun hsend => (hrest h).resolve_left fun hsilent => (hsent h).2 hsend hsilent.1⟩
    silent := fun h hunsent => by
      obtain ⟨hnone, hcancelled⟩ | hconcluded := hrest h
      · exact ⟨hnone, htold.cancelled.1 hcancelled⟩
      · exact absurd ((hsent h).1 hconcluded.ne_nil) hunsent }

/-- The file names another server, and the watch is cancelled while it waits for room in the channel. -/
def interruptedMoves : List Move :=
  [.send, .report (Event.report "/etc/resolv.conf" (.touched false ["resolv.conf"]
    (fileOfText "nameserver 10.0.0.2"))), .look, .cancel, .heed, .read, .send, .read]

/-- A watch with one set out is cancelled, and its reader takes that set and the last value. -/
theorem concluded_iff_opened_demo :
    ∃ w, (start (ServerSet.ofFile "/etc/resolv.conf" (fileOfText "nameserver 10.0.0.1"))).run?
        "resolv.conf" interruptedMoves = some w ∧
      interruptedMoves.flatMap Move.arrivals =
        [Event.touched false ["resolv.conf"] (fileOfText "nameserver 10.0.0.2")].map
          (Event.report "/etc/resolv.conf") ∧
      .cancel ∈ interruptedMoves ∧ w.received.map (·.isTerminal) = [false, true] ∧
      Ending "resolv.conf" interruptedMoves w := by
  have hruns : ((start (ServerSet.ofFile "/etc/resolv.conf" (fileOfText "nameserver 10.0.0.1"))).run?
      "resolv.conf" interruptedMoves).map (fun w => w.received.map (·.isTerminal)) =
      some [false, true] := by decide +kernel
  obtain ⟨w, hrun, hreceived⟩ := Option.map_eq_some_iff.1 hruns
  have hcancel : .cancel ∈ interruptedMoves := by simp [interruptedMoves]
  exact ⟨w, hrun, rfl, hcancel, hreceived,
    concluded_iff_opened "/etc/resolv.conf" "resolv.conf" (fileOfText "nameserver 10.0.0.1")
      [.touched false ["resolv.conf"] (fileOfText "nameserver 10.0.0.2")] interruptedMoves w hrun rfl
      (.inl hcancel)⟩

/-- A watch that sees its cancellation before it has published anything ends without a value. -/
theorem early_cancellation_silent :
    ¬ ∀ (path base : String) (content : FileContent) (events : List Event) (moves : List Move)
      (w : Watching), (start (ServerSet.ofFile path content)).run? base moves = some w →
      moves.flatMap Move.arrivals = events.map (Event.report path) →
      .cancel ∈ moves ∨ .close ∈ moves → w.AtRest base → Concluded w.received := by
  intro h
  have hrest : AtRest "resolv.conf" { start (ServerSet.ofFile "/etc/resolv.conf"
      (fileOfText "nameserver 10.0.0.1")) with phase := .ended, cancelled := true } := by
    rintro m ((rfl | rfl | rfl) | rfl) <;> rfl
  have hconcluded := h "/etc/resolv.conf" "resolv.conf" (fileOfText "nameserver 10.0.0.1") []
    [.cancel, .heed] _ rfl rfl (.inl (by simp)) hrest
  exact hconcluded.ne_nil rfl

end WorkloadNet.Dns.Watch
