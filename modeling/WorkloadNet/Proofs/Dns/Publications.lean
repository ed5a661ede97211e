import Mathlib.Data.List.Chain
import Mathlib.Data.List.Induction
import WorkloadNet.Dns.Watch
import WorkloadNet.Proofs.Dns.Members

/-!
# What is published about a resolver file

An event in the directory of a resolver file concerns the file when it names the file and is no mere access;
the file is then read. `publications` says which readings are published: the first one, and after that each
that is no permutation of the list published last. These are the lists of the sets that the watch publishes.
-/

namespace WorkloadNet.Dns.Watch

open Text

variable {path base : String} {first : ServerSet} {current servers : List Endpoint}

/-! ## Readings -/

/-- What happens in the directory of a resolver file. -/
inductive Event where
  /-- The watch met an error. -/
  | failed
  /-- Files of these names were touched, or only read; the resolver file then holds this. -/
  | touched (access : Bool) (names : List String) (content : FileContent)

namespace Event

/-- What the watch is told. -/
def report (path : String) : Event → Report
  | failed => .failed
  | touched access names content => .touched access names (ServerSet.ofFile path content)

/-- The servers that are read when the event concerns the file. -/
def reading? (path base : String) : Event → Option (List Endpoint)
  | failed => none
  | touched access names content =>
    if access = false ∧ base ∈ names then some (ServerSet.ofFile path content).endpoints else none

end Event

/-- The lists published so far, and one more when the event leads to a reading that is no permutation of
the last. -/
def republish (path base : String) (lists : List (List Endpoint)) (e : Event) : List (List Endpoint) :=
  match e.reading? path base with
  | none => lists
  | some next => if (lists.getLast?.getD []).Perm next then lists else lists ++ [next]

/-- The lists that are published on a file that holds this first, over these events. -/
def publications (path base : String) (content : FileContent) (events : List Event) :
    List (List Endpoint) :=
  events.foldl (republish path base) [(ServerSet.ofFile path content).endpoints]

/-- The servers that were read last. -/
def lastReading (path base : String) (content : FileContent) (events : List Event) : List Endpoint :=
  (events.filterMap (Event.reading? path base)).getLast?.getD (ServerSet.ofFile path content).endpoints

variable {content : FileContent} {events : List Event} {e : Event} {report : Report} {set : ServerSet}

theorem publications_snoc : publications path base content (events ++ [e]) =
    republish path base (publications path base content events) e :=
  List.foldl_concat _ _ _ _

theorem publications_ne_nil : publications path base content events ≠ [] := by
  induction events using List.reverseRecOn with
  | nil => exact List.cons_ne_nil _ _
  | append_singleton events e ih =>
    rw [publications_snoc, republish]
    split
    · exact ih
    · split
      · exact ih
      · simp

/-- No list is published that is a permutation of the one before it. -/
theorem isChain_publications :
    (publications path base content events).IsChain fun a b => ¬ a.Perm b := by
  induction events using List.reverseRecOn with
  | nil => exact .singleton _
  | append_singleton events e ih =>
    rw [publications_snoc, republish]
    split
    · exact ih
    · rename_i next hreading
      split
      · exact ih
      · rename_i hnew
        refine List.isChain_append.2 ⟨ih, .singleton _, fun last hlast b hb => ?_⟩
        obtain rfl : next = b := by simpa using hb
        rw [hlast] at hnew
        exact hnew

theorem perm_lastReading (path base : String) (content : FileContent) (events : List Event) :
    ((publications path base content events).getLast?.getD []).Perm
      (lastReading path base content events) := by
  induction events using List.reverseRecOn with
  | nil => exact .refl _
  | append_singleton events e ih =>
    unfold lastReading at ih ⊢
    rw [publications_snoc, republish, List.filterMap_append]
    cases hreading : e.reading? path base with
    | none => simpa [hreading] using ih
    | some next =>
      have hlast : (events.filterMap (Event.reading? path base) ++
          [e].filterMap (Event.reading? path base)).getLast? = some next := by simp [hreading]
      rw [hlast]
      dsimp only
      split
      · assumption
      · simp

/-- After any events, the list published last is a permutation of what was read last. -/
theorem exists_last_publication (path base : String) (content : FileContent) (events : List Event) :
    ∃ last, (publications path base content events).getLast? = some last ∧
      last.Perm (lastReading path base content events) := by
  have hperm := perm_lastReading path base content events
  cases hlast : (publications path base content events).getLast? with
  | none => exact absurd (List.getLast?_eq_none_iff.1 hlast) publications_ne_nil
  | some last =>
    rw [hlast] at hperm
    exact ⟨last, rfl, hperm⟩

/-! ## The sets that the watch publishes -/

/-- The servers of the set that stands after reports. -/
def standing (base : String) (current : List Endpoint) (reports : List Report) : List Endpoint :=
  reports.foldl (fun current report => ((change? base current report).map (·.endpoints)).getD current)
    current

theorem standing_snoc (base : String) (current : List Endpoint) (reports : List Report)
    (report : Report) :
    standing base current (reports ++ [report]) =
      ((change? base (standing base current reports) report).map (·.endpoints)).getD
        (standing base current reports) :=
  List.foldl_concat _ _ _ _

theorem changes_append {reports more : List Report} :
    changes base current (reports ++ more) =
      changes base current reports ++ changes base (standing base current reports) more := by
  induction reports generalizing current with
  | nil => rfl
  | cons report rest ih =>
    rw [List.cons_append, changes, changes, standing, List.foldl_cons]
    cases change? base current report with
    | none => exact ih
    | some next => exact congrArg (next :: ·) ih

theorem published_mono {reports more : List Report} (h : reports <+: more) :
    published base first reports <+: published base first more := by
  obtain ⟨rest, rfl⟩ := h
  rw [published, published, changes_append, ← List.cons_append]
  exact List.prefix_append _ _

theorem published_snoc (base : String) (first : ServerSet) (reports : List Report) (report : Report) :
    published base first (reports ++ [report]) = published base first reports ++
      (change? base (standing base first.endpoints reports) report).toList := by
  unfold published
  rw [changes_append, List.cons_append]
  congr 2
  rw [changes]
  cases change? base (standing base first.endpoints reports) report <;> rfl

theorem getLast?_published (base : String) (first : ServerSet) (reports : List Report) :
    ((published base first reports).map (·.endpoints)).getLast? =
      some (standing base first.endpoints reports) := by
  induction reports using List.reverseRecOn with
  | nil => rfl
  | append_singleton reports report ih =>
    rw [published_snoc, standing_snoc, List.map_append]
    cases change? base (standing base first.endpoints reports) report with
    | none => simpa using ih
    | some next => simp

/-- The watch reads the file on the events that concern it. -/
theorem reading?_report : ((e.report path).reading? base).map (·.endpoints) = e.reading? path base := by
  cases e with
  | failed => rfl
  | touched access names content =>
    have hrelevant : (!access && names.contains base) = true ↔ access = false ∧ base ∈ names := by simp
    unfold Event.report Report.reading? Event.reading?
    dsimp only
    simp only [hrelevant]
    split <;> rfl

/-- A reading replaces the servers that stand unless it is a permutation of them. -/
theorem change?_report (path base : String) (current : List Endpoint) (e : Event) :
    (change? base current (e.report path)).map (·.endpoints) =
    match e.reading? path base with
    | none => none
    | some next => if current.Perm next then none else some next := by
  rw [← reading?_report, change?]
  cases (e.report path).reading? base with
  | none => rfl
  | some set =>
    by_cases hperm : current.Perm set.endpoints
    · simp [hperm, sameMembers_iff_perm.2 hperm]
    · simp [hperm, mt sameMembers_iff_perm.1 hperm]

/-- The watch publishes the lists that are to be published. -/
theorem map_published :
    (published base (ServerSet.ofFile path content) (events.map (Event.report path))).map
      (·.endpoints) = publications path base content events := by
  induction events using List.reverseRecOn with
  | nil => rfl
  | append_singleton events e ih =>
    have hlast := getLast?_published base (ServerSet.ofFile path content)
      (events.map (Event.report path))
    rw [ih] at hlast
    have hchange := change?_report path base (standing base (ServerSet.ofFile path content).endpoints
      (events.map (Event.report path))) e
    rw [List.map_append, List.map_singleton, published_snoc, List.map_append, ih, publications_snoc,
      republish, hlast, ← Option.toList_map, hchange]
    cases e.reading? path base with
    | none => simp
    | some next =>
      dsimp only [Option.getD_some]
      split <;> simp

/-! ## The last value -/

/-- A reading is not the last value of a publication. -/
theorem isTerminal_ofFile : (ServerSet.ofFile path content).isTerminal = false := by
  unfold ServerSet.ofFile readFile
  cases content with
  | error cause => rfl
  | ok bytes =>
    dsimp only
    cases String.fromUTF8? bytes <;> rfl

theorem isTerminal_of_change? (h : change? base current (e.report path) = some set) :
    set.isTerminal = false := by
  cases e with
  | failed => cases h
  | touched access names content =>
    obtain ⟨hreading, -⟩ := Option.filter_eq_some_iff.1 h
    rw [Event.report, Report.reading?] at hreading
    obtain ⟨-, hset⟩ := Option.ite_none_right_eq_some.1 hreading
    obtain rfl := Option.some.inj hset
    exact isTerminal_ofFile

/-- Nothing that is published about a file ends the publication. -/
theorem isTerminal_of_mem_published
    (h : set ∈ published base (ServerSet.ofFile path content) (events.map (Event.report path))) :
    set.isTerminal = false := by
  induction events using List.reverseRecOn with
  | nil =>
    obtain rfl := List.mem_singleton.1 h
    exact isTerminal_ofFile
  | append_singleton events e ih =>
    rw [List.map_append, List.map_singleton, published_snoc, List.mem_append] at h
    rcases h with h | h
    · exact ih h
    · exact isTerminal_of_change? (Option.mem_toList.1 h)

theorem follow_append {sets more : List ServerSet} :
    follow servers (sets ++ more) = follow (follow servers sets) more := List.foldl_append

/-- Among sets none of which is the last value, the servers of the latest are in use. -/
theorem follow_of_not_terminal {sets : List ServerSet} (h : ∀ set ∈ sets, set.isTerminal = false) :
    follow servers sets = (sets.map (·.endpoints)).getLast?.getD servers := by
  unfold follow
  induction sets using List.reverseRecOn with
  | nil => rfl
  | append_singleton sets set ih =>
    rw [List.foldl_concat, installed, h set (by simp)]
    simp

end WorkloadNet.Dns.Watch
