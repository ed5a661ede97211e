import WorkloadNet.Dns.ResolverFile
import WorkloadNet.Dns.Scripted

/-!
# Whom a query is put to and what comes back

The servers that a search has tried are the first ones of the list that was installed when it began, each
once and in order, up to the first with a usable response; that is the answer. A list without such a server
is tried as a whole, and the answer is the last response of any of them, or else that the server failed.

Nothing is assumed of the world in which servers are asked: while one is asked, any others may be installed.
-/

namespace WorkloadNet.Dns

variable {σ : Type} {query response : Message} {servers : List Endpoint} {last : Option Message}

namespace Attempt

/-- The response that an attempt came to. -/
def response? : Attempt → Option Message
  | answered response => some response
  | failed | timedOut => none

/-- An attempt that came to a response without an error and with an answer. -/
def Succeeds (a : Attempt) : Prop :=
  ∃ response, a = .answered response ∧ response.code = codeNoError ∧ response.answers ≠ []

theorem succeeds_answered : (answered response).Succeeds ↔ response.usable = true := by
  unfold Succeeds Message.usable
  simp

theorem not_succeeds_of_response? {a : Attempt} (h : a.response? = none) : ¬ a.Succeeds := by
  rintro ⟨response, rfl, -⟩
  cases h

end Attempt

/-- What a search among servers comes to, given its attempts in order and the last response before it. -/
inductive Outcome (query : Message) (last : Option Message) (servers : List Endpoint) :
    List (Endpoint × Attempt) → Message → Prop
  /-- The first usable response ends the search. -/
  | found {earlier : List (Endpoint × Attempt)} {server : Endpoint} {response : Message}
      (htried : earlier.map Prod.fst ++ [server] <+: servers)
      (hearlier : ∀ tried ∈ earlier, ¬ tried.2.Succeeds)
      (hsuccess : (Attempt.answered response).Succeeds) :
      Outcome query last servers (earlier ++ [(server, .answered response)]) response
  /-- Every server was tried, and this is the last response of any. -/
  | best {attempts : List (Endpoint × Attempt)} {response : Message}
      (htried : attempts.map Prod.fst = servers)
      (hnone : ∀ tried ∈ attempts, ¬ tried.2.Succeeds)
      (hlast : (attempts.filterMap fun tried => tried.2.response?).getLast?.or last = some response) :
      Outcome query last servers attempts response
  /-- Every server was tried, and there is no response. -/
  | silent {attempts : List (Endpoint × Attempt)} (htried : attempts.map Prod.fst = servers)
      (hnone : ∀ tried ∈ attempts, tried.2.response? = none) (hlast : last = none) :
      Outcome query last servers attempts
        { id := query.id, response := true, opcode := query.opcode,
          recursionDesired := query.recursionDesired, code := codeServerFailure,
          questions := query.questions }

theorem outcome_nil (query : Message) (last : Option Message) :
    Outcome query last [] [] (last.getD query.serverFailure) := by
  cases last with
  | none => exact .silent rfl (List.forall_mem_nil _) rfl
  | some response => exact .best rfl (List.forall_mem_nil _) rfl

/-- An attempt without success goes before the rest of the search, which remembers its response. -/
theorem Outcome.cons {attempts : List (Endpoint × Attempt)} {server : Endpoint} {attempt : Attempt}
    (h : Outcome query (attempt.response?.or last) servers attempts response)
    (hfails : ¬ attempt.Succeeds) :
    Outcome query last (server :: servers) ((server, attempt) :: attempts) response := by
  cases h with
  | @found earlier _ _ htried hearlier hsuccess =>
    have hprefix : ((server, attempt) :: earlier).map Prod.fst ++ [_] <+: server :: servers :=
      List.cons_prefix_cons.2 ⟨rfl, htried⟩
    exact .found hprefix (List.forall_mem_cons.2 ⟨hfails, hearlier⟩) hsuccess
  | best htried hnone hlast =>
    refine .best (congrArg (server :: ·) htried) (List.forall_mem_cons.2 ⟨hfails, hnone⟩) ?_
    rw [← hlast]
    cases hresponse : attempt.response? with
    | none => simp [hresponse]
    | some r =>
      cases hlater : (attempts.filterMap fun tried => tried.2.response?).getLast? <;>
        simp [hresponse, List.getLast?_cons, hlater]
  | silent htried hnone hlast =>
    obtain ⟨hresponse, hlast⟩ := Option.or_eq_none_iff.1 hlast
    exact .silent (congrArg (server :: ·) htried) (List.forall_mem_cons.2 ⟨hresponse, hnone⟩) hlast

namespace Client

variable {c : Client σ} {transport : Transport}

/-- Asks servers one after the other, all of them. -/
def askEach (c : Client σ) (query : Message) (transport : Transport) :
    List Endpoint → StateM σ (List (Endpoint × Attempt))
  | [], world => ([], world)
  | server :: rest, world =>
    let (attempt, world) := c.exchange query server transport world
    let (attempts, world) := c.askEach query transport rest world
    ((server, attempt) :: attempts, world)

/-- The attempts lead from one state to the other: asking their servers, each in the world that the one
before left, gives these attempts, and each is a call. -/
structure Attempted (c : Client σ) (query : Message) (transport : Transport) (s : Asked σ)
    (attempts : List (Endpoint × Attempt)) (s' : Asked σ) : Prop where
  world : c.askEach query transport (attempts.map Prod.fst) s.world = (attempts, s'.world)
  calls : s'.calls = (attempts.map fun tried => (tried.1, transport)).reverse ++ s.calls

/-- Without attempts nothing has changed. -/
theorem attempted_nil (s : Asked σ) : Attempted c query transport s [] s := ⟨rfl, rfl⟩

/-- One attempt and then others are attempts in a row. -/
theorem Attempted.cons {s s₁ s' : Asked σ} {server : Endpoint} {attempt : Attempt}
    {attempts : List (Endpoint × Attempt)}
    (hask : (c.ask query server transport).run s = (attempt, s₁))
    (h : Attempted c query transport s₁ attempts s') :
    Attempted c query transport s ((server, attempt) :: attempts) s' := by
  have hexchange : c.exchange query server transport s.world = (attempt, s₁.world) := by
    cases hask
    rfl
  have hcalls : s₁.calls = (server, transport) :: s.calls := by
    cases hask
    rfl
  refine ⟨?_, ?_⟩
  · rw [List.map_cons, askEach, hexchange]
    dsimp only
    rw [h.world]
  · rw [h.calls, hcalls]
    simp

/-- A search asks its first server, and goes on unless the response is usable. -/
theorem run_seek_cons (s : Asked σ) (server : Endpoint) :
    (c.seek query transport (server :: servers) last).run s =
      match (c.ask query server transport).run s with
      | (.answered response, s₁) =>
        if response.usable then (response, s₁)
        else (c.seek query transport servers (some response)).run s₁
      | (_, s₁) => (c.seek query transport servers last).run s₁ := by
  rw [seek, StateT.run_bind]
  rcases (c.ask query server transport).run s with ⟨attempt, s₁⟩
  cases attempt with
  | answered response =>
    change StateT.run (if response.usable = true then pure response
      else c.seek query transport servers (some response)) s₁ = _
    dsimp only
    split <;> rfl
  | failed => rfl
  | timedOut => rfl

/-- A search makes attempts that lead to its last state, and its answer is what they come to. -/
theorem seek_outcome (c : Client σ) (query : Message) (transport : Transport)
    (servers : List Endpoint) (last : Option Message) (s : Asked σ) :
    ∃ attempts,
      Attempted c query transport s attempts ((c.seek query transport servers last).run s).2 ∧
      Outcome query last servers attempts ((c.seek query transport servers last).run s).1 := by
  induction servers generalizing last s with
  | nil => exact ⟨[], attempted_nil s, outcome_nil query last⟩
  | cons server rest ih =>
    rcases hask : (c.ask query server transport).run s with ⟨attempt, s₁⟩
    rw [run_seek_cons, hask]
    -- Without success the rest of the list is searched, with the response of this attempt if it has one.
    have hgoes : ¬ attempt.Succeeds → ∃ attempts,
        Attempted c query transport s attempts
          ((c.seek query transport rest (attempt.response?.or last)).run s₁).2 ∧
        Outcome query last (server :: rest) attempts
          ((c.seek query transport rest (attempt.response?.or last)).run s₁).1 := by
      intro hfails
      obtain ⟨attempts, hattempted, hrest⟩ := ih (attempt.response?.or last) s₁
      exact ⟨(server, attempt) :: attempts, hattempted.cons hask, hrest.cons hfails⟩
    cases attempt with
    | answered response =>
      dsimp only
      by_cases husable : response.usable = true
      · rw [if_pos husable]
        have hprefix : ([] : List (Endpoint × Attempt)).map Prod.fst ++ [server] <+: server :: rest :=
          List.prefix_append [server] rest
        exact ⟨[] ++ [(server, .answered response)], (attempted_nil s₁).cons hask,
          .found hprefix (List.forall_mem_nil _) (Attempt.succeeds_answered.2 husable)⟩
      · rw [if_neg husable]
        exact hgoes fun h => husable (Attempt.succeeds_answered.1 h)
    | failed => exact hgoes (Attempt.not_succeeds_of_response? rfl)
    | timedOut => exact hgoes (Attempt.not_succeeds_of_response? rfl)

/-- The attempts of a search and its answer are those of the policy, for the servers that are installed when
it begins and whatever asking one of them does to the world, other servers installed included. -/
theorem resolve_follows_policy (c : Client σ) (query : Message) (transport : Transport)
    (s : Asked σ) :
    ∃ attempts,
      Attempted c query transport s attempts ((c.resolve query transport).run s).2 ∧
      Outcome query none (c.servers s.world) attempts ((c.resolve query transport).run s).1 :=
  seek_outcome c query transport (c.servers s.world) none s

/-- While the first of two servers is asked, a third is installed instead of both: the second is asked next,
and the third not at all. -/
example :
    let server (n : UInt32) : Endpoint := .ofV4 ⟨n⟩ serverPort
    let world : Scripted :=
      { servers := [server 1, server 2], script := [(server 1, ⟨some [server 3], .hang⟩)] }
    let result := (Scripted.client.resolve { id := 7 } .udp).run ⟨world, []⟩
    result.2.calls = [(server 2, .udp), (server 1, .udp)] ∧ result.2.world.servers = [server 3] ∧
      result.1 = Message.serverFailure { id := 7 } := by
  decide

end Client

end WorkloadNet.Dns
