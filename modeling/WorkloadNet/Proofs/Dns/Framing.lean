import Mathlib.Data.List.Basic
import WorkloadNet.Dns.Frame

/-!
# What a server writes to a stream

A stream is the frames of the messages that are there in full, and a rest without a full frame. A server
answers the messages in order, each with one frame, up to the first that its handler does not answer with
something that fits into a frame. The frames that it has written say exactly what the handler answered.
-/

namespace WorkloadNet.Dns

/-! ## Numbers of sixteen bits -/

namespace Wire

theorem toNat_wordOf (high low : UInt8) :
    (wordOf high low).toNat = high.toNat * 256 + low.toNat := by
  have hlow : low.toNat < 2 ^ 8 := low.toNat_lt
  have hhigh : high.toNat < 2 ^ 8 := high.toNat_lt
  have hshift : high.toNat <<< 8 % 2 ^ 16 = high.toNat <<< 8 := by
    rw [Nat.shiftLeft_eq]
    omega
  unfold wordOf
  simp only [UInt16.toNat_or, UInt16.toNat_shiftLeft, UInt8.toNat_toUInt16]
  rw [show (8 : UInt16).toNat % 16 = 8 from rfl, hshift, ← Nat.shiftLeft_add_eq_or_of_lt hlow,
    Nat.shiftLeft_eq]

theorem wordOf_wordOctets (w : UInt16) : wordOf (w >>> 8).toUInt8 w.toUInt8 = w := by
  have hw : w.toNat < 2 ^ 16 := w.toNat_lt
  apply UInt16.toNat_inj.1
  rw [toNat_wordOf]
  simp [Nat.shiftRight_eq_div_pow]
  omega

theorem wordOctets_wordOf (high low : UInt8) : wordOctets (wordOf high low) = [high, low] := by
  have hlow : low.toNat < 2 ^ 8 := low.toNat_lt
  have hhigh : high.toNat < 2 ^ 8 := high.toNat_lt
  have hfirst : (wordOf high low >>> 8).toUInt8 = high := by
    apply UInt8.toNat_inj.1
    simp [toNat_wordOf, Nat.shiftRight_eq_div_pow]
    omega
  have hsecond : (wordOf high low).toUInt8 = low := by
    apply UInt8.toNat_inj.1
    simp [toNat_wordOf]
  rw [wordOctets, hfirst, hsecond]

end Wire

namespace Frame

open Wire

/-! ## Single frames -/

/-- A message that fits into a frame. -/
def Fits (message : List UInt8) : Prop := message.length ≤ mostOctets

/-- The octets of a frame: the length of a message and the message. -/
def octets (message : List UInt8) : List UInt8 :=
  wordOctets (UInt16.ofNat message.length) ++ message

/-- A stream that does not begin with a full frame. -/
def Unframed (stream : List UInt8) : Prop :=
  ∀ message rest, Fits message → stream ≠ octets message ++ rest

section Single

variable {message rest stream : List UInt8}

theorem of?_of_fits (h : Fits message) : of? message = some (octets message) := if_pos h

theorem of?_of_not_fits (h : ¬ Fits message) : of? message = none := if_neg h

theorem toNat_length (h : Fits message) : (UInt16.ofNat message.length).toNat = message.length := by
  unfold Fits mostOctets at h
  rw [UInt16.toNat_ofNat']
  exact Nat.mod_eq_of_lt (by omega)

/-- A frame is read back, and what follows it is left. -/
theorem split?_octets (h : Fits message) (rest : List UInt8) :
    split? (octets message ++ rest) = some (message, rest) := by
  have hsize := toNat_length h
  unfold octets wordOctets
  simp only [List.cons_append, List.nil_append, split?, wordOf_wordOctets, hsize]
  simp

/-- What is read was a frame. -/
theorem eq_of_split? (h : split? stream = some (message, rest)) :
    Fits message ∧ stream = octets message ++ rest := by
  match stream, h with
  | high :: low :: tail, h =>
    simp only [split?] at h
    split at h
    · rename_i hsize
      obtain ⟨rfl, rfl⟩ := Prod.mk.inj (Option.some.inj h)
      have hword : (wordOf high low).toNat < 2 ^ 16 := (wordOf high low).toNat_lt
      have hlength : (tail.take (wordOf high low).toNat).length = (wordOf high low).toNat :=
        List.length_take_of_le hsize
      refine ⟨?_, ?_⟩
      · unfold Fits mostOctets
        omega
      · rw [octets, hlength, UInt16.ofNat_toNat, wordOctets_wordOf, List.append_assoc,
          List.take_append_drop]
        rfl
    · cases h

theorem split?_eq_some_iff :
    split? stream = some (message, rest) ↔ Fits message ∧ stream = octets message ++ rest := by
  constructor
  · exact eq_of_split?
  · rintro ⟨hfits, rfl⟩
    exact split?_octets hfits rest

theorem split?_eq_none_iff : split? stream = none ↔ Unframed stream := by
  rw [Option.eq_none_iff_forall_ne_some]
  constructor
  · intro h message rest hfits hstream
    exact h (message, rest) (split?_eq_some_iff.2 ⟨hfits, hstream⟩)
  · intro h (message, rest) hsplit
    obtain ⟨hfits, hstream⟩ := split?_eq_some_iff.1 hsplit
    exact h message rest hfits hstream

end Single

/-! ## Streams -/

/-- The frames of messages, one after the other. -/
def framed (messages : List (List UInt8)) : List UInt8 := messages.flatMap octets

theorem framed_cons (message : List UInt8) (rest : List (List UInt8)) :
    framed (message :: rest) = octets message ++ framed rest := List.flatMap_cons

theorem messages_of_none {stream : List UInt8} (h : split? stream = none) : messages stream = [] := by
  rw [messages]
  split
  · rfl
  · simp_all

theorem messages_of_some {stream message rest : List UInt8}
    (h : split? stream = some (message, rest)) : messages stream = message :: messages rest := by
  rw [messages]
  split
  · simp_all
  · simp_all

/-- A stream is the frames of its messages and a rest without a full frame. -/
theorem exists_tail (stream : List UInt8) :
    (∀ message ∈ messages stream, Fits message) ∧
      ∃ tail, stream = framed (messages stream) ++ tail ∧ Unframed tail := by
  induction stream using messages.induct with
  | case1 stream hnone =>
    rw [messages_of_none hnone]
    exact ⟨by simp, stream, rfl, split?_eq_none_iff.1 hnone⟩
  | case2 stream message rest hsome ih =>
    obtain ⟨hfits, hstream⟩ := eq_of_split? hsome
    obtain ⟨hothers, tail, hrest, htail⟩ := ih
    rw [messages_of_some hsome]
    refine ⟨List.forall_mem_cons.2 ⟨hfits, hothers⟩, tail, ?_, htail⟩
    rw [framed_cons, List.append_assoc, ← hrest, hstream]

/-- Messages are read back from their frames. -/
theorem messages_framed {sent : List (List UInt8)} (h : ∀ message ∈ sent, Fits message) :
    messages (framed sent) = sent := by
  induction sent with
  | nil => exact messages_of_none rfl
  | cons message rest ih =>
    obtain ⟨hfits, hrest⟩ := List.forall_mem_cons.1 h
    rw [framed_cons, messages_of_some (split?_octets hfits _), ih hrest]

/-! ## Handlers -/

section Handlers

variable {σ : Type} {handle : List UInt8 → StateM σ (Option (List UInt8))}

/-- The handler answers messages, in order, with responses that fit into frames; `s` and `s'` are its
states before and after. -/
inductive Answers (handle : List UInt8 → StateM σ (Option (List UInt8))) :
    (s : σ) → (queries responses : List (List UInt8)) → (s' : σ) → Prop where
  | nil {s : σ} : Answers handle s [] [] s
  | cons {s s' s'' : σ} {query response : List UInt8} {queries responses : List (List UInt8)} :
      (handle query).run s = (some response, s') → Fits response →
      Answers handle s' queries responses s'' →
      Answers handle s (query :: queries) (response :: responses) s''

/-- The handler does not answer the first of these messages with a response that fits, or there is none;
`s` and `s'` are its states before and after. -/
inductive Stops (handle : List UInt8 → StateM σ (Option (List UInt8))) :
    (s : σ) → (queries : List (List UInt8)) → (s' : σ) → Prop where
  | ended {s : σ} : Stops handle s [] s
  | silent {s s' : σ} {query : List UInt8} {queries : List (List UInt8)} :
      (handle query).run s = (none, s') → Stops handle s (query :: queries) s'
  | oversized {s s' : σ} {query response : List UInt8} {queries : List (List UInt8)} :
      (handle query).run s = (some response, s') → ¬ Fits response →
      Stops handle s (query :: queries) s'

namespace Answers

variable {s s' t t' : σ} {queries queries' rest rest' responses responses' : List (List UInt8)}

theorem fits (h : Answers handle s queries responses s') : ∀ response ∈ responses, Fits response := by
  induction h with
  | nil => simp
  | cons _ hfits _ ih => exact List.forall_mem_cons.2 ⟨hfits, ih⟩

theorem length_eq (h : Answers handle s queries responses s') :
    responses.length = queries.length := by
  induction h with
  | nil => rfl
  | cons _ _ _ ih => rw [List.length_cons, List.length_cons, ih]

/-- Where the handler stops, it has answered as many of the messages as it ever does. -/
theorem longest (h : Answers handle s queries responses s') (hstops : Stops handle s' rest t)
    (h' : Answers handle s queries' responses' t') (heq : queries ++ rest = queries' ++ rest') :
    queries' <+: queries ∧ responses' <+: responses := by
  induction h generalizing queries' responses' with
  | nil =>
    cases h' with
    | nil => exact ⟨List.prefix_rfl, List.prefix_rfl⟩
    | cons hanswer hfits _ =>
      rw [List.nil_append, List.cons_append] at heq
      subst heq
      cases hstops with
      | silent hsilent =>
        rw [hsilent] at hanswer
        cases hanswer
      | oversized hlong hnot =>
        rw [hlong] at hanswer
        cases hanswer
        exact absurd hfits hnot
  | cons hanswer _ _ ih =>
    cases h' with
    | nil => exact ⟨List.nil_prefix, List.nil_prefix⟩
    | cons hanswer' _ hothers =>
      obtain ⟨rfl, htail⟩ := List.cons.inj heq
      rw [hanswer] at hanswer'
      cases hanswer'
      obtain ⟨hqueries, hresponses⟩ := ih hstops hothers htail
      exact ⟨List.cons_prefix_cons.2 ⟨rfl, hqueries⟩, List.cons_prefix_cons.2 ⟨rfl, hresponses⟩⟩

end Answers

/-! ## Servers -/

theorem run_serve_of_none {stream : List UInt8} {s : σ} (h : split? stream = none) :
    (serve handle stream).run s = ([], s) := by
  rw [serve]
  split
  · rfl
  · simp_all

theorem run_serve_of_some {stream query rest : List UInt8} {s s' : σ} {answer : Option (List UInt8)}
    (h : split? stream = some (query, rest)) (hanswer : (handle query).run s = (answer, s')) :
    (serve handle stream).run s =
      match answer.bind of? with
      | none => ([], s')
      | some frame => (frame ++ ((serve handle rest).run s').1, ((serve handle rest).run s').2) := by
  rw [serve]
  split
  · simp_all
  · rename_i query' rest' hsome
    obtain ⟨rfl, rfl⟩ := Prod.mk.inj (Option.some.inj (hsome.symm.trans h))
    rw [StateT.run_bind, hanswer]
    change StateT.run (match answer.bind of? with | none => _ | some frame => _) s' = _
    cases answer.bind of? with
    | none => rfl
    | some frame => rfl

/-- A server writes one frame for each message that its handler answers before it stops. -/
theorem run_serve (handle : List UInt8 → StateM σ (Option (List UInt8))) (stream : List UInt8)
    (s : σ) :
    ∃ queries rest responses s', messages stream = queries ++ rest ∧
      Answers handle s queries responses s' ∧
      Stops handle s' rest ((serve handle stream).run s).2 ∧
      ((serve handle stream).run s).1 = framed responses := by
  induction stream using messages.induct generalizing s with
  | case1 stream hnone =>
    rw [run_serve_of_none hnone, messages_of_none hnone]
    exact ⟨[], [], [], s, rfl, .nil, .ended, rfl⟩
  | case2 stream query others hsome ih =>
    rw [messages_of_some hsome]
    rcases hanswer : (handle query).run s with ⟨answer, s'⟩
    rw [run_serve_of_some hsome hanswer]
    cases answer with
    | none => exact ⟨[], query :: messages others, [], s, rfl, .nil, .silent hanswer, rfl⟩
    | some response =>
      by_cases hfits : Fits response
      · obtain ⟨queries, rest, responses, s'', hmessages, hanswers, hstops, hwritten⟩ := ih s'
        rw [Option.bind_some, of?_of_fits hfits]
        refine ⟨query :: queries, rest, response :: responses, s'', ?_, .cons hanswer hfits hanswers,
          hstops, ?_⟩
        · rw [hmessages, List.cons_append]
        · change octets response ++ _ = _
          rw [hwritten, framed_cons]
      · rw [Option.bind_some, of?_of_not_fits hfits]
        exact ⟨[], query :: messages others, [], s, rfl, .nil, .oversized hanswer hfits, rfl⟩

/-- Any stream is the frames of messages and a tail that does not begin with a full frame. With any
handler, a server answers the longest run of leading messages to which the handler has responses that fit
into frames. It writes one frame for each of them, in order and with nothing around, and those frames are
read as the responses. -/
theorem serve_frames_responses (handle : List UInt8 → StateM σ (Option (List UInt8)))
    (stream : List UInt8) (s : σ) :
    ∃ queries rest tail responses s',
      stream = framed (queries ++ rest) ++ tail ∧ Unframed tail ∧
      messages stream = queries ++ rest ∧ (∀ query ∈ queries ++ rest, Fits query) ∧
      Answers handle s queries responses s' ∧
      Stops handle s' rest ((serve handle stream).run s).2 ∧
      (∀ queries' rest' responses' t, queries ++ rest = queries' ++ rest' →
        Answers handle s queries' responses' t →
        queries' <+: queries ∧ responses' <+: responses) ∧
      responses.length = queries.length ∧
      ((serve handle stream).run s).1 = framed responses ∧
      messages ((serve handle stream).run s).1 = responses := by
  obtain ⟨queries, rest, responses, s', hmessages, hanswers, hstops, hwritten⟩ :=
    run_serve handle stream s
  obtain ⟨hfits, tail, hstream, htail⟩ := exists_tail stream
  rw [hmessages] at hfits hstream
  refine ⟨queries, rest, tail, responses, s', hstream, htail, hmessages, hfits, hanswers, hstops, ?_,
    hanswers.length_eq, hwritten, ?_⟩
  · exact fun _ _ _ _ heq h' => hanswers.longest hstops h' heq
  · rw [hwritten, messages_framed hanswers.fits]

end Handlers

end Frame

end WorkloadNet.Dns
