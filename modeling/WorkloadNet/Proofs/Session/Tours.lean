import Mathlib.Data.List.Induction
import WorkloadNet.Proofs.Kernel.Moves
import WorkloadNet.Proofs.Session.Steps

/-!
# Tours of a kernel

A tour follows a kernel through the events of a session, in and out of the bodies that run inside
namespaces. Whatever a step of a session does to its kernel is a tour, so what holds after every list of
events holds at every point of a session.
-/

namespace WorkloadNet.Session

open WorkloadNet.Action Kernel

variable {φ ε : Type} {e : Event}

/-- A kernel and the namespaces that the bodies still running lead back to, the innermost first. -/
structure Tour where
  kernel : Kernel := initial
  back : List SpaceName := []

namespace Tour

/-- An event of a tour, however it ends. A body begins only when its namespace can be entered. -/
def after (t : Tour) : Event → Tour
  | .link step => { t with kernel := ((step.run links).on t.kernel).2 }
  | .space step => { t with kernel := ((step.run namespaces).on t.kernel).2 }
  | .enter name =>
    match (namespaces.switch name).on t.kernel with
    | (.ok previous, kernel) => ⟨kernel, previous :: t.back⟩
    | (.error _, kernel) => { t with kernel }
  | .leave =>
    match t.back with
    | [] => t
    | previous :: rest => ⟨namespaces.restore previous t.kernel, rest⟩
  | .failing op name => { t with kernel := t.kernel.failOnce op name }

/-- The events of a tour one after the other. -/
def run (t : Tour) (events : List Event) : Tour := events.foldl after t

/-- The namespaces that the tour is in, the innermost first. -/
def entered (t : Tour) : List SpaceName := t.kernel.current :: t.back

/-- What entering a namespace comes to: it may be made to fail, and the namespace may be missing. -/
theorem after_enter (t : Tour) (name : String) :
    t.after (.enter name) =
      if (.enterNamespace, name) ∈ t.kernel.pending then
        { t with kernel := t.kernel.spend .enterNamespace name }
      else if some name ∈ t.kernel.spaces then
        ⟨{ t.kernel with current := some name }, t.kernel.current :: t.back⟩
      else t := by
  have hswitch : (namespaces.switch name).on t.kernel = (switch name).on t.kernel := rfl
  rw [after, hswitch, on_switch]
  by_cases hpending : (.enterNamespace, name) ∈ t.kernel.pending
  · rw [if_pos hpending, if_pos hpending]
  · rw [if_neg hpending, if_neg hpending]
    by_cases hspace : some name ∈ t.kernel.spaces
    · rw [if_pos hspace, if_pos hspace]
    · rw [if_neg hspace, if_neg hspace]

/-- Every event of a tour changes the namespaces in one of the ways that `Effect` lists. -/
theorem effect_after (t : Tour) (e : Event) : Effect t.kernel e (t.after e).kernel.spaces := by
  cases e with
  | link step => exact (affected_linkStep step t.kernel).1
  | space step => exact (affected_spaceStep step t.kernel).1
  | enter name =>
    rw [after_enter]
    split
    · exact .same
    · split <;> exact .same
  | leave =>
    rw [after]
    cases t.back <;> exact .same
  | failing op name => exact .same

/-- The kernel after an event is reached from the one before. -/
theorem reaches_after (t : Tour) (e : Event) : Reaches t.kernel (t.after e).kernel := by
  cases e with
  | link step => exact .single (.link step _)
  | space step => exact .single (.space step _)
  | enter name =>
    rw [after_enter]
    split
    · rename_i hpending
      exact reaches_refused hpending
    · split
      · rename_i hcalm hspace
        exact reaches_entered hcalm hspace
      · exact .refl
  | leave =>
    rw [after]
    cases t.back with
    | nil => exact .refl
    | cons previous rest => exact .single (.leave previous _)
  | failing op name => exact .single (.failing op name _)

/-- The kernel at the end of a tour is reached from the one at its beginning. -/
theorem reaches_run (t : Tour) (events : List Event) : Reaches t.kernel (t.run events).kernel := by
  induction events generalizing t with
  | nil => exact .refl
  | cons e rest ih => exact (t.reaches_after e).trans (ih (t.after e))

/-- A namespace that a tour is in after an event is one that it was in before, or is there. -/
theorem entered_after {t : Tour} {space : SpaceName} (h : space ∈ (t.after e).entered) :
    space ∈ t.entered ∨ space ∈ (t.after e).kernel.spaces := by
  unfold entered at h ⊢
  cases e with
  | link step =>
    have hcurrent : ((step.run links).on t.kernel).2.current = t.kernel.current :=
      (affected_linkStep step t.kernel).2
    rw [after, hcurrent] at h
    exact Or.inl h
  | space step =>
    have hcurrent : ((step.run namespaces).on t.kernel).2.current = t.kernel.current :=
      (affected_spaceStep step t.kernel).2
    rw [after, hcurrent] at h
    exact Or.inl h
  | enter name =>
    rw [after_enter] at h ⊢
    split at h
    · exact Or.inl h
    · split at h
      · rename_i hcalm hspace
        rw [if_neg hcalm, if_pos hspace]
        rcases List.mem_cons.1 h with rfl | hback
        · exact Or.inr hspace
        · exact Or.inl hback
      · exact Or.inl h
  | leave =>
    rw [after] at h
    cases hback : t.back with
    | nil =>
      rw [hback] at h
      exact Or.inl (hback ▸ h)
    | cons previous rest =>
      rw [hback] at h
      exact Or.inl (List.mem_cons_of_mem _ h)
  | failing op name => exact Or.inl h

end Tour

/-- The tour of a list of events, from the beginning. -/
def tour (events : List Event) : Tour := ({} : Tour).run events

/-- A tour of more events goes on where the first ones led. -/
theorem tour_append (events more : List Event) : tour (events ++ more) = (tour events).run more :=
  List.foldl_append

/-- A tour with one more event is the tour and then that event. -/
theorem tour_snoc (events : List Event) (e : Event) : tour (events ++ [e]) = (tour events).after e :=
  tour_append events [e]

/-- Every kernel of a tour is reached from the initial one. -/
theorem reaches_tour (events : List Event) : Reaches initial (tour events).kernel :=
  Tour.reaches_run {} events

/-! ## Sessions are tours -/

/-- Some events lead from one kernel to another, whatever bodies are still running. -/
def Toured (k k' : Kernel) : Prop :=
  ∃ events, ∀ back, (Tour.mk k back).run events = ⟨k', back⟩

/-- Two tours make one. -/
theorem Toured.trans {k₁ k₂ k₃ : Kernel} (h : Toured k₁ k₂) (h' : Toured k₂ k₃) : Toured k₁ k₃ := by
  obtain ⟨first, hfirst⟩ := h
  obtain ⟨second, hsecond⟩ := h'
  refine ⟨first ++ second, fun back => ?_⟩
  unfold Tour.run at hfirst hsecond ⊢
  rw [List.foldl_append, hfirst, hsecond]

/-- Where a tour leads is reached. -/
theorem Toured.reaches {k k' : Kernel} (h : Toured k k') : Reaches k k' := by
  obtain ⟨events, hevents⟩ := h
  have hreaches := Tour.reaches_run (Tour.mk k []) events
  rwa [hevents] at hreaches

/-- Every operation of a kernel is a tour, and a body inside a namespace is one between entering and
leaving. -/
theorem carried_toured : Carried Toured where
  refl _ := ⟨[], fun _ => rfl⟩
  trans := Toured.trans
  link step _ := ⟨[.link step], fun _ => rfl⟩
  space step _ := ⟨[.space step], fun _ => rfl⟩
  failing op name _ := ⟨[.failing op name], fun _ => rfl⟩
  refused {name k} hpending := by
    refine ⟨[.enter name], fun back => ?_⟩
    exact (Tour.after_enter ⟨k, back⟩ name).trans (if_pos hpending)
  inside {name k k'} hcalm hspace hbody := by
    obtain ⟨events, hevents⟩ := hbody
    refine ⟨.enter name :: (events ++ [.leave]), fun back => ?_⟩
    have henter : (Tour.mk k back).after (.enter name) =
        ⟨{ k with current := some name }, k.current :: back⟩ :=
      (Tour.after_enter ⟨k, back⟩ name).trans ((if_neg hcalm).trans (if_pos hspace))
    have hinner := hevents (k.current :: back)
    unfold Tour.run at hinner ⊢
    rw [List.foldl_cons, henter, List.foldl_append, hinner]
    rfl

/-- What a step of a session does to the kernel, with everything that runs inside it, is a tour. -/
theorem runStep_toured (model : FilterModel φ ε) (step : Step ε) (w : World φ) :
    Toured w.kernel (runStep model step w).2.kernel := along_runStep carried_toured model step w

end WorkloadNet.Session
