import Mathlib.Data.List.Induction
import WorkloadNet.Proofs.Kernel.Dangling
import WorkloadNet.Proofs.Session.Tours

/-!
# References over a whole session

Along a tour the current namespace, default routes and masters may come to name nothing, but each in one
way only: the namespace was deleted with a body inside it, the device went as the other end of a link that was
deleted, the bridge was deleted by its name with the link attached. The reference has then named nothing
ever since.
-/

namespace WorkloadNet.Session

open Kernel

variable {events : List Event} {space : SpaceName}

/-! ## What has held since an event -/

/-- At some event of a tour there was a cause, and from that event on the property has held. -/
def Since (events : List Event) (cause : Tour → Event → Prop) (P : Tour → Prop) : Prop :=
  ∃ before e rest, events = before ++ e :: rest ∧ cause (tour before) e ∧
    ∀ later, later <+: rest → P (tour (before ++ e :: later))

theorem since_of_step {cause : Tour → Event → Prop} {P : Tour → Prop} (hstart : ¬ P (tour []))
    (hstep : ∀ events e, P ((tour events).after e) → P (tour events) ∨ cause (tour events) e)
    (events : List Event) (h : P (tour events)) : Since events cause P := by
  induction events using List.reverseRecOn with
  | nil => exact absurd h hstart
  | append_singleton events e ih =>
    have hafter := h
    rw [tour_snoc] at hafter
    rcases hstep events e hafter with hbefore | hcause
    · obtain ⟨before, first, rest, rfl, hcause, hlater⟩ := ih hbefore
      refine ⟨before, first, rest ++ [e], by simp, hcause, fun later hprefix => ?_⟩
      rcases List.prefix_concat_iff.1 hprefix with rfl | hshorter
      · simpa using h
      · exact hlater later hshorter
    · refine ⟨events, e, [], rfl, hcause, fun later hprefix => ?_⟩
      obtain rfl := List.prefix_nil.1 hprefix
      exact h

/-! ## References -/

/-- Every namespace, device and bridge that a kernel refers to is there. -/
structure Intact (k : Kernel) : Prop where
  current : k.current ∈ k.spaces
  route : ∀ space device gateway, k.route? space = some (device, gateway) →
    (k.link? space device).isSome
  master : ∀ space n link master, k.link? space n = some link → link.master = some master →
    ∃ bridge, k.link? space master = some bridge ∧ bridge.kind = .bridge

/-- A body in a namespace deletes it. -/
def selfDeletion : List Event := [.space (.create "vm1"), .enter "vm1", .space (.delete "vm1")]

/-- A bridge is deleted by its name while a tap device is attached to it. -/
def bridgeDeletion : List Event :=
  [.link (.add "br0" .bridge), .link (.add "tap0" .tap), .link (.setMaster "tap0" "br0"),
    .link (.delete "br0")]

/-- A link is deleted, and its other end has been the device of the default route. -/
def farDeletion : List Event :=
  [.link (.add "a" (.veth "b" none)), .link (.addDefaultRoute "b" ⟨0x0a0a0001⟩), .link (.delete "a")]

/-- References may name nothing: each of the three kinds, at the end of a short tour. -/
theorem references_dangle :
    ¬ Intact (tour selfDeletion).kernel ∧ ¬ Intact (tour bridgeDeletion).kernel ∧
      ¬ Intact (tour farDeletion).kernel := by
  refine ⟨fun h => ?_, fun h => ?_, fun h => ?_⟩
  · have hmissing : (tour selfDeletion).kernel.current ∉ (tour selfDeletion).kernel.spaces := by
      decide +kernel
    exact hmissing h.current
  · have hlink : (tour bridgeDeletion).kernel.link? none "tap0" =
        some { kind := .tap, master := some "br0" } := by decide +kernel
    have hmissing : (tour bridgeDeletion).kernel.link? none "br0" = none := by decide +kernel
    obtain ⟨bridge, hbridge, -⟩ := h.master none "tap0" _ "br0" hlink rfl
    cases hmissing.symm.trans hbridge
  · have hroute : (tour farDeletion).kernel.route? none = some ("b", ⟨0x0a0a0001⟩) := by
      decide +kernel
    have hmissing : (tour farDeletion).kernel.link? none "b" = none := by decide +kernel
    have hdevice := h.route none "b" _ hroute
    rw [hmissing] at hdevice
    cases hdevice

/-- A tour is in a namespace that is not there. -/
def Tour.Misses (space : SpaceName) (t : Tour) : Prop :=
  space ∈ t.entered ∧ space ∉ t.kernel.spaces

/-- What a tour is in and what its kernel refers to is there, or it was deleted in the one way that leaves
the reference, and has been missing since. -/
structure Accountable (events : List Event) : Prop where
  host : none ∈ (tour events).kernel.spaces
  /-- The current namespace is the first of these. -/
  entered : ∀ space ∈ (tour events).entered, space ∈ (tour events).kernel.spaces ∨
    Since events
      (fun t e => space ∈ t.entered ∧ ∃ name, space = some name ∧ e = .space (.delete name))
      (Tour.Misses space)
  route : ∀ space device gateway, (tour events).kernel.route? space = some (device, gateway) →
    ((tour events).kernel.link? space device).isSome ∨
      Since events
        (fun t e => ∃ near, e = .link (.delete near) ∧
          peer? t.kernel.spaces t.kernel.current near = some (space, device))
        fun t => StrayRoute t.kernel.spaces space device
  master : ∀ space n link master, (tour events).kernel.link? space n = some link →
    link.master = some master → HasBridge (tour events).kernel.spaces space master ∨
      Since events
        (fun t e => e = .link (.delete master) ∧ space = t.kernel.current ∧
          HasBridge t.kernel.spaces space master)
        fun t => StrayMaster t.kernel.spaces space n master

theorem host_tour (events : List Event) : none ∈ (tour events).kernel.spaces := by
  induction events using List.reverseRecOn with
  | nil => exact Std.ExtTreeMap.mem_insert_self
  | append_singleton events e ih =>
    rw [tour_snoc]
    rcases (Tour.effect_after _ e).present ih with hthere | ⟨name, hnone, -⟩
    · exact hthere
    · cases hnone

theorem since_misses (h : (tour events).Misses space) :
    Since events
      (fun t e => space ∈ t.entered ∧ ∃ name, space = some name ∧ e = .space (.delete name))
      (Tour.Misses space) := by
  refine since_of_step (fun hstart => ?_) (fun events e hmisses => ?_) events h
  · obtain ⟨hentered, hmissing⟩ := hstart
    obtain rfl : space = none := List.mem_singleton.1 hentered
    exact hmissing (host_tour [])
  · obtain ⟨hentered, hmissing⟩ := hmisses
    have hbefore := (Tour.entered_after hentered).resolve_right hmissing
    by_cases hspace : space ∈ (tour events).kernel.spaces
    · have hdeleted := ((Tour.effect_after _ e).present hspace).resolve_left hmissing
      exact Or.inr ⟨hbefore, hdeleted⟩
    · exact Or.inl ⟨hbefore, hspace⟩

/-- After any events, in and out of bodies inside namespaces, every reference is accounted for. -/
theorem references_accountable (events : List Event) : Accountable events where
  host := host_tour events
  entered space hentered := by
    by_cases hspace : space ∈ (tour events).kernel.spaces
    · exact Or.inl hspace
    · exact Or.inr (since_misses ⟨hentered, hspace⟩)
  route space device gateway hroute := by
    cases hdevice : (tour events).kernel.link? space device with
    | some _ => exact Or.inl rfl
    | none =>
      refine Or.inr (since_of_step (fun hstart => ?_) (fun events e hstray => ?_) events
        ⟨⟨gateway, hroute⟩, hdevice⟩)
      · obtain ⟨⟨_, hnone⟩, -⟩ := hstart
        cases (routeOf_initial space).symm.trans hnone
      · exact (Tour.effect_after _ e).strayRoute (coupled_of_reaches (reaches_tour events)) hstray
  master space n link master hlink hmaster := by
    by_cases hbridge : HasBridge (tour events).kernel.spaces space master
    · exact Or.inl hbridge
    · refine Or.inr (since_of_step (fun hstart => ?_) (fun events e hstray => ?_) events
        ⟨⟨link, hlink, hmaster⟩, hbridge⟩)
      · obtain ⟨⟨_, hnone, -⟩, -⟩ := hstart
        cases (lookup_initial space n).symm.trans hnone
      · have hreach := reaches_tour events
        exact (Tour.effect_after _ e).strayMaster (coupled_of_reaches hreach)
          (allMarked_of_reaches hreach) hstray

end WorkloadNet.Session
