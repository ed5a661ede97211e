import WorkloadNet.Proofs.Kernel.Frame
import WorkloadNet.Proofs.Session.Steps
import WorkloadNet.Session.Dry

/-!
# Callbacks inside namespaces

A callback that runs inside a namespace may do anything that a session does, enter further namespaces
and run callbacks inside networks, to any depth and each step depending on what came before. It ends
with a value, with a failure or by a panic. However it ends, the current namespace afterwards is the
one before the call; and when it only operates on links, other namespaces show nothing but the ends of
pairs that it creates or deletes.
-/

namespace WorkloadNet.Session

open WorkloadNet.Action Kernel

variable {φ ε α : Type} {w : World φ} {name : String}

/-! ## The current namespace -/

theorem current_enter (name : String) (body : StateM (World φ) (Ending α)) (w : World φ) :
    (World.spaces.enter name body w).2.current = w.current := by
  rw [enter_eq]
  split
  · rfl
  · split <;> rfl

theorem current_execute (net : Network) (body : StateM (World φ) (Ending α)) (w : World φ) :
    (net.execute World.spaces body w).2.current = w.current := by
  rw [Network.execute_eq]
  dsimp only
  cases net.ensureAlive with
  | error failure => rfl
  | ok _ => exact current_enter net.name body w

/-- A body may end in any namespace: the one before it is put back. -/
theorem carried_current : Carried fun k k' => k'.current = k.current where
  refl _ := rfl
  trans h h' := h'.trans h
  link step k := (affected_linkStep step k).2
  space step k := (affected_spaceStep step k).2
  failing _ _ _ := rfl
  refused _ := rfl
  inside _ _ _ := rfl

/-- No step changes the current namespace, whatever steps it runs inside other namespaces. -/
theorem current_runStep (model : FilterModel φ ε) (step : Step ε) (w : World φ) :
    (runStep model step w).2.current = w.current := along_runStep carried_current model step w

/-! ## Callbacks -/

/-- What a callback does: it has ended, or it takes a step, or it runs another callback inside a
namespace or a network, and goes on depending on how that ended. -/
inductive Callback (ε : Type) where
  /-- The end. -/
  | done (ending : Ending Value)
  /-- A step. -/
  | step (step : Step ε) (next : Result → Callback ε)
  /-- A callback inside a namespace. -/
  | enter (name : String) (body : Callback ε) (next : Ending Value → Callback ε)
  /-- A callback inside a network. -/
  | execute (net : Network) (body : Callback ε) (next : Ending Value → Callback ε)

namespace Callback

/-- Runs a callback. -/
def run (model : FilterModel φ ε) : Callback ε → StateM (World φ) (Ending Value)
  | done ending => fun w => (ending, w)
  | step s next => fun w =>
    let (result, w) := runStep model s w
    (next result).run model w
  | enter name body next => fun w =>
    let (ending, w) := World.spaces.enter name (body.run model) w
    (next ending).run model w
  | execute net body next => fun w =>
    let (ending, w) := net.execute World.spaces (body.run model) w
    (next ending).run model w

/-- The namespaces in which a callback acts, one for each of its own actions. -/
def places (model : FilterModel φ ε) : Callback ε → World φ → List SpaceName
  | done _, _ => []
  | step s next, w =>
    let (result, w') := runStep model s w
    w.current :: (next result).places model w'
  | enter name body next, w =>
    let (ending, w') := World.spaces.enter name (body.run model) w
    w.current :: (next ending).places model w'
  | execute net body next, w =>
    let (ending, w') := net.execute World.spaces (body.run model) w
    w.current :: (next ending).places model w'

/-- A callback that only operates on links. -/
def LinksOnly : Callback ε → Prop
  | done _ => True
  | step (.link _) next => ∀ result, (next result).LinksOnly
  | _ => False

/-- The operations on links that a callback makes. -/
def performed (model : FilterModel φ ε) : Callback ε → World φ → List LinkStep
  | step (.link s) next, w =>
    let (result, w') := runStep model (.link s) w
    s :: (next result).performed model w'
  | _, _ => []

variable (model : FilterModel φ ε)

/-- A callback ends in the namespace in which it began. -/
theorem current_run (callback : Callback ε) (w : World φ) :
    (callback.run model w).2.current = w.current := by
  -- What an inner body does is put back, so its own induction hypothesis is not needed.
  induction callback generalizing w with
  | done ending => rfl
  | step s next ih => exact (ih _ _).trans (current_runStep model s w)
  | enter name body next _ ih => exact (ih _ _).trans (current_enter name _ w)
  | execute net body next _ ih => exact (ih _ _).trans (current_execute net _ w)

/-- A callback acts in the namespace in which it began. -/
theorem eq_of_mem_places (callback : Callback ε) (w : World φ) :
    ∀ here ∈ callback.places model w, here = w.current := by
  induction callback generalizing w with
  | done ending => exact fun _ h => absurd h List.not_mem_nil
  | step s next ih =>
    intro here hhere
    rcases List.mem_cons.1 hhere with rfl | hhere
    · rfl
    · exact (ih _ _ here hhere).trans (current_runStep model s w)
  | enter name body next _ ih =>
    intro here hhere
    rcases List.mem_cons.1 hhere with rfl | hhere
    · rfl
    · exact (ih _ _ here hhere).trans (current_enter name _ w)
  | execute net body next _ ih =>
    intro here hhere
    rcases List.mem_cons.1 hhere with rfl | hhere
    · rfl
    · exact (ih _ _ here hhere).trans (current_execute net _ w)

/-- What operations on links do to other namespaces. -/
theorem apart_run {callback : Callback ε} (hlinks : callback.LinksOnly)
    (hk : Coupled w.kernel.spaces) :
    Apart w.current (callback.performed model w) w.kernel (callback.run model w).2.kernel := by
  induction callback generalizing w with
  | done ending => exact .refl _ _ _
  | enter name body next _ _ => exact hlinks.elim
  | execute net body next _ _ => exact hlinks.elim
  | step s next ih =>
    cases s with
    | link s =>
      have hstep := apart_linkStep s hk
      have hcoupled := (coupling_linkStep s).state hk
      have hcurrent := current_runStep model (.link s) w
      have hrest := ih (runStep model (.link s) w).1 (hlinks _) (w := (runStep model (.link s) w).2)
        hcoupled
      rw [hcurrent] at hrest
      exact hstep.append hrest
    | _ => exact hlinks.elim

end Callback

/-! ## Nothing leaks -/

/-- What a call that runs a body inside a namespace does to a world. -/
structure NeverLeaks (model : FilterModel φ ε) (w : World φ) : Prop where
  /-- Whatever runs inside a namespace, the current namespace is the one before. -/
  enter : ∀ {α : Type} (name : String) (body : StateM (World φ) (Ending α)),
    (World.spaces.enter name body w).2.current = w.current
  /-- Whatever runs inside a network, the current namespace is the one before. -/
  execute : ∀ {α : Type} (net : Network) (body : StateM (World φ) (Ending α)),
    (net.execute World.spaces body w).2.current = w.current
  /-- All that a callback does itself it does inside the namespace, wherever it has been in between,
  and there it ends. -/
  inside : ∀ (name : String) (callback : Callback ε),
    (∀ here ∈ callback.places model (w.inside (some name)), here = some name) ∧
      (callback.run model (w.inside (some name))).2.current = some name
  /-- A body that can run runs once inside the namespace, and its ending is the answer. -/
  once : ∀ {α : Type} (net : Network) (body : StateM (World φ) (Ending α)),
    net.state ≠ .destroyed → some net.name ∈ w.kernel.spaces →
      (.enterNamespace, net.name) ∉ w.kernel.pending →
        net.execute World.spaces body w =
          ((body (w.inside (some net.name))).1,
            (body (w.inside (some net.name))).2.inside w.current)
  /-- A failure is the refusal of a network that was destroyed, that of the namespace, or the failure
  of the body: never that it ran twice or not at all. -/
  failure : ∀ {α : Type} (net : Network) (body : StateM (World φ) (Ending α)) (failure : Failure),
    (net.execute World.spaces body w).1 = .failed failure →
      failure = (SettingFault.destroyed net.name).toFailure ∨
        failure = injected .enterNamespace net.name ∨ failure = .notFound "namespace" net.name ∨
          (body (w.inside (some net.name))).1 = .failed failure
  /-- Operations on links inside a namespace leave other namespaces, but for the far ends of the pairs
  that they create or delete. -/
  apart_enter : ∀ (name : String) (callback : Callback ε), callback.LinksOnly →
    Apart (some name) (callback.performed model (w.inside (some name))) w.kernel
      (World.spaces.enter name (callback.run model) w).2.kernel
  /-- The same of operations on links inside a network. -/
  apart_execute : ∀ (net : Network) (callback : Callback ε), callback.LinksOnly →
    Apart (some net.name) (callback.performed model (w.inside (some net.name))) w.kernel
      (net.execute World.spaces (callback.run model) w).2.kernel

theorem execute_of_alive {net : Network} (halive : net.state ≠ .destroyed)
    (body : StateM (World φ) (Ending α)) (w : World φ) :
    net.execute World.spaces body w = World.spaces.enter net.name body w := by
  rw [Network.execute_eq, Network.ensureAlive, if_neg halive]

theorem execute_of_destroyed {net : Network} (hdestroyed : net.state = .destroyed)
    (body : StateM (World φ) (Ending α)) (w : World φ) :
    net.execute World.spaces body w =
      (.failed (SettingFault.destroyed net.name).toFailure, w) := by
  rw [Network.execute_eq, Network.ensureAlive, if_pos hdestroyed]

theorem apart_enter (model : FilterModel φ ε) (name : String) {callback : Callback ε}
    (hlinks : callback.LinksOnly) (hk : Coupled w.kernel.spaces) :
    Apart (some name) (callback.performed model (w.inside (some name))) w.kernel
      (World.spaces.enter name (callback.run model) w).2.kernel := by
  have hunchanged : ∀ k, k.spaces = w.kernel.spaces → Apart (some name)
      (callback.performed model (w.inside (some name))) w.kernel k :=
    fun k hspaces => (Apart.refl _ _ w.kernel).of_spaces rfl hspaces
  rw [enter_eq]
  split
  · exact hunchanged _ rfl
  · split
    · have hinside := callback.apart_run model hlinks (w := w.inside (some name)) hk
      exact hinside.of_spaces rfl rfl
    · exact hunchanged _ rfl

/-- In every world whose kernel is reached from the initial one, running a body inside a namespace or
a network leaks nothing. -/
theorem switching_never_leaks (model : FilterModel φ ε) (w : World φ)
    (hreach : Reaches initial w.kernel) : NeverLeaks model w where
  enter name body := current_enter name body w
  execute net body := current_execute net body w
  inside name callback := ⟨callback.eq_of_mem_places model (w.inside (some name)),
    callback.current_run model (w.inside (some name))⟩
  once net body halive hspace hcalm := by
    rw [execute_of_alive halive, enter_eq, if_neg hcalm, if_pos hspace]
  failure net body failure hfailed := by
    by_cases halive : net.state = .destroyed
    · rw [execute_of_destroyed halive] at hfailed
      cases hfailed
      exact Or.inl rfl
    · rw [execute_of_alive halive, enter_eq] at hfailed
      split at hfailed
      · cases hfailed
        exact Or.inr (Or.inl rfl)
      · split at hfailed
        · exact Or.inr (Or.inr (Or.inr hfailed))
        · cases hfailed
          exact Or.inr (Or.inr (Or.inl rfl))
  apart_enter name callback hlinks := apart_enter model name hlinks (coupled_of_reaches hreach)
  apart_execute net callback hlinks := by
    by_cases halive : net.state = .destroyed
    · rw [execute_of_destroyed halive]
      exact .refl _ _ _
    · rw [execute_of_alive halive]
      exact apart_enter model net.name hlinks (coupled_of_reaches hreach)

/-- Two namespaces, and a pair with one end on the host and the other in the first of them. -/
def demoKernel : Kernel :=
  let created := ((SpaceStep.create "vm1").run namespaces).on initial
  let both := ((SpaceStep.create "vm2").run namespaces).on created.2
  (((LinkStep.add "out" (.veth "in" (some "vm1"))).run links).on both.2).2

theorem reaches_demoKernel : Reaches initial demoKernel :=
  ((Relation.ReflTransGen.refl.tail (.space (.create "vm1") initial)).tail
    (.space (.create "vm2") _)).tail (.link (.add "out" (.veth "in" (some "vm1"))) _)

/-- A world with this kernel. -/
def demoWorld : World Firewall.Store := { kernel := demoKernel, filter := Firewall.Store.empty }

/-- Deletes one end of the pair, creates another pair with an end in the second namespace, and
panics. -/
def demoLinks : Callback StoreStep :=
  .step (.link (.delete "in")) fun _ =>
    .step (.link (.add "near" (.veth "far" (some "vm2")))) fun _ => .done .panicked

/-- Deletes the namespace that it runs in, and panics in another one where it runs further links. -/
def demoNested : Callback StoreStep :=
  .step (.space (.delete "vm1")) fun _ =>
    .enter "vm2" demoLinks fun _ => .step (.link (.add "br0" .bridge)) fun _ => .done .panicked

/-- A network in the first namespace runs both callbacks, and nothing leaks. -/
theorem switching_never_leaks_demo :
    let net : Network := ⟨"vm1", .ready⟩
    Reaches initial demoWorld.kernel ∧
      (net.execute World.spaces (demoNested.run storeModel) demoWorld).2.current = none ∧
      demoNested.places storeModel (demoWorld.inside (some "vm1")) =
        [some "vm1", some "vm1", some "vm1"] ∧
      net.execute World.spaces (demoNested.run storeModel) demoWorld =
        ((demoNested.run storeModel (demoWorld.inside (some "vm1"))).1,
          (demoNested.run storeModel (demoWorld.inside (some "vm1"))).2.inside none) ∧
      demoLinks.performed storeModel (demoWorld.inside (some "vm1")) =
        [.delete "in", .add "near" (.veth "far" (some "vm2"))] ∧
      Apart (some "vm1") [.delete "in", .add "near" (.veth "far" (some "vm2"))] demoWorld.kernel
        (net.execute World.spaces (demoLinks.run storeModel) demoWorld).2.kernel ∧
      (demoWorld.kernel.link? none "out").isSome ∧
      (net.execute World.spaces (demoLinks.run storeModel) demoWorld).2.kernel.link? none "out" =
        none ∧
      (net.execute World.spaces (demoLinks.run storeModel) demoWorld).2.kernel.link? (some "vm2")
        "far" = some { kind := .veth "near" (some "vm1"), peer := some (some "vm1", "near") } := by
  intro net
  have hsealed := switching_never_leaks storeModel demoWorld reaches_demoKernel
  have hperformed : demoLinks.performed storeModel (demoWorld.inside (some "vm1")) =
      [.delete "in", .add "near" (.veth "far" (some "vm2"))] := by decide +kernel
  refine ⟨reaches_demoKernel, hsealed.execute net _, by decide +kernel,
    hsealed.once net _ (by decide) (by decide +kernel) (by decide +kernel), hperformed, ?_,
    by decide +kernel, by decide +kernel, by decide +kernel⟩
  have hapart := hsealed.apart_execute net demoLinks fun _ _ => trivial
  rwa [hperformed] at hapart

end WorkloadNet.Session
