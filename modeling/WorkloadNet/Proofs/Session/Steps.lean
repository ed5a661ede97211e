import WorkloadNet.Proofs.Kernel.Carried

/-!
# What the steps of a session do to the kernel

A relation that the operations of a kernel carry leads through every step of a session, also through the
steps that run further steps inside namespaces and networks, to any depth. A body that runs inside a network
is handed over to be called once; over namespaces that call it once, nothing of the handover is seen.
-/

namespace WorkloadNet

open WorkloadNet.Action

/-- The body of a live network runs as it would inside the namespace alone. -/
theorem Network.execute_eq {σ α : Type} (spaces : NamespaceManager σ) (net : Network) (body : StateM σ (Ending α)) :
    net.execute spaces body = fun s =>
      match net.ensureAlive with
      | .error failure => (.failed failure, s)
      | .ok () => spaces.enter net.name body s := by
  funext s
  unfold Network.execute
  cases net.ensureAlive with
  | error failure => rfl
  | ok _ =>
    unfold NamespaceManager.enter NamespaceManager.zoom
    simp only [on_zoom]
    rcases (spaces.switch net.name).on s with ⟨failure | previous, s'⟩
    · rfl
    · simp only [Network.Handover.call, StateT.run]
      rcases body s' with ⟨a | failure | _, s''⟩
      · rfl
      · rfl
      · rfl

end WorkloadNet

namespace WorkloadNet.Session

open WorkloadNet.Action Kernel

variable {φ ε α : Type} {w : World φ} {name : String}

/-! ## Bodies inside a namespace -/

namespace World

/-- The current namespace of the kernel. -/
def current (w : World φ) : SpaceName := w.kernel.current

/-- The world with another namespace as the current one. -/
def inside (space : SpaceName) (w : World φ) : World φ :=
  { w with kernel := { w.kernel with current := space } }

end World

/-- A body runs once, and only when the namespace can be entered. -/
theorem enter_eq (name : String) (body : StateM (World φ) (Ending α)) (w : World φ) :
    World.spaces.enter name body w =
      if (.enterNamespace, name) ∈ w.kernel.pending then
        (.failed (injected .enterNamespace name),
          { w with kernel := w.kernel.spend .enterNamespace name })
      else if some name ∈ w.kernel.spaces then
        ((body (w.inside (some name))).1, (body (w.inside (some name))).2.inside w.current)
      else (.failed (.notFound "namespace" name), w) := by
  have hswitch : ((World.spaces : NamespaceManager (World φ)).switch name).on w =
      (((switch name).on w.kernel).1, { w with kernel := ((switch name).on w.kernel).2 }) := rfl
  unfold NamespaceManager.enter
  rw [hswitch, on_switch]
  by_cases hpending : (.enterNamespace, name) ∈ w.kernel.pending
  · rw [if_pos hpending, if_pos hpending]
  · rw [if_neg hpending, if_neg hpending]
    by_cases hspace : some name ∈ w.kernel.spaces
    · rw [if_pos hspace, if_pos hspace]
      rfl
    · rw [if_neg hspace, if_neg hspace]

/-! ## Steps -/

/-- The relation between the kernels of two worlds. -/
def Along (R : Kernel → Kernel → Prop) (w w' : World φ) : Prop := R w.kernel w'.kernel

section Carried

variable {R : Kernel → Kernel → Prop} (hR : Carried R)

include hR

theorem along_refl (w : World φ) : Along R w w := hR.refl w.kernel

/-- Two actions that lead along the relation do so one after the other. -/
theorem along_bind {β : Type} {action : Action (World φ) α} {next : α → Action (World φ) β}
    (h : Leads (Along R) action) (hnext : ∀ a, Leads (Along R) (next a)) :
    Leads (Along R) (action >>= next) :=
  Leads.bind (R := Along R) (fun _ _ _ => hR.trans) h hnext

theorem along_keepNew {id : String} {action : Action Kernel Network} (h : Leads R action) :
    Leads (Along R) (keepNew id action : Action (World φ) Value) := by
  have hkernel : Leads (Along R) (World.onKernel action : Action (World φ) Network) :=
    fun w => h w.kernel
  refine along_bind hR hkernel fun net => ?_
  have hkeep : Leads (Along R) (modify (World.keep id net) : Action (World φ) PUnit) :=
    fun w => hR.refl w.kernel
  exact along_bind hR hkeep fun _ => leads_pure (along_refl hR) _

theorem along_withNetwork {id : String} {action : Network → Action (World φ) Value}
    (h : ∀ net, Leads (Along R) (action net)) : Leads (Along R) (withNetwork id action) := by
  refine along_bind hR (leads_get (along_refl hR)) fun w => ?_
  cases w.networks[id]? with
  | none => exact leads_pure (along_refl hR) _
  | some net => exact h net

/-- Whatever is done to the packet filter leaves the kernel alone. -/
theorem along_onFilter {action : Action φ α} : Leads (Along R) (World.onFilter action) :=
  fun w => hR.refl w.kernel

/-- Every operation on networks leads along the relation. -/
theorem along_networkStep (fw : Firewall.Backend φ) (step : NetworkStep) :
    Leads (Along R) (step.run fw) := by
  have hdone : ∀ value : Value, Leads (Along R) (pure value : Action (World φ) Value) :=
    leads_pure (along_refl hR)
  cases step with
  | validate settings =>
    exact along_bind hR (leads_ofExcept (along_refl hR) _) fun _ => hdone _
  | build id settings => exact along_keepNew hR (hR.build settings)
  | «open» id settings => exact along_keepNew hR (hR.takeUp settings)
  | state id => exact along_withNetwork hR fun net => hdone _
  | connect id hostIf =>
    exact along_withNetwork hR fun net => along_bind hR (along_onFilter hR) fun _ => hdone _
  | disconnect id hostIf =>
    exact along_withNetwork hR fun net => along_bind hR (along_onFilter hR) fun _ => hdone _
  | destroy id =>
    exact along_withNetwork hR fun net w => hR.release w.kernel

/-- A body inside a namespace leads along the relation when it does so by itself. -/
theorem along_enter {body : StateM (World φ) (Ending α)} (hbody : ∀ w, Along R w (body w).2)
    (name : String) (w : World φ) : Along R w (World.spaces.enter name body w).2 := by
  rw [enter_eq]
  by_cases hpending : (.enterNamespace, name) ∈ w.kernel.pending
  · rw [if_pos hpending]
    exact hR.refused hpending
  · rw [if_neg hpending]
    by_cases hspace : some name ∈ w.kernel.spaces
    · rw [if_pos hspace]
      exact hR.inside hpending hspace (hbody (w.inside (some name)))
    · rw [if_neg hspace]
      exact hR.refl w.kernel

/-- So does one that is run inside a network. -/
theorem along_execute {body : StateM (World φ) (Ending α)} (hbody : ∀ w, Along R w (body w).2)
    (net : Network) (w : World φ) : Along R w (net.execute World.spaces body w).2 := by
  rw [Network.execute_eq]
  dsimp only
  cases net.ensureAlive with
  | error failure => exact hR.refl w.kernel
  | ok _ => exact along_enter hR hbody net.name w

mutual

/-- Every step of a session leads along the relation. -/
theorem along_runStep (model : FilterModel φ ε) : ∀ (step : Step ε) (w : World φ),
    Along R w (runStep model step w).2
  | .link step, w => hR.link step w.kernel
  | .space step, w => hR.space step w.kernel
  | .builder step, w => hR.builderStep step w.kernel
  | .network step, w => along_networkStep hR model.backend step w
  | .engine step, w => along_onFilter hR w
  | .filter step, w => along_onFilter hR w
  | .extra step, w => along_onFilter hR w
  | .failKernel op name, w => hR.failing op name w.kernel
  | .malformed message, w => along_refl hR w
  | .enter name steps propagate ending, w => by
    rw [runStep]
    dsimp only
    split
    rename_i result after hrun
    have hafter : (World.spaces.enter name _ w).2 = after := congrArg Prod.snd hrun
    show Along R w after
    rw [← hafter]
    exact along_enter hR (fun w => along_runSteps model propagate steps w) name w
  | .execute id steps propagate ending, w => by
    rw [runStep]
    dsimp only
    split
    · exact along_refl hR w
    · rename_i net hnet
      exact along_execute hR (fun w => along_runSteps model propagate steps w) net
        { w with networks := w.networks.erase id }

/-- And so does any number of steps. -/
theorem along_runSteps (model : FilterModel φ ε) (propagate : Bool) : ∀ (steps : List (Step ε))
    (w : World φ), Along R w (runSteps model propagate steps w).2
  | [], w => along_refl hR w
  | step :: rest, w => by
    have hstep := along_runStep model step w
    have hrest := along_runSteps model propagate rest (runStep model step w).2
    have hboth : Along R w (runSteps model propagate rest (runStep model step w).2).2 :=
      hR.trans hstep hrest
    rw [runSteps]
    rcases hrun : runStep model step w with ⟨failure | value, after⟩
    · rw [hrun] at hstep hboth
      dsimp only
      split
      · exact hstep
      · exact hboth
    · rw [hrun] at hboth
      exact hboth

end

end Carried

end WorkloadNet.Session
