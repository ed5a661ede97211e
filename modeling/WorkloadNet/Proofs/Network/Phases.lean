import WorkloadNet.Proofs.Kernel.Operations
import WorkloadNet.Session.Run

/-!
# The phases of building a network

A build checks its settings, creates the namespace, adds the veth pair and provisions both ends; the
failure of a phase is followed by the cleanup of that phase. The rules here say what has to be shown
of each phase and each cleanup, in terms of the kernels between them. Which failure is reported is
left open: it depends on the phase, the kernel that is left does not.
-/

namespace WorkloadNet.Network

open WorkloadNet.Action Kernel

variable {k : Kernel} {name : String}

/-! ## Settings -/

theorem required_ok {α : Type} {setting : Option α} {fault : SettingFault} {a : α}
    (h : required setting fault = .ok a) : setting = some a := by
  cases setting with
  | none => cases h
  | some b =>
    cases h
    rfl

/-- A plan has the settings that it was made of. -/
theorem plan_ok {σ : Type} {request : NetworkRequest σ} {p : NetworkPlan σ}
    (h : plan request = .ok p) :
    p.name = request.name ∧ request.subnet = some p.subnet ∧ request.gateway = some p.gateway ∧
      request.bridge = some p.bridge ∧ request.links = some p.links := by
  have hcheck : request.check = .ok p := by
    unfold plan at h
    cases hc : request.check with
    | ok q =>
      rw [hc] at h
      cases h
      rfl
    | error fault =>
      rw [hc] at h
      cases h
  unfold NetworkRequest.check at hcheck
  split at hcheck
  · cases hcheck
  split at hcheck
  · cases hcheck
  simp only [bind, Except.bind] at hcheck
  split at hcheck
  · cases hcheck
  split at hcheck
  · cases hcheck
  split at hcheck
  · cases hcheck
  rename_i _ _ hsubnet _ _ hgateway _ _ hbridge
  split at hcheck
  · cases hcheck
  split at hcheck
  · cases hcheck
  split at hcheck
  · cases hcheck
  split at hcheck
  · cases hcheck
  rename_i _ _ hlinks
  cases hcheck
  exact ⟨rfl, required_ok hsubnet, required_ok hgateway, required_ok hbridge, required_ok hlinks⟩

/-- The links of a plan made of settings are those of the kernel. -/
theorem links_of_plan_ok {settings : Session.NetworkSettings} {p : NetworkPlan Kernel}
    (h : plan settings.request = .ok p) : p.links = Kernel.links := by
  obtain ⟨-, -, -, -, hlinks⟩ := plan_ok h
  unfold Session.NetworkSettings.request at hlinks
  dsimp only at hlinks
  split at hlinks
  · exact (Option.some.inj hlinks).symm
  · cases hlinks

/-- Settings that make a plan. -/
def demoSettings : Session.NetworkSettings where
  name := "vm1"
  subnet := some ⟨⟨0x0a0a0000⟩, 24, by decide⟩
  gateway := some ⟨0x0a0a0001⟩
  bridge := some ⟨0x0a0a0002⟩
  hasLinks := true

/-! ## Cleanup -/

section Cleanup

variable {α : Type} {Q : α → Kernel → Prop} {M R : Kernel → Prop}

/-- Both deletions are attempted, whatever the first one reports. -/
theorem ends_release
    (hlink : Ends (deleteLink (hostLinkName name)) k (fun _ => M) (fun _ => M))
    (hspace : ∀ k₁, M k₁ → Ends (deleteSpace name) k₁ (fun _ => R) (fun _ => R)) :
    Ends (release links namespaces name) k (fun _ => R) (fun _ => R) := by
  unfold release
  refine Ends.bind (Ends.attempt (P := fun _ => M) (Ends.annotate hlink)) fun link k₁ hM => ?_
  refine Ends.bind (Ends.attempt (P := fun _ => R) (Ends.annotate (hspace k₁ hM)))
    fun space k₂ hR => ?_
  dsimp only
  split
  · exact ends_pure hR
  · exact ends_fail hR

theorem ends_unwind {failure : Failure}
    (h : Ends (release links namespaces name) k (fun _ => R) (fun _ => R)) :
    Ends (unwind links namespaces name failure) k Q (fun _ => R) := by
  unfold unwind
  refine Ends.bind (Ends.attempt (P := fun _ => R) h) fun result k₁ hR => ?_
  cases result with
  | ok _ => exact ends_fail hR
  | error _ => exact ends_fail hR

/-- A namespace that was there before the call is left alone. -/
theorem ends_abandon_existing {failure : Failure} (h : R k) :
    Ends (abandon namespaces name true failure) k Q (fun _ => R) := by
  unfold abandon
  exact ends_fail h

theorem ends_abandon_created {failure : Failure}
    (h : Ends (deleteSpace name) k (fun _ => R) (fun _ => R)) :
    Ends (abandon namespaces name false failure) k Q (fun _ => R) := by
  unfold abandon
  refine Ends.bind (Ends.attempt (P := fun _ => R) h) fun result k₁ hR => ?_
  cases result with
  | ok _ => exact ends_fail hR
  | error _ => exact ends_fail hR

end Cleanup

/-! ## Construction -/

section Construction

variable {p : NetworkPlan Kernel} {Q : Network → Kernel → Prop}

/-- The kernels between the phases: `C` after the namespace exists, `V` after the pair exists, `A`
when the pair could not be created, `U` when provisioning failed, `E` at the end of a failed
build. -/
theorem ends_ofPlan {C V A U E : Kernel → Prop} (hlinks : p.links = links)
    (hcreate : Ends (createSpace p.name) k (fun _ => C) (fun _ => E))
    (hveth : ∀ k₁, C k₁ → Ends (addVeth p) k₁ (fun _ => V) (fun _ => A))
    (habandon : ∀ k₁ failure, A k₁ →
      Ends (abandon namespaces p.name (k.spaces.contains (some p.name)) failure) k₁ Q (fun _ => E))
    (hprovision : ∀ k₁, V k₁ →
      Ends (provision namespaces p) k₁ (fun _ => Q ⟨p.name, .ready⟩) (fun _ => U))
    (hrelease : ∀ k₁, U k₁ →
      Ends (release links namespaces p.name) k₁ (fun _ => E) (fun _ => E)) :
    Ends (ofPlan namespaces p) k Q (fun _ => E) := by
  unfold ofPlan
  have hhas : Ends (namespaces.has p.name) k
      (fun existed k₁ => existed = k.spaces.contains (some p.name) ∧ k₁ = k) (fun _ => E) :=
    ⟨rfl, rfl⟩
  refine Ends.bind hhas ?_
  rintro _ _ ⟨rfl, rfl⟩
  refine Ends.bind (Ends.annotate hcreate) fun _ k₁ hC => ?_
  refine Ends.bind (Ends.outcome (hveth k₁ hC)) ?_
  rintro (failure | _) k₂ h
  · exact habandon k₂ failure h
  · refine Ends.bind (Ends.outcome (hprovision k₂ h)) ?_
    rintro (failure | _) k₃ h
    · rw [hlinks]
      exact ends_unwind (hrelease k₃ h)
    · exact ends_pure h

/-- Settings that do not make a plan change nothing. -/
theorem ends_build {request : NetworkRequest Kernel} {E : Kernel → Prop}
    (hinvalid : ∀ failure, plan request = .error failure → E k)
    (hvalid : ∀ p, plan request = .ok p → Ends (ofPlan namespaces p) k Q (fun _ => E)) :
    Ends (build namespaces request) k Q (fun _ => E) := by
  unfold build
  refine Ends.bind (ends_ofExcept (s := k) (Q := fun p k₁ => plan request = .ok p ∧ k₁ = k)
    (fun p h => ⟨h, rfl⟩) hinvalid) ?_
  rintro p _ ⟨hp, rfl⟩
  exact hvalid p hp

end Construction

end WorkloadNet.Network
