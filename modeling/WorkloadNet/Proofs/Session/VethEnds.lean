import WorkloadNet.Proofs.Network.Phases
import WorkloadNet.Proofs.Session.Tours
import WorkloadNet.Session.Dry

/-!
# Veth ends come in pairs

Everything that a session does to its kernel is a run of moves, so what moves keep holds in every kernel
that a session may be in, at its top or inside bodies of any depth: a link has the other end of a pair on
record exactly if it is a veth, and that other end is there and names the link in turn. Deleting one end,
or the namespace that holds it, therefore takes both.
-/

namespace WorkloadNet.Session

open WorkloadNet.Action Kernel

variable {φ ε : Type} {k : Kernel}

/-- The kernels that a session may be in: at its beginning, after a step, inside a body that has just
begun, and wherever a body that ended leads back to. -/
inductive Visits (model : FilterModel φ ε) : Kernel → Prop
  | start : Visits model Kernel.initial
  | step (s : Step ε) (w : World φ) (h : Visits model w.kernel) :
      Visits model (runStep model s w).2.kernel
  | enter (name : String) (k : Kernel) (h : Visits model k) (hspace : some name ∈ k.spaces) :
      Visits model { k with current := some name }
  | leave (previous : SpaceName) (k : Kernel) (h : Visits model k) :
      Visits model { k with current := previous }

/-! ## Sessions make moves -/

/-- Which namespace is the current one makes no difference to the links. -/
theorem reaches_current (h : Reaches initial k) (space : SpaceName) :
    Reaches initial { k with current := space } := h.tail (.leave space k)

theorem Visits.reaches {model : FilterModel φ ε} (h : Visits model k) : Reaches initial k := by
  induction h with
  | start => exact .refl
  | step s w _ ih => exact ih.trans ((runStep_toured model s w).reaches)
  | enter name k _ _ ih => exact reaches_current ih (some name)
  | leave previous k _ ih => exact reaches_current ih previous

/-! ## Pairs -/

/-- Every veth is one end of a pair and no other link is, and the two ends of a pair go together. -/
structure VethPaired (k : Kernel) : Prop where
  /-- The other end is on record exactly for links of this kind. -/
  recorded : ∀ space name link, k.link? space name = some link →
    (link.peer.isSome ↔ ∃ peer peerSpace, link.kind = .veth peer peerSpace)
  /-- The other end is there, and names the link in turn. -/
  back : ∀ space name link far peer, k.link? space name = some link →
    link.peer = some (far, peer) →
      ∃ other, k.link? far peer = some other ∧ other.peer = some (space, name)
  /-- Deleting one end takes both. -/
  deleteLink : ∀ space name link far peer, k.link? space name = some link →
    link.peer = some (far, peer) → (.deleteLink, name) ∉ k.pending →
      ∃ after, (links.delete name).on { k with current := space } = (.ok (), after) ∧
        after.link? space name = none ∧ after.link? far peer = none
  /-- Deleting the namespace that holds one end takes both. -/
  deleteSpace : ∀ holder name link far peer, k.link? (some holder) name = some link →
    link.peer = some (far, peer) → (.deleteNamespace, holder) ∉ k.pending →
      ∃ after, (namespaces.delete holder).on k = (.ok (), after) ∧
        after.link? (some holder) name = none ∧ after.link? far peer = none

theorem peer?_of_link? {space far : SpaceName} {name peer : String} {link : Link}
    (hlink : k.link? space name = some link) (hpeer : link.peer = some (far, peer)) :
    peer? k.spaces space name = some (far, peer) := by
  have hlookup : lookup k.spaces space name = some link := hlink
  rw [peer?, hlookup]
  exact hpeer

/-- In every kernel that a session may be in, veth ends come in pairs. -/
theorem veth_ends_paired (model : FilterModel φ ε) (hvisits : Visits model k) : VethPaired k where
  recorded space name link hlink := allMarked_of_reaches hvisits.reaches space name link hlink
  back space name link far peer hlink hpeer := by
    have hcoupled := coupled_of_reaches hvisits.reaches
    exact Option.bind_eq_some_iff.1 (hcoupled _ _ _ _ (peer?_of_link? hlink hpeer))
  deleteLink space name link far peer hlink hpeer hcalm := by
    have hdelete := on_deleteLink { k with current := space } name
    rw [if_neg hcalm] at hdelete
    refine ⟨_, hdelete, ?_, ?_⟩
    · rw [link?_eq_lookup, lookup_removeLink]
      exact if_pos (Or.inl rfl)
    · rw [link?_eq_lookup, lookup_removeLink]
      exact if_pos (Or.inr (peer?_of_link? hlink hpeer))
  deleteSpace holder name link far peer hlink hpeer hcalm := by
    have hcoupled := coupled_of_reaches hvisits.reaches
    have hdelete := on_deleteSpace k holder
    rw [if_neg hcalm] at hdelete
    refine ⟨_, hdelete, ?_, ?_⟩
    · exact (lookup_withoutSpace hcoupled name).1 (Or.inl rfl)
    · exact (lookup_withoutSpace hcoupled peer).1 (Or.inr ⟨name, peer?_of_link? hlink hpeer⟩)

/-- A network is built, and in a body inside its namespace a second pair with both ends there is made. -/
def builtWorld : World Firewall.Store :=
  (runStep storeModel (.network (.build "a" Network.demoSettings)) emptyWorld).2

/-- The kernel in that body. -/
def pairedKernel : Kernel :=
  (runStep storeModel (.link (.add "left" (.veth "right" none))) (builtWorld.inside (some "vm1"))).2.kernel

theorem veth_ends_paired_demo :
    Visits storeModel pairedKernel ∧
    (pairedKernel.link? (some "vm1") "left").bind Link.peer = some (some "vm1", "right") ∧
    (pairedKernel.link? (some "vm1") "vm1-net").bind Link.peer = some (none, "vm1-host") ∧
    VethPaired pairedKernel := by
  have hbuilt : Visits storeModel builtWorld.kernel := .step _ emptyWorld .start
  have hspace : some "vm1" ∈ builtWorld.kernel.spaces := by decide +kernel
  have hinside : Visits storeModel (builtWorld.inside (some "vm1")).kernel :=
    .enter "vm1" builtWorld.kernel hbuilt hspace
  have hvisits : Visits storeModel pairedKernel := .step _ _ hinside
  exact ⟨hvisits, by decide +kernel, by decide +kernel, veth_ends_paired storeModel hvisits⟩

end WorkloadNet.Session
