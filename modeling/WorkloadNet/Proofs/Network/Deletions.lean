import WorkloadNet.Proofs.Network.Agreement
import WorkloadNet.Proofs.Nft.Recording

/-!
# Deletions

The engine deletes its own rules only. Whatever a tool answers, each deletion that an operation asks
for is of the first match of a rule which this operation withdraws, in a listing read for it; rules
of other tables, of other chains and of other programs are never named.
-/

namespace WorkloadNet.Network

open WorkloadNet.Action Firewall Nft

variable {τ α : Type} {tool : Tool τ} {rules : List Rule}

namespace Operation

/-- The rules whose first matches an operation removes. -/
def withdrawn : Operation → List Rule
  | engine (.removeRules rules) => rules
  | engine (.switchHostInterface old _ bridge mark) =>
    ((old.filter (· ≠ "")).map fun hostIf => bridgeRuleList hostIf bridge mark).getD []
  | disconnect net hostIf => net.uplinkRuleList hostIf
  | _ => []

/-- Runs operations one after another, whatever fails: each result with the state after it, and with
what was said to the tool in between. -/
def dialogue (tool : Tool τ) : List Operation → τ → List (Session.Result × τ × List Exchange)
  | [], _ => []
  | op :: rest, t =>
    let after := (op.run tool.recorded.backend).on (t, [])
    after :: dialogue tool rest after.2.1

end Operation

/-! ## Operations are careful -/

theorem careful_silent {a : Action (τ × List Exchange) Unit} {b : Action τ Unit}
    (h : Careful rules a b) : Careful rules (Session.silent a) (Session.silent b) :=
  h.bind fun _ => careful_pure _

theorem careful_addRules (set : RuleSet) :
    Careful rules (tool.recorded.backend.addRules set) (tool.backend.addRules set) :=
  careful_addAll set.rules

/-- A list of rules that passed its check is withdrawn as it was given. -/
theorem careful_removeRules {removed : List Rule} {set : RuleSet}
    (hset : RuleSet.ofList removed = .ok set) :
    Careful removed (tool.recorded.backend.removeRules set) (tool.backend.removeRules set) := by
  have hcareful : Careful set.rules (tool.recorded.backend.removeAll set.rules)
      (tool.backend.removeAll set.rules) := careful_removeAll set.rules
  have hrules := RuleSet.rules_of_ofList hset
  rw [← hrules]
  exact hcareful

theorem careful_prepareBridgeChains (mark : String) :
    Careful rules (tool.recorded.backend.prepareBridgeChains mark)
      (tool.backend.prepareBridgeChains mark) :=
  careful_ensureStandardTables.bind fun _ =>
    (careful_addJumpRule _ _ _).bind fun _ => careful_addJumpRule _ _ _

theorem careful_switchHostInterface (old new : Option String) (bridge mark : String) :
    Careful (Operation.engine (.switchHostInterface old new bridge mark)).withdrawn
      (tool.recorded.backend.switchHostInterface old new bridge mark)
      (tool.backend.switchHostInterface old new bridge mark) := by
  refine (careful_prepareBridgeChains mark).bind fun _ => Careful.bind ?_ fun _ => ?_
  · change Careful (((old.filter (· ≠ "")).map fun hostIf => bridgeRuleList hostIf bridge mark).getD [])
      _ _
    unfold Backend.detachBridge
    rcases old.filter (· ≠ "") with _ | hostIf
    · exact careful_pure _
    · exact careful_ofExcept_bind fun set hset => careful_removeRules hset
  · unfold Backend.attachBridge
    rcases new.filter (· ≠ "") with _ | hostIf
    · exact careful_pure _
    · exact careful_ofExcept_bind fun set _ => careful_addRules set

/-- An operation deletes only what is licensed by the rules that it withdraws. -/
theorem careful_operation (tool : Tool τ) (op : Operation) :
    Careful op.withdrawn (op.run tool.recorded.backend) (op.run tool.backend) := by
  cases op with
  | connect net hostIf =>
    refine careful_silent ((careful_ofExcept _).bind fun _ => ?_)
    exact careful_ofExcept_bind fun set _ => careful_addRules set
  | disconnect net hostIf =>
    refine careful_silent ((careful_ofExcept _).bind fun _ => ?_)
    exact careful_ofExcept_bind fun set hset => careful_removeRules hset
  | engine step =>
    cases step with
    | ensureStandardTables => exact careful_silent careful_ensureStandardTables
    | ensureTable request => exact careful_silent (careful_ensureTable request)
    | newChain request => exact (careful_newChain request).bind fun _ => careful_pure _
    | addJumpRule source target table =>
      exact careful_silent (careful_addJumpRule source target table)
    | addRules rules =>
      exact careful_ofExcept_bind fun set _ => careful_silent (careful_addRules set)
    | removeRules rules =>
      exact careful_ofExcept_bind fun set hset => careful_silent (careful_removeRules hset)
    | configureBridge bridge hostIf mark =>
      refine careful_silent ((careful_prepareBridgeChains mark).bind fun _ => ?_)
      exact careful_ofExcept_bind fun set _ => careful_addRules set
    | switchHostInterface old new bridge mark =>
      exact careful_silent (careful_switchHostInterface old new bridge mark)

/-! ## Runs -/

/-- Whatever operations run and whatever the tool answers: recording what is said to the tool makes
no difference, and every deletion that an operation asks for is of the first match of a rule that it
withdraws, in the table that the rule's table means and in the rule's chain, by a listing read right
before. No rule without the mark of the fingerprints is named by a deletion. -/
theorem deletions_licensed (tool : Tool τ) (ops : List Operation) (t : τ) :
    (Operation.dialogue tool ops t).map (fun x => (x.1, x.2.1)) =
        Operation.trace tool.backend ops t ∧
      List.Forall₂ (fun op x => Licensed op.withdrawn x.2.2 ∧ Harmless x.2.2) ops
        (Operation.dialogue tool ops t) := by
  induction ops generalizing t with
  | nil => exact ⟨rfl, .nil⟩
  | cons op rest ih =>
    obtain ⟨log, hon, hlicensed⟩ := careful_operation tool op t
    -- The recorded operation leaves the same state, and the rest of both runs starts from it.
    have hafter := hon []
    rw [List.nil_append] at hafter
    obtain ⟨hresults, hdeletions⟩ := ih ((op.run tool.backend).on t).2
    unfold Operation.dialogue Operation.trace
    dsimp only
    rw [hafter]
    refine ⟨?_, .cons ⟨hlicensed, hlicensed.harmless⟩ hdeletions⟩
    rw [List.map_cons, hresults]

/-- A tool that takes every command and always shows the same rule set. -/
def showing (objects : List Listed) : Tool Unit where
  list := fun _ => (.ok objects, ())
  apply _ := fun _ => (.ok (), ())

/-- The deletion that an exchange asks for. -/
def deletion? : Exchange → Option Command
  | .applied (.deleteRule spec name handle) _ => some (.deleteRule spec name handle)
  | _ => none

/-- The rules of a network among rules of others: in a table of the same name, in another chain, with
no handle, with no comment, and with the same handles in another table. -/
def crowd : List Listed :=
  let outbound := some (Rule.outbound forwardChain filterTable "eth0" "vm1-host").fingerprint
  let masquerade := some (Rule.masquerade postroutingChain natTable "eth0").fingerprint
  [.table .ip "filter", .rule .ip "filter" "FORWARD" (some 4) outbound,
    .table .inet "filter", .chain .inet "filter" "FORWARD", .chain .inet "filter" "INPUT",
    .rule .inet "filter" "OTHER" (some 1) outbound, .rule .inet "filter" "FORWARD" none outbound,
    .rule .inet "filter" "FORWARD" (some 2) none, .rule .inet "filter" "FORWARD" (some 3) "ssh",
    .rule .inet "filter" "FORWARD" (some 4) outbound,
    .rule .inet "filter" "FORWARD" (some 5) outbound,
    .table .ip "nat", .rule .ip "nat" "POSTROUTING" (some 4) none,
    .rule .ip "nat" "POSTROUTING" (some 5) masquerade]

/-- A disconnect, a removal and a lost host interface. -/
def crowdOperations : List Operation :=
  [.disconnect ⟨"vm1", .ready⟩ "eth0", .engine (.removeRules [.masquerade "OTHER" "filter" "eth0"]),
    .engine (.switchHostInterface (some "eth0") none "br0" "QEMU-")]

/-- Among rules of others only those of the network and of the bridge are deleted. -/
theorem deletions_licensed_demo :
    Unambiguous crowd ∧
      ((Operation.dialogue (showing crowd) crowdOperations ()).map
          fun x => x.2.2.filterMap deletion?) =
        [[.deleteRule standardFilter.spec "FORWARD" 4, .deleteRule standardNat.spec "POSTROUTING" 5],
          [], [.deleteRule standardNat.spec "POSTROUTING" 5]] ∧
      List.Forall₂ (fun op x => Licensed op.withdrawn x.2.2 ∧ Harmless x.2.2) crowdOperations
        (Operation.dialogue (showing crowd) crowdOperations ()) :=
  ⟨by decide +kernel, by decide +kernel,
    (deletions_licensed (showing crowd) crowdOperations ()).2⟩

end WorkloadNet.Network
