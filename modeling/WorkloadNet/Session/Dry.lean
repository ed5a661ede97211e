import WorkloadNet.Firewall.Store
import WorkloadNet.Session.Run

/-!
# Sessions in memory

A dry session runs on a kernel and a packet filter in memory. Besides the steps that every packet
filter has, the store can be made to fail and can be looked into.
-/

namespace WorkloadNet.Session

open Firewall

/-- The steps that only a store has. -/
inductive StoreStep where
  /-- Makes the next call of an operation fail. -/
  | fail (op : StoreOp)
  /-- Makes an append fail. -/
  | failAppend (nth : Nat)
  /-- Asks for a chain of any table of a name. -/
  | hasChain (table chain : String)
  /-- Asks for the fingerprints in a chain of any table of a name. -/
  | rulesIn (table chain : String)
  deriving DecidableEq, Repr

/-- Runs a step that only a store has. -/
def StoreStep.run : StoreStep → Action Store Value
  | fail op => silent (modify (Store.failOnce op))
  | failAppend nth => silent (modify (Store.failOnAppend nth))
  | hasChain table chain => do return .bool ((← get).hasChain table chain)
  | rulesIn table chain => do return .texts ((← get).rulesIn table chain)

/-- A store with the steps that only it has. -/
def storeModel : FilterModel Store StoreStep := ⟨Store.backend, StoreStep.run⟩

/-- A world in memory at its beginning: the host namespace, no table, no network. -/
def emptyWorld : World Store := { filter := Store.empty }

/-- A step of a session in memory. -/
abbrev DryStep := Step StoreStep

/-- Runs steps in memory; answers each result with the world after it. -/
def dryRun : List DryStep → World Store → List (Result × World Store)
  | [], _ => []
  | step :: rest, w =>
    let (result, w) := runStep storeModel step w
    (result, w) :: dryRun rest w

end WorkloadNet.Session
