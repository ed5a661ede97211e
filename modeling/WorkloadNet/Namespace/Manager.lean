import WorkloadNet.Action
import WorkloadNet.Link.Kind

/-!
# Operations on namespaces

`NamespaceManager σ` is what the rest of the library needs from whatever holds the named network
namespaces. A body runs inside a namespace by `NamespaceManager.enter`: the namespace before the
call is put back when the body ends, whichever way it ends.
-/

namespace WorkloadNet

/-- Operations on named namespaces. -/
structure NamespaceManager (σ : Type) where
  /-- Creates a namespace; an existing one is no failure. -/
  create : String → Action σ Unit
  /-- Deletes a namespace with every link in it; a missing one is no failure. -/
  delete : String → Action σ Unit
  /-- Whether a namespace of this name exists. -/
  has : String → Action σ Bool
  /-- Makes a named namespace the current one and answers with the one before. -/
  switch : String → Action σ SpaceName
  /-- Makes a namespace the current one again. -/
  restore : SpaceName → σ → σ

namespace NamespaceManager

variable {σ κ α : Type}

/-- The same operations on a part of a larger state. -/
def zoom (get : σ → κ) (put : κ → σ → σ) (spaces : NamespaceManager κ) :
    NamespaceManager σ where
  create name := (spaces.create name).zoom get put
  delete name := (spaces.delete name).zoom get put
  has name := (spaces.has name).zoom get put
  switch name := (spaces.switch name).zoom get put
  restore previous s := put (spaces.restore previous (get s)) s

/-- Runs a body inside a namespace, once, and puts the namespace before the call back. When the
namespace cannot be entered the body does not run. -/
def enter (spaces : NamespaceManager σ) (name : String) (body : StateM σ (Ending α)) :
    StateM σ (Ending α) := fun s =>
  match (spaces.switch name).on s with
  | (.error failure, s) => (.failed failure, s)
  | (.ok previous, s) =>
    let (ending, s) := body.run s
    (ending, spaces.restore previous s)

/-- Runs an action inside a namespace. -/
def within (spaces : NamespaceManager σ) (name : String) (action : Action σ α) : Action σ α :=
  .of fun s =>
    match (spaces.switch name).on s with
    | (.error failure, s) => (.error failure, s)
    | (.ok previous, s) =>
      let (result, s) := action.on s
      (result, spaces.restore previous s)

end NamespaceManager

end WorkloadNet
