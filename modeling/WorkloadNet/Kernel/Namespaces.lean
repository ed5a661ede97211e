import WorkloadNet.Kernel.Links
import WorkloadNet.Namespace.Manager

/-!
# Namespace operations of a kernel in memory

Deleting a namespace deletes every link in it, and with each veth end the other end of its pair.
-/

namespace WorkloadNet.Kernel

/-- Creates a namespace; an existing one stays as it is. -/
def createSpace (name : String) : Action Kernel Unit := do
  takeFailure .createNamespace name
  modify fun k => { k with spaces := k.spaces.insertIfNew (some name) {} }

/-- Removes the other ends of the pairs that these links belong to. -/
def removePeers (links : List Link) (spaces : Spaces) : Spaces :=
  links.foldl (fun spaces link =>
    match link.peer with
    | some (space, peer) => removeLink space peer spaces
    | none => spaces) spaces

/-- Deletes a namespace; a missing one is no failure. -/
def deleteSpace (name : String) : Action Kernel Unit := do
  takeFailure .deleteNamespace name
  modify fun k =>
    match k.spaces[(some name : SpaceName)]? with
    | none => k
    | some space => { k with spaces := removePeers space.links.values (k.spaces.erase (some name)) }

/-- Whether a namespace exists. -/
def hasSpace (name : String) : Action Kernel Bool := do
  return (← get).spaces.contains (some name)

/-- Makes a namespace the current one and answers with the one before. -/
def switch (name : String) : Action Kernel SpaceName := do
  takeFailure .enterNamespace name
  let k ← get
  if ¬ k.spaces.contains (some name) then Action.fail (.notFound "namespace" name)
  set { k with current := some name }
  return k.current

/-- The namespace operations of a kernel in memory. -/
def namespaces : NamespaceManager Kernel where
  create := createSpace
  delete := deleteSpace
  has := hasSpace
  switch := switch
  restore previous k := { k with current := previous }

end WorkloadNet.Kernel
