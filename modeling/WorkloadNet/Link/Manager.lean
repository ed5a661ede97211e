import WorkloadNet.Action
import WorkloadNet.Address.Cidr
import WorkloadNet.Link.Kind

/-!
# Operations on links

`LinkManager σ` is what the rest of the library needs from whatever holds the links, over a state
`σ`. Every operation acts in the current namespace.
-/

namespace WorkloadNet

/-- Operations on the links of the current namespace. -/
structure LinkManager (σ : Type) where
  /-- Creates a link; fails with "already exists" when the name is taken. -/
  add : String → LinkKind → Action σ Unit
  /-- Assigns an address to a link. -/
  setAddress : String → Cidr → Action σ Unit
  /-- Whether a link of this name exists. -/
  has : String → Action σ Bool
  /-- Attaches a link to a bridge. -/
  setMaster : String → String → Action σ Unit
  /-- Sets a link up. -/
  bringUp : String → Action σ Unit
  /-- Whether a link carries exactly this address and prefix length. -/
  hasAddress : String → Cidr → Action σ Bool
  /-- Deletes a link; a missing one is no failure. -/
  delete : String → Action σ Unit
  /-- Turns transmit checksum offloading off. -/
  disableTxOffload : String → Action σ Unit
  /-- Installs the default route by way of a gateway through a link. -/
  addDefaultRoute : String → V4 → Action σ Unit

/-- The longest name that a link may have, in bytes. -/
def maxLinkName : Nat := 15

variable {σ κ : Type}

/-- The same operations on a part of a larger state. -/
def LinkManager.zoom (get : σ → κ) (put : κ → σ → σ) (links : LinkManager κ) :
    LinkManager σ where
  add name kind := (links.add name kind).zoom get put
  setAddress name address := (links.setAddress name address).zoom get put
  has name := (links.has name).zoom get put
  setMaster name master := (links.setMaster name master).zoom get put
  bringUp name := (links.bringUp name).zoom get put
  hasAddress name address := (links.hasAddress name address).zoom get put
  delete name := (links.delete name).zoom get put
  disableTxOffload name := (links.disableTxOffload name).zoom get put
  addDefaultRoute name gateway := (links.addDefaultRoute name gateway).zoom get put

end WorkloadNet
