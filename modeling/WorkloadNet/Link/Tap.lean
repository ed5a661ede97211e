import WorkloadNet.Link.Bridge

/-!
# Tap devices

A tap device is created, attached to its bridge and brought up. A device that exists is only brought
up. One created by the call is deleted again when a later step fails.
-/

namespace WorkloadNet

variable {σ : Type}

/-- Brings a tap device up. -/
def bringTapUp (links : LinkManager σ) (name : String) : Action σ Unit :=
  (links.bringUp name).annotate s!"failed to bring tap {name} up"

/-- The steps that follow the creation of a tap device. -/
def configureTap (links : LinkManager σ) (name bridge : String) : Action σ Unit := do
  (links.setMaster name bridge).annotate s!"failed to set master for tap {name}"
  bringTapUp links name

/-- Makes sure that a tap device exists and is up; a new one is attached to the bridge. -/
def createTap (links : LinkManager σ) (name bridge : String) : Action σ Unit := do
  let present ← (links.has name).annotate "unexpected error checking link"
  if present then bringTapUp links name
  else
    (links.add name .tap).annotate s!"failed to add tap device {name}"
    links.orUndo name "failed to delete tap" (configureTap links name bridge)

end WorkloadNet
