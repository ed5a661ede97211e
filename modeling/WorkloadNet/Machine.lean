import WorkloadNet.Kernel.Namespaces
import WorkloadNet.Text.FileTree
import WorkloadNet.Text.Quoted

/-!
# Machines

A machine keeps its named namespaces in a folder of its file system, one file for each. What can be said of
a name is said before the kernel is asked: the name of a namespace has to be the name of a file in the
folder, and the name of a tap device has to fit. A file of the folder that is no namespace is taken for one
until someone enters it.
-/

namespace WorkloadNet

/-- A kernel and files. -/
structure Machine where
  /-- The kernel. -/
  kernel : Kernel := Kernel.initial
  /-- The files that are no namespaces. -/
  files : Text.FileTree := {}

namespace Machine

variable {α : Type}

/-- An action of the kernel, on the machine. -/
def onKernel (action : Action Kernel α) : Action Machine α :=
  action.zoom kernel fun kernel m => { m with kernel }

/-! ## Namespaces -/

/-- Whether a text can name a namespace: a folder cannot be left by it. -/
def isSpaceName (name : String) : Bool :=
  name ≠ "" && !name.contains '/' && name ≠ "." && name ≠ ".."

/-- The path of a namespace in a folder. -/
def spacePath (folder name : String) : Except Failure String :=
  if isSpaceName name then .ok (Text.Path.join folder name)
  else .error (.config s!"invalid namespace name {Text.quoted name}")

/-- Whether there is a namespace of a name, or a file in its place, or why there is not. -/
def entry (m : Machine) (name path : String) : Except IoCause Unit :=
  if m.kernel.spaces.contains (some name) then .ok ()
  else (m.files.openPath path).map fun _ => ()

/-- Creates a namespace; one that is there is no failure. -/
def createSpace (folder name : String) : Action Machine Unit := do
  let path ← Action.ofExcept (spacePath folder name)
  match (← get).entry name path with
  | .ok () => return ()
  | .error cause =>
    if cause = .system errNoEntry then onKernel (Kernel.createSpace name)
    else Action.fail (.io path cause)

/-- Deletes a namespace, or the file in its place; when there is neither, that is no failure. -/
def deleteSpace (folder name : String) : Action Machine Unit := do
  let path ← Action.ofExcept (spacePath folder name)
  match (← get).files.openPath path with
  | .ok _ => modify fun m => { m with files := m.files.remove path }
  | .error (.system number) =>
    if number = errNoEntry then onKernel (Kernel.deleteSpace name)
    else Action.fail (.kernel s!"unmount namespace {name}" (namedSystemError number))
  | .error cause => Action.fail (.io path cause)

/-- Whether there is a namespace, or a file in its place. -/
def hasSpace (folder name : String) : Action Machine Bool := do
  let path ← Action.ofExcept (spacePath folder name)
  match (← get).entry name path with
  | .ok () => return true
  | .error _ => return false

/-- Makes a namespace the current one and answers with the one before. -/
def switch (folder name : String) : Action Machine SpaceName := do
  let path ← Action.ofExcept (spacePath folder name)
  match (← get).files.openPath path with
  | .ok _ => Action.fail (.kernel s!"enter namespace {name}" (namedSystemError errInvalid))
  | .error cause =>
    if cause = .system errNoEntry then onKernel (Kernel.switch name)
    else Action.fail (.io path cause)

/-- The namespaces of a machine, with their files in a folder. -/
def namespaces (folder : String) : NamespaceManager Machine where
  create := createSpace folder
  delete := deleteSpace folder
  has := hasSpace folder
  switch := switch folder
  restore previous m := { m with kernel := Kernel.namespaces.restore previous m.kernel }

/-! ## Links -/

/-- Checks the name of a new tap device. -/
def checkTapName (name : String) : Except Failure Unit :=
  if name ≠ "" ∧ name.utf8ByteSize ≤ maxLinkName then .ok ()
  else .error (.config s!"tap name {Text.quoted name} must be 1 to {maxLinkName} bytes")

/-- Checks that a veth end can be moved into a namespace. -/
def checkTarget (m : Machine) (folder space : String) : Except Failure Unit :=
  let path := Text.Path.join folder space
  match m.entry space path with
  | .ok () => .ok ()
  | .error cause =>
    if cause = .system errNoEntry then .error (.notFound "namespace" space)
    else .error (.io path cause)

/-- Creates a link. -/
def addLink (folder name : String) (kind : LinkKind) : Action Machine Unit := do
  match kind with
  | .tap => Action.ofExcept (checkTapName name)
  | .veth _ (some space) => Action.ofExcept (checkTarget (← get) folder space)
  | _ => pure ()
  onKernel (Kernel.addLink name kind)

/-- The links of a machine, with the files of its namespaces in a folder. -/
def links (folder : String) : LinkManager Machine :=
  { Kernel.links.zoom kernel fun kernel m => { m with kernel } with add := addLink folder }

end Machine

end WorkloadNet
