import WorkloadNet.Text.File
import WorkloadNet.Text.Path

/-!
# Trees of files

A tree says what stands at paths. A path is looked up name by name, from the root or from the folder that
the program runs in, and the first name that leads nowhere decides why the path does: it is too long, there
is nothing of that name, or what comes before it is no folder. Folders on the way to a file are there too.
-/

namespace WorkloadNet.Text

/-- What stands at a path. -/
inductive Place where
  /-- A folder. -/
  | folder
  /-- A file with its bytes; `runs` when it is a program. -/
  | file (content : ByteArray) (runs : Bool)

/-- Files and folders by the names of their paths. -/
structure FileTree where
  /-- What stands where. -/
  places : List (List String × Place) := []

namespace FileTree

/-- The names that a path is kept under. -/
def key (path : String) : List String := (Path.components path).filter (· ≠ ".")

/-- A tree with something put at a path. -/
def add (path : String) (place : Place) (tree : FileTree) : FileTree :=
  ⟨(key path, place) :: tree.places⟩

/-- A tree without what stands at a path. -/
def remove (path : String) (tree : FileTree) : FileTree :=
  ⟨tree.places.filter fun (names, _) => names ≠ key path⟩

/-- A tree with a file of this content at a path. -/
def addFile (path : String) (content : ByteArray) (tree : FileTree) : FileTree :=
  tree.add path (.file content false)

/-- What stands under some names. -/
def under? (names : List String) (tree : FileTree) : Option Place :=
  (tree.places.lookup names).or
    (if tree.places.any fun (longer, _) => names.isPrefixOf longer then some .folder else none)

/-- The folder above some names; the root is above itself. -/
def above (names : List String) : List String := if names = [""] then names else names.dropLast

/-- Where names lead from a place. -/
def descend (tree : FileTree) (here : List String) : Place → List String → Except IoCause Place
  | place, [] => .ok place
  | .folder, name :: rest =>
    if Path.isIdle name then tree.descend here .folder rest
    else if name = ".." then tree.descend (above here) .folder rest
    else if Path.maxName < name.utf8ByteSize then .error (.system errNameTooLong)
    else
      match tree.under? (here ++ [name]) with
      | some place => tree.descend (here ++ [name]) place rest
      | none => .error (.system errNoEntry)
  | .file _ _, _ :: _ => .error (.system errNotDirectory)

/-- What a path leads to, or why it leads nowhere. -/
def lookUp (tree : FileTree) (path : String) : Except IoCause Place :=
  if path = "" then .error (.system errNoEntry)
  else if Path.maxPath < path.utf8ByteSize then .error (.system errNameTooLong)
  else
    match Path.names path with
    | "" :: names => tree.descend [""] .folder names
    | names => tree.descend [] .folder names

/-- What a path to be opened leads to, or why it leads nowhere. -/
def openPath (tree : FileTree) (path : String) : Except IoCause Place :=
  if path.contains '\x00' then .error (.other "file name contained an unexpected NUL byte")
  else tree.lookUp path

/-- The bytes of the file at a path. -/
def read (tree : FileTree) (path : String) : FileContent := do
  match ← tree.openPath path with
  | .file content _ => return content
  | .folder => throw (.system errIsDirectory)

end FileTree

end WorkloadNet.Text
