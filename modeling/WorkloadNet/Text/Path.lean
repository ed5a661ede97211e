/-!
# Paths of files

A path is a sequence of names between slashes. Slashes at its end do not count, and neither do single dots
there. The last name is the base, and what stands before it is the folder.
-/

namespace WorkloadNet.Text.Path

/-- A path, last character first, from the last name on. -/
def fromLastName : List Char → List Char
  | '/' :: rest => fromLastName rest
  | '.' :: '/' :: rest => fromLastName rest
  | path => path

/-- The last name of a path, unless that is a dot or two, or there is none. -/
def base? (path : String) : Option String :=
  let name := (fromLastName path.toList.reverse).takeWhile (· ≠ '/')
  if name = [] ∨ name = ['.'] ∨ name = ['.', '.'] then none else some (String.ofList name.reverse)

/-- What stands before the last name; the root when that is all there is, and otherwise a dot when there is
nothing. -/
def folder (path : String) : String :=
  match fromLastName ((fromLastName path.toList.reverse).dropWhile (· ≠ '/')) with
  | [] => if path.startsWith "/" then "/" else "."
  | rest => String.ofList rest.reverse

/-- A name in a folder; a path that begins at the root stands for itself. -/
def join (folder name : String) : String :=
  if name.startsWith "/" ∨ folder = "" then name
  else if folder.endsWith "/" then folder ++ name
  else folder ++ "/" ++ name

/-- The texts between the slashes of a path. -/
def names (path : String) : List String := (path.toList.splitOnP (· = '/')).map String.ofList

/-- Whether a name leads nowhere else. -/
def isIdle (name : String) : Bool := name = "" || name = "."

/-- The names that a path is made of. A path that begins at the root has an empty name first, and only a
first dot is kept. -/
def components (path : String) : List String :=
  match names path with
  | [] => []
  | first :: rest => if path = "" then [] else first :: rest.filter fun name => !isIdle name

/-- Whether two paths are made of the same names. -/
def same (a b : String) : Bool := components a = components b

/-- The longest name that a file may have, in bytes. -/
def maxName : Nat := 255

/-- The longest path that is looked up, in bytes. -/
def maxPath : Nat := 4095

end WorkloadNet.Text.Path
