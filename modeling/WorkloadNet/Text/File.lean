import WorkloadNet.Failure

/-!
# Text files

A file is there with its bytes, or it cannot be opened. Its text is read as UTF-8; a file that holds
anything else has no text.
-/

namespace WorkloadNet.Text

/-- What a path leads to: the bytes of a file, or why it cannot be opened. -/
abbrev FileContent := Except IoCause ByteArray

/-- No file of that name. -/
def noFile : FileContent := .error (.system errNoEntry)

/-- The content of a file that holds a text. -/
def fileOfText (text : String) : FileContent := .ok text.toUTF8

/-- The text of a file. -/
def readFile (path : String) (content : FileContent) : Except Failure String :=
  match content with
  | .error cause => .error (.io path cause)
  | .ok bytes =>
    match String.fromUTF8? bytes with
    | some text => .ok text
    | none => .error (.io path (.other "stream did not contain valid UTF-8"))

end WorkloadNet.Text
