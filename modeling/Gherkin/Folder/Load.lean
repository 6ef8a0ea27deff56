/-
  Gherkin.Folder.Load

  Loading a document from a folder.
-/
import Gherkin.Folder.Basic
import Gherkin.Reader.Document

namespace Gherkin

/-- Why a document cannot be loaded. -/
inductive LoadFault where
  /-- The path does not end in a name. -/
  | noFileName (path : String)
  /-- The path is no text; it is shown as far as it is. -/
  | pathNotText (shown : String)
  | file (path : String) (fault : FileFault)
  | document (path : String) (fault : DocumentFault)
  deriving DecidableEq, Repr

/-- The wording of a reason for which a file cannot be read. -/
def FileFault.message : FileFault → String
  | notFound => "no such file"
  | isDirectory => "is a directory"
  | notDirectory => "not a directory"
  | tooLong => "file name too long"
  | invalidName => "file name contains NUL"
  | invalidData => "not valid UTF-8"

/-- The wording of a fault. -/
def LoadFault.message : LoadFault → String
  | noFileName path => s!"`{path}` does not name a file"
  | pathNotText shown => s!"`{shown}` is not valid UTF-8"
  | file path fault => s!"failed to read `{path}`: {fault.message}"
  | document path fault => s!"`{path}`: {fault.message}"

namespace Folder

/-- The text at a path, and the name at its end. -/
def textOf (folder : Folder) (text : String) : Except LoadFault (String × String) :=
  match (Path.read text).fileName? with
  | none => .error (.noFileName text)
  | some name =>
    match folder.find text with
    | .error fault => .error (.file text fault)
    | .ok place =>
      match folder.textAt place name with
      | .error fault => .error (.file text fault)
      | .ok content => .ok (name, content)

/-- Loads the document at a path. -/
def load (folder : Folder) (mode : ReadingMode) (path : String) :
    Noted (Except LoadFault Feature) := do
  match folder.textOf path with
  | .error fault => return .error fault
  | .ok (name, text) =>
    Noted.say (.documentLoaded name text.utf8ByteSize)
    match ← mode.readText text with
    | .error fault => return .error (.document path fault)
    | .ok feature => return .ok feature

/-- Loads the document at a path given by its bytes. -/
def loadBytes (folder : Folder) (mode : ReadingMode) (path : List UInt8) :
    Noted (Except LoadFault Feature) :=
  match Text.ofUtf8? path with
  | none => pure (.error (.pathNotText (Text.ofUtf8Lossy path)))
  | some path => folder.load mode path

end Folder

end Gherkin
