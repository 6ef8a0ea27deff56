/-
  Gherkin.Folder.Basic

  Folders of files and the paths into them. A path is walked part by part, and
  every part but the last has to be a directory. Directories are made on the way
  to a file that is written; of what lies outside the folder, only that is known.
-/
import Gherkin.Text.Blank
import Gherkin.Text.Utf8

namespace Gherkin

/-! ## Paths -/

/-- A step along a path: down to a name, or up. -/
inductive PathPart where
  | name (s : String)
  | up
  deriving DecidableEq, Repr

/-- The way to a file from a folder, or from the top if it is absolute. -/
structure Path where
  absolute : Bool
  parts : List PathPart
  deriving DecidableEq, Repr

namespace Path

/-- The part that a text between slashes stands for; an empty one and a dot stand for none. -/
def readPart? (text : String) : Option PathPart :=
  if text = "" ∨ text = "." then none
  else if text = ".." then some .up
  else some (.name text)

/-- The path that a text with slashes stands for. -/
def read (text : String) : Path where
  absolute := text.toList.head? = some '/'
  parts := (Text.splitAt '/' text).filterMap readPart?

/-- The name at the end of a path. -/
def fileName? (path : Path) : Option String :=
  match path.parts.getLast? with
  | some (.name s) => some s
  | _ => none

/-- The path without its last part. -/
def parent (path : Path) : Path := { path with parts := path.parts.dropLast }

/-! ## Limits -/

/-- The most bytes in a name. -/
def nameLimit : Nat := 255

/-- The most bytes in the text of a path. -/
def textLimit : Nat := 4095

/-- Texts between slashes up to the last one that stands for a part. -/
def trimEnd (texts : List String) : List String :=
  (texts.reverse.dropWhile fun text => (readPart? text).isNone).reverse

/-- What the text of a path says of the directory in which it ends. -/
def parentText (text : String) : String :=
  "/".intercalate (trimEnd (trimEnd (Text.splitAt '/' text)).dropLast)

example : parentText "a//b/./c/" = "a//b" := by decide +kernel

end Path

/-! ## Locations -/

/-- Where a way starts: at the top, or some levels above the folder. -/
inductive PathBase where
  | top
  | above (levels : Nat)
  deriving DecidableEq, Repr

/-- A place to which a path may lead: the names on the way down to it. -/
structure Location where
  base : PathBase
  names : List String := []
  deriving DecidableEq, Repr

namespace Location

/-- The place of a name. -/
def down (place : Location) (name : String) : Location :=
  { place with names := place.names ++ [name] }

/-- The place above. Nothing is above the top. -/
def up (place : Location) : Location :=
  match place with
  | ⟨.above levels, []⟩ => ⟨.above (levels + 1), []⟩
  | ⟨base, names⟩ => ⟨base, names.dropLast⟩

/-- Where a path starts. -/
def start (path : Path) : Location := { base := if path.absolute then .top else .above 0 }

@[simp] theorem up_down (place : Location) (name : String) : (place.down name).up = place := by
  obtain ⟨base, names⟩ := place
  cases names with
  | nil => cases base <;> rfl
  | cons first rest =>
    have h : (first :: rest ++ [name]).dropLast = first :: rest := List.dropLast_concat
    cases base <;> simpa [up, down] using h

end Location

/-! ## Folders -/

/-- Files with their contents, and the directories that were made for them. -/
structure Folder where
  directories : List Location := []
  files : List (Location × List UInt8) := []

/-- Why a file cannot be read. -/
inductive FileFault where
  | notFound
  | isDirectory
  | notDirectory
  /-- A name or the text of a path is too long. -/
  | tooLong
  /-- A name has the character NUL in it. -/
  | invalidName
  /-- Its bytes are no text. -/
  | invalidData
  deriving DecidableEq, Repr

namespace Folder

/-- The contents of a file. -/
def file? (folder : Folder) (place : Location) : Option (List UInt8) := folder.files.lookup place

/-- Whether there is a directory at a place. A way starts at one. -/
def isDirectory (folder : Folder) (place : Location) : Bool :=
  place.names.isEmpty || folder.directories.contains place

/-! ## Writing -/

/-- The folder with a directory, unless there is one or a file. -/
def makeDirectory (folder : Folder) (place : Location) : Folder :=
  if folder.isDirectory place || (folder.file? place).isSome then folder
  else { folder with directories := place :: folder.directories }

/-- One part of the way to a file that is to be written: a directory is made for a name. -/
def makePart (folder : Folder) (place : Location) : PathPart → Folder × Location
  | .name s => (folder.makeDirectory (place.down s), place.down s)
  | .up => (folder, place.up)

/-- The folder with a file written under a path, and the directories on the way to it. -/
def write (folder : Folder) (path : Path) (bytes : List UInt8) : Folder :=
  match path.fileName? with
  | none => folder
  | some name =>
    let (folder, place) := path.parent.parts.foldl
      (fun (folder, place) part => folder.makePart place part) (folder, .start path)
    { folder with files := (place.down name, bytes) :: folder.files }

/-! ## Reading -/

/-- What is wrong with a name by itself. -/
def nameFault? (name : String) : Option FileFault :=
  if Path.nameLimit < name.utf8ByteSize then some .tooLong else none

/-- Where one part leads from a place. -/
def enter (folder : Folder) (place : Location) : PathPart → Except FileFault Location
  | .up => .ok place.up
  | .name s =>
    match nameFault? s with
    | some fault => .error fault
    | none =>
      if folder.isDirectory (place.down s) then .ok (place.down s)
      else if (folder.file? (place.down s)).isSome then .error .notDirectory
      else .error .notFound

/-- Where parts lead one after the other. -/
def walk (folder : Folder) (place : Location) : List PathPart → Except FileFault Location
  | [] => .ok place
  | part :: parts =>
    match folder.enter place part with
    | .error fault => .error fault
    | .ok place => folder.walk place parts

/-- Whether a text has the character NUL in it. -/
def hasNul (text : String) : Bool := text.toList.contains '\x00'

/-- The directory in which a path ends. What its text says of the directory is looked at as a whole
    before it is walked. -/
def find (folder : Folder) (text : String) : Except FileFault Location :=
  let path := Path.read text
  if hasNul (Path.parentText text) then .error .invalidName
  else if Path.textLimit < (Path.parentText text).utf8ByteSize then .error .tooLong
  else folder.walk (.start path) path.parent.parts

/-- The text of the file with a name in a directory. -/
def textAt (folder : Folder) (place : Location) (name : String) : Except FileFault String :=
  if hasNul name then .error .invalidName
  else
    match nameFault? name with
    | some fault => .error fault
    | none =>
      if folder.isDirectory (place.down name) then .error .isDirectory
      else
        match folder.file? (place.down name) with
        | none => .error .notFound
        | some bytes =>
          match Text.ofUtf8? bytes with
          | none => .error .invalidData
          | some text => .ok text

end Folder

end Gherkin
