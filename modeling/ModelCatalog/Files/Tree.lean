import ModelCatalog.Files.Path
import ModelCatalog.OrderedMap

/-! Trees of files and directories, seen from a working directory, and what can be done in them. -/
namespace ModelCatalog

inductive FileFault
  | notFound
  | exists
  | notDirectory
  | isDirectory
  | nameTooLong
  | nulInName
  | notText
  /-- A directory that is met in a search cannot be opened. -/
  | unopened (directory : Path) (cause : FileFault)
deriving DecidableEq, Repr

def FileFault.message : FileFault → String
  | .notFound => "No such file or directory (os error 2)"
  | .exists => "File exists (os error 17)"
  | .notDirectory => "Not a directory (os error 20)"
  | .isDirectory => "Is a directory (os error 21)"
  | .nameTooLong => "File name too long (os error 36)"
  | .nulInName => "file name contained an unexpected NUL byte"
  | .notText => "stream did not contain valid UTF-8"
  | .unopened directory cause =>
    "IO error for operation on " ++ directory.text ++ ": " ++ cause.message

/-- The message, and the messages of what lies behind the fault. -/
def FileFault.messages : FileFault → List String
  | .unopened directory cause => (FileFault.unopened directory cause).message :: cause.messages
  | fault => [fault.message]

/-- The names on the way from the root. -/
abbrev Location := List String

inductive Entry
  | file (content : ByteArray)
  | directory

instance : DecidableEq Entry
  | .directory, .directory => isTrue rfl
  | .directory, .file _ => isFalse nofun
  | .file _, .directory => isFalse nofun
  | .file content, .file other =>
    if same : content.data = other.data then
      isTrue (congrArg Entry.file (ByteArray.ext same))
    else isFalse fun equal => same (congrArg ByteArray.data (Entry.file.inj equal))

/-- The root is a directory and is not listed. -/
structure Tree where
  entries : OrderedMap Location Entry
  workingDirectory : Location
deriving DecidableEq

namespace Tree

def get? (t : Tree) (location : Location) : Option Entry :=
  if location = [] then some .directory else t.entries.get? location

def set (t : Tree) (location : Location) (entry : Entry) : Tree :=
  { t with entries := t.entries.set location entry }

def isDirectoryAt (t : Tree) (location : Location) : Bool :=
  decide (t.get? location = some .directory)

def longestName : Nat := 255
def longestPath : Nat := 4095

/-- Follows segments from a location. What is passed has to be a directory, and what is entered has
to exist. -/
def walk (t : Tree) : Location → List String → Except FileFault Location
  | location, [] => .ok location
  | location, segment :: rest =>
    if !t.isDirectoryAt location then .error .notDirectory
    else if Path.isIdle segment then t.walk location rest
    else if segment = ".." then t.walk location.dropLast rest
    else if segment.utf8ByteSize > longestName then .error .nameTooLong
    else
      let next := location ++ [segment]
      if (t.get? next).isSome then t.walk next rest else .error .notFound

def base (t : Tree) (p : Path) : Location := if p.isAbsolute then [] else t.workingDirectory

/-- Paths that cannot name anything. -/
def checkPath (p : Path) : Except FileFault Unit :=
  if p.text.toList.contains '\x00' then .error .nulInName
  else if p.text.isEmpty then .error .notFound
  else if p.text.utf8ByteSize > longestPath then .error .nameTooLong
  else .ok ()

def locate (t : Tree) (p : Path) : Except FileFault Location := do
  checkPath p
  t.walk (t.base p) p.segments

def isDirectory (t : Tree) (p : Path) : Bool :=
  match t.locate p with
  | .ok location => t.isDirectoryAt location
  | .error _ => false

def read (t : Tree) (p : Path) : Except FileFault ByteArray := do
  let location ← t.locate p
  match t.get? location with
  | some (.file content) => .ok content
  | some .directory => .error .isDirectory
  | none => .error .notFound

/-- Opens a directory, to see what is in it. -/
def openDirectory (t : Tree) (p : Path) : Except FileFault Unit := do
  let location ← t.locate p
  if t.isDirectoryAt location then .ok () else .error .notDirectory

def readText (t : Tree) (p : Path) : Except FileFault String := do
  let content ← t.read p
  match String.fromUTF8? content with
  | some text => .ok text
  | none => .error .notText

/-- The last name of a path that is to be made, and whether a slash follows it. -/
structure Ending where
  upper : List String
  name : String
  slashed : Bool
deriving Repr

def ending (segments : List String) : Ending :=
  let kept := (segments.reverse.dropWhile String.isEmpty).reverse
  ⟨kept.dropLast, kept.getLast?.getD "", kept.length < segments.length⟩

/-- The place that a path names below a directory that exists; `none` if it names that directory or
one above it. -/
def target (t : Tree) (p : Path) : Except FileFault (Option Location × Bool) := do
  checkPath p
  let e := ending p.segments
  let upper ← t.walk (t.base p) e.upper
  if !t.isDirectoryAt upper then .error .notDirectory
  else if Path.isIdle e.name || e.name = ".." then .ok (none, e.slashed)
  else if e.name.utf8ByteSize > longestName then .error .nameTooLong
  else .ok (some (upper ++ [e.name]), e.slashed)

def makeDirectory (t : Tree) (p : Path) : Except FileFault Tree :=
  match t.target p with
  | .error fault => .error fault
  | .ok (none, _) => .error .exists
  | .ok (some location, _) =>
    if (t.get? location).isSome then .error .exists else .ok (t.set location .directory)

/-- Makes a directory and those above it. `fuel` bounds how far up the way goes. The tree is given
back also when this fails half-way. -/
def makeDirectories : Nat → Tree → Path → Tree × Except FileFault Unit
  | 0, t, _ => (t, .error .notFound)
  | fuel + 1, t, p =>
    if p.text.isEmpty then (t, .ok ())
    else
      match t.makeDirectory p with
      | .ok made => (made, .ok ())
      | .error .notFound =>
        match p.parent? with
        | none => (t, .error .notFound)
        | some upper =>
          match makeDirectories fuel t upper with
          | (t, .error fault) => (t, .error fault)
          | (t, .ok _) =>
            match t.makeDirectory p with
            | .ok made => (made, .ok ())
            | .error fault => if t.isDirectory p then (t, .ok ()) else (t, .error fault)
      | .error fault => if t.isDirectory p then (t, .ok ()) else (t, .error fault)

/-- Writes a file, which replaces one that is there. -/
def writeFile (t : Tree) (p : Path) (content : ByteArray) : Except FileFault Tree :=
  match t.target p with
  | .error fault => .error fault
  | .ok (some location, false) =>
    if t.isDirectoryAt location then .error .isDirectory else .ok (t.set location (.file content))
  | .ok (_, _) => .error .isDirectory

/-- What lies below a location, by the names on the way down. -/
def below (t : Tree) (location : Location) : List (Location × Entry) :=
  t.entries.entries.filterMap fun (place, entry) =>
    if location.isPrefixOf place && place.length > location.length then
      some (place.drop location.length, entry)
    else none

def remove (t : Tree) (location : Location) : Tree :=
  { t with entries := t.entries.filterKeys fun place => !location.isPrefixOf place }

end Tree

end ModelCatalog
