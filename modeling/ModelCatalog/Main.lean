import ModelCatalog.CommandLine

/-! The program. It takes a picture of the files that the command line concerns, works on the
picture, and then carries out what has changed in it. -/
namespace ModelCatalog

/-- A location as a path of the file system. -/
def nativePath (location : Location) : String := "/" ++ "/".intercalate location

/-- What is at a location of the file system. -/
def entryAt? (location : Location) : IO (Option Entry) := do
  try
    let path ← IO.FS.realPath (nativePath location)
    if ← path.isDir then return some .directory
    return some (.file (← IO.FS.readBinFile path))
  catch _ => return none

/-- The names in a directory of the file system. -/
def namesAt (location : Location) : IO (List String) := do
  let path ← IO.FS.realPath (nativePath location)
  return (← path.readDir).toList.map (·.fileName)

/-- Adds what is on the way along a path. -/
def addWay (t : Tree) : Location → List String → IO Tree
  | _, [] => return t
  | location, segment :: rest =>
    if Path.isIdle segment then addWay t location rest
    else if segment = ".." then addWay t location.dropLast rest
    else do
      let next := location ++ [segment]
      match ← entryAt? next with
      | some entry => addWay (t.set next entry) next rest
      | none => return t

/-- Adds what is below a directory. -/
partial def addBelow (t : Tree) (location : Location) : IO Tree := do
  let mut t := t
  for name in ← namesAt location do
    let next := location ++ [name]
    if let some entry ← entryAt? next then
      t := t.set next entry
      if entry = .directory then t ← addBelow t next
  return t

/-- The part of the file system that a layout concerns. -/
def picture (layout : Layout) : IO Tree := do
  let working := (Path.segments ⟨toString (← IO.currentDir)⟩).filter fun name => !name.isEmpty
  let mut t ← addWay ⟨OrderedMap.empty, working⟩ [] working
  let paths := layout.databasePath :: layout.productsPath :: ArtifactKind.all.map (·.path layout)
  for path in paths do
    t ← addWay t (t.base path) path.segments
  match t.locate layout.databasePath with
  | .ok location => if t.isDirectoryAt location then addBelow t location else return t
  | .error _ => return t

/-- Makes the directories and writes the files in which the second tree differs from the first. -/
def carryOut (before after : Tree) : IO Unit := do
  for (location, entry) in after.entries.entries do
    if before.get? location ≠ some entry then
      match entry with
      | .directory => IO.FS.createDirAll (nativePath location)
      | .file content => IO.FS.writeBinFile (nativePath location) content

def printLog (log : Log) : IO Unit := do
  for line in log.filterMap CommandLine.logLine? do
    IO.println line

end ModelCatalog

open ModelCatalog in
def main (arguments : List String) : IO UInt32 := do
  let before ←
    match CommandLine.parse arguments with
    | .generate layout => picture layout
    | _ => pure ⟨OrderedMap.empty, []⟩
  let (after, ending) := CommandLine.run before arguments
  carryOut before after
  match ending with
  | .success log => printLog log
  | .failure log fault =>
    printLog log
    IO.eprint (CommandLine.report fault)
  | .help => IO.print CommandLine.helpText
  | .misuse => IO.eprint CommandLine.misuseText
  return UInt32.ofNat ending.status
