import ModelCatalog.Database
import ModelCatalog.Deflate.Stream
import ModelCatalog.Logged
import ModelCatalog.Model.Decode
import ModelCatalog.Registry.Json
import ModelCatalog.Registry.Markup

/-! Databases and registries read from a file tree. -/
namespace ModelCatalog

/-- Reads the model in a file. A model without a name, or with an empty one, is passed over. -/
def Tree.loadModel (t : Tree) (path : Path) : Logged (Option Model) :=
  match t.readText path with
  | .error cause => Logged.fail (.unreadable path cause)
  | .ok text =>
    match Model.read? text with
    | none => Logged.fail (.malformed path)
    | some m =>
      if m.name.isEmpty then do
        Logged.event .warn .loader ("Missing SystemProductName in " ++ path.quoted ++ ", skipping")
        return none
      else return some m

def isModelFile (place : Location) : Bool :=
  ".yaml".toList.isSuffixOf (place.getLast?.getD "").toList

/-- Compares two ways down name by name. -/
def placeLe (a b : Location) : Bool := decide (¬ b < a)

/-- What a search for models looks into below a location: the directories and the model files, in the
order of the ways down to them. -/
def Tree.visits (t : Tree) (start : Location) : List Location :=
  (((t.below start).filter fun (place, entry) =>
    entry = .directory || isModelFile place).map Prod.fst).mergeSort placeLe

def Path.descend (directory : Path) (place : Location) : Path :=
  place.foldl (fun path name => path.join ⟨name⟩) directory

/-- Opens a directory or reads a model file. -/
def Tree.visit (t : Tree) (directory : Path) (start place : Location) : Logged (Option Model) :=
  let path := directory.descend place
  if t.isDirectoryAt (start ++ place) then
    match t.openDirectory path with
    | .error cause => Logged.fail (.unreadable path (.unopened path cause))
    | .ok _ => return none
  else t.loadModel path

/-- The named models at the places, up to the first place that cannot be looked into. -/
def Tree.loadModels (t : Tree) (directory : Path) (start : Location) :
    List Location → Logged (List Model)
  | [] => pure []
  | place :: rest => do
    let found ← t.visit directory start place
    let others ← t.loadModels directory start rest
    return found.toList ++ others

def Tree.loadDatabase (t : Tree) (directory : Path) : Logged Database :=
  match t.locate directory with
  | .error _ => Logged.fail (.databaseNotFound directory)
  | .ok location =>
    if !t.isDirectoryAt location then Logged.fail (.databaseNotFound directory)
    else do
      let models ← t.loadModels directory location (t.visits location)
      if models.isEmpty then Logged.fail (.emptyDatabase directory)
      else do
        Logged.event .debug .loader ("DatabaseLoader: loaded " ++ toString models.length ++
          " models from " ++ directory.quoted)
        Logged.ofExcept (Database.ofModels models)

inductive RegistryFormat
  | compressed | markup | json
deriving DecidableEq, Repr

def RegistryFormat.ofExtension (extension : String) : RegistryFormat :=
  if extension = "zjson" then .compressed
  else if extension = "yaml" || extension = "yml" then .markup
  else .json

def Registry.decode (format : RegistryFormat) (content : ByteArray) :
    Except RegistryFault Registry :=
  match format with
  | .compressed =>
    match Deflate.inflate? content.toList with
    | none => .error .notInflated
    | some bytes => orMalformed (Registry.readJson? ⟨bytes⟩)
  | .markup => orMalformed (Registry.readMarkup? content)
  | .json => orMalformed (Registry.readJson? content)
where
  orMalformed : Option Registry → Except RegistryFault Registry
    | some registry => .ok registry
    | none => .error .malformed

/-- Loads the registry in a file; the extension of its name tells how it is written. -/
def Tree.loadRegistry (t : Tree) (path : Path) : Logged Registry :=
  match t.read path with
  | .error cause => Logged.fail (.registry (.unreadable path cause))
  | .ok content =>
    match Registry.decode (.ofExtension path.extension) content with
    | .error cause => Logged.fail (.registry cause)
    | .ok registry => do
      Logged.event .debug .products ("Products: loaded " ++ toString registry.size ++
        " codes from " ++ path.quoted)
      return registry

end ModelCatalog
