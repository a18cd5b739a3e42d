import ModelCatalog.Codes
import ModelCatalog.Family
import ModelCatalog.Registry.Basic

/-! Comparing a database with the registry. Every code of the database has to be a valid code of the
registry; valid codes that the family is expected to cover and no model lists are omissions. -/
namespace ModelCatalog

/-- Codes to add to a model. -/
structure Suggestion where
  model : String
  codes : List String
deriving DecidableEq, Repr

structure Coverage where
  /-- Codes of the database in the order in which they were gathered. -/
  used : List String
  /-- Codes that no model lists, by the name of their product. -/
  omissions : OrderedMap String (List String)
  suggestions : List Suggestion
deriving DecidableEq

def Coverage.isClean (c : Coverage) : Bool := c.omissions.isEmpty

/-- The first code that the registry does not know as valid. -/
def checkUsed (registry : Registry) : List String → Except Fault Unit
  | [] => .ok ()
  | code :: rest =>
    match registry.get? code with
    | none => .error (.unknownProduct code)
    | some product =>
      if product.isValid then checkUsed registry rest else .error (.invalidProduct code)

/-- Whether a product of the registry should be listed by some model and is not. -/
def isOmitted (family : Family) (used : List String) (code : String) (product : Product) : Bool :=
  product.isValid && family.matchesName product.name && family.admits code && !used.contains code

def Registry.omitted (registry : Registry) (family : Family) (used : List String) :
    List (String × Product) :=
  registry.entries.filter fun (code, product) => isOmitted family used code product

/-- Adds a code to the group of its product name. -/
def addOmission (groups : OrderedMap String (List String)) (omission : String × Product) :
    OrderedMap String (List String) :=
  groups.set omission.2.name ((groups.get? omission.2.name).getD [] ++ [omission.1])

def groupByName (omitted : List (String × Product)) : OrderedMap String (List String) :=
  omitted.foldl addOmission OrderedMap.empty

/-- Whether a report name of the model holds the product name. -/
def Model.reports (m : Model) (product : String) : Bool :=
  m.reportNames.any fun report => Text.contains report product

/-- For each group, the models whose reports mention its name. -/
def suggest (db : Database) (groups : OrderedMap String (List String)) : List Suggestion :=
  groups.entries.flatMap fun (product, codes) =>
    (db.models.filter (·.reports product)).map fun m => ⟨m.name, codes⟩

def omissionEvent (omission : String × Product) : LogEvent :=
  ⟨.warn, .validate, "Model " ++ omission.1 ++ " (" ++ omission.2.name ++
    ") is known but is not used in DataBase"⟩

def suggestionEvents (s : Suggestion) : Log :=
  ⟨.info, .validate, "New AppleModelCode for " ++ s.model ++ ":"⟩ ::
    s.codes.map fun code => ⟨.info, .validate, "  - \"" ++ code ++ "\""⟩

def cover (db : Database) (registry : Registry) (family : Family) : Logged Coverage := do
  let used ← db.gather .model .strict
  let _ ← db.gather .board .lenient
  Logged.ofExcept (checkUsed registry used)
  let omitted := registry.omitted family used
  let groups := groupByName omitted
  let suggestions := suggest db groups
  ⟨omitted.map omissionEvent ++ suggestions.flatMap suggestionEvents, .ok ()⟩
  return ⟨used, groups, suggestions⟩

end ModelCatalog
