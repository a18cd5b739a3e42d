import ModelCatalog.Database
import ModelCatalog.Logged

/-! The distinct product codes of a database, in the order of its models and their lists. -/
namespace ModelCatalog

/-- How empty and repeated codes are treated. -/
structure CodePolicy where
  allowEmpty : Bool
  allowShared : Bool
  /-- Whether a code that is not allowed ends the work; otherwise it is logged. -/
  fatal : Bool
deriving DecidableEq, Repr

namespace CodePolicy

/-- Every code is present and unique. -/
def strict : CodePolicy := ⟨false, false, true⟩

/-- Codes may be empty and shared. -/
def lenient : CodePolicy := ⟨true, true, false⟩

end CodePolicy

structure CodeUse where
  model : String
  code : String
deriving DecidableEq, Repr

def Model.codeUses (m : Model) (kind : CodeKind) : List CodeUse :=
  (m.codes kind).map fun code => ⟨m.name, code⟩

def Database.codeUses (db : Database) (kind : CodeKind) : List CodeUse :=
  db.models.flatMap (·.codeUses kind)

/-- Codes that stand for an unknown product. -/
def isPlaceholder (code : String) : Bool := code == "000" || code == "0000"

/-- Ends the work with the fault, or logs it with a remark. -/
def CodePolicy.object (policy : CodePolicy) (fault : Fault) (remark : String) : Logged Unit :=
  if policy.fatal then Logged.fail fault
  else Logged.event .error .collect (fault.message ++ remark)

/-- The codes that are neither empty nor placeholders nor among those seen before. -/
def gatherFrom (kind : CodeKind) (policy : CodePolicy) :
    List String → List CodeUse → Logged (List String)
  | _, [] => pure []
  | seen, use :: rest =>
    if use.code.isEmpty then do
      if !policy.allowEmpty then policy.object (.emptyCode use.model kind) ", skipping"
      gatherFrom kind policy seen rest
    else if isPlaceholder use.code then do
      Logged.event .warn .collect (use.model ++ " contains zero " ++ kind.key ++ ", skipping")
      gatherFrom kind policy seen rest
    else if use.code ∈ seen then do
      if !policy.allowShared then policy.object (.sharedCode use.model kind use.code) ""
      gatherFrom kind policy seen rest
    else do
      let codes ← gatherFrom kind policy (use.code :: seen) rest
      return use.code :: codes

def Database.gather (db : Database) (kind : CodeKind) (policy : CodePolicy) :
    Logged (List String) :=
  gatherFrom kind policy [] (db.codeUses kind)

end ModelCatalog
