import ModelCatalog.Artifact.BoardMap
import ModelCatalog.Artifact.InfoTable
import ModelCatalog.Artifact.SerialTable
import ModelCatalog.Coverage
import ModelCatalog.Layout
import ModelCatalog.Loading

/-! From a file tree to the artifacts in it. Everything is made before the first file is written. -/
namespace ModelCatalog

/-- The artifacts, in the order in which they are made. -/
inductive ArtifactKind
  | infoTable | serialTable | boardMap
deriving DecidableEq, Repr

namespace ArtifactKind

def all : List ArtifactKind := [.infoTable, .serialTable, .boardMap]

def name : ArtifactKind → String
  | .infoTable => "macinfo"
  | .serialTable => "macserial"
  | .boardMap => "boards"

def path (layout : Layout) : ArtifactKind → Path
  | .infoTable => layout.infoTablePath
  | .serialTable => layout.serialTablePath
  | .boardMap => layout.boardMapPath

def content (db : Database) (registry : Registry) (minYear : UInt32) :
    ArtifactKind → Except Fault String
  | .infoTable => InfoTable.render db minYear
  | .serialTable => SerialTable.render db registry
  | .boardMap => .ok (BoardMap.render db)

end ArtifactKind

def renderOne (db : Database) (registry : Registry) (layout : Layout) (kind : ArtifactKind) :
    Logged Artifact := do
  let content ← Logged.ofExcept (kind.content db registry layout.minYear)
  Logged.event .info .pipeline ("Rendered " ++ kind.name ++ " (" ++
    toString content.utf8ByteSize ++ " bytes)")
  return ⟨kind.path layout, content⟩

def render (db : Database) (registry : Registry) (layout : Layout) : Logged (List Artifact) :=
  ArtifactKind.all.mapM (renderOne db registry layout)

structure Summary where
  models : Nat
  coverage : Coverage
  artifacts : List Artifact
  written : Bool
deriving DecidableEq

/-- Loads, compares and makes everything, and writes nothing. -/
def prepare (t : Tree) (layout : Layout) : Logged Summary := do
  Logged.event .info .pipeline ("Loading models from " ++ layout.databasePath.text)
  let db ← t.loadDatabase layout.databasePath
  Logged.event .info .pipeline ("Loading products from " ++ layout.productsPath.text)
  let registry ← t.loadRegistry layout.productsPath
  let coverage ← cover db registry layout.family
  Logged.event .info .pipeline ("Validated " ++ toString db.size ++ " models against " ++
    toString registry.size ++ " products (" ++ toString coverage.omissions.size ++
    " unused product names)")
  let artifacts ← render db registry layout
  return ⟨db.size, coverage, artifacts, !layout.checkOnly⟩

/-- Writes a file and makes the directories above it. -/
def Tree.write (t : Tree) (artifact : Artifact) : Tree × Except Fault Unit :=
  let upper := artifact.path.parent?.getD ⟨""⟩
  match t.makeDirectories (upper.segments.length + 1) upper with
  | (t, .error cause) => (t, .error (.unwritable upper cause))
  | (t, .ok _) =>
    match t.writeFile artifact.path artifact.content.toUTF8 with
    | .error cause => (t, .error (.unwritable artifact.path cause))
    | .ok written => (written, .ok ())

/-- Writes files one after the other, up to the first that fails. -/
def Tree.writeAll (t : Tree) : List Artifact → Tree × Logged Unit
  | [] => (t, pure ())
  | artifact :: rest =>
    match t.write artifact with
    | (t, .error fault) => (t, Logged.fail fault)
    | (t, .ok _) =>
      let (t, written) := t.writeAll rest
      (t, do Logged.event .info .pipeline ("Wrote " ++ artifact.path.text); written)

theorem write_eq_error {t : Tree} {artifact : Artifact} {fault : Fault}
    (failed : (t.write artifact).2 = .error fault) :
    ∃ path cause, fault = .unwritable path cause := by
  rw [Tree.write] at failed
  split at failed
  · exact ⟨_, _, (Except.error.inj failed).symm⟩
  · split at failed
    · exact ⟨_, _, (Except.error.inj failed).symm⟩
    · cases failed

theorem writeAll_of_error {t written : Tree} {artifact : Artifact} {fault : Fault}
    (failed : t.write artifact = (written, .error fault)) (rest : List Artifact) :
    t.writeAll (artifact :: rest) = (written, Logged.fail fault) := by
  rw [Tree.writeAll, failed]

theorem writeAll_of_ok {t written : Tree} {artifact : Artifact}
    (done : t.write artifact = (written, .ok ())) (rest : List Artifact) :
    t.writeAll (artifact :: rest) = ((written.writeAll rest).1, do
      Logged.event .info .pipeline ("Wrote " ++ artifact.path.text)
      (written.writeAll rest).2) := by
  rw [Tree.writeAll, done]

/-- Makes the artifacts of a tree and writes them, unless they are only checked. -/
def generate (t : Tree) (layout : Layout) : Tree × Logged Summary :=
  let prepared := prepare t layout
  match prepared.result with
  | .error _ => (t, prepared)
  | .ok summary =>
    if summary.written then
      let (t, written) := t.writeAll summary.artifacts
      (t, do let summary ← prepared; written; return summary)
    else (t, prepared)

end ModelCatalog
