import ModelCatalog.Proofs.LoadedDatabase
import ModelCatalog.Proofs.Preparation

/-! How the models are arranged in files. A database is made of the named models below a directory,
whatever their files are called, in whatever directories they lie, and whatever else lies there; all
that is checked is checked in the database. -/
namespace ModelCatalog

namespace Tree

/-- The named model files below the directory have these models, in any order. -/
def Keeps (t : Tree) (directory : Path) (models : List Model) : Prop :=
  ∃ start files, t.locate directory = .ok start ∧ t.NamedFiles start files ∧
    (files.map Prod.snd).Perm models

/-- The database can be loaded, but for names that models may share. -/
def Collects (t : Tree) (directory : Path) : Prop :=
  (∃ db, (t.loadDatabase directory).result = .ok db) ∨
    ∃ name, (t.loadDatabase directory).result = .error (.duplicateModel name)

variable {t u : Tree} {directory : Path} {models : List Model} {start : Location}

/-- A database is loaded, or refused for a name, if the model files can be read and some are
named. -/
theorem collects_iff (sound : t.Sound) : t.Collects directory ↔
    ∃ start files, t.Holds directory start files ∧ files ≠ [] := by
  constructor
  · intro collects
    have outcome := loadOutcome sound directory
    rcases collects with ⟨db, loaded⟩ | ⟨name, refused⟩
    · rw [loaded] at outcome
      cases outcome with
      | loaded holds some _ => exact ⟨_, _, holds, some⟩
    · rw [refused] at outcome
      cases outcome with
      | faulty _ _ first => cases first.failed with | file _ failed => cases failed
      | shared holds shared _ =>
        refine ⟨_, _, holds, ?_⟩
        rintro rfl
        simp [SharedName] at shared
  · rintro ⟨start, files, holds, some⟩
    have result := holds.result_loadDatabase sound
    rw [if_neg some] at result
    rcases Database.ofModels_spec (files.map Prod.snd) with ⟨db, made, _⟩ | ⟨name, refused, _⟩
    · exact .inl ⟨db, result.trans made⟩
    · exact .inr ⟨name, result.trans refused⟩

theorem Keeps.result_loadDatabase (sound : t.Sound) (collects : t.Collects directory)
    (kept : t.Keeps directory models) :
    (t.loadDatabase directory).result = Database.ofModels models := by
  obtain ⟨start, files, origin, named, same⟩ := kept
  obtain ⟨start', others, holds, some⟩ := (collects_iff sound).mp collects
  obtain rfl : start = start' := Except.ok.inj (origin.symm.trans holds.origin)
  have order := (holds.named.perm named).map Prod.snd
  rw [holds.result_loadDatabase sound, if_neg some]
  exact Database.ofModels_perm (order.trans same)

end Tree

/-- Two trees that keep the same models, each in its own arrangement of files, are checked with the
same outcome. -/
theorem check_of_rearranged {t u : Tree} {layout : Layout} {models : List Model}
    (sound : t.Sound) (sound' : u.Sound)
    (collects : t.Collects layout.databasePath) (collects' : u.Collects layout.databasePath)
    (kept : t.Keeps layout.databasePath models) (kept' : u.Keeps layout.databasePath models)
    (registry : u.read layout.productsPath = t.read layout.productsPath) :
    (generate u { layout with checkOnly := true }).2.result =
      (generate t { layout with checkOnly := true }).2.result := by
  have database : (u.loadDatabase layout.databasePath).result =
      (t.loadDatabase layout.databasePath).result :=
    (kept'.result_loadDatabase sound' collects').trans
      (kept.result_loadDatabase sound collects).symm
  have known := congrArg Logged.result (Tree.loadRegistry_congr registry)
  have prepared : (prepare u layout).result = (prepare t layout).result := by
    rw [result_prepare, result_prepare, database, known]
  rw [result_checked, result_checked, prepared]

def described (name : String) : Model where
  productName := some name

def description (name : String) : ByteArray := ("SystemProductName: " ++ name ++ "\n").toUTF8

def orderedTree : Tree where
  entries := OrderedMap.ofList
    [(["db"], .directory), (["db", "1.yaml"], .file (description "A")),
      (["db", "2.yaml"], .file (description "B")), (["r.json"], .file "\x7b\x7d".toUTF8)]
  workingDirectory := []

/-- The same models, found in the other order, among files that are no named models. -/
def rearrangedTree : Tree where
  entries := OrderedMap.ofList
    [(["r.json"], .file "\x7b\x7d".toUTF8), (["db"], .directory), (["db", "a"], .directory),
      (["db", "a", "2.yaml"], .file (description "B")), (["db", "a.yaml"], .file ⟨#[]⟩),
      (["db", "b"], .directory), (["db", "b", "2.yaml"], .file (description "A")),
      (["db", "b", "3"], .file (description "C"))]
  workingDirectory := []

def plainLayout : Layout where
  database := some ⟨"/db"⟩
  products := some ⟨"/r.json"⟩

theorem modelOf?_description :
    modelOf? (description "A") = some (described "A") ∧
    modelOf? (description "B") = some (described "B") ∧ modelOf? ⟨#[]⟩ = some {} := by
  decide +kernel

theorem trees_listed : ∀ listed ∈ [(orderedTree, [["1.yaml"], ["2.yaml"]]),
      (rearrangedTree, [["a"], ["a", "2.yaml"], ["a.yaml"], ["b"], ["b", "2.yaml"]])],
    listed.1.Sound ∧ listed.1.locate ⟨"/db"⟩ = .ok ["db"] ∧
    listed.1.isDirectoryAt ["db"] = true ∧ listed.1.locate ⟨"/r.json"⟩ = .ok ["r.json"] ∧
    listed.2.Perm (listed.1.entries.entries.filterMap (Tree.visit? ["db"])) ∧
    listed.2.Pairwise fun a b => ¬ b < a := by
  decide +kernel

theorem namedModel?_description {t : Tree} {start place : Location} {name : String}
    (listed : t.get? (start ++ place) = some (.file (description name)))
    (model : modelOf? (description name) = some (described name)) (named : name ≠ "") :
    t.namedModel? start place = some (described name) := by
  rw [Tree.namedModel?_eq listed, model]
  simp [described, Model.name, named]

theorem holds_ordered : orderedTree.Holds ⟨"/db"⟩ ["db"] (orderedTree.namedFiles ["db"]) ∧
    (orderedTree.namedFiles ["db"]).map Prod.snd = [described "A", described "B"] := by
  obtain ⟨first, second, _⟩ := modelOf?_description
  obtain ⟨_, origin, there, _, listed, sorted⟩ := trees_listed _ (List.mem_cons_self ..)
  have a : orderedTree.get? (["db"] ++ ["1.yaml"]) = some (.file (description "A")) := rfl
  have b : orderedTree.get? (["db"] ++ ["2.yaml"]) = some (.file (description "B")) := rfl
  have places := Tree.visits_eq_of_perm listed sorted
  constructor
  · refine Tree.holds_of_visits origin there ?_ ?_ <;> rw [places] <;>
      simp only [List.forall_mem_cons, List.not_mem_nil, false_imp_iff, implies_true, and_true]
    · decide
    · exact ⟨.inr ⟨_, _, a, first⟩, .inr ⟨_, _, b, second⟩⟩
  · rw [Tree.map_snd_namedFiles, places,
      List.filterMap_cons_some (namedModel?_description a first (by decide)),
      List.filterMap_cons_some (namedModel?_description b second (by decide)), List.filterMap_nil]

theorem holds_rearranged :
    rearrangedTree.Holds ⟨"/db"⟩ ["db"] (rearrangedTree.namedFiles ["db"]) ∧
    (rearrangedTree.namedFiles ["db"]).map Prod.snd = [described "B", described "A"] := by
  obtain ⟨first, second, third⟩ := modelOf?_description
  obtain ⟨_, origin, there, _, listed, sorted⟩ := trees_listed (rearrangedTree, _)
    (List.mem_cons_of_mem _ (List.mem_cons_self ..))
  have b : rearrangedTree.get? (["db"] ++ ["a", "2.yaml"]) = some (.file (description "B")) := rfl
  have blank : rearrangedTree.get? (["db"] ++ ["a.yaml"]) = some (.file ⟨#[]⟩) := rfl
  have a : rearrangedTree.get? (["db"] ++ ["b", "2.yaml"]) = some (.file (description "A")) := rfl
  have nameless : rearrangedTree.namedModel? ["db"] ["a.yaml"] = none := by
    rw [Tree.namedModel?_eq blank, third]
    rfl
  have places := Tree.visits_eq_of_perm listed sorted
  have directories : ∀ name ∈ ["a", "b"],
      rearrangedTree.namedModel? ["db"] [name] = none := by decide
  constructor
  · refine Tree.holds_of_visits origin there ?_ ?_ <;> rw [places] <;>
      simp only [List.forall_mem_cons, List.not_mem_nil, false_imp_iff, implies_true, and_true]
    · decide
    · exact ⟨.inl rfl, .inr ⟨_, _, b, second⟩, .inr ⟨_, _, blank, third⟩, .inl rfl,
        .inr ⟨_, _, a, first⟩⟩
  · rw [Tree.map_snd_namedFiles, places,
      List.filterMap_cons_none (directories "a" (by decide)),
      List.filterMap_cons_some (namedModel?_description b second (by decide)),
      List.filterMap_cons_none nameless, List.filterMap_cons_none (directories "b" (by decide)),
      List.filterMap_cons_some (namedModel?_description a first (by decide)), List.filterMap_nil]

/-- Both models lack a year, and the same one is reported. -/
theorem rearranged_checked_alike :
    (generate rearrangedTree { plainLayout with checkOnly := true }).2.result =
      (generate orderedTree { plainLayout with checkOnly := true }).2.result := by
  obtain ⟨sound, _, _, found, _⟩ := trees_listed (orderedTree, _) (List.mem_cons_self ..)
  obtain ⟨sound', _, _, found', _⟩ := trees_listed (rearrangedTree, _)
    (List.mem_cons_of_mem _ (List.mem_cons_self ..))
  obtain ⟨holds, models⟩ := holds_ordered
  obtain ⟨holds', models'⟩ := holds_rearranged
  have collects : orderedTree.Collects ⟨"/db"⟩ := by
    refine (Tree.collects_iff sound).mpr ⟨_, _, holds, fun empty => ?_⟩
    simp [empty] at models
  have collects' : rearrangedTree.Collects ⟨"/db"⟩ := by
    refine (Tree.collects_iff sound').mpr ⟨_, _, holds', fun empty => ?_⟩
    simp [empty] at models'
  have kept : orderedTree.Keeps ⟨"/db"⟩ [described "A", described "B"] :=
    ⟨_, _, holds.origin, holds.named, .of_eq models⟩
  have kept' : rearrangedTree.Keeps ⟨"/db"⟩ [described "A", described "B"] :=
    ⟨_, _, holds'.origin, holds'.named, models' ▸ .swap ..⟩
  have registry : rearrangedTree.read ⟨"/r.json"⟩ = orderedTree.read ⟨"/r.json"⟩ :=
    (Tree.read_eq_ok.mpr ⟨_, found', rfl⟩).trans (Tree.read_eq_ok.mpr ⟨_, found, rfl⟩).symm
  exact check_of_rearranged sound sound' collects collects' kept kept' registry

end ModelCatalog
