import ModelCatalog.Loading

/-! What the catalog is read from: the directories and the model files of the database, one after the
other, and the registry. -/
namespace ModelCatalog.Tree

variable {t u : Tree} {path directory : Path} {start place : Location} {places : List Location}

theorem read_eq_ok {content : ByteArray} : t.read path = .ok content ↔
    ∃ location, t.locate path = .ok location ∧ t.get? location = some (.file content) := by
  rw [read]
  cases t.locate path with
  | error fault => simp [bind, Except.bind]
  | ok location =>
    simp only [bind, Except.bind, Except.ok.injEq, exists_eq_left']
    split <;> simp_all

theorem readText_eq_ok {text : String} : t.readText path = .ok text ↔
    ∃ content, t.read path = .ok content ∧ String.fromUTF8? content = some text := by
  rw [readText]
  cases t.read path with
  | error fault => simp [bind, Except.bind]
  | ok content =>
    simp only [bind, Except.bind, Except.ok.injEq, exists_eq_left']
    split <;> simp_all

theorem readText_of_get? {text : String} {location : Location} (found : t.locate path = .ok location)
    (here : t.get? location = some (.file text.toUTF8)) : t.readText path = .ok text := by
  have valid : String.fromUTF8? text.toUTF8 = some text := by
    simp only [String.fromUTF8?, String.toUTF8_eq_toByteArray, dif_pos text.isValidUTF8]
    rfl
  exact readText_eq_ok.mpr ⟨_, read_eq_ok.mpr ⟨location, found, here⟩, valid⟩

theorem loadModel_congr (same : u.read path = t.read path) :
    u.loadModel path = t.loadModel path := by
  rw [loadModel, loadModel, readText, readText, same]

theorem visit_of_directory (there : t.isDirectoryAt (start ++ place) = true) :
    t.visit directory start place = match t.openDirectory (directory.descend place) with
      | .error cause =>
        Logged.fail (.unreadable (directory.descend place) (.unopened (directory.descend place) cause))
      | .ok _ => pure none := if_pos there

theorem visit_of_file (file : t.isDirectoryAt (start ++ place) = false) :
    t.visit directory start place = t.loadModel (directory.descend place) :=
  if_neg (by simp [file])

theorem loadModels_congr
    (same : ∀ place ∈ places, u.visit directory start place = t.visit directory start place) :
    u.loadModels directory start places = t.loadModels directory start places := by
  induction places with
  | nil => rfl
  | cons place rest ih =>
    obtain ⟨first, others⟩ := List.forall_mem_cons.mp same
    rw [loadModels, loadModels, first, ih others]

/-- Places at which nothing is found may be left out. -/
theorem loadModels_filter {keep : Location → Bool}
    (idle : ∀ place ∈ places, keep place = false → t.visit directory start place = pure none) :
    t.loadModels directory start (places.filter keep) = t.loadModels directory start places := by
  induction places with
  | nil => rfl
  | cons place rest ih =>
    obtain ⟨first, others⟩ := List.forall_mem_cons.mp idle
    cases kept : keep place with
    | true =>
      rw [List.filter_cons_of_pos kept, loadModels, loadModels, ih others]
    | false =>
      rw [List.filter_cons_of_neg (by simp [kept]), ih others, loadModels, first kept]
      exact (Logged.bind_pure_self (t.loadModels directory start rest)).symm

theorem visit_of_loadModels {models : List Model}
    (loaded : (t.loadModels directory start places).result = .ok models) :
    ∀ place ∈ places, ∃ found, (t.visit directory start place).result = .ok found := by
  induction places generalizing models with
  | nil => simp
  | cons place rest ih =>
    simp only [loadModels, Logged.result_bind_eq_ok] at loaded
    obtain ⟨found, first, others, behind, _⟩ := loaded
    exact List.forall_mem_cons.mpr ⟨⟨found, first⟩, ih behind⟩

/-- The way down to what a search looks into, if that is what is listed. -/
def visit? (start : Location) (listed : Location × Entry) : Option Location :=
  if start.isPrefixOf listed.1 && listed.1.length > start.length &&
    (listed.2 = .directory || isModelFile (listed.1.drop start.length))
  then some (listed.1.drop start.length) else none

theorem visits_eq (t : Tree) (start : Location) :
    t.visits start = (t.entries.entries.filterMap (visit? start)).mergeSort placeLe := by
  rw [visits, below, List.filter_filterMap, List.map_filterMap]
  congr 2
  funext ⟨place, entry⟩
  unfold visit?
  cases inside : start.isPrefixOf place && decide (place.length > start.length)
  · simp [inside]
  · simp only [inside, if_true, Option.filter_some, Bool.true_and]
    split <;> simp_all

theorem visit?_eq_some {listed : Location × Entry} :
    visit? start listed = some place ↔ listed.1 = start ++ place ∧ place ≠ [] ∧
      (listed.2 = .directory ∨ isModelFile place = true) := by
  unfold visit?
  simp only [Option.ite_none_right_eq_some, Bool.and_eq_true, List.isPrefixOf_iff_prefix,
    Bool.or_eq_true, decide_eq_true_eq, Option.some.injEq]
  constructor
  · rintro ⟨⟨⟨⟨rest, way⟩, longer⟩, wanted⟩, rfl⟩
    rw [← way, List.drop_left] at wanted ⊢
    refine ⟨rfl, ?_, wanted⟩
    rintro rfl
    simp [← way] at longer
  · rintro ⟨way, nonempty, wanted⟩
    have longer := List.length_pos_iff.mpr nonempty
    rw [way]
    simp [wanted, longer]

theorem mem_visits : place ∈ t.visits start ↔ place ≠ [] ∧
    ∃ entry, (start ++ place, entry) ∈ t.entries.entries ∧
      (entry = .directory ∨ isModelFile place = true) := by
  rw [visits_eq, List.mem_mergeSort, List.mem_filterMap]
  simp only [visit?_eq_some]
  constructor
  · rintro ⟨⟨_, entry⟩, listed, rfl, nonempty, wanted⟩
    exact ⟨nonempty, entry, listed, wanted⟩
  · rintro ⟨nonempty, entry, listed, wanted⟩
    exact ⟨_, listed, rfl, nonempty, wanted⟩

theorem result_loadModel (t : Tree) (path : Path) : (t.loadModel path).result =
    match t.readText path with
    | .error cause => .error (.unreadable path cause)
    | .ok text =>
      match Model.read? text with
      | none => .error (.malformed path)
      | some m => .ok (if m.name = "" then none else some m) := by
  unfold loadModel
  cases t.readText path with
  | error cause => rfl
  | ok text =>
    dsimp only
    cases Model.read? text with
    | none => rfl
    | some m => by_cases named : m.name = "" <;> simp [named, Except.map]

theorem result_loadModel_of_named {text : String} {m : Model} (read : t.readText path = .ok text)
    (found : Model.read? text = some m) (named : m.name ≠ "") :
    (t.loadModel path).result = .ok (some m) := by
  rw [result_loadModel, read]
  simp [found, named]

theorem result_loadModels (t : Tree) (directory : Path) (start : Location)
    (places : List Location) : (t.loadModels directory start places).result =
      (places.mapM fun place => (t.visit directory start place).result).map
        (List.flatMap Option.toList) := by
  induction places with
  | nil => rfl
  | cons place rest ih =>
    rw [loadModels, List.mapM_cons, Logged.result_bind]
    cases (t.visit directory start place).result with
    | error fault => rfl
    | ok found =>
      refine (Logged.result_bind_pure (t.loadModels directory start rest)
        (found.toList ++ ·)).trans ?_
      rw [ih]
      cases rest.mapM fun place => (t.visit directory start place).result <;> rfl

theorem result_loadDatabase (origin : t.locate directory = .ok start)
    (there : t.isDirectoryAt start = true) : (t.loadDatabase directory).result =
      (t.loadModels directory start (t.visits start)).result.bind fun models =>
        if models = [] then .error (.emptyDatabase directory) else Database.ofModels models := by
  unfold loadDatabase
  rw [origin]
  simp only [there, Bool.not_true, Bool.false_eq_true, if_false]
  rw [Logged.result_bind]
  cases (t.loadModels directory start (t.visits start)).result with
  | error fault => rfl
  | ok models => cases models <;> rfl

/-- A database is loaded from a directory below which all that a search looks into can be read, and
some of it has a model with a name. -/
theorem loadDatabase_eq_ok {db : Database} (loaded : (t.loadDatabase directory).result = .ok db) :
    ∃ start models, t.locate directory = .ok start ∧ t.isDirectoryAt start = true ∧
      (t.loadModels directory start (t.visits start)).result = .ok models ∧
      models ≠ [] ∧ Database.ofModels models = .ok db := by
  cases origin : t.locate directory with
  | error fault =>
    rw [loadDatabase, origin] at loaded
    cases loaded
  | ok start =>
    cases there : t.isDirectoryAt start with
    | false =>
      rw [loadDatabase, origin] at loaded
      simp only [there] at loaded
      cases loaded
    | true =>
      rw [result_loadDatabase origin there] at loaded
      cases found : (t.loadModels directory start (t.visits start)).result with
      | error fault =>
        rw [found] at loaded
        cases loaded
      | ok models =>
        rw [found] at loaded
        simp only [Except.bind] at loaded
        split at loaded
        · cases loaded
        · next some => exact ⟨start, models, rfl, there, found, some, loaded⟩

theorem loadRegistry_congr (same : u.read path = t.read path) :
    u.loadRegistry path = t.loadRegistry path := by
  rw [loadRegistry, loadRegistry, same]

theorem read_of_loadRegistry {registry : Registry}
    (loaded : (t.loadRegistry path).result = .ok registry) :
    ∃ content, t.read path = .ok content := by
  unfold loadRegistry at loaded
  cases read : t.read path with
  | error cause =>
    rw [read] at loaded
    cases loaded
  | ok content => exact ⟨content, rfl⟩

end ModelCatalog.Tree
