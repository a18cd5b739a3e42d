import ModelCatalog.Proofs.LoadedDatabase
import ModelCatalog.Proofs.SoundTrees

/-! Generating once more. The artifacts of a generation, and the directories made for them, are
nothing that the catalog is read from, so the same generation finds the same catalog again, unless it
has made a directory that no search can open. -/
namespace ModelCatalog

namespace Tree

section Search

variable {t u : Tree} {directory : Path} {start place : Location} {content : ByteArray}

def modelFiles (t : Tree) (start : Location) : List Location :=
  (t.visits start).filter fun place => !t.isDirectoryAt (start ++ place)

theorem mem_modelFiles : place ∈ t.modelFiles start ↔
    ∃ content, t.ModelFile start place content := by
  rw [modelFiles, List.mem_filter, mem_visits_iff]
  constructor
  · rintro ⟨file | ⟨_, listed⟩, noDirectory⟩
    · exact file
    · simp [isDirectoryAt, listed] at noDirectory
  · rintro ⟨content, file⟩
    exact ⟨.inl ⟨content, file⟩, by simp [isDirectoryAt, file.listed]⟩

theorem nodup_modelFiles (t : Tree) (start : Location) : (t.modelFiles start).Nodup :=
  (t.nodup_visits start).filter _

/-- No directory with a path that is too long comes before this one. -/
structure FirstLong (t : Tree) (directory : Path) (start place : Location) : Prop where
  failed : t.LongDirectory directory start place
  least : ∀ other, t.LongDirectory directory start other →
    ¬ other.map bytesOf < place.map bytesOf

theorem exists_firstLong (long : t.LongDirectory directory start place) :
    ∃ first, t.FirstLong directory start first := by
  classical
  have visited (other : Location) (long : t.LongDirectory directory start other) :
      other ∈ t.visits start := mem_visits_iff.mpr (.inr ⟨long.below, long.listed⟩)
  cases found : (t.visits start).find? fun place => t.LongDirectory directory start place with
  | none => exact absurd long (by simpa using List.find?_eq_none.mp found place (visited _ long))
  | some first =>
    obtain ⟨failed, before, after, split, clear⟩ := List.find?_eq_some_iff_append.mp found
    have order := first_iff_least first (t.LongDirectory directory start)
      (t.sorted_visits start) (t.nodup_visits start)
    obtain ⟨_, least⟩ := order.mp ⟨before, after, split, by simpa using clear⟩
    refine ⟨first, of_decide_eq_true failed, fun other long => ?_⟩
    rw [← lt_iff_map_bytesOf_lt]
    exact least other (visited _ long) long

/-- Directories that can be opened add nothing to what a search finds. -/
theorem Sound.loadModels_modelFiles (sound : t.Sound) (origin : t.locate directory = .ok start)
    (short : ∀ place, ¬ t.LongDirectory directory start place) :
    t.loadModels directory start (t.modelFiles start) =
      t.loadModels directory start (t.visits start) := by
  refine loadModels_filter fun place member there => ?_
  have there : t.isDirectoryAt (start ++ place) = true := by simpa using there
  have listed := isDirectoryAt_iff.mp there
  have below : place ≠ [] := (mem_visits.mp member).1
  have fits : ¬ longestPath < (directory.descend place).text.utf8ByteSize := fun long =>
    short place ⟨below, listed, long⟩
  rw [visit_of_directory there, sound.openDirectory_descend origin listed, if_neg fits]

end Search

namespace Changed

variable {writable : Location → Prop} {t u : Tree} {path directory : Path} {start : Location}

theorem read {content : ByteArray} (changed : Changed writable t u)
    (done : t.read path = .ok content)
    (kept : ∀ location, t.locate path = .ok location → ¬ writable location) :
    u.read path = t.read path := by
  obtain ⟨location, found, here⟩ := read_eq_ok.mp done
  rw [done]
  exact read_eq_ok.mpr
    ⟨location, changed.locate found, changed.get?_of_not_writable (kept location found) here⟩

theorem file_of_not_writable {location : Location} {content : ByteArray}
    (changed : Changed writable t u) (kept : ¬ writable location)
    (found : u.get? location = some (.file content)) :
    t.get? location = some (.file content) := by
  induction changed with
  | unchanged => exact found
  | @directory u place _ free ih =>
    rw [get?_set (ne_root_of_free free)] at found
    split at found
    · cases found
    · exact ih found
  | @file u place _ _ allowed noDirectory ih =>
    rw [get?_set (ne_root_of_noDirectory noDirectory), if_neg] at found
    · exact ih found
    · rintro rfl
      exact kept allowed

section Hidden

variable (changed : Changed writable t u)
  (hidden : ∀ place, isModelFile place = true → ¬ writable (start ++ place))

include changed hidden

theorem modelFile_iff {place : Location} {content : ByteArray} :
    u.ModelFile start place content ↔ t.ModelFile start place content := by
  constructor
  · rintro ⟨listed, suffix⟩
    have kept := hidden place (isModelFile_iff.mpr suffix)
    exact ⟨changed.file_of_not_writable kept listed, suffix⟩
  · rintro ⟨listed, suffix⟩
    have kept := hidden place (isModelFile_iff.mpr suffix)
    exact ⟨changed.get?_of_not_writable kept listed, suffix⟩

theorem modelFiles : u.modelFiles start = t.modelFiles start := by
  have same : (u.modelFiles start).Perm (t.modelFiles start) := by
    refine (List.perm_ext_iff_of_nodup (u.nodup_modelFiles start)
      (t.nodup_modelFiles start)).mpr fun place => ?_
    rw [mem_modelFiles, mem_modelFiles]
    simp only [changed.modelFile_iff hidden]
  exact eq_of_sorted_of_perm same ((u.sorted_visits start).filter _)
    ((t.sorted_visits start).filter _)

theorem loadModels (sound : t.Sound) (sound' : u.Sound) (origin : t.locate directory = .ok start) :
    u.loadModels directory start (u.modelFiles start) =
      t.loadModels directory start (t.modelFiles start) := by
  rw [changed.modelFiles hidden]
  refine loadModels_congr fun place member => ?_
  obtain ⟨content, file⟩ := mem_modelFiles.mp member
  have file' := (changed.modelFile_iff hidden).mpr file
  rw [file.visit_eq, file'.visit_eq]
  apply loadModel_congr
  rw [sound.read_descend origin file, sound'.read_descend (changed.locate origin) file']

theorem loadDatabase (sound : t.Sound) (sound' : u.Sound) {db : Database}
    (origin : t.locate directory = .ok start)
    (loaded : (t.loadDatabase directory).result = .ok db)
    (short : ∀ place, ¬ u.LongDirectory directory start place) :
    u.loadDatabase directory = t.loadDatabase directory := by
  obtain ⟨start', models, origin', there, found, _⟩ := loadDatabase_eq_ok loaded
  obtain rfl := Except.ok.inj (origin'.symm.trans origin)
  have shorter : ∀ place, ¬ t.LongDirectory directory start' place := fun place long =>
    sound.readable_of_loadModels origin found (.directory long)
  have same : u.loadModels directory start' (u.visits start') =
      t.loadModels directory start' (t.visits start') := by
    rw [← sound.loadModels_modelFiles origin shorter,
      ← sound'.loadModels_modelFiles (changed.locate origin) short]
    exact changed.loadModels hidden sound sound' origin
  simp only [Tree.loadDatabase, origin, changed.locate origin, there,
    changed.isDirectoryAt there, same]

/-- If no model file is written, the first directory that cannot be opened is all that is in the
way. -/
theorem loadDatabase_of_long (sound : t.Sound) (sound' : u.Sound) {db : Database}
    (origin : t.locate directory = .ok start)
    (loaded : (t.loadDatabase directory).result = .ok db) {place : Location}
    (first : u.FirstLong directory start place) :
    (u.loadDatabase directory).result = .error (.unreadable (directory.descend place)
      (.unopened (directory.descend place) .nameTooLong)) := by
  obtain ⟨start', models, origin', there, found, _⟩ := loadDatabase_eq_ok loaded
  obtain rfl := Except.ok.inj (origin'.symm.trans origin)
  have least (other : Location) (fault : Fault)
      (faulty : u.Faulty directory start' other fault) :
      ¬ other.map bytesOf < place.map bytesOf := by
    cases faulty with
    | file file failed =>
      have file := (changed.modelFile_iff hidden).mp file
      exact absurd (.file file failed) (sound.readable_of_loadModels origin found)
    | directory long => exact first.least other long
  exact result_of_loadOutcome sound' (.faulty (changed.locate origin)
    (changed.isDirectoryAt there) ⟨.directory first.failed, least⟩)

end Hidden

theorem loadRegistry {registry : Registry} (changed : Changed writable t u)
    (loaded : (t.loadRegistry path).result = .ok registry)
    (kept : ∀ location, t.locate path = .ok location → ¬ writable location) :
    u.loadRegistry path = t.loadRegistry path := by
  obtain ⟨content, readable⟩ := read_of_loadRegistry loaded
  exact loadRegistry_congr (changed.read readable kept)

end Changed

/-- No artifact lies where the registry is, or a model file of the database. -/
def Apart (t : Tree) (layout : Layout) : Prop :=
  ∀ (kind : ArtifactKind) (location : Location),
    t.locate (kind.path layout) = .ok location → t.isDirectoryAt location = false →
      t.locate layout.productsPath ≠ .ok location ∧
      ∀ start place, t.locate layout.databasePath = .ok start → isModelFile place = true →
        location ≠ start ++ place

end Tree

section Generating

variable {t u : Tree} {layout : Layout} {summary : Summary} {start place : Location}

theorem apart_of_settled (prepared : (prepare t layout).result = .ok summary)
    (apart : u.Apart layout) {location : Location}
    (written : ∃ artifact ∈ summary.artifacts, u.Settled artifact location) :
    u.locate layout.productsPath ≠ .ok location ∧
      ∀ start place, u.locate layout.databasePath = .ok start → isModelFile place = true →
        location ≠ start ++ place := by
  obtain ⟨_, _, _, _, _, made, _⟩ := prepare_eq_ok_iff.mp prepared
  obtain ⟨artifact, member, settled⟩ := written
  obtain ⟨kind, path⟩ := path_of_render made artifact member
  exact apart kind location (path ▸ settled.locate) settled.noDirectory

theorem changed_generate (done : (generate t layout).2.result = .ok summary) :
    t.Changed (fun location => ∃ artifact ∈ summary.artifacts,
      (generate t layout).1.Settled artifact location) (generate t layout).1 := by
  obtain ⟨prepared, ended⟩ := generate_eq_ok_iff.mp done
  cases checking : layout.checkOnly with
  | true =>
    rw [generate_of_checking t checking]
    exact .unchanged
  | false =>
    rw [generate_of_writing prepared checking]
    exact (Tree.settled_of_writeAll (ended.resolve_left (by simp [checking]))).2

section Changed

variable (sound : t.Sound) (sound' : u.Sound) (prepared : (prepare t layout).result = .ok summary)
  (changed : t.Changed (fun location => ∃ artifact ∈ summary.artifacts,
    u.Settled artifact location) u)
  (apart : u.Apart layout) (origin : t.locate layout.databasePath = .ok start)

include sound sound' prepared changed apart origin

/-- If nothing is written but artifacts, and these apart from the catalog, the same is prepared. -/
theorem prepare_of_short (short : ∀ place, ¬ u.LongDirectory layout.databasePath start place) :
    prepare u layout = prepare t layout := by
  obtain ⟨db, registry, loaded, known, _⟩ := prepare_eq_ok_iff.mp prepared
  have database := changed.loadDatabase (fun place suffix written =>
    (apart_of_settled prepared apart written).2 start place (changed.locate origin) suffix rfl)
    sound sound' origin loaded short
  have products := changed.loadRegistry known fun location found written =>
    (apart_of_settled prepared apart written).1 (changed.locate found)
  rw [prepare, prepare, database, products]

theorem result_prepare_of_long (first : u.FirstLong layout.databasePath start place) :
    (prepare u layout).result = .error (.unreadable (layout.databasePath.descend place)
      (.unopened (layout.databasePath.descend place) .nameTooLong)) := by
  obtain ⟨db, registry, loaded, _⟩ := prepare_eq_ok_iff.mp prepared
  have stopped := changed.loadDatabase_of_long (fun place suffix written =>
    (apart_of_settled prepared apart written).2 start place (changed.locate origin) suffix rfl)
    sound sound' origin loaded first
  rw [result_prepare, stopped]
  rfl

end Changed

section Again

variable (sound : t.Sound) (done : (generate t layout).2.result = .ok summary)
  (apart : (generate t layout).1.Apart layout)
  (origin : t.locate layout.databasePath = .ok start)

include sound done apart origin

theorem generate_again_of_short
    (short : ∀ place, ¬ (generate t layout).1.LongDirectory layout.databasePath start place) :
    generate (generate t layout).1 layout = generate t layout := by
  obtain ⟨prepared, ended⟩ := generate_eq_ok_iff.mp done
  have same := prepare_of_short sound (sound_generate sound layout) prepared
    (changed_generate done) apart origin short
  cases checking : layout.checkOnly with
  | true => rw [generate_of_checking t checking, generate_of_checking t checking]
  | false =>
    have written : (t.writeAll summary.artifacts).2.result = .ok () :=
      ended.resolve_left (by simp [checking])
    have first := generate_of_writing prepared checking
    rw [first] at same ⊢
    rw [generate_of_writing (same ▸ prepared) checking, same, Tree.writeAll_writeAll written]

theorem generate_again_of_long
    (first : (generate t layout).1.FirstLong layout.databasePath start place) :
    (generate (generate t layout).1 layout).1 = (generate t layout).1 ∧
    (generate (generate t layout).1 layout).2.result =
      .error (.unreadable (layout.databasePath.descend place)
        (.unopened (layout.databasePath.descend place) .nameTooLong)) := by
  obtain ⟨prepared, _⟩ := generate_eq_ok_iff.mp done
  have stopped := result_prepare_of_long sound (sound_generate sound layout) prepared
    (changed_generate done) apart origin first
  rw [generate_of_failed stopped]
  exact ⟨rfl, stopped⟩

end Again

/-- Generating again finds the same, says the same and leaves the same tree, unless there is now a
directory below the database whose path is too long to open it: then the first such directory is
reported, and the tree is left as it is. Paths are read in the tree that is left, since directories
that they pass through may have been made on the way. -/
theorem generate_generate (sound : t.Sound) (done : (generate t layout).2.result = .ok summary)
    (apart : (generate t layout).1.Apart layout) :
    ∃ start, (generate t layout).1.locate layout.databasePath = .ok start ∧
      ((∀ place, ¬ (generate t layout).1.LongDirectory layout.databasePath start place) →
        generate (generate t layout).1 layout = generate t layout) ∧
      ((∃ place, (generate t layout).1.LongDirectory layout.databasePath start place) →
        ∃ place, (generate t layout).1.FirstLong layout.databasePath start place ∧
          (generate (generate t layout).1 layout).1 = (generate t layout).1 ∧
          (generate (generate t layout).1 layout).2.result =
            .error (.unreadable (layout.databasePath.descend place)
              (.unopened (layout.databasePath.descend place) .nameTooLong))) := by
  obtain ⟨prepared, _⟩ := generate_eq_ok_iff.mp done
  obtain ⟨_, _, loaded, _⟩ := prepare_eq_ok_iff.mp prepared
  obtain ⟨start, _, origin, _⟩ := Tree.loadDatabase_eq_ok loaded
  refine ⟨start, (changed_generate done).locate origin, ?_, ?_⟩
  · exact generate_again_of_short sound done apart origin
  · rintro ⟨_, long⟩
    obtain ⟨place, first⟩ := Tree.exists_firstLong long
    exact ⟨place, first, generate_again_of_long sound done apart origin first⟩

end Generating

theorem Tree.apart_of_located {t : Tree} {layout : Layout} {products start : Location}
    (registry : t.locate layout.productsPath = .ok products)
    (origin : t.locate layout.databasePath = .ok start)
    (away : ∀ kind ∈ ArtifactKind.all, (t.locate (kind.path layout)).toOption.all (fun location =>
      location ≠ products && !isModelFile (location.drop start.length)) = true) :
    t.Apart layout := by
  intro kind location found _
  have elsewhere := away kind (by cases kind <;> simp [ArtifactKind.all])
  rw [found] at elsewhere
  simp only [Except.toOption, Option.all_some, Bool.and_eq_true, decide_eq_true_eq,
    Bool.not_eq_true'] at elsewhere
  refine ⟨fun same => elsewhere.1 (Except.ok.inj (same.symm.trans registry)), ?_⟩
  rintro start' place origin' suffix rfl
  cases origin'.symm.trans origin
  simp [suffix] at elsewhere

/-- Two artifacts come to lie at the same place in the database directory, one by way of a directory
that is yet to be made; the third lies in a directory with the name of a model file. -/
def windingLayout : Layout where
  database := some ⟨"/db"⟩
  products := some ⟨"/r.json"⟩
  infoTable := some ⟨"/db/new/../a.c"⟩
  serialTable := some ⟨"/db/a.c"⟩
  boardMap := some ⟨"/db/x.yaml/boards.json"⟩
  minYear := 2011

theorem generate_winding :
    plainTree.Sound ∧ (generate plainTree windingLayout).2.result.isOk = true ∧
    (generate plainTree windingLayout).1.locate windingLayout.productsPath = .ok ["r.json"] ∧
    (generate plainTree windingLayout).1.locate windingLayout.databasePath = .ok ["db"] ∧
    (∀ kind ∈ ArtifactKind.all,
      ((generate plainTree windingLayout).1.locate (kind.path windingLayout)).toOption.all
        (fun location => location ≠ ["r.json"] && !isModelFile (location.drop 1)) = true) ∧
    (∀ location ∈ (generate plainTree windingLayout).1.entries.keys,
      (windingLayout.databasePath.descend (location.drop 1)).text.utf8ByteSize ≤
        Tree.longestPath) ∧
    (generate plainTree windingLayout).1 ≠ plainTree := by
  decide +kernel

theorem winding_generated_again :
    (∃ summary, (generate plainTree windingLayout).2.result = .ok summary) ∧
    (generate plainTree windingLayout).1 ≠ plainTree ∧
    generate (generate plainTree windingLayout).1 windingLayout =
      generate plainTree windingLayout := by
  obtain ⟨sound, passed, registry, database, away, short, changed⟩ := generate_winding
  obtain ⟨summary, done⟩ := exists_ok_of_isOk passed
  have apart := Tree.apart_of_located registry database away
  obtain ⟨start, origin, same, _⟩ := generate_generate sound done apart
  refine ⟨⟨summary, done⟩, changed, same fun place long => ?_⟩
  cases origin.symm.trans database
  have key := Tree.mem_keys_of_get? (by simp) long.listed
  exact absurd long.long (Nat.not_lt.mpr (short _ key))

theorem Tree.Apart.of_database {t : Tree} {layout : Layout} {directory : Path} {start : Location}
    (apart : t.Apart layout) (origin : t.locate layout.databasePath = .ok start)
    (same : t.locate directory = .ok start) :
    t.Apart { layout with database := some directory } := by
  have paths (kind : ArtifactKind) :
      kind.path { layout with database := some directory } = kind.path layout := by
    cases kind <;> rfl
  intro kind location found noDirectory
  obtain ⟨registry, files⟩ := apart kind location (paths kind ▸ found) noDirectory
  refine ⟨registry, fun start' place origin' => ?_⟩
  cases origin'.symm.trans same
  exact files start place origin

theorem result_prepare_of_database {t : Tree} {layout : Layout} {directory : Path}
    (same : (t.loadDatabase directory).result = (t.loadDatabase layout.databasePath).result) :
    (prepare t { layout with database := some directory }).result = (prepare t layout).result := by
  rw [result_prepare, result_prepare, ← same]
  rfl

/-- One artifact lies in a directory of the database that is yet to be made. -/
def nestedLayout : Layout where
  database := some ⟨"db"⟩
  products := some ⟨"r.json"⟩
  infoTable := some ⟨"db/sub-directory/AutoGenerated.c"⟩
  serialTable := some ⟨"modelinfo_autogen.h"⟩
  boardMap := some ⟨"boards.json"⟩
  minYear := 2011

/-- The same, but so many slashes stand behind the path of the database that a file with a short
name can be read there, and a directory with a longer one cannot be opened. -/
def slashedLayout : Layout := { nestedLayout with database := some (Path.slashed ⟨"db"⟩ 4083) }

theorem generate_nested :
    plainTree.Sound ∧ plainTree.locate ⟨"db"⟩ = .ok ["db"] ∧
    (generate plainTree nestedLayout).2.result.isOk = true ∧
    (generate plainTree nestedLayout).1.locate ⟨"r.json"⟩ = .ok ["r.json"] ∧
    (generate plainTree nestedLayout).1.locate ⟨"db"⟩ = .ok ["db"] ∧
    (∀ kind ∈ ArtifactKind.all,
      ((generate plainTree nestedLayout).1.locate (kind.path nestedLayout)).toOption.all
        (fun location => location ≠ ["r.json"] && !isModelFile (location.drop 1)) = true) ∧
    (generate plainTree nestedLayout).1.get? ["db", "sub-directory"] = some .directory ∧
    ∀ location ∈ (generate plainTree nestedLayout).1.entries.keys,
      (generate plainTree nestedLayout).1.get? location = some .directory →
        location = ["db"] ∨ location = ["db", "sub-directory"] := by
  decide +kernel

theorem model_plainTree :
    [["A.yaml"]].Perm (plainTree.entries.entries.filterMap (Tree.visit? ["db"])) ∧
    (match plainTree.get? ["db", "A.yaml"] with
      | some (.file content) => (modelOf? content).isSome
      | _ => false) = true := by
  decide +kernel

theorem holds_plainTree {directory : Path} (origin : plainTree.locate directory = .ok ["db"])
    (room : directory.text.utf8ByteSize + 7 ≤ Tree.longestPath) :
    plainTree.Holds directory ["db"] (plainTree.namedFiles ["db"]) := by
  obtain ⟨listed, known⟩ := model_plainTree
  have size := Path.utf8ByteSize_join (Tree.written_of_locate origin)
    (by decide : '/' ∉ "A.yaml".toList)
  refine Tree.holds_of_visits origin (by decide) ?_ ?_ <;>
    simp only [Tree.visits_eq_of_perm listed (by decide), List.forall_mem_singleton]
  · exact Nat.le_trans size.2 room
  · split at known
    · next content found =>
      obtain ⟨m, model⟩ := Option.isSome_iff_exists.mp known
      exact .inr ⟨content, m, found, model⟩
    · cases known

theorem result_loadDatabase_plainTree {directory other : Path} {db : Database}
    (origin : plainTree.locate directory = .ok ["db"])
    (room : directory.text.utf8ByteSize + 7 ≤ Tree.longestPath)
    (origin' : plainTree.locate other = .ok ["db"])
    (room' : other.text.utf8ByteSize + 7 ≤ Tree.longestPath)
    (loaded : (plainTree.loadDatabase directory).result = .ok db) :
    (plainTree.loadDatabase other).result = .ok db := by
  obtain ⟨sound, _⟩ := generate_nested
  rw [(holds_plainTree origin room).result_loadDatabase sound] at loaded
  rw [(holds_plainTree origin' room').result_loadDatabase sound]
  split at loaded
  · cases loaded
  · next some => rwa [if_neg some]

theorem locate_slashed {t : Tree} (origin : t.locate ⟨"db"⟩ = .ok ["db"])
    (there : t.isDirectoryAt ["db"] = true) :
    t.locate slashedLayout.databasePath = .ok ["db"] :=
  Tree.locate_slashed origin there (by decide)

theorem size_slashed : slashedLayout.databasePath.text.utf8ByteSize = 4085 :=
  Path.utf8ByteSize_slashed ⟨"db"⟩ 4083

/-- The slashes are not in the way of the first generation. -/
theorem generate_slashed : ∃ summary,
    (generate plainTree slashedLayout).2.result = .ok summary ∧
    (generate plainTree slashedLayout).1 = (generate plainTree nestedLayout).1 := by
  obtain ⟨_, origin, passed, _⟩ := generate_nested
  obtain ⟨summary, done⟩ := exists_ok_of_isOk passed
  obtain ⟨prepared, _⟩ := generate_eq_ok_iff.mp done
  obtain ⟨db, _, loaded, _⟩ := prepare_eq_ok_iff.mp prepared
  have room : slashedLayout.databasePath.text.utf8ByteSize + 7 ≤ Tree.longestPath :=
    Nat.le_trans (Nat.le_of_eq (congrArg (· + 7) size_slashed)) (by decide)
  have again := result_loadDatabase_plainTree origin (by decide)
    (locate_slashed origin (by decide)) room loaded
  have prepared' : (prepare plainTree slashedLayout).result = .ok summary :=
    (result_prepare_of_database (again.trans loaded.symm)).trans prepared
  obtain ⟨tree, ended⟩ := generate_of_written prepared rfl
  obtain ⟨tree', ended'⟩ := generate_of_written prepared' rfl
  exact ⟨summary, ended'.trans (ended.symm.trans done), tree'.trans tree.symm⟩

/-- The first generation makes a directory in the database that the second one cannot open. -/
theorem slashed_not_generated_again :
    plainTree.Sound ∧ (∃ summary, (generate plainTree slashedLayout).2.result = .ok summary) ∧
    (generate plainTree slashedLayout).1.Apart slashedLayout ∧
    (generate (generate plainTree slashedLayout).1 slashedLayout).2.result =
      .error (.unreadable (slashedLayout.databasePath.join ⟨"sub-directory"⟩)
        (.unopened (slashedLayout.databasePath.join ⟨"sub-directory"⟩) .nameTooLong)) := by
  obtain ⟨sound, origin, _, registry, database, away, made, directories⟩ := generate_nested
  obtain ⟨summary, done, tree⟩ := generate_slashed
  have there : (generate plainTree nestedLayout).1.isDirectoryAt ["db"] = true :=
    (sound_generate sound nestedLayout).isDirectoryAt made
  have plain : (generate plainTree nestedLayout).1.Apart nestedLayout :=
    Tree.apart_of_located registry database away
  have apart : (generate plainTree slashedLayout).1.Apart slashedLayout := by
    rw [tree]
    exact plain.of_database database (locate_slashed database there)
  have found := locate_slashed origin (by decide)
  have size := Path.utf8ByteSize_join (Tree.written_of_locate found)
    (by decide : '/' ∉ "sub-directory".toList)
  have long : Tree.longestPath <
      (slashedLayout.databasePath.descend ["sub-directory"]).text.utf8ByteSize := by
    rw [Path.descend_singleton]
    refine Nat.lt_of_lt_of_le ?_ size.1
    rw [size_slashed]
    decide
  have first : (generate plainTree slashedLayout).1.FirstLong slashedLayout.databasePath ["db"]
      ["sub-directory"] := by
    rw [tree]
    refine ⟨⟨by simp, made, long⟩, fun other long => ?_⟩
    have key := Tree.mem_keys_of_get? (by simp) long.listed
    rcases directories _ key long.listed with same | same
    · exact absurd (List.append_right_eq_self.mp same) long.below
    · rw [List.append_cancel_left (same : ["db"] ++ other = ["db"] ++ ["sub-directory"])]
      exact List.lt_irrefl _
  obtain ⟨_, stopped⟩ := generate_again_of_long sound done apart found first
  rw [Path.descend_singleton] at stopped
  exact ⟨sound, ⟨summary, done⟩, apart, stopped⟩

end ModelCatalog
