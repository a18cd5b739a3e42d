import Mathlib.Data.List.Nodup
import Mathlib.Data.String.Basic
import Mathlib.Tactic.MkIffOfInductiveProp
import ModelCatalog.Proofs.ByteOrder
import ModelCatalog.Proofs.Descent
import ModelCatalog.Proofs.SortedModels
import ModelCatalog.Proofs.Sources
import ModelCatalog.Proofs.Traversal

/-! What comes of loading a database. The model files below the directory decide, and directories of
which the path is too long, whatever else is there: the first that cannot be read, or else the names
of the models in the files. -/
namespace ModelCatalog

def modelOf? (content : ByteArray) : Option Model :=
  (String.fromUTF8? content).bind Model.read?

@[mk_iff]
inductive ReadingFault (path : Path) (content : ByteArray) : Fault → Prop
  | unreachable (long : Tree.longestPath < path.text.utf8ByteSize) :
    ReadingFault path content (.unreadable path .nameTooLong)
  | notText (fits : path.text.utf8ByteSize ≤ Tree.longestPath)
      (invalid : String.fromUTF8? content = none) :
    ReadingFault path content (.unreadable path .notText)
  | malformed {text : String} (fits : path.text.utf8ByteSize ≤ Tree.longestPath)
      (valid : String.fromUTF8? content = some text) (refused : Model.read? text = none) :
    ReadingFault path content (.malformed path)

namespace Tree

/-- A file below a location, by the way down to it, whose name ends in `.yaml`. -/
structure ModelFile (t : Tree) (start place : Location) (content : ByteArray) : Prop where
  listed : t.get? (start ++ place) = some (.file content)
  suffix : ∃ above stem, place = above ++ [stem ++ ".yaml"]

/-- A model file that says a model with a name. -/
structure NamedFile (t : Tree) (start place : Location) (m : Model) : Prop where
  holds : ∃ content, t.ModelFile start place content ∧ modelOf? content = some m
  named : m.name ≠ ""

/-- The list has each named model below the location, by the way down to its file. -/
structure NamedFiles (t : Tree) (start : Location) (files : List (Location × Model)) : Prop where
  distinct : (files.map Prod.fst).Nodup
  complete : ∀ place m, (place, m) ∈ files ↔ t.NamedFile start place m

/-- A directory below a location whose path is too long to open it. -/
structure LongDirectory (t : Tree) (directory : Path) (start place : Location) : Prop where
  below : place ≠ []
  listed : t.get? (start ++ place) = some .directory
  long : longestPath < (directory.descend place).text.utf8ByteSize

/-- The model file, or the directory, at the end of a way down cannot be read. -/
inductive Faulty (t : Tree) (directory : Path) (start place : Location) : Fault → Prop
  | file {content : ByteArray} {fault : Fault} (file : t.ModelFile start place content)
      (failed : ReadingFault (directory.descend place) content fault) :
    Faulty t directory start place fault
  | directory (long : t.LongDirectory directory start place) :
    Faulty t directory start place (.unreadable (directory.descend place)
      (.unopened (directory.descend place) .nameTooLong))

/-- Nothing that cannot be read comes before this. Ways down are compared name by name and names by
their bytes. -/
structure FirstFaulty (t : Tree) (directory : Path) (start place : Location) (fault : Fault) :
    Prop where
  failed : t.Faulty directory start place fault
  least : ∀ other fault', t.Faulty directory start other fault' →
    ¬ other.map bytesOf < place.map bytesOf

/-- The directory is at that location, and all the model files and directories below it can be read;
the files that name a model are listed. -/
structure Holds (t : Tree) (directory : Path) (start : Location) (files : List (Location × Model)) :
    Prop where
  origin : t.locate directory = .ok start
  there : t.isDirectoryAt start = true
  readable : ∀ place fault, ¬ t.Faulty directory start place fault
  named : t.NamedFiles start files

end Tree

/-- What loading the database in a directory comes to. -/
inductive LoadOutcome (t : Tree) (directory : Path) : Except Fault Database → Prop
  | missing (absent : t.isDirectory directory = false) :
    LoadOutcome t directory (.error (.databaseNotFound directory))
  | faulty {start place : Location} {fault : Fault}
      (origin : t.locate directory = .ok start) (there : t.isDirectoryAt start = true)
      (first : t.FirstFaulty directory start place fault) :
    LoadOutcome t directory (.error fault)
  | empty {start : Location} (holds : t.Holds directory start []) :
    LoadOutcome t directory (.error (.emptyDatabase directory))
  | shared {start : Location} {files : List (Location × Model)} {name : String}
      (holds : t.Holds directory start files) (shared : SharedName (files.map Prod.snd) name)
      (least : ∀ other, SharedName (files.map Prod.snd) other → name ≤ other) :
    LoadOutcome t directory (.error (.duplicateModel name))
  | loaded {start : Location} {files : List (Location × Model)} {db : Database}
      (holds : t.Holds directory start files) (some : files ≠ [])
      (models : db.models.Perm (files.map Prod.snd)) :
    LoadOutcome t directory (.ok db)

namespace Tree

variable {t u : Tree} {directory : Path} {start place : Location} {content : ByteArray}
  {fault : Fault} {files : List (Location × Model)} {m : Model}

section Files

theorem isModelFile_iff : isModelFile place = true ↔
    ∃ above stem, place = above ++ [stem ++ ".yaml"] := by
  unfold isModelFile
  rw [List.isSuffixOf_iff_suffix]
  constructor
  · rintro ⟨stem, ends⟩
    rcases List.eq_nil_or_concat place with rfl | ⟨above, name, rfl⟩
    · simp at ends
    · refine ⟨above, String.ofList stem, ?_⟩
      have same : name = String.ofList stem ++ ".yaml" := by
        rw [← String.toList_inj]
        simpa using ends.symm
      rw [same, List.concat_eq_append]
  · rintro ⟨above, stem, rfl⟩
    exact ⟨stem.toList, by simp⟩

theorem ModelFile.unique {content' : ByteArray} (file : t.ModelFile start place content)
    (again : t.ModelFile start place content') : content = content' := by
  have same := file.listed.symm.trans again.listed
  simpa using same

theorem mem_visits_iff : place ∈ t.visits start ↔
    (∃ content, t.ModelFile start place content) ∨
      place ≠ [] ∧ t.get? (start ++ place) = some .directory := by
  rw [mem_visits, isModelFile_iff]
  have found (nonempty : place ≠ []) (entry : Entry) :
      (start ++ place, entry) ∈ t.entries.entries ↔ t.get? (start ++ place) = some entry := by
    rw [get?, if_neg (by simp [nonempty])]
    exact t.entries.mem_entries_iff _ _
  constructor
  · rintro ⟨nonempty, _ | _, listed, wanted⟩
    · exact .inl ⟨_, (found nonempty _).mp listed, wanted.resolve_left (by simp)⟩
    · exact .inr ⟨nonempty, (found nonempty _).mp listed⟩
  · rintro (⟨content, listed, suffix⟩ | ⟨nonempty, listed⟩)
    · have nonempty : place ≠ [] := by
        obtain ⟨above, stem, rfl⟩ := suffix
        simp
      exact ⟨nonempty, _, (found nonempty _).mpr listed, .inr suffix⟩
    · exact ⟨nonempty, _, (found nonempty _).mpr listed, .inl rfl⟩

theorem nodup_visits (t : Tree) (start : Location) : (t.visits start).Nodup := by
  rw [visits_eq, (List.mergeSort_perm _ _).nodup_iff, List.Nodup, List.pairwise_filterMap]
  have distinct := t.entries.distinct
  rw [List.Nodup, List.pairwise_map] at distinct
  refine distinct.imp ?_
  intro a b apart place first place' second same
  subst same
  exact apart ((visit?_eq_some.mp first).1.trans (visit?_eq_some.mp second).1.symm)

theorem first_iff_least {places : List Location} (place : Location) (failing : Location → Prop)
    (sorted : places.Pairwise fun a b => ¬ b < a) (distinct : places.Nodup) :
    (∃ before after, places = before ++ place :: after ∧ ∀ other ∈ before, ¬ failing other) ↔
      place ∈ places ∧ ∀ other ∈ places, failing other → ¬ other < place := by
  constructor
  · rintro ⟨before, after, rfl, passed⟩
    rw [List.pairwise_append, List.pairwise_cons] at sorted
    refine ⟨by simp, fun other member fails earlier => ?_⟩
    rcases List.mem_append.mp member with ahead | behind
    · exact passed other ahead fails
    · rcases List.mem_cons.mp behind with rfl | behind
      · exact List.lt_irrefl _ earlier
      · exact sorted.2.1.1 other behind earlier
  · rintro ⟨member, least⟩
    obtain ⟨before, after, rfl⟩ := List.append_of_mem member
    rw [List.pairwise_append] at sorted
    rw [List.nodup_append] at distinct
    refine ⟨before, after, rfl, fun other ahead fails => ?_⟩
    have early := sorted.2.2 other ahead place (List.mem_cons_self ..)
    have late := least other (List.mem_append_left _ ahead) fails
    have same : other = place := List.le_antisymm (α := String) early late
    exact distinct.2.2 other ahead place (List.mem_cons_self ..) same

theorem sorted_visits (t : Tree) (start : Location) :
    (t.visits start).Pairwise fun a b => ¬ b < a := by
  have sorted := @List.pairwise_mergeSort Location placeLe
    (fun a b c hab hbc => by
      simp only [placeLe, decide_eq_true_eq] at *
      exact List.le_trans (α := String) hab hbc)
    (fun a b => by
      simp only [placeLe, Bool.or_eq_true, decide_eq_true_eq]
      exact List.le_total (α := String) a b)
  exact (sorted _).imp fun le => of_decide_eq_true le

theorem eq_of_sorted_of_perm {places others : List Location} (same : places.Perm others)
    (sorted : places.Pairwise fun a b => ¬ b < a) (sorted' : others.Pairwise fun a b => ¬ b < a) :
    places = others :=
  same.eq_of_pairwise (fun _ _ _ _ early late => List.le_antisymm (α := String) early late)
    sorted sorted'

theorem visits_eq_of_perm {places : List Location}
    (listed : places.Perm (t.entries.entries.filterMap (visit? start)))
    (sorted : places.Pairwise fun a b => ¬ b < a) : t.visits start = places := by
  refine eq_of_sorted_of_perm ?_ (t.sorted_visits start) sorted
  rw [visits_eq]
  exact (List.mergeSort_perm _ _).trans listed.symm

end Files

section Reading

theorem Sound.locate_descend_eq (sound : t.Sound) (origin : t.locate directory = .ok start)
    {entry : Entry} (listed : t.get? (start ++ place) = some entry) :
    t.locate (directory.descend place) =
      if longestPath < (directory.descend place).text.utf8ByteSize then .error .nameTooLong
      else .ok (start ++ place) := by
  split
  · next long =>
    have names : ∀ name ∈ place, isEntryName name = true := fun name member =>
      sound.nameOf listed (List.mem_append_right start member)
    obtain ⟨clean, written⟩ := clean_descend (locate_eq_ok.mp origin).1 names
    have refused : checkPath (directory.descend place) = .error .nameTooLong := by
      simp [checkPath, clean, written, long]
    rw [locate, refused]
    rfl
  · next fits =>
    exact sound.locate_descend origin (listed ▸ rfl) (Nat.not_lt.mp fits)

theorem Sound.read_descend (sound : t.Sound) (origin : t.locate directory = .ok start)
    (file : t.ModelFile start place content) : t.read (directory.descend place) =
      if longestPath < (directory.descend place).text.utf8ByteSize then .error .nameTooLong
      else .ok content := by
  rw [read, sound.locate_descend_eq origin file.listed]
  split <;> simp [bind, Except.bind, file.listed]

theorem Sound.openDirectory_descend (sound : t.Sound) (origin : t.locate directory = .ok start)
    (listed : t.get? (start ++ place) = some .directory) :
    t.openDirectory (directory.descend place) =
      if longestPath < (directory.descend place).text.utf8ByteSize then .error .nameTooLong
      else .ok () := by
  rw [openDirectory, sound.locate_descend_eq origin listed]
  split <;> simp [bind, Except.bind, isDirectoryAt_iff.mpr listed]

theorem Sound.visit_directory (sound : t.Sound) (origin : t.locate directory = .ok start)
    (listed : t.get? (start ++ place) = some .directory) :
    (t.visit directory start place).result =
      if longestPath < (directory.descend place).text.utf8ByteSize then
        .error (.unreadable (directory.descend place)
          (.unopened (directory.descend place) .nameTooLong))
      else .ok none := by
  rw [visit_of_directory (isDirectoryAt_iff.mpr listed), sound.openDirectory_descend origin listed]
  by_cases long : longestPath < (directory.descend place).text.utf8ByteSize
  · rw [if_pos long, if_pos long]
    rfl
  · rw [if_neg long, if_neg long]
    rfl

theorem ModelFile.visit_eq (file : t.ModelFile start place content) (directory : Path) :
    t.visit directory start place = t.loadModel (directory.descend place) :=
  visit_of_file (by simp [isDirectoryAt, file.listed])

theorem Faulty.readingFault (faulty : t.Faulty directory start place fault)
    (file : t.ModelFile start place content) :
    ReadingFault (directory.descend place) content fault := by
  cases faulty with
  | file file' failed =>
    rw [file.unique file']
    exact failed
  | directory long => cases file.listed.symm.trans long.listed

theorem Faulty.mem_visits (faulty : t.Faulty directory start place fault) :
    place ∈ t.visits start := by
  cases faulty with
  | file file _ => exact mem_visits_iff.mpr (.inl ⟨_, file⟩)
  | directory long => exact mem_visits_iff.mpr (.inr ⟨long.below, long.listed⟩)

theorem Sound.loadModel_eq_error_iff (sound : t.Sound) (origin : t.locate directory = .ok start)
    (file : t.ModelFile start place content) :
    (t.loadModel (directory.descend place)).result = .error fault ↔
      ReadingFault (directory.descend place) content fault := by
  rw [result_loadModel, readText, sound.read_descend origin file, readingFault_iff]
  by_cases long : longestPath < (directory.descend place).text.utf8ByteSize
  · simp [long, Nat.not_le.mpr long, bind, Except.bind, eq_comm]
  · simp only [long, Nat.not_lt.mp long, bind, Except.bind, if_false, false_and, true_and, false_or]
    cases String.fromUTF8? content with
    | none => simp [eq_comm]
    | some text =>
      cases decoded : Model.read? text with
      | none => simp [decoded, eq_comm]
      | some m => simp [decoded]

theorem Sound.visit_eq_error_iff (sound : t.Sound) (origin : t.locate directory = .ok start)
    (member : place ∈ t.visits start) :
    (t.visit directory start place).result = .error fault ↔
      t.Faulty directory start place fault := by
  rcases mem_visits_iff.mp member with ⟨content, file⟩ | ⟨below, listed⟩
  · rw [file.visit_eq, sound.loadModel_eq_error_iff origin file]
    exact ⟨fun failed => .file file failed, fun faulty => faulty.readingFault file⟩
  · rw [sound.visit_directory origin listed]
    constructor
    · intro failed
      split at failed
      · next long =>
        cases failed
        exact .directory ⟨below, listed, long⟩
      · cases failed
    · intro faulty
      cases faulty with
      | file file _ => cases file.listed.symm.trans listed
      | directory long => rw [if_pos long.long]

theorem Sound.loadModel_eq_ok (sound : t.Sound) (origin : t.locate directory = .ok start)
    (file : t.ModelFile start place content) {found : Option Model}
    (loaded : (t.loadModel (directory.descend place)).result = .ok found) :
    ∃ m, modelOf? content = some m ∧ found = if m.name = "" then none else some m := by
  rw [result_loadModel] at loaded
  cases readable : t.readText (directory.descend place) with
  | error cause => simp [readable] at loaded
  | ok text =>
    obtain ⟨_, read, valid⟩ := readText_eq_ok.mp readable
    rw [sound.read_descend origin file] at read
    split at read
    · cases read
    · cases read
      cases decoded : Model.read? text with
      | none => simp [readable, decoded] at loaded
      | some m =>
        rw [readable] at loaded
        simp only [decoded, Except.ok.injEq] at loaded
        exact ⟨m, by rw [modelOf?, valid]; exact decoded, loaded.symm⟩

end Reading

section Named

/-- The named model in what lies at the end of a way down. -/
def namedModel? (t : Tree) (start place : Location) : Option Model :=
  match t.get? (start ++ place) with
  | some (.file content) => (modelOf? content).filter (·.name ≠ "")
  | _ => none

/-- The named models below a location, by the ways down to their files. -/
def namedFiles (t : Tree) (start : Location) : List (Location × Model) :=
  (t.visits start).filterMap fun place => (t.namedModel? start place).map (place, ·)

theorem namedModel?_eq (listed : t.get? (start ++ place) = some (.file content)) :
    t.namedModel? start place = (modelOf? content).filter (·.name ≠ "") := by
  simp only [namedModel?, listed]

theorem map_snd_namedFiles (t : Tree) (start : Location) :
    (t.namedFiles start).map Prod.snd = (t.visits start).filterMap (t.namedModel? start) := by
  rw [namedFiles, List.map_filterMap]
  simp only [Option.map_map, Function.comp_def, Option.map_id']

theorem namedModel?_eq_some : t.namedModel? start place = some m ↔
    ∃ content, t.get? (start ++ place) = some (.file content) ∧ modelOf? content = some m ∧
      m.name ≠ "" := by
  unfold namedModel?
  rcases t.get? (start ++ place) with _ | _ | _ <;> simp [Option.filter_eq_some_iff]

theorem mem_namedFiles_iff : (place, m) ∈ t.namedFiles start ↔ t.NamedFile start place m := by
  unfold namedFiles
  simp only [List.mem_filterMap, Option.map_eq_some_iff, Prod.mk.injEq, namedModel?_eq_some]
  constructor
  · rintro ⟨_, among, _, ⟨content, listed, model, named⟩, rfl, rfl⟩
    rcases mem_visits_iff.mp among with ⟨content', file⟩ | ⟨_, directory⟩
    · cases listed.symm.trans file.listed
      exact ⟨⟨content, file, model⟩, named⟩
    · cases listed.symm.trans directory
  · rintro ⟨⟨content, file, model⟩, named⟩
    exact ⟨place, mem_visits_iff.mpr (.inl ⟨content, file⟩), m,
      ⟨content, file.listed, model, named⟩, rfl, rfl⟩

theorem namedFiles_namedFiles (t : Tree) (start : Location) :
    t.NamedFiles start (t.namedFiles start) := by
  refine ⟨?_, fun place m => mem_namedFiles_iff⟩
  have places : ((t.namedFiles start).map Prod.fst).Sublist (t.visits start) := by
    have kept : (t.namedFiles start).map Prod.fst =
        (t.visits start).filter fun place => (t.namedModel? start place).isSome := by
      rw [namedFiles, List.map_filterMap, ← List.filterMap_eq_filter]
      congr 1
      funext place
      cases found : t.namedModel? start place <;> simp [found, Option.guard]
    exact kept ▸ List.filter_sublist
  exact (t.nodup_visits start).sublist places

theorem NamedFiles.perm {others : List (Location × Model)} (named : t.NamedFiles start files)
    (same : t.NamedFiles start others) : files.Perm others := by
  refine (List.perm_ext_iff_of_nodup (named.distinct.of_map _) (same.distinct.of_map _)).mpr ?_
  intro (place, m)
  rw [named.complete, same.complete]

theorem Sound.visit_eq_ok (sound : t.Sound) (origin : t.locate directory = .ok start)
    (member : place ∈ t.visits start) {found : Option Model}
    (passed : (t.visit directory start place).result = .ok found) :
    found = t.namedModel? start place := by
  rcases mem_visits_iff.mp member with ⟨content, file⟩ | ⟨_, listed⟩
  · rw [file.visit_eq] at passed
    obtain ⟨m, model, rfl⟩ := sound.loadModel_eq_ok origin file passed
    rw [namedModel?_eq file.listed, model]
    by_cases named : m.name = "" <;> simp [named, Option.filter]
  · rw [sound.visit_directory origin listed] at passed
    split at passed <;> cases passed
    simp [namedModel?, listed]

theorem Sound.result_loadModels (sound : t.Sound) (origin : t.locate directory = .ok start)
    (readable : ∀ place fault, ¬ t.Faulty directory start place fault) :
    (t.loadModels directory start (t.visits start)).result =
      .ok ((t.namedFiles start).map Prod.snd) := by
  have each : (t.visits start).mapM (fun place => (t.visit directory start place).result) =
      .ok ((t.visits start).map (t.namedModel? start)) := by
    rw [mapM_eq_ok_iff, List.map_map]
    refine List.map_congr_left fun place member => ?_
    cases passed : (t.visit directory start place).result with
    | error fault =>
      have faulty := (sound.visit_eq_error_iff origin member).mp passed
      exact absurd faulty (readable place fault)
    | ok found => exact congrArg _ (sound.visit_eq_ok origin member passed)
  rw [Tree.result_loadModels, each, map_snd_namedFiles, List.filterMap_eq_flatMap_toList]
  simp only [Except.map, List.flatMap_map]

/-- The first place that cannot be looked into decides. -/
theorem Sound.loadModels_eq_error_iff (sound : t.Sound) (origin : t.locate directory = .ok start) :
    (t.loadModels directory start (t.visits start)).result = .error fault ↔
      ∃ place, t.FirstFaulty directory start place fault := by
  have failure : (t.loadModels directory start (t.visits start)).result = .error fault ↔
      ((t.visits start).mapM fun place => (t.visit directory start place).result) =
        .error fault := by
    rw [Tree.result_loadModels]
    cases (t.visits start).mapM fun place => (t.visit directory start place).result <;>
      simp [Except.map]
  have passes (other : Location) (member : other ∈ t.visits start) :
      (∃ found, (t.visit directory start other).result = .ok found) ↔
        ¬ ∃ fault, t.Faulty directory start other fault := by
    simp only [← sound.visit_eq_error_iff origin member]
    cases (t.visit directory start other).result <;> simp
  have order (place : Location) := first_iff_least place
    (fun other => ∃ fault, t.Faulty directory start other fault)
    (t.sorted_visits start) (t.nodup_visits start)
  rw [failure, mapM_eq_error_iff]
  constructor
  · rintro ⟨before, place, after, split, passed, failed⟩
    have clear (other : Location) (ahead : other ∈ before) :
        ¬ ∃ fault, t.Faulty directory start other fault :=
      (passes other (by simp [split, ahead])).mp (passed other ahead)
    obtain ⟨member, least⟩ := (order place).mp ⟨before, after, split, clear⟩
    refine ⟨place, (sound.visit_eq_error_iff origin member).mp failed, ?_⟩
    intro other fault' faulty
    rw [← lt_iff_map_bytesOf_lt]
    exact least other faulty.mem_visits ⟨fault', faulty⟩
  · rintro ⟨place, faulty, least⟩
    have failing (other : Location) (_ : other ∈ t.visits start)
        (failed : ∃ fault, t.Faulty directory start other fault) : ¬ other < place := by
      obtain ⟨fault', faulty'⟩ := failed
      rw [lt_iff_map_bytesOf_lt]
      exact least other fault' faulty'
    obtain ⟨before, after, split, clear⟩ := (order place).mpr ⟨faulty.mem_visits, failing⟩
    refine ⟨before, place, after, split, fun other ahead => ?_,
      (sound.visit_eq_error_iff origin faulty.mem_visits).mpr faulty⟩
    exact (passes other (by simp [split, ahead])).mpr (clear other ahead)

end Named

section Outcome

theorem loadDatabase_of_missing (absent : t.isDirectory directory = false) :
    (t.loadDatabase directory).result = .error (.databaseNotFound directory) := by
  unfold isDirectory at absent
  unfold loadDatabase
  cases origin : t.locate directory with
  | error fault => rfl
  | ok start =>
    rw [origin] at absent
    simp [absent]

theorem Sound.readable_of_loadModels (sound : t.Sound) (origin : t.locate directory = .ok start)
    {models : List Model}
    (loaded : (t.loadModels directory start (t.visits start)).result = .ok models) :
    ¬ t.Faulty directory start place fault := by
  intro faulty
  have stopped := (sound.visit_eq_error_iff origin faulty.mem_visits).mpr faulty
  obtain ⟨found, passed⟩ := visit_of_loadModels loaded _ faulty.mem_visits
  cases stopped.symm.trans passed

theorem holds_of_visits (origin : t.locate directory = .ok start)
    (there : t.isDirectoryAt start = true)
    (fits : ∀ place ∈ t.visits start,
      (directory.descend place).text.utf8ByteSize ≤ longestPath)
    (models : ∀ place ∈ t.visits start, t.get? (start ++ place) = some .directory ∨
      ∃ content m, t.get? (start ++ place) = some (.file content) ∧ modelOf? content = some m) :
    t.Holds directory start (t.namedFiles start) := by
  refine ⟨origin, there, fun place fault faulty => ?_, t.namedFiles_namedFiles start⟩
  have short := fits place faulty.mem_visits
  have known := models place faulty.mem_visits
  cases faulty with
  | file file failed =>
    rw [file.listed] at known
    obtain ⟨content, m, same, model⟩ := known.resolve_left (by simp)
    cases same
    cases failed with
    | unreachable long => exact absurd long (Nat.not_lt.mpr short)
    | notText _ invalid => simp [modelOf?, invalid] at model
    | malformed _ valid refused => simp [modelOf?, valid, refused] at model
  | directory long => exact absurd long.long (Nat.not_lt.mpr short)

theorem Holds.result_loadDatabase (sound : t.Sound) (holds : t.Holds directory start files) :
    (t.loadDatabase directory).result =
      if files = [] then .error (.emptyDatabase directory)
      else Database.ofModels (files.map Prod.snd) := by
  have same := (t.namedFiles_namedFiles start).perm holds.named
  rw [Tree.result_loadDatabase holds.origin holds.there,
    sound.result_loadModels holds.origin holds.readable]
  simp only [Except.bind, Database.ofModels_perm (same.map Prod.snd)]
  congr 1
  rw [← List.length_eq_zero_iff, List.length_map, same.length_eq, List.length_eq_zero_iff]

theorem loadOutcome (sound : t.Sound) (directory : Path) :
    LoadOutcome t directory (t.loadDatabase directory).result := by
  by_cases there : t.isDirectory directory = true
  · obtain ⟨start, origin, there⟩ := isDirectory_iff.mp there
    cases loaded : (t.loadModels directory start (t.visits start)).result with
    | error fault =>
      obtain ⟨place, first⟩ := (sound.loadModels_eq_error_iff origin).mp loaded
      rw [Tree.result_loadDatabase origin there, loaded]
      exact .faulty origin there first
    | ok models =>
      have holds : t.Holds directory start (t.namedFiles start) :=
        ⟨origin, there, fun place fault => sound.readable_of_loadModels origin loaded,
          t.namedFiles_namedFiles start⟩
      rw [holds.result_loadDatabase sound]
      by_cases empty : t.namedFiles start = []
      · rw [if_pos empty]
        exact .empty (empty ▸ holds)
      · rw [if_neg empty]
        rcases Database.ofModels_spec ((t.namedFiles start).map Prod.snd) with
          ⟨db, made, same⟩ | ⟨name, refused, shared, least⟩
        · rw [made]
          exact .loaded holds empty same
        · rw [refused]
          exact .shared holds shared least
  · rw [Bool.not_eq_true] at there
    rw [loadDatabase_of_missing there]
    exact .missing there

theorem result_of_loadOutcome (sound : t.Sound) {result : Except Fault Database}
    (outcome : LoadOutcome t directory result) : (t.loadDatabase directory).result = result := by
  cases outcome with
  | missing absent => exact loadDatabase_of_missing absent
  | faulty origin there first =>
    have stopped := (sound.loadModels_eq_error_iff origin).mpr ⟨_, first⟩
    rw [Tree.result_loadDatabase origin there, stopped]
    rfl
  | empty holds => rw [holds.result_loadDatabase sound, if_pos rfl]
  | @shared start files name holds shared least =>
    have some : files ≠ [] := by
      rintro rfl
      simp [SharedName] at shared
    rw [holds.result_loadDatabase sound, if_neg some]
    exact Database.ofModels_eq_error_iff.mpr ⟨name, rfl, shared, least⟩
  | loaded holds some models =>
    rw [holds.result_loadDatabase sound, if_neg some]
    exact Database.ofModels_eq_ok_iff.mpr models

variable {start' : Location}

/-- What is neither a model file below the directory nor a directory with a long path has no say. -/
theorem loadOutcome_congr {result : Except Fault Database}
    (origin : t.locate directory = .ok start) (there : t.isDirectoryAt start = true)
    (origin' : u.locate directory = .ok start') (there' : u.isDirectoryAt start' = true)
    (files : ∀ place content,
      u.ModelFile start' place content ↔ t.ModelFile start place content)
    (directories : ∀ place,
      u.LongDirectory directory start' place ↔ t.LongDirectory directory start place)
    (outcome : LoadOutcome t directory result) : LoadOutcome u directory result := by
  have faults (place : Location) (fault : Fault) :
      u.Faulty directory start' place fault ↔ t.Faulty directory start place fault := by
    constructor <;> rintro (⟨file, failed⟩ | long)
    · exact .file ((files _ _).mp file) failed
    · exact .directory ((directories _).mp long)
    · exact .file ((files _ _).mpr file) failed
    · exact .directory ((directories _).mpr long)
  have holds (named : List (Location × Model)) (held : t.Holds directory start named) :
      u.Holds directory start' named := by
    refine ⟨origin', there', fun place fault => ?_, held.named.distinct, fun place m => ?_⟩
    · rw [faults]
      exact held.readable place fault
    · refine (held.named.complete place m).trans ⟨?_, ?_⟩ <;>
        rintro ⟨⟨content, file, model⟩, named⟩
      · exact ⟨⟨content, (files _ _).mpr file, model⟩, named⟩
      · exact ⟨⟨content, (files _ _).mp file, model⟩, named⟩
  cases outcome with
  | missing absent =>
    rw [isDirectory_iff.mpr ⟨start, origin, there⟩] at absent
    cases absent
  | faulty found _ first =>
    obtain rfl := Except.ok.inj (found.symm.trans origin)
    refine .faulty origin' there' ⟨(faults _ _).mpr first.failed, fun other fault failed => ?_⟩
    exact first.least other fault ((faults _ _).mp failed)
  | empty held =>
    obtain rfl := Except.ok.inj (held.origin.symm.trans origin)
    exact .empty (holds _ held)
  | shared held shared least =>
    obtain rfl := Except.ok.inj (held.origin.symm.trans origin)
    exact .shared (holds _ held) shared least
  | loaded held some models =>
    obtain rfl := Except.ok.inj (held.origin.symm.trans origin)
    exact .loaded (holds _ held) some models

end Outcome

end Tree

/-- The model files below a directory, and the directories whose paths are too long, settle what comes
of loading the database in it, and nothing else does. -/
theorem loading_follows_model_files {t : Tree} (sound : t.Sound) (directory : Path) :
    (∀ result, (t.loadDatabase directory).result = result ↔ LoadOutcome t directory result) ∧
    ∀ (u : Tree) (start start' : Location), u.Sound →
      t.locate directory = .ok start → t.isDirectoryAt start = true →
      u.locate directory = .ok start' → u.isDirectoryAt start' = true →
      (∀ place content, u.ModelFile start' place content ↔ t.ModelFile start place content) →
      (∀ place, u.LongDirectory directory start' place ↔ t.LongDirectory directory start place) →
      (u.loadDatabase directory).result = (t.loadDatabase directory).result := by
  refine ⟨fun result => ⟨?_, Tree.result_of_loadOutcome sound⟩, ?_⟩
  · rintro rfl
    exact Tree.loadOutcome sound directory
  · intro u start start' sound' origin there origin' there' files directories
    have outcome := Tree.loadOutcome sound directory
    exact Tree.result_of_loadOutcome sound'
      (Tree.loadOutcome_congr origin there origin' there' files directories outcome)

/-- Two model files that cannot be read. The directory comes before the file whose name it begins,
though as texts their paths are in the other order. -/
def brokenTree : Tree where
  entries := OrderedMap.ofList
    [(["db"], .directory), (["db", "a.yaml"], .file "[".toUTF8), (["db", "a"], .directory),
      (["db", "a", "x.yaml"], .file ⟨#[0xff]⟩)]
  workingDirectory := []

theorem broken_below_directory_first : brokenTree.Sound ∧
    LoadOutcome brokenTree ⟨"db"⟩ (.error (.unreadable ⟨"db/a/x.yaml"⟩ .notText)) := by
  have sound : brokenTree.Sound := by decide +kernel
  have places : brokenTree.visits ["db"] = [["a"], ["a", "x.yaml"], ["a.yaml"]] :=
    Tree.visits_eq_of_perm (by decide +kernel) (by decide +kernel)
  refine ⟨sound, ((loading_follows_model_files sound ⟨"db"⟩).1 _).mp ?_⟩
  have origin : brokenTree.locate ⟨"db"⟩ = .ok ["db"] := by decide +kernel
  rw [Tree.result_loadDatabase origin (by decide +kernel), places]
  decide +kernel

section Slashes

variable {t : Tree} {p : Path} {location : Location}

def Path.slashed (p : Path) (count : Nat) : Path :=
  ⟨p.text ++ String.ofList (List.replicate count '/')⟩

theorem Path.splitSlashes_replicate (count : Nat) :
    splitSlashes (List.replicate count '/') = List.replicate (count + 1) [] := by
  induction count with
  | zero => rfl
  | succ count ih => rw [List.replicate_succ, splitSlashes, if_pos rfl, ih, ← List.replicate_succ]

theorem Path.segments_slashed (p : Path) (count : Nat) :
    (p.slashed count).segments = p.segments ++ List.replicate count "" := by
  cases count with
  | zero => simp [slashed]
  | succ count =>
    rw [segments, slashed, String.toList_append, String.toList_ofList, List.replicate_succ,
      splitSlashes_append, splitSlashes_replicate, List.map_append, List.map_replicate, segments]

theorem Path.utf8ByteSize_slashed (p : Path) (count : Nat) :
    (p.slashed count).text.utf8ByteSize = p.text.utf8ByteSize + count := by
  have slashes : String.utf8Len (List.replicate count '/') = count := by
    induction count with
    | zero => rfl
    | succ count ih => rw [List.replicate_succ, String.utf8Len_cons, ih]; rfl
  rw [slashed, String.utf8ByteSize_append, String.utf8ByteSize_ofList, slashes]

theorem Tree.locate_slashed {count : Nat} (found : t.locate p = .ok location)
    (there : t.isDirectoryAt location = true)
    (fits : p.text.utf8ByteSize + count ≤ longestPath) :
    t.locate (p.slashed count) = .ok location := by
  obtain ⟨checked, reached⟩ := locate_eq_ok.mp found
  obtain ⟨clean, written, _⟩ := checkPath_eq_ok.mp checked
  have base : t.base (p.slashed count) = t.base p := by
    have letters : p.text.toList ≠ [] := by simpa using written
    obtain ⟨c, cs, letters⟩ := List.exists_cons_of_ne_nil letters
    rw [Tree.base, Tree.base, Path.isAbsolute, Path.isAbsolute, Path.slashed,
      String.toList_append, letters]
    rfl
  refine locate_eq_ok.mpr ⟨checkPath_eq_ok.mpr ⟨?_, ?_, ?_⟩, ?_⟩
  · simp [Path.slashed, clean]
  · simp [Path.slashed, written]
  · rw [Path.utf8ByteSize_slashed]
    exact fits
  · rw [base, Path.segments_slashed]
    refine walk_append_eq_ok.mpr ⟨location, reached, walk_slashes ?_ there⟩
    exact fun segment member => List.eq_of_mem_replicate member

end Slashes

def smallText : String := "SystemProductName: a\n"

def smallTree : Tree where
  entries := OrderedMap.ofList [(["db"], .directory), (["db", "a.yaml"], .file smallText.toUTF8)]
  workingDirectory := []

theorem smallTree_listed :
    smallTree.Sound ∧ smallTree.locate ⟨"db"⟩ = .ok ["db"] ∧ smallTree.isDirectoryAt ["db"] = true ∧
    [["a.yaml"]].Perm (smallTree.entries.entries.filterMap (Tree.visit? ["db"])) ∧
    (modelOf? smallText.toUTF8).map Model.name = some "a" := by
  decide +kernel

theorem visits_smallTree : smallTree.visits ["db"] = [["a.yaml"]] :=
  Tree.visits_eq_of_perm smallTree_listed.2.2.2.1 (by decide)

theorem modelFile_smallTree_iff {place : Location} {content : ByteArray} :
    smallTree.ModelFile ["db"] place content ↔
      place = ["a.yaml"] ∧ content = smallText.toUTF8 := by
  have file : smallTree.ModelFile ["db"] ["a.yaml"] smallText.toUTF8 :=
    ⟨rfl, [], "a", by decide⟩
  constructor
  · intro other
    have member := Tree.mem_visits_iff.mpr (.inl ⟨content, other⟩)
    rw [visits_smallTree, List.mem_singleton] at member
    subst member
    exact ⟨rfl, other.unique file⟩
  · rintro ⟨rfl, rfl⟩
    exact file

/-- From a path that is almost too long for the directory no file in it can be reached. -/
theorem loadDatabase_smallTree {directory : Path} (sound : smallTree.Sound)
    (origin : smallTree.locate directory = .ok ["db"])
    (there : smallTree.isDirectoryAt ["db"] = true)
    (almost : Tree.longestPath < directory.text.utf8ByteSize + 6) :
    (smallTree.loadDatabase directory).result =
      .error (.unreadable (directory.join ⟨"a.yaml"⟩) .nameTooLong) := by
  have size := Path.utf8ByteSize_join (Tree.written_of_locate origin)
    (by decide : '/' ∉ "a.yaml".toList)
  have long : Tree.longestPath < (directory.join ⟨"a.yaml"⟩).text.utf8ByteSize :=
    Nat.lt_of_lt_of_le almost size.1
  have file := modelFile_smallTree_iff.mpr ⟨rfl, rfl⟩
  have first : smallTree.FirstFaulty directory ["db"] ["a.yaml"]
      (.unreadable (directory.join ⟨"a.yaml"⟩) .nameTooLong) := by
    refine ⟨.file file (.unreachable long), fun other fault faulty => ?_⟩
    have member := faulty.mem_visits
    rw [visits_smallTree, List.mem_singleton] at member
    subst member
    exact List.lt_irrefl _
  have stopped := (sound.loadModels_eq_error_iff origin).mpr ⟨_, first⟩
  rw [Tree.result_loadDatabase origin there, stopped]
  rfl

/-- So many slashes that only three more characters fit behind them. -/
def slashedPath : Path := Path.slashed ⟨"db"⟩ 4090

/-- The one model file below the directory has a named model, but the slashes behind the path of the
directory make that of the file too long. -/
theorem slashed_not_loaded :
    smallTree.Sound ∧ smallTree.locate slashedPath = .ok ["db"] ∧
    smallTree.isDirectoryAt ["db"] = true ∧
    (∀ place content, smallTree.ModelFile ["db"] place content ↔
      place = ["a.yaml"] ∧ content = smallText.toUTF8) ∧
    (modelOf? smallText.toUTF8).map Model.name = some "a" ∧
    (smallTree.loadDatabase slashedPath).result =
      .error (.unreadable (slashedPath.join ⟨"a.yaml"⟩) .nameTooLong) := by
  obtain ⟨sound, plain, there, _, named⟩ := smallTree_listed
  have origin : smallTree.locate slashedPath = .ok ["db"] :=
    Tree.locate_slashed plain there (by decide)
  have size : slashedPath.text.utf8ByteSize = 4092 := Path.utf8ByteSize_slashed ⟨"db"⟩ 4090
  have almost : Tree.longestPath < slashedPath.text.utf8ByteSize + 6 := by
    rw [size, Tree.longestPath]
    omega
  exact ⟨sound, origin, there, fun _ _ => modelFile_smallTree_iff, named,
    loadDatabase_smallTree sound origin there almost⟩

end ModelCatalog
