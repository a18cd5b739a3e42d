import ModelCatalog.Generation
import ModelCatalog.Proofs.Comparison
import ModelCatalog.Proofs.Traversal

/-! Checking against writing. All that can go wrong before a file is written goes wrong in one of
four stages, and a generation that only checks goes through the same stages as one that writes. -/
namespace ModelCatalog

def Fault.isWriting : Fault → Bool
  | .unwritable _ _ => true
  | _ => false

/-- If there is a fault, it is none of writing. -/
def Reading {α : Type} (result : Except Fault α) : Prop :=
  ∀ fault, result = .error fault → fault.isWriting = false

section Reading

variable {α β : Type}

theorem reading_ok (value : α) : Reading (.ok value : Except Fault α) := by
  intro fault failed
  cases failed

theorem reading_error {fault : Fault} (mild : fault.isWriting = false) :
    Reading (.error fault : Except Fault α) := by
  intro other failed
  cases failed
  exact mild

theorem Reading.bind {first : Except Fault α} {next : α → Except Fault β} (start : Reading first)
    (others : ∀ value, Reading (next value)) : Reading (first >>= next) := by
  cases first with
  | error fault => exact reading_error (start fault rfl)
  | ok value => exact others value

theorem Reading.mapM {next : α → Except Fault β} (each : ∀ value, Reading (next value))
    (values : List α) : Reading (values.mapM next) := by
  induction values with
  | nil => exact reading_ok []
  | cons value rest ih =>
    rw [List.mapM_cons]
    exact (each value).bind fun _ => ih.bind fun _ => reading_ok _

end Reading

section Stages

theorem reading_loadModel (t : Tree) (path : Path) : Reading (t.loadModel path).result := by
  unfold Tree.loadModel
  split
  · exact reading_error rfl
  · split
    · exact reading_error rfl
    · split <;> exact reading_ok _

theorem reading_visit (t : Tree) (directory : Path) (start place : Location) :
    Reading (t.visit directory start place).result := by
  unfold Tree.visit
  dsimp only
  split
  · split
    · exact reading_error rfl
    · exact reading_ok none
  · exact reading_loadModel t _

theorem reading_loadModels (t : Tree) (directory : Path) (start : Location)
    (places : List Location) : Reading (t.loadModels directory start places).result := by
  induction places with
  | nil => exact reading_ok []
  | cons place rest ih =>
    rw [Tree.loadModels, Logged.result_bind]
    refine (reading_visit t directory start place).bind fun _ => ?_
    rw [Logged.result_bind]
    exact ih.bind fun _ => reading_ok _

theorem reading_ofModels (models : List Model) : Reading (Database.ofModels models) := by
  unfold Database.ofModels
  split
  · exact reading_error rfl
  · exact reading_ok _

theorem reading_loadDatabase (t : Tree) (directory : Path) :
    Reading (t.loadDatabase directory).result := by
  unfold Tree.loadDatabase
  split
  · exact reading_error rfl
  · split
    · exact reading_error rfl
    · rw [Logged.result_bind]
      refine (reading_loadModels t _ _ _).bind fun models => ?_
      split
      · exact reading_error rfl
      · exact reading_ofModels models

theorem reading_loadRegistry (t : Tree) (path : Path) : Reading (t.loadRegistry path).result := by
  unfold Tree.loadRegistry
  split
  · exact reading_error rfl
  · split
    · exact reading_error rfl
    · exact reading_ok _

theorem reading_cover (db : Database) (registry : Registry) (family : Family) :
    Reading (cover db registry family).result := by
  intro fault failed
  rcases cover_eq_error_iff.mp failed with
    ⟨_, _, _, _, _, objection⟩ | ⟨_, _, _, _, _, _, _, rejected⟩
  · cases objection <;> rfl
  · cases rejected <;> rfl

theorem reading_require {α : Type} (m : Model) (field : String) (value : Option α) :
    Reading (m.require field value) := by
  cases value with
  | none => exact reading_error rfl
  | some value => exact reading_ok value

theorem reading_rows {α β : Type} (models : List Model) (field : String) (read : Model → Option α)
    (row : Model → α → β) :
    Reading (models.mapM fun m => do return row m (← m.require field (read m))) :=
  Reading.mapM (fun m => (reading_require m field (read m)).bind fun _ => reading_ok _) models

theorem reading_entry (m : Model) : Reading (InfoTable.entry m) := by
  unfold InfoTable.entry
  iterate 14 refine (reading_require m _ _).bind fun _ => ?_
  exact reading_ok _

theorem reading_entries (minYear : UInt32) (models : List Model) :
    Reading (InfoTable.entries minYear models) := by
  induction models with
  | nil => exact reading_ok []
  | cons m rest ih =>
    refine (reading_require m _ _).bind fun year => ?_
    split
    · exact ih
    · exact (reading_entry m).bind fun _ => ih.bind fun _ => reading_ok _

theorem reading_serialTable (db : Database) (registry : Registry) :
    Reading (SerialTable.render db registry) := by
  unfold SerialTable.render
  iterate 2 refine (reading_rows db.models _ _ _).bind fun _ => ?_
  iterate 3 refine (Reading.mapM (fun m => reading_require m _ _) _).bind fun _ => ?_
  exact reading_ok _

theorem reading_content (db : Database) (registry : Registry) (minYear : UInt32)
    (kind : ArtifactKind) : Reading (kind.content db registry minYear) := by
  cases kind with
  | infoTable => exact (reading_entries minYear db.models).bind fun _ => reading_ok _
  | serialTable => exact reading_serialTable db registry
  | boardMap => exact reading_ok _

end Stages

/-- What can go wrong before anything is written: the first stage that fails decides, and among the
artifacts the first that cannot be made. -/
inductive PreparationFault (t : Tree) (layout : Layout) (fault : Fault) : Prop
  | database (failed : (t.loadDatabase layout.databasePath).result = .error fault)
  | registry {db : Database} (loaded : (t.loadDatabase layout.databasePath).result = .ok db)
      (failed : (t.loadRegistry layout.productsPath).result = .error fault)
  | comparison {db : Database} {registry : Registry}
      (loaded : (t.loadDatabase layout.databasePath).result = .ok db)
      (known : (t.loadRegistry layout.productsPath).result = .ok registry)
      (failed : (cover db registry layout.family).result = .error fault)
  | artifact {db : Database} {registry : Registry} {coverage : Coverage}
      {before after : List ArtifactKind} {kind : ArtifactKind}
      (loaded : (t.loadDatabase layout.databasePath).result = .ok db)
      (known : (t.loadRegistry layout.productsPath).result = .ok registry)
      (compared : (cover db registry layout.family).result = .ok coverage)
      (order : ArtifactKind.all = before ++ kind :: after)
      (made : ∀ other ∈ before, ∃ text, other.content db registry layout.minYear = .ok text)
      (failed : kind.content db registry layout.minYear = .error fault)

section Preparation

variable {t : Tree} {layout : Layout} {db : Database} {registry : Registry} {fault : Fault}
  {summary : Summary}

theorem result_renderOne (db : Database) (registry : Registry) (layout : Layout)
    (kind : ArtifactKind) : (renderOne db registry layout kind).result =
      (kind.content db registry layout.minYear).map fun content => ⟨kind.path layout, content⟩ := by
  rw [renderOne, Logged.result_bind]
  cases kind.content db registry layout.minYear <;> rfl

theorem render_eq_error_iff :
    (render db registry layout).result = .error fault ↔
      ∃ before kind after, ArtifactKind.all = before ++ kind :: after ∧
        (∀ other ∈ before, ∃ text, other.content db registry layout.minYear = .ok text) ∧
        kind.content db registry layout.minYear = .error fault := by
  have made (kind : ArtifactKind) : (∃ artifact, (renderOne db registry layout kind).result =
      .ok artifact) ↔ ∃ text, kind.content db registry layout.minYear = .ok text := by
    rw [result_renderOne]
    cases kind.content db registry layout.minYear <;> simp [Except.map]
  have failed (kind : ArtifactKind) : (renderOne db registry layout kind).result = .error fault ↔
      kind.content db registry layout.minYear = .error fault := by
    rw [result_renderOne]
    cases kind.content db registry layout.minYear <;> simp [Except.map]
  rw [render, Logged.result_mapM, mapM_eq_error_iff]
  simp only [made, failed]

theorem render_eq_ok_iff {artifacts : List Artifact} :
    (render db registry layout).result = .ok artifacts ↔
      ∃ table header, InfoTable.render db layout.minYear = .ok table ∧
        SerialTable.render db registry = .ok header ∧
        artifacts = [⟨layout.infoTablePath, table⟩, ⟨layout.serialTablePath, header⟩,
          ⟨layout.boardMapPath, BoardMap.render db⟩] := by
  rw [render, Logged.result_mapM, ArtifactKind.all]
  simp only [List.mapM_cons, List.mapM_nil, result_renderOne, ArtifactKind.content,
    ArtifactKind.path]
  cases InfoTable.render db layout.minYear with
  | error fault => simp [Except.map, bind, Except.bind]
  | ok table =>
    cases SerialTable.render db registry <;>
      simp [Except.map, bind, Except.bind, pure, Except.pure, eq_comm]

theorem path_of_render {artifacts : List Artifact}
    (made : (render db registry layout).result = .ok artifacts) :
    ∀ artifact ∈ artifacts, ∃ kind : ArtifactKind, artifact.path = kind.path layout := by
  obtain ⟨table, header, _, _, rfl⟩ := render_eq_ok_iff.mp made
  simp only [List.forall_mem_cons, List.not_mem_nil, false_imp_iff, implies_true, and_true]
  exact ⟨⟨.infoTable, rfl⟩, ⟨.serialTable, rfl⟩, ⟨.boardMap, rfl⟩⟩

/-- A generation is prepared exactly if nothing of the four stages fails. -/
theorem prepare_eq_error_iff :
    (prepare t layout).result = .error fault ↔ PreparationFault t layout fault := by
  simp only [prepare, Logged.result_event_bind, Logged.result_bind_eq_error, Logged.result_pure,
    reduceCtorEq, and_false, exists_false, or_false, render_eq_error_iff]
  constructor
  · rintro (failed | ⟨db, loaded, failed | ⟨registry, known, failed | ⟨coverage, compared, before,
      kind, after, order, made, failed⟩⟩⟩)
    · exact .database failed
    · exact .registry loaded failed
    · exact .comparison loaded known failed
    · exact .artifact loaded known compared order made failed
  · rintro (failed | ⟨loaded, failed⟩ | ⟨loaded, known, failed⟩ |
      ⟨loaded, known, compared, order, made, failed⟩)
    · exact .inl failed
    · exact .inr ⟨_, loaded, .inl failed⟩
    · exact .inr ⟨_, loaded, .inr ⟨_, known, .inl failed⟩⟩
    · exact .inr ⟨_, loaded, .inr ⟨_, known, .inr ⟨_, compared, _, _, _, order, made, failed⟩⟩⟩

theorem prepare_eq_ok_iff : (prepare t layout).result = .ok summary ↔
    ∃ db registry, (t.loadDatabase layout.databasePath).result = .ok db ∧
      (t.loadRegistry layout.productsPath).result = .ok registry ∧
      (cover db registry layout.family).result = .ok summary.coverage ∧
      (render db registry layout).result = .ok summary.artifacts ∧
      summary.models = db.size ∧ summary.written = !layout.checkOnly := by
  simp only [prepare, Logged.result_event_bind, Logged.result_bind_eq_ok, Logged.result_pure]
  constructor
  · rintro ⟨db, loaded, registry, known, coverage, compared, artifacts, made, ended⟩
    cases ended
    exact ⟨db, registry, loaded, known, compared, made, rfl, rfl⟩
  · rintro ⟨db, registry, loaded, known, compared, made, models, written⟩
    refine ⟨db, loaded, registry, known, _, compared, _, made, ?_⟩
    rw [← models, ← written]

theorem reading_prepare (t : Tree) (layout : Layout) : Reading (prepare t layout).result := by
  intro fault failed
  cases prepare_eq_error_iff.mp failed with
  | database failed => exact reading_loadDatabase _ _ _ failed
  | registry _ failed => exact reading_loadRegistry _ _ _ failed
  | comparison _ _ failed => exact reading_cover _ _ _ _ failed
  | artifact _ _ _ _ _ failed => exact reading_content _ _ _ _ _ failed

theorem result_prepare (t : Tree) (layout : Layout) : (prepare t layout).result = do
    let db ← (t.loadDatabase layout.databasePath).result
    let registry ← (t.loadRegistry layout.productsPath).result
    let coverage ← (cover db registry layout.family).result
    let artifacts ← (render db registry layout).result
    return ⟨db.size, coverage, artifacts, !layout.checkOnly⟩ := by
  simp only [prepare, Logged.result_bind]
  rfl

theorem result_prepare_checking (t : Tree) (layout : Layout) (checking : Bool) :
    (prepare t { layout with checkOnly := checking }).result =
      (prepare t layout).result.map fun summary => { summary with written := !checking } := by
  change _ = (fun summary : Summary => { summary with written := !checking }) <$> _
  rw [result_prepare, result_prepare]
  simp only [map_bind]
  rfl

theorem written_of_prepare (prepared : (prepare t layout).result = .ok summary) :
    summary.written = !layout.checkOnly := by
  obtain ⟨_, _, _, _, _, _, _, written⟩ := prepare_eq_ok_iff.mp prepared
  exact written

/-- Once everything is made only writing can fail. -/
theorem writeAll_eq_error {artifacts : List Artifact}
    (failed : (t.writeAll artifacts).2.result = .error fault) :
    ∃ path cause, fault = .unwritable path cause := by
  induction artifacts generalizing t with
  | nil => cases failed
  | cons artifact rest ih =>
    cases step : t.write artifact with
    | mk written outcome =>
      cases outcome with
      | error first =>
        rw [writeAll_of_error step] at failed
        obtain rfl : first = fault := Except.error.inj failed
        exact write_eq_error (congrArg Prod.snd step)
      | ok _ =>
        rw [writeAll_of_ok step] at failed
        exact ih failed

theorem generate_of_failed (failed : (prepare t layout).result = .error fault) :
    generate t layout = (t, prepare t layout) := by
  simp [generate, failed]

theorem generate_of_checking (t : Tree) (checking : layout.checkOnly = true) :
    generate t layout = (t, prepare t layout) := by
  cases outcome : (prepare t layout).result with
  | error fault => exact generate_of_failed outcome
  | ok summary => simp [generate, outcome, written_of_prepare outcome, checking]

theorem generate_of_writing (prepared : (prepare t layout).result = .ok summary)
    (writing : layout.checkOnly = false) :
    generate t layout = ((t.writeAll summary.artifacts).1, do
      let summary' ← prepare t layout
      (t.writeAll summary.artifacts).2
      return summary') := by
  simp [generate, prepared, written_of_prepare prepared, writing]

theorem generate_of_written (prepared : (prepare t layout).result = .ok summary)
    (writing : layout.checkOnly = false) :
    (generate t layout).1 = (t.writeAll summary.artifacts).1 ∧
    (generate t layout).2.result =
      (t.writeAll summary.artifacts).2.result.map fun _ => summary := by
  rw [generate_of_writing prepared writing]
  simp only [true_and, Logged.result_bind, prepared]
  cases (t.writeAll summary.artifacts).2.result <;> rfl

theorem generate_eq_error_iff :
    (generate t layout).2.result = .error fault ↔
      (prepare t layout).result = .error fault ∨
      ∃ summary, (prepare t layout).result = .ok summary ∧ layout.checkOnly = false ∧
        (t.writeAll summary.artifacts).2.result = .error fault := by
  cases outcome : (prepare t layout).result with
  | error first => simp [generate_of_failed outcome, outcome]
  | ok summary =>
    cases checking : layout.checkOnly with
    | true => simp [generate_of_checking t checking, outcome]
    | false =>
      rw [(generate_of_written outcome checking).2]
      cases wrote : (t.writeAll summary.artifacts).2.result <;> simp [Except.map, wrote]

theorem generate_eq_ok_iff :
    (generate t layout).2.result = .ok summary ↔
      (prepare t layout).result = .ok summary ∧
      (layout.checkOnly = true ∨ (t.writeAll summary.artifacts).2.result = .ok ()) := by
  cases outcome : (prepare t layout).result with
  | error first => simp [generate_of_failed outcome, outcome]
  | ok found =>
    cases checking : layout.checkOnly with
    | true => simp [generate_of_checking t checking, outcome]
    | false =>
      rw [(generate_of_written outcome checking).2]
      cases wrote : (t.writeAll found.artifacts).2.result with
      | error fault =>
        simp only [Except.map, reduceCtorEq, Except.ok.injEq, Bool.false_eq_true, false_or,
          false_iff, not_and]
        rintro rfl
        simp [wrote]
      | ok _ =>
        simp only [Except.map, Except.ok.injEq, Bool.false_eq_true, false_or]
        refine ⟨?_, And.left⟩
        rintro rfl
        exact ⟨rfl, wrote⟩

theorem generate_eq_error_and_mild_iff :
    (generate t layout).2.result = .error fault ∧ fault.isWriting = false ↔
      (prepare t layout).result = .error fault := by
  constructor
  · rintro ⟨failed, mild⟩
    rcases generate_eq_error_iff.mp failed with prepared | ⟨_, _, _, unwritable⟩
    · exact prepared
    · obtain ⟨_, _, rfl⟩ := writeAll_eq_error unwritable
      cases mild
  · intro prepared
    exact ⟨by rw [generate_of_failed prepared, prepared], reading_prepare t layout fault prepared⟩

theorem generate_of_prepared (prepared : (prepare t layout).result = .ok summary) :
    (generate t layout).2.result = .ok summary ∨
      layout.checkOnly = false ∧
        ∃ path cause, (generate t layout).2.result = .error (.unwritable path cause) := by
  cases outcome : (generate t layout).2.result with
  | ok ended =>
    obtain ⟨again, _⟩ := generate_eq_ok_iff.mp outcome
    exact .inl (again.symm.trans prepared)
  | error fault =>
    rcases generate_eq_error_iff.mp outcome with failed | ⟨_, _, writing, unwritable⟩
    · rw [prepared] at failed
      cases failed
    · obtain ⟨path, cause, rfl⟩ := writeAll_eq_error unwritable
      exact .inr ⟨writing, path, cause, rfl⟩

theorem result_checked (t : Tree) (layout : Layout) :
    (generate t { layout with checkOnly := true }).2.result =
      (prepare t layout).result.map fun summary => { summary with written := false } := by
  rw [generate_of_checking t rfl]
  exact result_prepare_checking t layout true

theorem checked_eq_error_iff :
    (generate t { layout with checkOnly := true }).2.result = .error fault ↔
      (prepare t layout).result = .error fault := by
  rw [result_checked]
  cases (prepare t layout).result <;> simp [Except.map]

theorem checked_eq_ok_iff :
    (generate t { layout with checkOnly := true }).2.result = .ok summary ↔
      ∃ found, (prepare t layout).result = .ok found ∧
        { found with written := false } = summary := by
  rw [result_checked]
  cases (prepare t layout).result <;> simp [Except.map]

end Preparation

/-- To check is to generate without writing: the tree stays, what goes wrong is what goes wrong
before writing, and what is found is what writing starts from. -/
theorem check_agrees_with_generate (t : Tree) (layout : Layout) :
    let checked := generate t { layout with checkOnly := true }
    let generated := generate t layout
    checked.1 = t ∧
    (∀ fault, checked.2.result = .error fault → fault.isWriting = false) ∧
    (∀ fault, checked.2.result = .error fault ↔ PreparationFault t layout fault) ∧
    (∀ fault, checked.2.result = .error fault ↔
      generated.2.result = .error fault ∧ fault.isWriting = false) ∧
    (∀ fault, checked.2.result = .error fault → generated.1 = t) ∧
    ∀ summary, checked.2.result = .ok summary →
      summary.written = false ∧
      (generated.2.result = .ok { summary with written := !layout.checkOnly } ∨
        layout.checkOnly = false ∧
          ∃ path cause, generated.2.result = .error (.unwritable path cause)) := by
  intro checked generated
  refine ⟨?_, fun fault failed => ?_, fun fault => ?_, fun fault => ?_, fun fault failed => ?_,
    fun summary passed => ?_⟩
  · exact congrArg Prod.fst (generate_of_checking t rfl)
  · exact reading_prepare t layout fault (checked_eq_error_iff.mp failed)
  · exact checked_eq_error_iff.trans prepare_eq_error_iff
  · exact checked_eq_error_iff.trans generate_eq_error_and_mild_iff.symm
  · exact congrArg Prod.fst (generate_of_failed (checked_eq_error_iff.mp failed))
  · obtain ⟨found, prepared, rfl⟩ := checked_eq_ok_iff.mp passed
    have ended := generate_of_prepared prepared
    rw [← written_of_prepare prepared]
    exact ⟨rfl, ended⟩

/-- One model with all that the tables ask for, and a registry without products. -/
def plainTree : Tree where
  entries := OrderedMap.ofList
    [(["db"], .directory),
      (["db", "A.yaml"], .file ("SystemProductName: A\nAppleModelYear: [1]\n" ++
        "SystemSerialNumber: C\nSpecifications: \x7bCPU: [X]\x7d\n" ++
        "AppleModelCode: []\nAppleBoardCode: []\n").toUTF8),
      (["r.json"], .file "\x7b\x7d".toUTF8)]
  workingDirectory := []

/-- The artifacts are to lie below a file, where none can be written. -/
def blockedLayout : Layout where
  database := some ⟨"/db"⟩
  products := some ⟨"/r.json"⟩
  infoTable := some ⟨"/r.json/a"⟩
  serialTable := some ⟨"/r.json/b"⟩
  boardMap := some ⟨"/r.json/c"⟩
  minYear := 2011

theorem isOk_generate_blocked :
    (generate plainTree { blockedLayout with checkOnly := true }).2.result.isOk = true ∧
    (generate plainTree blockedLayout).2.result.isOk = false := by
  decide +kernel

theorem blocked_checked_not_written :
    ∃ summary path cause,
      (generate plainTree { blockedLayout with checkOnly := true }).2.result = .ok summary ∧
      summary.written = false ∧
      (generate plainTree blockedLayout).2.result = .error (.unwritable path cause) := by
  obtain ⟨_, _, _, _, _, passing⟩ := check_agrees_with_generate plainTree blockedLayout
  obtain ⟨passed, stopped⟩ := isOk_generate_blocked
  obtain ⟨summary, checked⟩ := exists_ok_of_isOk passed
  obtain ⟨unwritten, generated | ⟨_, path, cause, generated⟩⟩ := passing summary checked
  · rw [generated] at stopped
    cases stopped
  · exact ⟨summary, path, cause, checked, unwritten, generated⟩

end ModelCatalog
