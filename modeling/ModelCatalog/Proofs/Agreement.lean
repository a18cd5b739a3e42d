import Mathlib.Data.List.Nodup
import ModelCatalog.Proofs.BoardMapText
import ModelCatalog.Proofs.Comparison
import ModelCatalog.Proofs.DescriptionOrder
import ModelCatalog.Proofs.InfoTableText
import ModelCatalog.Proofs.Preparation
import ModelCatalog.Proofs.SortedModels
import ModelCatalog.Proofs.Sources

/-! The artifacts of one generation agree. Each is made from the database on its own, but a
generation that succeeds has compared the database with the registry and has asked every model for
what the tables need, so that one artifact can rely on another. All this is said of the texts that
are written; where no text in them has to be escaped, it is also read from them again. -/
namespace ModelCatalog

open SerialTable (Table Unescaped definition? descriptionsIn label textsOf)

namespace SerialTable

/-- Of the parts between marks every other one is marked. -/
def marked : List (List Char) → List String
  | _ :: text :: rest => String.ofList text :: marked rest
  | _ => []

/-- What stands between quotation marks in a row in which nothing is escaped. -/
def quotedIn (row : String) : List String := marked (row.toList.splitOn '"')

end SerialTable

open SerialTable (quotedIn)

/-- Whether the text is one JSON object with a member of that name. -/
def HasMember (text name : String) : Prop :=
  ∃ members, Json.read? text.toUTF8 = some (.object members) ∧ some name ∈ members.map Prod.fst

/-- No text of a model or a valid product has to be escaped. -/
structure Legible (db : Database) (registry : Registry) : Prop where
  models : ∀ m ∈ db.models, ∀ s ∈ textsOf m, Unescaped s
  products : ∀ entry ∈ registry.entries, entry.2.isValid = true →
    Unescaped entry.1 ∧ Unescaped (Text.removeAccents entry.2.name)

/-- What is read from the rows of a text. -/
structure RowsAgree (db : Database) (registry : Registry) (header : String) : Prop where
  codes : ∀ m ∈ db.models, ∀ code ∈ m.codes .model, Genuine code →
    (((Table.codes .model).rowsIn header).flatMap quotedIn).count code = 1 ∧
    ∃ product, registry.get? code = some product ∧ product.isValid = true ∧
      (descriptionsIn header).filter (fun row => decide ((quotedIn row).head? = some code)) =
        [" \x7b\"" ++ code ++ "\", \"" ++ Text.removeAccents product.name ++ "\"\x7d,"]
  width : ∃ width, 1 ≤ width ∧
    definition? "APPLE_MODEL_YEAR_MAX" header = some (toString width)
  years : (Table.years.rowsIn header).length = db.size ∧
    ∀ row ∈ Table.years.rowsIn header, ∃ (front : String) (first : Nat) (others : List Nat),
      row = front ++ "\x7b" ++ ", ".intercalate ((first :: others).map toString) ++ "\x7d,"

/-- What the artifacts rely on. The header is the text of the tables of serial numbers, the map that
of the boards, and the initializers are those in the table of firmware information. -/
structure Agreement (db : Database) (registry : Registry) (minYear : UInt32)
    (initializers : List InfoTable.Initializer) (header map : String) : Prop where
  codes : ∀ m ∈ db.models, ∀ code ∈ m.codes .model, Genuine code →
    code ≠ "" ∧ (db.models.flatMap fun m => m.codes .model).count code = 1
  codeRows : ∃ before after, header = before ++
    "static const char *AppleModelCode[][APPLE_MODEL_CODE_MAX] = \x7b\n" ++
    String.join (db.models.map fun m =>
      label m ++ "\x7b\"" ++ "\", \"".intercalate (m.codes .model) ++ "\"\x7d,\n") ++
    "\x7d;\n\n" ++ after
  descriptions : ∃ rows : List (String × Product),
    (∃ before, header = before ++ "static APPLE_MODEL_DESC AppleModelDesc[] = \x7b\n" ++
      String.join (rows.map fun row =>
        " \x7b\"" ++ row.1 ++ "\", \"" ++ Text.removeAccents row.2.name ++ "\"\x7d,\n") ++
      "\x7d;\n\n#endif // GENSERIAL_MODELINFO_AUTOGEN_H\n") ∧
    ∀ m ∈ db.models, ∀ code ∈ m.codes .model, Genuine code →
      ∃ product, registry.get? code = some product ∧ product.isValid = true ∧
        rows.filter (fun row => decide (row.1 = code)) = [(code, product)]
  lists : ∀ m ∈ db.models, m.modelCodes.isSome = true ∧ m.boardCodes.isSome = true ∧ m.years ≠ []
  years : ∃ width before after, 1 ≤ width ∧ header = before ++
    "#define APPLE_MODEL_YEAR_MAX " ++ toString width ++ "\n" ++
    "static uint32_t AppleModelYear[][APPLE_MODEL_YEAR_MAX] = \x7b\n" ++
    String.join (db.models.map fun m => label m ++ "\x7b" ++
      ", ".intercalate (m.years.map fun year => toString year.toNat) ++ "\x7d,\n") ++
    "\x7d;\n\n" ++ after
  boards : ∀ m ∈ InfoTable.kept minYear db.models, ∃ i ∈ initializers,
    InfoTable.Initializer.ofModel? m = some i ∧
    (∃ rest, i.text = " \x7b\n" ++ "  .SystemProductName = \"" ++ m.name ++ "\",\n" ++
      "  .BoardProduct = \"" ++ i.board ++ "\",\n" ++ rest) ∧
    ∀ serial, m.serialNumber = some serial → serial.length = 12 → HasMember map i.board
  legible : Legible db registry → RowsAgree db registry header

section Texts

open SerialTable (Complete braced codeRows described_perm descriptionLine maximum tableOf
  text width widthLine yearRow yearRows yearTable)

variable {db : Database} {registry : Registry} {m : Model}

theorem Legible.flat (legible : Legible db registry) :
    ∀ m ∈ db.models, ∀ s ∈ textsOf m, '\n' ∉ s.toList :=
  fun m member s among => (legible.models m member s among).2.2.1

theorem quotedIn_append {front word : String} (outside : '"' ∉ front.toList)
    (inside : '"' ∉ word.toList) (rest : String) :
    quotedIn (front ++ "\"" ++ word ++ "\"" ++ rest) = word :: quotedIn rest := by
  have parts : (front ++ "\"" ++ word ++ "\"" ++ rest).toList =
      front.toList ++ '"' :: (word.toList ++ '"' :: rest.toList) := by
    simp [String.append_assoc]
  rw [quotedIn, parts, SerialTable.splitOn_append_cons outside,
    SerialTable.splitOn_append_cons inside, SerialTable.marked, String.ofList_toList]
  rfl

theorem quotedIn_words {front code : String} {codes : List String} (outside : '"' ∉ front.toList)
    (inside : ∀ word ∈ code :: codes, '"' ∉ word.toList) :
    quotedIn (front ++ "\"" ++ "\", \"".intercalate (code :: codes) ++ "\"\x7d,") =
      code :: codes := by
  induction codes generalizing code front with
  | nil =>
    have ending : "\"\x7d," = "\"" ++ "\x7d," := by decide
    have none : quotedIn "\x7d," = [] := by cbv
    rw [String.intercalate_singleton, ending, ← String.append_assoc,
      quotedIn_append outside (inside code (.head _)), none]
  | cons next rest ih =>
    obtain ⟨first, others⟩ := List.forall_mem_cons.mp inside
    have row : front ++ "\"" ++ "\", \"".intercalate (code :: next :: rest) ++ "\"\x7d," =
        front ++ "\"" ++ code ++ "\"" ++
          (", " ++ "\"" ++ "\", \"".intercalate (next :: rest) ++ "\"\x7d,") := by
      rw [String.intercalate_cons_cons, ← String.toList_inj]
      simp
    rw [row, quotedIn_append outside first, ih (by decide) others]

/-- The codes in the row of a model are read again; there is an empty one in place of none. -/
theorem quotedIn_row (complete : Complete m) (legible : ∀ s ∈ textsOf m, Unescaped s) :
    quotedIn ((Table.codes .model).row m) =
      if m.codes .model = [] then [""] else m.codes .model := by
  obtain ⟨codes, known⟩ := Option.isSome_iff_exists.mp complete.modelCodes
  have listed : m.codes .model = codes := by simp [Model.codes, Model.codes?, known]
  have named : '"' ∉ m.name.toList := (legible m.name (by simp [textsOf])).1
  have labelled : '"' ∉ (label m ++ "\x7b").toList := by simp [label, named]
  have inside : ∀ code ∈ codes, '"' ∉ code.toList := fun code among =>
    (legible code (by simp [textsOf, listed, among])).1
  have row : (Table.codes .model).row m =
      label m ++ "\x7b" ++ "\"" ++ "\", \"".intercalate codes ++ "\"\x7d," := by
    rw [← String.toList_inj]
    simp [Table.row, Table.row?, Model.codes?, known, braced]
  rw [row, listed]
  cases codes with
  | nil =>
    have none : quotedIn "\x7d," = [] := by cbv
    have ending : "\"\x7d," = "\"" ++ "\x7d," := by decide
    rw [if_pos rfl, ending, ← String.append_assoc]
    exact (quotedIn_append labelled (by simp) _).trans (congrArg _ none)
  | cons code rest =>
    rw [if_neg (by simp)]
    exact quotedIn_words labelled inside

theorem count_codeRows (complete : ∀ m ∈ db.models, Complete m) (legible : Legible db registry)
    {code : String} (filled : code ≠ "") :
    (((Table.codes .model).rowsIn (text db registry)).flatMap quotedIn).count code =
      (db.models.flatMap fun m => m.codes .model).count code := by
  rw [SerialTable.rowsIn_text complete legible.flat, List.flatMap_map, List.count_flatMap,
    List.count_flatMap]
  refine congrArg List.sum (List.map_congr_left fun m member => ?_)
  simp only [Function.comp_apply]
  rw [quotedIn_row (complete m member) (legible.models m member)]
  by_cases empty : m.codes .model = []
  · simp [empty, Ne.symm filled]
  · rw [if_neg empty]

theorem descriptionLine_eq (entry : String × Product) : descriptionLine entry =
    " \x7b\"" ++ entry.1 ++ "\", \"" ++ Text.removeAccents entry.2.name ++ "\"\x7d," := by
  rw [← String.toList_inj]
  simp [descriptionLine, quoted]

theorem quotedIn_descriptionLine {entry : String × Product} (plain : Unescaped entry.1) :
    (quotedIn (descriptionLine entry)).head? = some entry.1 := by
  have row : descriptionLine entry = " \x7b" ++ "\"" ++ entry.1 ++ "\"" ++
      (", " ++ quoted (Text.removeAccents entry.2.name) ++ "\x7d,") := by
    rw [← String.toList_inj]
    simp [descriptionLine, quoted]
  rw [row, quotedIn_append (by decide) plain.1, List.head?_cons]

theorem filter_descriptionsIn (complete : ∀ m ∈ db.models, Complete m)
    (legible : Legible db registry) {code : String} {product : Product}
    (present : registry.get? code = some product) (valid : product.isValid = true) :
    (descriptionsIn (text db registry)).filter
        (fun row => decide ((quotedIn row).head? = some code)) =
      [" \x7b\"" ++ code ++ "\", \"" ++ Text.removeAccents product.name ++ "\"\x7d,"] := by
  have plain : ∀ entry ∈ SerialTable.described registry,
      Unescaped entry.1 ∧ Unescaped (Text.removeAccents entry.2.name) := by
    intro entry among
    have inside := (described_perm registry).mem_iff.mp among
    exact legible.products entry (List.mem_filter.mp inside).1 (List.mem_filter.mp inside).2
  have rows := SerialTable.descriptionsIn_text complete legible.flat
    fun entry among => ⟨(plain entry among).1.2.2.1, (plain entry among).2.2.2.1⟩
  have same : (SerialTable.described registry).filter
      ((fun row => decide ((quotedIn row).head? = some code)) ∘ descriptionLine) =
      (SerialTable.described registry).filter fun row => decide (row.1 = code) := by
    refine List.filter_congr fun entry among => ?_
    simp [quotedIn_descriptionLine (plain entry among).1]
  rw [rows, List.filter_map, same, SerialTable.filter_described present valid, List.map_singleton,
    descriptionLine_eq]

theorem rowsIn_years (complete : ∀ m ∈ db.models, Complete m) (legible : Legible db registry) :
    Table.years.rowsIn (text db registry) = db.models.map fun m =>
      label m ++ "\x7b" ++ ", ".intercalate (m.years.map fun year => toString year.toNat) ++
        "\x7d," := by
  rw [SerialTable.rowsIn_text complete legible.flat]
  refine List.map_congr_left fun m member => ?_
  obtain ⟨years, known⟩ := Option.isSome_iff_exists.mp (complete m member).years
  simp [Table.row, Table.row?, Model.years, known, decimalRow, Function.comp_def]

theorem text_eq_codes (db : Database) (registry : Registry) : ∃ before after,
    text db registry = before ++
      "static const char *AppleModelCode[][APPLE_MODEL_CODE_MAX] = \x7b\n" ++
      String.join (db.models.map fun m =>
        label m ++ "\x7b\"" ++ "\", \"".intercalate (m.codes .model) ++ "\"\x7d,\n") ++
      "\x7d;\n\n" ++ after := by
  obtain ⟨before, after, split⟩ := SerialTable.text_eq_table db registry .model
  have opening : "static const char *AppleModelCode[][APPLE_MODEL_CODE_MAX] = \x7b\n" =
      "static const char *" ++ CodeKind.model.key ++ "[][" ++ maximum .model ++ "] = \x7b\n" := by
    decide
  have rows : (db.models.map fun m => label m ++ braced (m.codes .model) ++ ",\n") =
      db.models.map fun m =>
        label m ++ "\x7b\"" ++ "\", \"".intercalate (m.codes .model) ++ "\"\x7d,\n" := by
    exact List.map_congr_left fun m _ => (SerialTable.codeRow_eq_braced m (m.codes .model)).symm
  unfold tableOf at split
  rw [rows] at split
  refine ⟨before ++ ("#define " ++ maximum .model ++ " " ++
    toString (width (codeRows db .model)) ++ "\n"), after, ?_⟩
  rw [split, opening]
  simp only [String.append_assoc]

theorem text_eq_years (db : Database) (registry : Registry) : ∃ before after,
    text db registry = before ++
      "#define APPLE_MODEL_YEAR_MAX " ++ toString (width (yearRows db)) ++ "\n" ++
      "static uint32_t AppleModelYear[][APPLE_MODEL_YEAR_MAX] = \x7b\n" ++
      String.join (db.models.map fun m => label m ++ "\x7b" ++
        ", ".intercalate (m.years.map fun year => toString year.toNat) ++ "\x7d,\n") ++
      "\x7d;\n\n" ++ after := by
  obtain ⟨before, after, split⟩ : ∃ before after,
      text db registry = before ++ yearTable db (yearRows db) ++ after := by
    unfold text
    apply Exists.intro
    iterate 7 refine SerialTable.append_of_append ?_
    exact ⟨"", String.append_empty.symm⟩
  have name : "#define APPLE_MODEL_YEAR_MAX " =
      "#define " ++ "APPLE_MODEL_YEAR_MAX" ++ " " := by decide
  have rows : List.zipWith yearRow db.models (yearRows db) = db.models.map fun m => label m ++
      "\x7b" ++ ", ".intercalate (m.years.map fun year => toString year.toNat) ++ "\x7d,\n" := by
    simp only [yearRows, List.zipWith_map_right, List.zipWith_self, yearRow, decimalRow,
      List.map_map, Function.comp_def]
  refine ⟨before, after, ?_⟩
  rw [split, yearTable, widthLine, rows, name]
  simp only [String.append_assoc]

end Texts

section Agreement

variable {t : Tree} {layout : Layout} {summary : Summary} {db : Database} {registry : Registry}
  {m : Model} {code : String}

theorem models_ne_nil_of_loadDatabase {directory : Path}
    (loaded : (t.loadDatabase directory).result = .ok db) : db.models ≠ [] := by
  obtain ⟨_, models, _, _, _, some, made⟩ := Tree.loadDatabase_eq_ok loaded
  intro empty
  have same := Database.ofModels_eq_ok_iff.mp made
  rw [empty] at same
  exact some same.nil_eq.symm

/-- A code that the comparison has passed is listed once, and the registry describes it. -/
theorem code_of_cover {family : Family} {coverage : Coverage}
    (compared : (cover db registry family).result = .ok coverage) (member : m ∈ db.models)
    (listed : code ∈ m.codes .model) (genuine : Genuine code) :
    code ≠ "" ∧ (db.models.flatMap fun m => m.codes .model).count code = 1 ∧
      ∃ product, registry.get? code = some product ∧ product.isValid = true := by
  obtain ⟨unopposed, accepted, _⟩ := cover_eq_ok_iff.mp compared
  obtain ⟨filled, distinct⟩ := unopposed_codeUses_iff.mp unopposed
  have among : code ∈ db.listedCodes .model := by
    rw [listedCodes_eq]
    exact List.mem_flatMap.mpr ⟨m, member, listed⟩
  have named : code ≠ "" := fun empty => filled (empty ▸ among)
  have proper : isProper code = true :=
    isProper_iff.mpr ⟨by simpa using named, genuine_iff.mp genuine⟩
  have used : code ∈ (db.listedCodes .model).filter isProper := List.mem_filter.mpr ⟨among, proper⟩
  refine ⟨named, ?_, accepted code ?_⟩
  · rw [← listedCodes_eq, ← List.count_filter proper]
    exact List.count_eq_one_of_mem distinct used
  · rw [distinctCodes_of_unopposed unopposed]
    exact used

theorem one_le_width (filled : db.models ≠ []) (dated : ∀ m ∈ db.models, m.years ≠ []) :
    1 ≤ SerialTable.width (SerialTable.yearRows db) := by
  obtain ⟨m, others, first⟩ := List.exists_cons_of_ne_nil filled
  have member : m ∈ db.models := first ▸ List.mem_cons_self ..
  calc 1 ≤ m.years.length := List.length_pos_iff.mpr (dated m member)
    _ ≤ SerialTable.width (SerialTable.yearRows db) :=
      SerialTable.length_le_width (List.mem_map_of_mem member)

theorem years_ne_nil (latest : m.latestYear?.isSome = true) : m.years ≠ [] := by
  intro empty
  simp [Model.latestYear?, empty] at latest

theorem names_of_ofModel? {i : InfoTable.Initializer}
    (known : InfoTable.Initializer.ofModel? m = some i) : i.name = m.name ∧ i.board ∈ m.boards := by
  unfold InfoTable.Initializer.ofModel? at known
  obtain ⟨board, first, known⟩ := Option.bind_eq_some_iff.mp known
  iterate 13 obtain ⟨_, _, known⟩ := Option.bind_eq_some_iff.mp known
  cases known
  exact ⟨rfl, List.mem_of_head? first⟩

theorem text_begins (i : InfoTable.Initializer) : ∃ rest, i.text = " \x7b\n" ++
    "  .SystemProductName = \"" ++ i.name ++ "\",\n" ++
    "  .BoardProduct = \"" ++ i.board ++ "\",\n" ++ rest := by
  obtain ⟨others, lines⟩ : ∃ others,
      List.zipWith InfoTable.line InfoTable.Initializer.fieldNames i.written =
        InfoTable.line "SystemProductName" (quoted i.name) ::
          InfoTable.line "BoardProduct" (quoted i.board) :: others := ⟨_, rfl⟩
  refine ⟨String.join others ++ " \x7d,\n", ?_⟩
  rw [InfoTable.Initializer.text, lines, ← String.toList_inj]
  simp [String.join_cons, InfoTable.line, quoted]

theorem hasMember_board {serial board : String} (member : m ∈ db.models)
    (known : m.serialNumber = some serial) (length : serial.length = 12)
    (listed : board ∈ m.boards) : HasMember (BoardMap.render db) board := by
  have recoverable : BoardMap.isRecoverable m = true := by
    simp [BoardMap.isRecoverable, BoardMap.serialLength, known, length]
  have pair : (board, m.newestOs) ∈ BoardMap.pairs db := by
    refine List.mem_flatMap.mpr ⟨m, List.mem_filter.mpr ⟨member, recoverable⟩, ?_⟩
    exact List.mem_map_of_mem listed
  have key : board ∈ (BoardMap.ofDatabase db).keys :=
    OrderedMap.mem_keys_ofList.mpr (List.mem_map_of_mem pair)
  obtain ⟨entry, inside, rfl⟩ := List.mem_map.mp key
  refine ⟨_, BoardMap.read?_render db, ?_⟩
  rw [List.map_map]
  exact List.mem_map_of_mem inside

theorem rowsAgree_of_legible (complete : ∀ m ∈ db.models, SerialTable.Complete m)
    (coded : ∀ m ∈ db.models, ∀ code ∈ m.codes .model, Genuine code → code ≠ "" ∧
      (db.models.flatMap fun m => m.codes .model).count code = 1 ∧
      ∃ product, registry.get? code = some product ∧ product.isValid = true)
    (dated : ∀ m ∈ db.models, m.years ≠ []) (filled : db.models ≠ [])
    (legible : Legible db registry) : RowsAgree db registry (SerialTable.text db registry) := by
  refine ⟨?_, ?_, ?_, ?_⟩
  · intro m member code listed genuine
    obtain ⟨named, once, product, present, valid⟩ := coded m member code listed genuine
    refine ⟨(count_codeRows complete legible named).trans once, product, present, valid, ?_⟩
    exact filter_descriptionsIn complete legible present valid
  · exact ⟨_, one_le_width filled dated, SerialTable.definition?_years complete legible.flat⟩
  · rw [rowsIn_years complete legible, List.length_map]
    rfl
  · rw [rowsIn_years complete legible, List.forall_mem_map]
    intro m member
    obtain ⟨first, others, years⟩ := List.exists_cons_of_ne_nil (dated m member)
    refine ⟨label m, first.toNat, others.map (·.toNat), ?_⟩
    simp [years, Function.comp_def]

end Agreement

/-- The artifacts of a generation that succeeds are written from one database, and they agree: the
codes in one are described in another, no row that one prints is empty, and the boards in one are
members of another. -/
theorem artifacts_agree {t : Tree} {layout : Layout} {summary : Summary}
    (done : (generate t layout).2.result = .ok summary) :
    ∃ db registry initializers header map,
      (t.loadDatabase layout.databasePath).result = .ok db ∧
      (t.loadRegistry layout.productsPath).result = .ok registry ∧
      InfoTable.initializers layout.minYear db.models = initializers.map some ∧
      summary.artifacts =
        [⟨layout.infoTablePath, InfoTable.heading ++
          String.join (initializers.map InfoTable.Initializer.text) ++ InfoTable.ending⟩,
        ⟨layout.serialTablePath, header⟩, ⟨layout.boardMapPath, map⟩] ∧
      Agreement db registry layout.minYear initializers header map := by
  obtain ⟨prepared, _⟩ := generate_eq_ok_iff.mp done
  obtain ⟨db, registry, loaded, known, compared, made, _⟩ := prepare_eq_ok_iff.mp prepared
  obtain ⟨table, header, infoMade, serialMade, artifacts⟩ := render_eq_ok_iff.mp made
  obtain ⟨complete, rfl⟩ := SerialTable.render_eq_ok_iff.mp serialMade
  obtain ⟨initializers, listed, rfl⟩ := InfoTable.render_eq_ok infoMade
  obtain ⟨texts, inside, _⟩ := InfoTable.entries_of_render infoMade
  -- the table of serial numbers would print an empty row; the other table has asked for the years
  have dated : ∀ m ∈ db.models, m.years ≠ [] := fun m member =>
    years_ne_nil (InfoTable.latestYear?_of_entries inside m member)
  have coded : ∀ m ∈ db.models, ∀ code ∈ m.codes .model, Genuine code → code ≠ "" ∧
      (db.models.flatMap fun m => m.codes .model).count code = 1 ∧
      ∃ product, registry.get? code = some product ∧ product.isValid = true :=
    fun m member code among genuine => code_of_cover compared member among genuine
  have filled := models_ne_nil_of_loadDatabase loaded
  refine ⟨db, registry, initializers, _, _, loaded, known, listed, artifacts, ?_⟩
  refine
    { codes := fun m member code among genuine =>
        ⟨(coded m member code among genuine).1, (coded m member code among genuine).2.1⟩
      codeRows := text_eq_codes db registry
      descriptions := ⟨SerialTable.described registry, SerialTable.text_eq_rows complete registry,
        fun m member code among genuine => ?_⟩
      lists := fun m member => ⟨(complete m member).modelCodes, (complete m member).boardCodes,
        dated m member⟩
      years := ?_
      boards := fun m kept => ?_
      legible := rowsAgree_of_legible complete coded dated filled }
  · obtain ⟨_, _, product, present, valid⟩ := coded m member code among genuine
    exact ⟨product, present, valid, SerialTable.filter_described present valid⟩
  · obtain ⟨before, after, split⟩ := text_eq_years db registry
    exact ⟨_, before, after, one_le_width filled dated, split⟩
  · have member : m ∈ db.models := (List.mem_filter.mp kept).1
    have value : InfoTable.Initializer.ofModel? m ∈ initializers.map some :=
      listed ▸ List.mem_map_of_mem kept
    obtain ⟨i, written, same⟩ := List.mem_map.mp value
    obtain ⟨name, board⟩ := names_of_ofModel? same.symm
    refine ⟨i, written, same.symm, name ▸ text_begins i, fun serial known length => ?_⟩
    exact hasMember_board member known length board

/-- A model of 2013 with a code, a placeholder and a board. -/
def codedModel : Model where
  productName := some "MacBookPro11,1"
  boardProduct := some (.one "Mac-189A3D4F975D5FFC")
  biosVersion := some "MBP111.88Z"
  biosReleaseDate := some "06/10/2018"
  systemVersion := some "1.0"
  skuNumber := some "System SKU#"
  family := some "MacBook Pro"
  boardVersion := some "MacBookPro11,1"
  boardAssetTag := some "Base Board Asset Tag#"
  boardLocation := some "Part Component"
  chassisAssetTag := some "MacBook-Aluminum"
  smcGeneration := some 2
  boardType := some 10
  chassisType := some 10
  memoryFormFactor := some 13
  modelCodes := some ["FGYY", "000"]
  boardCodes := some []
  modelYears := some [2013]
  serialNumber := some "C02LSHACFGYY"
  specifications := some ⟨some ["Intel Core i5"], none⟩

def codedDatabase : Database := ⟨[codedModel], List.pairwise_singleton ..⟩

def codedRegistry : Registry := OrderedMap.ofList [("FGYY", ⟨"MacBook Pro", .ok⟩)]

def codedText : String :=
  "SystemProductName: MacBookPro11,1\nBoardProduct: Mac-189A3D4F975D5FFC\n" ++
  "BIOSVersion: MBP111.88Z\nBIOSReleaseDate: 06/10/2018\nSystemVersion: \"1.0\"\n" ++
  "SystemSKUNumber: \"System SKU#\"\nSystemFamily: MacBook Pro\n" ++
  "BoardVersion: MacBookPro11,1\nBoardAssetTag: \"Base Board Asset Tag#\"\n" ++
  "BoardLocationInChassis: Part Component\nChassisAssetTag: MacBook-Aluminum\n" ++
  "SmcGeneration: 2\nBoardType: 10\nChassisType: 10\nMemoryFormFactor: 13\n" ++
  "AppleModelCode: [FGYY, \"000\"]\nAppleBoardCode: []\nAppleModelYear: [2013]\n" ++
  "SystemSerialNumber: C02LSHACFGYY\nSpecifications: \x7bCPU: [Intel Core i5]\x7d\n"

def codedTree : Tree where
  entries := OrderedMap.ofList
    [(["db"], .directory), (["db", "A.yaml"], .file codedText.toUTF8),
      (["r.json"], .file codedRegistry.toJson.toUTF8)]
  workingDirectory := []

def codedLayout : Layout where
  database := some ⟨"/db"⟩
  products := some ⟨"/r.json"⟩
  minYear := 2011
  checkOnly := true

theorem read?_codedText : Model.read? codedText = some codedModel := by
  unfold Model.read? Markup.Document.read? codedText
  -- the letters are taken from the literals here, and not by decoding their bytes
  simp only [String.toList_append]
  repeat rw [String.toList_ofList]
  decide +kernel

theorem loadDatabase_coded :
    (codedTree.loadDatabase codedLayout.databasePath).result = .ok codedDatabase := by
  have origin : codedTree.locate codedLayout.databasePath = .ok ["db"] := by decide +kernel
  have visits : codedTree.visits ["db"] = [["A.yaml"]] := by decide +kernel
  have found : codedTree.locate (codedLayout.databasePath.descend ["A.yaml"]) =
      .ok ["db", "A.yaml"] := by decide +kernel
  have content : codedTree.get? ["db", "A.yaml"] = some (.file codedText.toUTF8) := rfl
  have model := Tree.result_loadModel_of_named (Tree.readText_of_get? found content)
    read?_codedText (by decide)
  have made : Database.ofModels [codedModel] = .ok codedDatabase :=
    Database.ofModels_eq_ok_iff.mpr (.refl _)
  rw [Tree.result_loadDatabase origin rfl, visits, Tree.result_loadModels, List.mapM_cons,
    Tree.visit_of_file rfl, model]
  exact made

theorem loadRegistry_coded :
    (codedTree.loadRegistry codedLayout.productsPath).result = .ok codedRegistry := by
  have found : codedTree.read codedLayout.productsPath = .ok codedRegistry.toJson.toUTF8 :=
    Tree.read_eq_ok.mpr ⟨["r.json"], by decide +kernel, rfl⟩
  have format : RegistryFormat.ofExtension codedLayout.productsPath.extension = .json := by
    decide +kernel
  rw [Tree.loadRegistry, found, format]
  simp only [Registry.decode, Registry.readJson?_toJson, Registry.decode.orMalformed]
  rfl

theorem exists_generate_coded :
    ∃ summary, (generate codedTree codedLayout).2.result = .ok summary := by
  have compared : (cover codedDatabase codedRegistry .standard).result.isOk = true := by
    decide +kernel
  have tabled : (InfoTable.render codedDatabase codedLayout.minYear).isOk = true := by
    decide +kernel
  have complete : ∀ m ∈ codedDatabase.models, SerialTable.Complete m :=
    List.forall_mem_singleton.mpr ⟨rfl, rfl, rfl, rfl, rfl⟩
  obtain ⟨coverage, compared⟩ := exists_ok_of_isOk compared
  obtain ⟨table, tabled⟩ := exists_ok_of_isOk tabled
  have header : SerialTable.render codedDatabase codedRegistry = .ok _ :=
    SerialTable.render_eq_ok_iff.mpr ⟨complete, rfl⟩
  have made := render_eq_ok_iff.mpr ⟨table, _, tabled, header, rfl⟩
  have prepared : (prepare codedTree codedLayout).result = .ok ⟨1, coverage, _, false⟩ :=
    prepare_eq_ok_iff.mpr ⟨codedDatabase, codedRegistry, loadDatabase_coded, loadRegistry_coded,
      compared, made, rfl, rfl⟩
  exact ⟨_, generate_eq_ok_iff.mpr ⟨prepared, .inl rfl⟩⟩

theorem coded_artifacts_agree : ∃ summary table header map,
    (generate codedTree codedLayout).2.result = .ok summary ∧
    summary.artifacts = [⟨codedLayout.infoTablePath, table⟩,
      ⟨codedLayout.serialTablePath, header⟩, ⟨codedLayout.boardMapPath, map⟩] ∧
    (((Table.codes .model).rowsIn header).flatMap quotedIn).count "FGYY" = 1 ∧
    (descriptionsIn header).filter (fun row => decide ((quotedIn row).head? = some "FGYY")) =
      [" \x7b\"FGYY\", \"MacBook Pro\"\x7d,"] ∧
    (∃ width, 1 ≤ width ∧ definition? "APPLE_MODEL_YEAR_MAX" header = some (toString width)) ∧
    HasMember map "Mac-189A3D4F975D5FFC" := by
  obtain ⟨summary, done⟩ := exists_generate_coded
  obtain ⟨db, registry, initializers, header, map, loaded, known, _, artifacts, agreement⟩ :=
    artifacts_agree done
  obtain rfl : codedDatabase = db := Except.ok.inj (loadDatabase_coded.symm.trans loaded)
  obtain rfl : codedRegistry = registry := Except.ok.inj (loadRegistry_coded.symm.trans known)
  have stripped : Text.removeAccents "MacBook Pro" = "MacBook Pro" := by decide +kernel
  have legible : Legible codedDatabase codedRegistry := by
    constructor
    · unfold Unescaped
      decide
    · intro entry among _
      obtain rfl : entry = ("FGYY", ⟨"MacBook Pro", .ok⟩) := List.mem_singleton.mp among
      rw [stripped]
      unfold Unescaped
      decide
  obtain ⟨codes, width, _⟩ := agreement.legible legible
  obtain ⟨once, product, present, _, described⟩ :=
    codes codedModel (.head _) "FGYY" (.head _) (by decide)
  obtain rfl : ⟨"MacBook Pro", .ok⟩ = product := Option.some.inj present
  obtain ⟨i, _, same, _, member⟩ := agreement.boards codedModel (by decide)
  have board : (InfoTable.Initializer.ofModel? codedModel).map (·.board) =
      some "Mac-189A3D4F975D5FFC" := rfl
  rw [same, Option.map_some, Option.some.injEq] at board
  refine ⟨summary, _, header, map, done, artifacts, once, ?_, width, ?_⟩
  · rw [described, stripped]
    rfl
  · exact board ▸ member _ rfl (by decide)

end ModelCatalog
