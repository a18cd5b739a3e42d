import Mathlib.Data.List.Nodup
import ModelCatalog.Proofs.Enumerators
import ModelCatalog.Proofs.TableWidths

/-! The rows of the tables of serial numbers, read from the text line by line. The line that opens a
table is found again because no other line is like it: rows begin with a blank, and all other lines
are the same for any database, but for the numbers in some. So each table has one row for each model,
and a model has its row at the same place in all of them. -/
namespace ModelCatalog.SerialTable

def linesOf (text : String) : List String := (text.toList.splitOn '\n').map String.ofList

/-- The lines behind the first that opens a table, up to the next that closes it. -/
def between (opening closing : String) (lines : List String) : List String :=
  ((lines.dropWhile (· ≠ opening)).drop 1).takeWhile (· ≠ closing)

/-- What a name stands for, according to the first line that defines it. -/
def definition? (name text : String) : Option String :=
  (linesOf text).findSome? fun line =>
    (line.toList.dropPrefix? ("#define " ++ name ++ " ").toList).map String.ofList

/-- The tables that have a row for each model. -/
inductive Table
  | enumeration | platforms | codes (kind : CodeKind) | years | preferredYears
deriving DecidableEq, Repr

namespace Table

/-- The tables in the order in which they are written. -/
def all : List Table :=
  [.enumeration, .platforms, .codes .model, .codes .board, .years, .preferredYears]

def opening : Table → String
  | .enumeration => "typedef enum \x7b"
  | .platforms => "static PLATFORMDATA ApplePlatformData[] = \x7b"
  | .codes .model => "static const char *AppleModelCode[][APPLE_MODEL_CODE_MAX] = \x7b"
  | .codes .board => "static const char *AppleBoardCode[][APPLE_BOARD_CODE_MAX] = \x7b"
  | .years => "static uint32_t AppleModelYear[][APPLE_MODEL_YEAR_MAX] = \x7b"
  | .preferredYears => "static uint32_t ApplePreferredModelYear[] = \x7b"

def closing : Table → String
  | .enumeration => "\x7d AppleModel;"
  | _ => "\x7d;"

def row? (m : Model) : Table → Option String
  | .enumeration => m.primaryCpu?.map fun cpu => "  " ++ enumerator m ++ ", // " ++ cpu
  | .platforms => m.serialNumber.map fun serial =>
    "  \x7b " ++ quoted m.name ++ ", " ++ quoted serial ++ " \x7d,"
  | .codes kind => (m.codes? kind).map fun codes => label m ++ braced codes ++ ","
  | .years => m.modelYears.map fun years =>
    label m ++ "\x7b" ++ decimalRow (years.map (·.toNat)) ++ "\x7d,"
  | .preferredYears => some (label m ++ toString (m.preferredYear.getD 0).toNat ++ ",")

def rowsIn (t : Table) (text : String) : List String :=
  between t.opening t.closing (linesOf text)

end Table

def textsOf (m : Model) : List String :=
  m.name :: m.primaryCpu?.toList ++ m.serialNumber.toList ++ m.codes .model ++ m.codes .board

section Lines

variable {before rows after lines : List String} {opening closing : String}

def ofLines (lines : List String) : String := String.join (lines.map (· ++ "\n"))

@[simp] theorem ofLines_nil : ofLines [] = "" := rfl

@[simp] theorem ofLines_cons (line : String) (lines : List String) :
    ofLines (line :: lines) = line ++ "\n" ++ ofLines lines := by
  simp [ofLines]

@[simp] theorem ofLines_append (lines others : List String) :
    ofLines (lines ++ others) = ofLines lines ++ ofLines others := by
  simp [ofLines]

theorem toList_ofLines (lines : List String) :
    (ofLines lines).toList = InfoTable.unlines (lines.map String.toList) := by
  simp [ofLines, InfoTable.unlines, String.toList_join, List.flatMap_map]

theorem linesOf_ofLines (flat : ∀ line ∈ lines, '\n' ∉ line.toList) (rest : String) :
    linesOf (ofLines lines ++ rest) = lines ++ linesOf rest := by
  have plain : ∀ line ∈ lines.map String.toList, '\n' ∉ line := by simpa using flat
  simp only [linesOf, String.toList_append, toList_ofLines, splitOn_unlines plain, List.map_append,
    List.map_map]
  simp [Function.comp_def]

theorem between_append (fresh : opening ∉ before) (within : closing ∉ rows) :
    between opening closing (before ++ opening :: (rows ++ closing :: after)) = rows := by
  have first : ∀ line ∈ before, decide (line ≠ opening) = true := fun line member =>
    decide_eq_true fun same => fresh (same ▸ member)
  have others : ∀ row ∈ rows, decide (row ≠ closing) = true := fun row member =>
    decide_eq_true fun same => within (same ▸ member)
  rw [between, List.dropWhile_append_of_pos first, List.dropWhile_cons_of_neg (by simp),
    List.drop_one, List.tail_cons, List.takeWhile_append_of_pos others,
    List.takeWhile_cons_of_neg (by simp), List.append_nil]

end Lines

namespace Table

variable {db : Database} {registry : Registry} {m : Model} {t : Table}

def row (t : Table) (m : Model) : String := (t.row? m).getD ""

/-- What is defined before the table. -/
def definitions (db : Database) : Table → List String
  | .platforms => ["#define APPLE_MODEL_MAX " ++ toString db.size, ""]
  | .codes kind => ["#define " ++ maximum kind ++ " " ++ toString (width (codeRows db kind))]
  | .years => ["#define APPLE_MODEL_YEAR_MAX " ++ toString (width (yearRows db))]
  | _ => []

def lines (db : Database) (t : Table) : List String :=
  t.definitions db ++ t.opening :: (db.models.map t.row ++ [t.closing, ""])

theorem mem_all (t : Table) : t ∈ all := by
  cases t with
  | codes kind => cases kind <;> decide
  | _ => decide

theorem nodup_all : all.Nodup := by decide

theorem isSome_row? (complete : Complete m) (t : Table) : (t.row? m).isSome = true := by
  cases t with
  | enumeration => simpa [row?] using complete.cpu
  | platforms => simpa [row?] using complete.serial
  | codes kind =>
    cases kind with
    | model => simpa [row?, Model.codes?] using complete.modelCodes
    | board => simpa [row?, Model.codes?] using complete.boardCodes
  | years => simpa [row?] using complete.years
  | preferredYears => rfl

theorem row?_eq_row (complete : Complete m) (t : Table) : t.row? m = some (t.row m) := by
  obtain ⟨row, known⟩ := Option.isSome_iff_exists.mp (isSome_row? complete t)
  simp [Table.row, known]

theorem ofLines_lines (line : Model → String) {start ending : String}
    (first : ofLines (t.definitions db) ++ t.opening ++ "\n" = start)
    (last : t.closing ++ "\n\n" = ending) (each : ∀ m ∈ db.models, t.row m ++ "\n" = line m) :
    ofLines (t.lines db) = start ++ String.join (db.models.map line) ++ ending := by
  have rows : ofLines (db.models.map t.row) = String.join (db.models.map line) := by
    rw [ofLines, List.map_map]
    exact congrArg _ (List.map_congr_left each)
  rw [← rows, ← first, ← last]
  simp [lines, String.append_assoc]

end Table

section Text

variable {db : Database} {registry : Registry} {m : Model}

def headingLines : List String :=
  ["#ifndef GENSERIAL_MODELINFO_AUTOGEN_H", "#define GENSERIAL_MODELINFO_AUTOGEN_H", "",
    "// DO NOT EDIT! This is an autogenerated file.", "", "#include \"macserial.h\"", ""]

def descriptionOpening : String := "static APPLE_MODEL_DESC AppleModelDesc[] = \x7b"

def descriptionLine (entry : String × Product) : String :=
  " \x7b" ++ quoted entry.1 ++ ", " ++ quoted (Text.removeAccents entry.2.name) ++ "\x7d,"

def descriptionLines (registry : Registry) : List String :=
  descriptionOpening :: ((described registry).map descriptionLine ++
    ["\x7d;", "", "#endif // GENSERIAL_MODELINFO_AUTOGEN_H"])

theorem ofLines_headingLines : ofLines headingLines = heading := by
  have back : headingLines.map String.toList = openingLines := rfl
  rw [← String.toList_inj, toList_ofLines, toList_heading, back]

theorem ofLines_descriptionLines (registry : Registry) : ofLines (descriptionLines registry) =
    "static APPLE_MODEL_DESC AppleModelDesc[] = \x7b\n" ++
    String.join ((described registry).map fun (code, product) => descriptionRow code product) ++
    "\x7d;\n\n" ++ "#endif // GENSERIAL_MODELINFO_AUTOGEN_H\n" := by
  have rows : String.join ((described registry).map fun (code, product) =>
      descriptionRow code product) = ofLines ((described registry).map descriptionLine) := by
    simp [ofLines, descriptionRow, descriptionLine, Function.comp_def, String.append_assoc]
  have start : "static APPLE_MODEL_DESC AppleModelDesc[] = \x7b\n" = descriptionOpening ++ "\n" := by
    decide
  rw [rows, start]
  simp [descriptionLines, String.append_assoc]

theorem lines_enumeration (complete : ∀ m ∈ db.models, Complete m) :
    ofLines (Table.enumeration.lines db) = "typedef enum \x7b\n" ++
      String.join (db.models.map fun m => enumeratorLine m (m.primaryCpu?.getD "")) ++
      "\x7d AppleModel;\n\n" := by
  refine Table.ofLines_lines (fun m => enumeratorLine m (m.primaryCpu?.getD "")) ?_ rfl ?_
  · simp [Table.definitions, Table.opening]
  · intro m member
    obtain ⟨cpu, known⟩ := Option.isSome_iff_exists.mp (complete m member).cpu
    simp [enumeratorLine, Table.row, Table.row?, known, String.append_assoc]

theorem lines_platforms (complete : ∀ m ∈ db.models, Complete m) :
    ofLines (Table.platforms.lines db) = "#define APPLE_MODEL_MAX " ++ toString db.size ++ "\n\n" ++
      "static PLATFORMDATA ApplePlatformData[] = \x7b\n" ++
      String.join (db.models.map fun m => platformLine m (m.serialNumber.getD "")) ++
      "\x7d;\n\n" := by
  refine Table.ofLines_lines (fun m => platformLine m (m.serialNumber.getD "")) ?_ rfl ?_
  · simp [Table.definitions, Table.opening, String.append_assoc]
  · intro m member
    obtain ⟨serial, known⟩ := Option.isSome_iff_exists.mp (complete m member).serial
    simp [platformLine, Table.row, Table.row?, known, String.append_assoc]

theorem lines_codes (complete : ∀ m ∈ db.models, Complete m) (kind : CodeKind) :
    ofLines ((Table.codes kind).lines db) = tableOf db kind := by
  refine Table.ofLines_lines (fun m => label m ++ braced (m.codes kind) ++ ",\n") ?_ rfl ?_
  · cases kind <;>
      simp [Table.definitions, Table.opening, maximum, CodeKind.key, String.append_assoc]
  · intro m member
    have known := Table.isSome_row? (complete m member) (.codes kind)
    obtain ⟨codes, known⟩ : ∃ codes, m.codes? kind = some codes := by
      simpa [Table.row?, Option.isSome_iff_exists] using known
    simp [Model.codes, Table.row, Table.row?, known, String.append_assoc]

theorem lines_years (complete : ∀ m ∈ db.models, Complete m) :
    ofLines (Table.years.lines db) = yearTable db (yearRows db) := by
  have rows : List.zipWith yearRow db.models (yearRows db) =
      db.models.map fun m => yearRow m m.years := by
    simp only [yearRows, List.zipWith_map_right, List.zipWith_self]
  rw [yearTable, rows]
  refine Table.ofLines_lines (fun m => yearRow m m.years) ?_ rfl ?_
  · simp [Table.definitions, Table.opening, widthLine, String.append_assoc]
  · intro m member
    obtain ⟨years, known⟩ := Option.isSome_iff_exists.mp (complete m member).years
    simp [yearRow, Model.years, Table.row, Table.row?, known, String.append_assoc]

theorem lines_preferredYears (db : Database) :
    ofLines (Table.preferredYears.lines db) = "static uint32_t ApplePreferredModelYear[] = \x7b\n" ++
      String.join (db.models.map preferredYearRow) ++ "\x7d;\n\n" := by
  refine Table.ofLines_lines preferredYearRow ?_ rfl ?_
  · simp [Table.definitions, Table.opening]
  · intro m _
    simp [preferredYearRow, Table.row, Table.row?, String.append_assoc]

theorem text_eq_lines (complete : ∀ m ∈ db.models, Complete m) (registry : Registry) :
    text db registry = ofLines (headingLines ++ Table.all.flatMap (Table.lines db) ++
      descriptionLines registry) := by
  have models : codeTable db "AppleModelCode" "APPLE_MODEL_CODE_MAX" (codeRows db .model) =
      tableOf db .model := codeTable_eq db .model
  have boards : codeTable db "AppleBoardCode" "APPLE_BOARD_CODE_MAX" (codeRows db .board) =
      tableOf db .board := codeTable_eq db .board
  have tables : ofLines (Table.all.flatMap (Table.lines db)) =
      ofLines (Table.enumeration.lines db) ++ ofLines (Table.platforms.lines db) ++
      tableOf db .model ++ tableOf db .board ++ yearTable db (yearRows db) ++
      ofLines (Table.preferredYears.lines db) := by
    simp [Table.all, lines_codes complete, lines_years complete, String.append_assoc]
  unfold text
  rw [models, boards, ofLines_append, ofLines_append, tables, ofLines_headingLines,
    lines_enumeration complete, lines_platforms complete, lines_preferredYears,
    ofLines_descriptionLines]
  simp only [String.append_assoc]

end Text

section Rows

variable {db : Database} {registry : Registry} {m : Model} {t : Table} {marker : String}

theorem head?_row (t : Table) (m : Model) :
    (t.row m).toList.head? = none ∨ (t.row m).toList.head? = some ' ' := by
  cases t with
  | enumeration => cases known : m.primaryCpu? <;> simp [Table.row, Table.row?, known]
  | platforms => cases known : m.serialNumber <;> simp [Table.row, Table.row?, known]
  | codes kind => cases known : m.codes? kind <;> simp [Table.row, Table.row?, known, label]
  | years => cases known : m.modelYears <;> simp [Table.row, Table.row?, known, label]
  | preferredYears => simp [Table.row, Table.row?, label]

/-- A line that could open a table. -/
def IsOpening (line : String) : Prop :=
  ∃ c, line.toList.head? = some c ∧ c ∉ [' ', '#', '\x7d']

theorem isOpening_opening (t : Table) : IsOpening t.opening := by
  rcases t with _ | _ | (_ | _) | _ | _ <;> rw [IsOpening, Table.opening, String.toList_ofList] <;>
    simp

theorem head?_definitions (db : Database) (t : Table) :
    ∀ line ∈ t.definitions db, line.toList.head? = none ∨ line.toList.head? = some '#' := by
  cases t <;> simp [Table.definitions]

theorem head?_closing (t : Table) : t.closing.toList.head? = some '\x7d' := by
  cases t <;> simp [Table.closing]

theorem opening_inj {t u : Table} (same : t.opening = u.opening) : t = u := by
  rcases t with _ | _ | (_ | _) | _ | _ <;> rcases u with _ | _ | (_ | _) | _ | _ <;>
    simp_all [Table.opening]

theorem opening_not_mem_headingLines (t : Table) : t.opening ∉ headingLines := by
  rcases t with _ | _ | (_ | _) | _ | _ <;> simp [Table.opening, headingLines]

/-- Of the lines of a table only its first one could open a table. -/
theorem not_mem_lines (opens : IsOpening marker) (apart : marker ≠ t.opening) :
    marker ∉ t.lines db := by
  obtain ⟨c, head, other⟩ := opens
  simp only [List.mem_cons, List.not_mem_nil, or_false, not_or] at other
  intro member
  simp only [Table.lines, List.mem_append, List.mem_cons, List.mem_map, List.not_mem_nil,
    or_false] at member
  -- a definition begins with its mark, a row with a blank and the closing line with a brace
  rcases member with defines | rfl | ⟨m, _, rfl⟩ | rfl | rfl
  · have := head?_definitions db t marker defines
    simp_all
  · exact apart rfl
  · have := head?_row t m
    simp_all
  · obtain rfl : '\x7d' = c := Option.some.inj ((head?_closing t).symm.trans head)
    exact other.2.2 rfl
  · simp at head

theorem closing_not_mem_rows (t : Table) (models : List Model) : t.closing ∉ models.map t.row := by
  intro member
  obtain ⟨m, _, same⟩ := List.mem_map.mp member
  have := head?_row t m
  rw [same, head?_closing] at this
  simp at this

theorem newline_not_mem_intercalate {separator : String} {texts : List String}
    (plain : '\n' ∉ separator.toList) (flat : ∀ text ∈ texts, '\n' ∉ text.toList) :
    '\n' ∉ (separator.intercalate texts).toList := by
  induction texts with
  | nil => simp
  | cons text rest ih =>
    rw [List.forall_mem_cons] at flat
    cases rest with
    | nil => simpa using flat.1
    | cons next rest => simpa [String.intercalate_cons_cons, plain, flat.1] using ih flat.2

theorem newline_not_mem_headingLines : ∀ line ∈ headingLines, '\n' ∉ line.toList := by
  simp only [headingLines, List.forall_mem_cons]
  repeat rw [String.toList_ofList]
  decide

theorem newline_not_mem_toString (n : Nat) : '\n' ∉ (toString n).toList := by
  have plain : '\n' ∉ Nat.toDigits 10 n := not_mem_toDigits rfl n
  simpa using plain

theorem newline_not_mem_row (flat : ∀ s ∈ textsOf m, '\n' ∉ s.toList) (t : Table) :
    '\n' ∉ (t.row m).toList := by
  have named : '\n' ∉ m.name.toList := flat _ (by simp [textsOf])
  have labelled : '\n' ∉ (label m).toList := by simp [label, named]
  cases t with
  | enumeration =>
    cases known : m.primaryCpu? with
    | none => simp [Table.row, Table.row?, known]
    | some cpu =>
      have plain : '\n' ∉ cpu.toList := flat cpu (by simp [textsOf, known])
      simp [Table.row, Table.row?, known, newline_not_mem_enumerator named, plain]
  | platforms =>
    cases known : m.serialNumber with
    | none => simp [Table.row, Table.row?, known]
    | some serial =>
      have plain : '\n' ∉ serial.toList := flat serial (by simp [textsOf, known])
      simp [Table.row, Table.row?, known, quoted, named, plain]
  | codes kind =>
    cases known : m.codes? kind with
    | none => simp [Table.row, Table.row?, known]
    | some codes =>
      have plain : ∀ code ∈ codes, '\n' ∉ code.toList := by
        intro code listed
        apply flat
        cases kind <;> simp_all [textsOf, Model.codes]
      have inside : '\n' ∉ ("\", \"".intercalate codes).toList :=
        newline_not_mem_intercalate (by decide) plain
      simpa [Table.row, Table.row?, known, labelled, braced] using inside
  | years =>
    cases known : m.modelYears <;>
      simp [Table.row, Table.row?, known, labelled, newline_not_mem_decimalRow]
  | preferredYears =>
    have plain := newline_not_mem_toString (m.preferredYear.getD 0).toNat
    simp_all [Table.row, Table.row?]

theorem newline_not_mem_lines (flat : ∀ m ∈ db.models, ∀ s ∈ textsOf m, '\n' ∉ s.toList)
    (t : Table) : ∀ line ∈ t.lines db, '\n' ∉ line.toList := by
  have defined : ∀ line ∈ t.definitions db, '\n' ∉ line.toList := by
    have plain := newline_not_mem_toString
    cases t with
    | codes kind => cases kind <;> simp_all [Table.definitions, maximum]
    | _ => simp_all [Table.definitions]
  have opened : '\n' ∉ t.opening.toList := by
    rcases t with _ | _ | (_ | _) | _ | _ <;> rw [Table.opening, String.toList_ofList] <;> decide
  have closed : '\n' ∉ t.closing.toList := by cases t <;> simp [Table.closing]
  simp only [Table.lines, List.forall_mem_append, List.forall_mem_cons, List.forall_mem_map]
  refine ⟨defined, opened, fun m member => newline_not_mem_row (flat m member) t, closed, ?_⟩
  simp

theorem linesOf_text (complete : ∀ m ∈ db.models, Complete m)
    (flat : ∀ m ∈ db.models, ∀ s ∈ textsOf m, '\n' ∉ s.toList) (registry : Registry) :
    linesOf (text db registry) = headingLines ++ Table.all.flatMap (Table.lines db) ++
      linesOf (ofLines (descriptionLines registry)) := by
  have plain : ∀ line ∈ headingLines ++ Table.all.flatMap (Table.lines db), '\n' ∉ line.toList := by
    rw [List.forall_mem_append, List.forall_mem_flatMap]
    exact ⟨newline_not_mem_headingLines, fun t _ => newline_not_mem_lines flat t⟩
  rw [text_eq_lines complete, ofLines_append, linesOf_ofLines plain]

theorem rowsIn_text (complete : ∀ m ∈ db.models, Complete m)
    (flat : ∀ m ∈ db.models, ∀ s ∈ textsOf m, '\n' ∉ s.toList) (t : Table) :
    t.rowsIn (text db registry) = db.models.map t.row := by
  obtain ⟨earlier, later, split⟩ := List.append_of_mem t.mem_all
  have fresh : t.opening ∉ headingLines ++ earlier.flatMap (Table.lines db) ++ t.definitions db := by
    have distinct := Table.nodup_all
    rw [split, List.nodup_append] at distinct
    simp only [List.mem_append, List.mem_flatMap, not_or, not_exists, not_and]
    refine ⟨⟨?_, fun u before => ?_⟩, ?_⟩
    · exact opening_not_mem_headingLines t
    · -- a table that comes before is another one, and opens with another line
      apply not_mem_lines (isOpening_opening t)
      intro same
      have other := distinct.2.2 u before t (List.mem_cons_self ..)
      exact other (opening_inj same).symm
    · intro defines
      obtain ⟨c, head, other⟩ := isOpening_opening t
      have := head?_definitions db t _ defines
      simp_all
  have within : t.closing ∉ db.models.map t.row := closing_not_mem_rows t db.models
  rw [Table.rowsIn, linesOf_text complete flat, split]
  have order : headingLines ++ (earlier ++ t :: later).flatMap (Table.lines db) ++
        linesOf (ofLines (descriptionLines registry)) =
      (headingLines ++ earlier.flatMap (Table.lines db) ++ t.definitions db) ++
        t.opening :: (db.models.map t.row ++ t.closing :: ("" :: (later.flatMap (Table.lines db) ++
        linesOf (ofLines (descriptionLines registry))))) := by
    simp [Table.lines]
  rw [order, between_append fresh within]

/-- What a line says that a name stands for. -/
def meaning? (name line : String) : Option String :=
  (line.toList.dropPrefix? ("#define " ++ name ++ " ").toList).map String.ofList

theorem meaning?_eq_some_iff {name line value : String} :
    meaning? name line = some value ↔ line = "#define " ++ name ++ " " ++ value := by
  rw [meaning?, Option.map_eq_some_iff, ← String.toList_inj]
  constructor
  · rintro ⟨rest, found, rfl⟩
    obtain ⟨start, split, same⟩ := List.dropPrefix?_eq_some_iff.mp found
    rw [split, eq_of_beq same, String.toList_append (t := String.ofList rest), String.toList_ofList]
  · intro split
    refine ⟨value.toList, List.dropPrefix?_eq_some_iff.mpr ⟨_, ?_, beq_self_eq_true _⟩, ?_⟩
    · rw [split, String.toList_append (t := value)]
    · exact String.ofList_toList

theorem meaning?_eq_none {name line : String}
    (other : ∀ value, line ≠ "#define " ++ name ++ " " ++ value) : meaning? name line = none := by
  rw [Option.eq_none_iff_forall_ne_some]
  intro value found
  exact other value (meaning?_eq_some_iff.mp found)

theorem meaning?_of_head {line : String} (head : line.toList.head? ≠ some '#') (name : String) :
    meaning? name line = none := by
  refine meaning?_eq_none fun value same => head ?_
  simp [same]

theorem meaning?_of_ne {name other : String} (apart : other ≠ name) (word : ' ' ∉ other.toList)
    (word' : ' ' ∉ name.toList) (value : String) :
    meaning? name ("#define " ++ other ++ " " ++ value) = none := by
  refine meaning?_eq_none fun value' same => apart ?_
  have behind : other.toList ++ ' ' :: value.toList = name.toList ++ ' ' :: value'.toList := by
    simpa [← String.toList_inj] using same
  exact String.toList_inj.mp ((append_cons_inj word word').mp behind).1

theorem meaning?_lines {name : String} (undefined : ∀ line ∈ t.definitions db,
    meaning? name line = none) : ∀ line ∈ t.lines db, meaning? name line = none := by
  simp only [Table.lines, List.forall_mem_append, List.forall_mem_cons, List.forall_mem_map]
  refine ⟨undefined, ?_, fun m _ => ?_, ?_, ?_⟩
  · obtain ⟨c, head, other⟩ := isOpening_opening t
    refine meaning?_of_head (fun mark => other ?_) name
    obtain rfl : c = '#' := Option.some.inj (head.symm.trans mark)
    simp
  · refine meaning?_of_head (fun mark => ?_) name
    rcases head?_row t m with empty | blank
    · simp [empty] at mark
    · simp [blank] at mark
  · exact meaning?_of_head (by simp [head?_closing]) name
  · simp [meaning?_of_head]

theorem meaning?_of_count {line : String} (single : line.toList.count ' ' < 2) (name : String) :
    meaning? name line = none := by
  refine meaning?_eq_none fun value same => ?_
  have first : "#define ".toList.count ' ' = 1 := by decide
  have second : " ".toList.count ' ' = 1 := by decide
  simp only [same, String.toList_append, List.count_append, first, second] at single
  omega

theorem meaning?_headingLines (name : String) :
    ∀ line ∈ headingLines, meaning? name line = none := by
  simp only [headingLines, List.forall_mem_cons, List.not_mem_nil, false_imp_iff, implies_true,
    and_true]
  refine ⟨meaning?_of_count ?_ name, meaning?_of_count ?_ name, meaning?_of_head ?_ name,
    meaning?_of_head ?_ name, meaning?_of_head ?_ name, meaning?_of_count ?_ name,
    meaning?_of_head ?_ name⟩ <;> decide

theorem definition?_of_linesOf {name value text : String} {before after : List String}
    (order : linesOf text = before ++ ("#define " ++ name ++ " " ++ value) :: after)
    (fresh : ∀ line ∈ before, meaning? name line = none) :
    definition? name text = some value := by
  have found : meaning? name ("#define " ++ name ++ " " ++ value) = some value :=
    meaning?_eq_some_iff.mpr rfl
  show (linesOf text).findSome? (meaning? name) = some value
  rw [order, List.findSome?_append, List.findSome?_eq_none_iff.mpr fresh, Option.none_or,
    List.findSome?_cons, found]

theorem definition?_text (complete : ∀ m ∈ db.models, Complete m)
    (flat : ∀ m ∈ db.models, ∀ s ∈ textsOf m, '\n' ∉ s.toList) :
    definition? "APPLE_MODEL_MAX" (text db registry) = some (toString db.size) := by
  obtain ⟨after, order⟩ : ∃ after, linesOf (text db registry) =
      (headingLines ++ Table.enumeration.lines db) ++
        ("#define " ++ "APPLE_MODEL_MAX" ++ " " ++ toString db.size) :: after := by
    rw [linesOf_text complete flat]
    simp [Table.all, Table.lines, Table.definitions]
  refine definition?_of_linesOf order (List.forall_mem_append.mpr ⟨meaning?_headingLines _, ?_⟩)
  exact meaning?_lines (by simp [Table.definitions])

theorem meaning?_definitions (db : Database) (other : t ≠ .years) :
    ∀ line ∈ t.definitions db, meaning? "APPLE_MODEL_YEAR_MAX" line = none := by
  cases t with
  | platforms =>
    have size : "#define APPLE_MODEL_MAX " = "#define " ++ "APPLE_MODEL_MAX" ++ " " := by decide
    rw [Table.definitions, size, List.forall_mem_cons, List.forall_mem_singleton]
    exact ⟨meaning?_of_ne (by decide) (by decide) (by decide) _, by decide⟩
  | codes kind =>
    rw [Table.definitions, List.forall_mem_singleton]
    cases kind <;> exact meaning?_of_ne (by decide) (by decide) (by decide) _
  | years => exact absurd rfl other
  | _ => simp [Table.definitions]

theorem definition?_years (complete : ∀ m ∈ db.models, Complete m)
    (flat : ∀ m ∈ db.models, ∀ s ∈ textsOf m, '\n' ∉ s.toList) :
    definition? "APPLE_MODEL_YEAR_MAX" (text db registry) =
      some (toString (width (yearRows db))) := by
  let before : List Table := [.enumeration, .platforms, .codes .model, .codes .board]
  obtain ⟨after, order⟩ : ∃ after, linesOf (text db registry) =
      (headingLines ++ before.flatMap (Table.lines db)) ++
        ("#define " ++ "APPLE_MODEL_YEAR_MAX" ++ " " ++ toString (width (yearRows db))) ::
          after := by
    rw [linesOf_text complete flat]
    simp [before, Table.all, Table.lines, Table.definitions]
  refine definition?_of_linesOf order (List.forall_mem_append.mpr ⟨meaning?_headingLines _, ?_⟩)
  refine List.forall_mem_flatMap.mpr fun t among => meaning?_lines (meaning?_definitions db ?_)
  rintro rfl
  simp [before] at among

end Rows

/-- The tables of models have a row for each model, in the order of the models: the row of the model
at a place stands at this place in every table. The number of rows is the one that is printed. -/
theorem tables_aligned {db : Database} {registry : Registry} {header : String}
    (made : render db registry = .ok header)
    (flat : ∀ m ∈ db.models, ∀ s ∈ textsOf m, '\n' ∉ s.toList) :
    definition? "APPLE_MODEL_MAX" header = some (toString db.size) ∧
    ∀ t : Table, (t.rowsIn header).length = db.size ∧
      ∀ (i : Nat) (m : Model), db.models[i]? = some m →
        ∃ row, t.row? m = some row ∧ (t.rowsIn header)[i]? = some row := by
  obtain ⟨complete, rfl⟩ := render_eq_ok_iff.mp made
  refine ⟨definition?_text complete flat, fun t => ?_⟩
  rw [rowsIn_text complete flat]
  refine ⟨by simp [Database.size], fun i m place => ?_⟩
  refine ⟨t.row m, Table.row?_eq_row (complete m (List.mem_of_getElem? place)) t, ?_⟩
  simp [place]

/-- The texts of one model look like the ends of tables, and the other lists no code. -/
def misleadingDatabase : Database :=
  ⟨[{ listedModel "iMac20,1" ["\x7d;", "FGYY"] with
      serialNumber := some "\x7d;", specifications := some ⟨some ["\x7d AppleModel;"], none⟩ },
    listedModel "iMac20,2" []], by decide⟩

theorem misleading_rows_found : ∃ header,
    render misleadingDatabase OrderedMap.empty = .ok header ∧
    definition? "APPLE_MODEL_MAX" header = some "2" ∧
    (Table.enumeration.rowsIn header)[0]? = some "  iMac20_1, // \x7d AppleModel;" ∧
    (Table.platforms.rowsIn header)[0]? = some "  \x7b \"iMac20,1\", \"\x7d;\" \x7d," ∧
    ((Table.codes .model).rowsIn header)[1]? = some "  /* iMac20,2       */ \x7b\"\"\x7d," := by
  have complete : ∀ m ∈ misleadingDatabase.models, Complete m := by
    simp only [misleadingDatabase, List.forall_mem_cons, List.not_mem_nil, false_imp_iff,
      implies_true, and_true]
    exact ⟨⟨rfl, rfl, rfl, rfl, rfl⟩, complete_listedModel ..⟩
  have made : render misleadingDatabase OrderedMap.empty =
      .ok (text misleadingDatabase OrderedMap.empty) := render_eq_ok_iff.mpr ⟨complete, rfl⟩
  obtain ⟨number, tables⟩ := tables_aligned made (by decide)
  have placed (t : Table) (i : Nat) (m : Model) (place : misleadingDatabase.models[i]? = some m) :
      (t.rowsIn (text misleadingDatabase OrderedMap.empty))[i]? = t.row? m := by
    obtain ⟨row, written, found⟩ := (tables t).2 i m place
    rw [written, found]
  refine ⟨_, made, number.trans (by decide), (placed .enumeration 0 _ rfl).trans (by decide),
    (placed .platforms 0 _ rfl).trans (by decide),
    (placed (.codes .model) 1 _ rfl).trans (by decide)⟩

end ModelCatalog.SerialTable
