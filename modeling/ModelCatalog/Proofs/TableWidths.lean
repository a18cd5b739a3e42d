import ModelCatalog.Proofs.SerialTableText

/-! The widths of the tables of codes. A row of codes is written with at least one initializer,
which is empty if the model lists no code, so that the width that is defined for a table holds every
row of it unless there are models and none of them lists a code. -/
namespace ModelCatalog.SerialTable

/-- The constant that a table of codes takes its width from. -/
def maximum : CodeKind → String
  | .model => "APPLE_MODEL_CODE_MAX"
  | .board => "APPLE_BOARD_CODE_MAX"

/-- The initializers of a row as they are written. -/
def braced (codes : List String) : String := "\x7b\"" ++ "\", \"".intercalate codes ++ "\"\x7d"

/-- What lies between quotation marks, where a row has been split at them behind its first one. -/
def strings? : List (List Char) → Option (List String)
  | [text, ['\x7d']] => some [String.ofList text]
  | text :: [',', ' '] :: rest => (strings? rest).map (String.ofList text :: ·)
  | _ => none

/-- The initializers between the braces of a row: strings in which nothing is escaped, or none. -/
def initializers? (row : String) : Option (List String) :=
  match row.toList.splitOn '"' with
  | [['\x7b', '\x7d']] => some []
  | ['\x7b'] :: rest => strings? rest
  | _ => none

/-- Whether a code stands between quotation marks as it is. -/
def Unescaped (code : String) : Prop :=
  '"' ∉ code.toList ∧ '\\' ∉ code.toList ∧ '\n' ∉ code.toList ∧ '\r' ∉ code.toList

section Rows

variable {codes : List String} {db : Database} {registry : Registry}

theorem codeRow_eq_braced (m : Model) (codes : List String) :
    codeRow m codes = label m ++ braced codes ++ ",\n" := by
  have ending : "\"\x7d,\n" = "\"\x7d" ++ ",\n" := by decide
  rw [codeRow, braced, ending]
  simp only [String.append_assoc]

theorem strings?_codes {code : String} (plain : ∀ c ∈ code :: codes, '"' ∉ c.toList) :
    strings? (("\", \"".intercalate (code :: codes) ++ "\"\x7d").toList.splitOn '"') =
      some (code :: codes) := by
  induction codes generalizing code with
  | nil =>
    have parts : ("\", \"".intercalate [code] ++ "\"\x7d").toList.splitOn '"' =
        [code.toList, ['\x7d']] := by
      rw [String.intercalate_singleton, String.toList_append]
      exact splitOn_append_cons (plain code (.head _)) ['\x7d']
    rw [parts, strings?, String.ofList_toList]
  | cons next rest ih =>
    obtain ⟨first, others⟩ := List.forall_mem_cons.mp plain
    have parts : ("\", \"".intercalate (code :: next :: rest) ++ "\"\x7d").toList.splitOn '"' =
        code.toList :: [',', ' '] ::
          ("\", \"".intercalate (next :: rest) ++ "\"\x7d").toList.splitOn '"' := by
      rw [String.intercalate_cons_cons]
      simp only [String.toList_append, List.append_assoc]
      exact (splitOn_append_cons first _).trans
        (congrArg _ (@splitOn_append_cons _ _ [',', ' '] _ (by decide) _))
    rw [parts, strings?, ih others, Option.map_some, String.ofList_toList]

/-- A row has the codes as its initializers, or an empty one in place of none. -/
theorem initializers?_braced (plain : ∀ code ∈ codes, '"' ∉ code.toList) :
    initializers? (braced codes) = some (if codes = [] then [""] else codes) := by
  have opened : (braced codes).toList.splitOn '"' =
      ['\x7b'] :: ("\", \"".intercalate codes ++ "\"\x7d").toList.splitOn '"' := by
    rw [braced, String.append_assoc, String.toList_append]
    exact @splitOn_append_cons _ _ ['\x7b'] _ (by decide) _
  rw [initializers?, opened]
  cases codes with
  | nil => rfl
  | cons code rest =>
    rw [if_neg (by simp)]
    exact strings?_codes plain

theorem length_initializers {items : List String} (plain : ∀ code ∈ codes, '"' ∉ code.toList)
    (read : initializers? (braced codes) = some items) : items.length = max 1 codes.length := by
  rw [initializers?_braced plain, Option.some.injEq] at read
  subst read
  cases codes with
  | nil => rfl
  | cons code rest => simp

end Rows

section Widths

variable {α : Type} {rows : List (List α)} {n : Nat}

theorem foldl_max_le {lengths : List Nat} {start : Nat} (first : start ≤ n)
    (all : ∀ length ∈ lengths, length ≤ n) : lengths.foldl max start ≤ n := by
  induction lengths generalizing start with
  | nil => exact first
  | cons length rest ih =>
    rw [List.forall_mem_cons] at all
    exact ih (Nat.max_le.mpr ⟨first, all.1⟩) all.2

theorem width_le (all : ∀ row ∈ rows, row.length ≤ n) : width rows ≤ n :=
  foldl_max_le (Nat.zero_le n) (List.forall_mem_map.mpr all)

end Widths

section Tables

variable {db : Database} {registry : Registry}

def tableOf (db : Database) (kind : CodeKind) : String :=
  "#define " ++ maximum kind ++ " " ++ toString (width (codeRows db kind)) ++ "\n" ++
  "static const char *" ++ kind.key ++ "[][" ++ maximum kind ++ "] = \x7b\n" ++
  String.join (db.models.map fun m => label m ++ braced (m.codes kind) ++ ",\n") ++ "\x7d;\n\n"

theorem codeTable_eq (db : Database) (kind : CodeKind) :
    codeTable db kind.key (maximum kind) (codeRows db kind) = tableOf db kind := by
  have rows : List.zipWith codeRow db.models (codeRows db kind) =
      db.models.map fun m => label m ++ braced (m.codes kind) ++ ",\n" := by
    simp only [codeRows, List.zipWith_map_right, List.zipWith_self, codeRow_eq_braced]
  unfold codeTable widthLine tableOf
  rw [rows]

theorem text_eq_table (db : Database) (registry : Registry) (kind : CodeKind) :
    ∃ before after, text db registry = before ++ tableOf db kind ++ after := by
  have models : codeTable db "AppleModelCode" "APPLE_MODEL_CODE_MAX" (codeRows db .model) =
      tableOf db .model := codeTable_eq db .model
  have boards : codeTable db "AppleBoardCode" "APPLE_BOARD_CODE_MAX" (codeRows db .board) =
      tableOf db .board := codeTable_eq db .board
  unfold text
  rw [models, boards]
  -- what comes behind the table is taken away, the last first
  cases kind with
  | model =>
    apply Exists.intro
    iterate 9 refine append_of_append ?_
    exact ⟨"", String.append_empty.symm⟩
  | board =>
    apply Exists.intro
    iterate 8 refine append_of_append ?_
    exact ⟨"", String.append_empty.symm⟩

end Tables

/-- Every row of a table of codes fits the width that is defined for it exactly if there are no
models or one of them lists a code. -/
theorem rows_fit_iff {db : Database} {registry : Registry} {header : String} {kind : CodeKind}
    (made : render db registry = .ok header)
    (plain : ∀ m ∈ db.models, ∀ code ∈ m.codes kind, Unescaped code) :
    (∃ before after, header = before ++ tableOf db kind ++ after) ∧
    (∀ m ∈ db.models, ∃ items, initializers? (braced (m.codes kind)) = some items ∧
      items.length = max 1 (m.codes kind).length) ∧
    ((∀ m ∈ db.models, ∀ items, initializers? (braced (m.codes kind)) = some items →
        items.length ≤ width (codeRows db kind)) ↔
      db.models = [] ∨ ∃ m ∈ db.models, m.codes kind ≠ []) := by
  obtain ⟨_, rfl⟩ := render_eq_ok_iff.mp made
  have marks (m : Model) (member : m ∈ db.models) : ∀ code ∈ m.codes kind, '"' ∉ code.toList :=
    fun code listed => (plain m member code listed).1
  have read (m : Model) (member : m ∈ db.models) : ∃ items,
      initializers? (braced (m.codes kind)) = some items ∧
        items.length = max 1 (m.codes kind).length :=
    ⟨_, initializers?_braced (marks m member),
      length_initializers (marks m member) (initializers?_braced (marks m member))⟩
  refine ⟨text_eq_table db registry kind, read, fun fits => ?_, fun some m member items found => ?_⟩
  · by_cases some : ∃ m ∈ db.models, m.codes kind ≠ []
    · exact .inr some
    · refine .inl (List.eq_nil_iff_forall_not_mem.mpr fun m member => ?_)
      have empty : width (codeRows db kind) ≤ 0 := width_le fun row listed => by
        obtain ⟨other, inside, rfl⟩ := List.mem_map.mp listed
        have lacking : other.codes kind = [] :=
          Decidable.byContradiction fun listed => some ⟨other, inside, listed⟩
        exact Nat.le_of_eq (congrArg List.length lacking)
      obtain ⟨items, found, length⟩ := read m member
      have bound := fits m member items found
      omega
  · have wide (m : Model) (member : m ∈ db.models) :
        (m.codes kind).length ≤ width (codeRows db kind) :=
      length_le_width (List.mem_map_of_mem member)
    rw [length_initializers (marks m member) found]
    refine Nat.max_le.mpr ⟨?_, wide m member⟩
    rcases some with none | ⟨lister, inside, lists⟩
    · simp [none] at member
    · exact Nat.le_trans (List.length_pos_iff.mpr lists) (wide lister inside)

def partlyCodedDatabase : Database :=
  ⟨[listedModel "iMac20,1" [], listedModel "iMac20,2" ["FGYY", "FH00"]], by decide⟩

/-- The empty row is written with one initializer, for which there is room. -/
theorem partly_coded_rows_fit : ∃ header, render partlyCodedDatabase OrderedMap.empty = .ok header ∧
    (∃ before after, header = before ++ tableOf partlyCodedDatabase .model ++ after) ∧
    initializers? (braced []) = some [""] ∧
    [""].length ≤ width (codeRows partlyCodedDatabase .model) := by
  have complete : ∀ m ∈ partlyCodedDatabase.models, Complete m := by
    simp [partlyCodedDatabase, complete_listedModel]
  have made : render partlyCodedDatabase OrderedMap.empty =
      .ok (text partlyCodedDatabase OrderedMap.empty) := render_eq_ok_iff.mpr ⟨complete, rfl⟩
  have plain : ∀ m ∈ partlyCodedDatabase.models, ∀ code ∈ m.codes .model, Unescaped code := by
    unfold Unescaped
    decide
  obtain ⟨printed, _, fit⟩ := rows_fit_iff made plain
  have empty : initializers? (braced []) = some [""] := initializers?_braced (by simp)
  have room := fit.mpr (.inr ⟨_, .tail _ (.head _), by decide⟩) _ (.head _) _ empty
  exact ⟨_, made, printed, empty, room⟩

def codelessDatabase : Database := ⟨[listedModel "iMac20,1" []], by decide⟩

/-- The row has an initializer, and the width that is defined for it is zero. -/
theorem codeless_row_overflows : ∃ header, render codelessDatabase OrderedMap.empty = .ok header ∧
    (∀ kind, ∀ m ∈ codelessDatabase.models, ∀ code ∈ m.codes kind, Unescaped code) ∧
    (∃ before after, header = before ++ tableOf codelessDatabase .model ++ after) ∧
    tableOf codelessDatabase .model =
      "#define APPLE_MODEL_CODE_MAX 0\n" ++
      "static const char *AppleModelCode[][APPLE_MODEL_CODE_MAX] = \x7b\n" ++
      "  /* iMac20,1       */ \x7b\"\"\x7d,\n" ++ "\x7d;\n\n" ∧
    initializers? "\x7b\"\"\x7d" = some [""] ∧
    ¬ [""].length ≤ width (codeRows codelessDatabase .model) := by
  have complete : ∀ m ∈ codelessDatabase.models, Complete m := by
    simp [codelessDatabase, complete_listedModel]
  have plain : ∀ kind, ∀ m ∈ codelessDatabase.models, ∀ code ∈ m.codes kind, Unescaped code := by
    intro kind
    unfold Unescaped
    cases kind <;> decide
  refine ⟨_, render_eq_ok_iff.mpr ⟨complete, rfl⟩, plain, text_eq_table .., ?_, by cbv, by decide⟩
  decide +kernel

end ModelCatalog.SerialTable
