import Mathlib.Data.List.Forall2
import Mathlib.Data.List.Nodup
import ModelCatalog.Proofs.InfoTableText
import ModelCatalog.Proofs.SerialTableText

/-! The enumeration of the models, which indexes the tables of serial numbers. An enumerator is a
name with its commas replaced by underscores, so that two models have one enumerator if their names
differ in nothing else, and only then. -/
namespace ModelCatalog.SerialTable

def enumerationStart : String := "typedef enum \x7b"

def enumerationEnd : String := "\x7d AppleModel;"

def enumerationLines (header : String) : List (List Char) :=
  (((header.toList.splitOn '\n').dropWhile (· ≠ enumerationStart.toList)).drop 1).takeWhile
    (· ≠ enumerationEnd.toList)

/-- The enumerator on a line: what lies behind two blanks and before the first comma. -/
def lineEnumerator (line : List Char) : String :=
  String.ofList ((line.drop 2).takeWhile (· ≠ ','))

def enumeratorsIn (header : String) : List String := (enumerationLines header).map lineEnumerator

/-- Names of one length where at most a comma in one stands against an underscore in the other. -/
def Confusable (a b : String) : Prop :=
  List.Forall₂ (fun c d => c = d ∨ c = ',' ∧ d = '_' ∨ c = '_' ∧ d = ',') a.toList b.toList

section Names

variable {a b : Model} {models : List Model}

theorem enumerator_eq_iff : enumerator a = enumerator b ↔ Confusable a.name b.name := by
  have each (c d : Char) : (if c = ',' then '_' else c) = (if d = ',' then '_' else d) ↔
      c = d ∨ c = ',' ∧ d = '_' ∨ c = '_' ∧ d = ',' := by
    by_cases first : c = ',' <;> by_cases second : d = ',' <;> simp [first, second, eq_comm]
  rw [enumerator, enumerator, String.ofList_inj, ← List.forall₂_eq_eq_eq,
    List.forall₂_map_left_iff, List.forall₂_map_right_iff, Confusable]
  simp only [each]

theorem comma_not_mem_enumerator (m : Model) : ',' ∉ (enumerator m).toList := by
  simp only [enumerator, String.toList_ofList, List.mem_map, not_exists, not_and]
  intro c _
  split
  · decide
  · assumption

theorem newline_not_mem_enumerator {m : Model} (flat : '\n' ∉ m.name.toList) :
    '\n' ∉ (enumerator m).toList := by
  simp only [enumerator, String.toList_ofList, List.mem_map, not_exists, not_and]
  intro c member
  split
  · decide
  · exact fun same => flat (same ▸ member)

theorem eq_of_confusable {s t : String} (confusable : Confusable s t) (first : '_' ∉ s.toList)
    (second : '_' ∉ t.toList) : s = t := by
  rw [← String.toList_inj]
  unfold Confusable at confusable
  generalize s.toList = cs, t.toList = ds at *
  induction confusable with
  | nil => rfl
  | @cons c d cs ds head _ ih =>
    rw [List.mem_cons, not_or] at first second
    rcases head with rfl | ⟨_, rfl⟩ | ⟨rfl, _⟩
    · rw [ih first.2 second.2]
    · exact absurd rfl second.1
    · exact absurd rfl first.1

end Names

section Lines

variable {m : Model} {cpu : String} {models : List Model} {comment : Model → String}

theorem splitOn_unlines {lines : List (List Char)} (flat : ∀ line ∈ lines, '\n' ∉ line)
    (rest : List Char) :
    (InfoTable.unlines lines ++ rest).splitOn '\n' = lines ++ rest.splitOn '\n' := by
  induction lines with
  | nil => rfl
  | cons line lines ih =>
    rw [List.forall_mem_cons] at flat
    have split : InfoTable.unlines (line :: lines) ++ rest =
        line ++ '\n' :: (InfoTable.unlines lines ++ rest) := by
      simp [InfoTable.unlines]
    rw [split, splitOn_append_cons flat.1, ih flat.2, List.cons_append]

/-- A line of the enumeration, without its line feed. -/
def enumeratorChars (m : Model) (cpu : String) : List Char :=
  ' ' :: ' ' :: (enumerator m).toList ++ ", // ".toList ++ cpu.toList

theorem toList_enumeratorLine (m : Model) (cpu : String) :
    (enumeratorLine m cpu).toList = enumeratorChars m cpu ++ ['\n'] := by
  simp [enumeratorLine, enumeratorChars]

theorem newline_not_mem_enumeratorChars (named : '\n' ∉ m.name.toList) (flat : '\n' ∉ cpu.toList) :
    '\n' ∉ enumeratorChars m cpu := by
  simp [enumeratorChars, newline_not_mem_enumerator named, flat]

theorem enumeratorChars_ne_end (m : Model) (cpu : String) :
    enumeratorChars m cpu ≠ enumerationEnd.toList := by
  intro same
  have first := congrArg List.head? same
  simp [enumeratorChars, enumerationEnd] at first

/-- The enumerator is found again, because it has no comma. -/
theorem lineEnumerator_enumeratorChars (m : Model) (cpu : String) :
    lineEnumerator (enumeratorChars m cpu) = enumerator m := by
  have apart : ∀ c ∈ (enumerator m).toList, decide (c ≠ ',') = true := fun c member =>
    decide_eq_true fun same => comma_not_mem_enumerator m (same ▸ member)
  simp only [lineEnumerator, enumeratorChars, List.cons_append, List.drop_succ_cons, List.drop_zero]
  rw [List.append_assoc, List.takeWhile_append_of_pos apart]
  simp

theorem toList_join_enumeratorLine (models : List Model) (comment : Model → String) :
    (String.join (models.map fun m => enumeratorLine m (comment m))).toList =
      InfoTable.unlines (models.map fun m => enumeratorChars m (comment m)) := by
  simp [String.toList_join, InfoTable.unlines, List.flatMap_map, toList_enumeratorLine]

end Lines

section Header

variable {db : Database} {registry : Registry} {header : String}

def openingLines : List (List Char) :=
  ["#ifndef GENSERIAL_MODELINFO_AUTOGEN_H", "#define GENSERIAL_MODELINFO_AUTOGEN_H", "",
    "// DO NOT EDIT! This is an autogenerated file.", "", "#include \"macserial.h\"", ""].map
    String.toList

theorem toList_heading : heading.toList = InfoTable.unlines openingLines := by
  unfold heading
  simp only [String.toList_append, -String.reduceAppend]
  decide +kernel

theorem text_eq_enumeration (db : Database) (registry : Registry) :
    ∃ rest, text db registry = heading ++ "typedef enum \x7b\n" ++
      String.join (db.models.map fun m => enumeratorLine m (m.primaryCpu?.getD "")) ++
      "\x7d AppleModel;\n\n" ++ rest := by
  unfold text
  -- the tables behind the enumeration, the last one first
  iterate 16 refine append_of_append ?_
  exact ⟨"", String.append_empty.symm⟩

theorem enumeratorsIn_text (named : ∀ m ∈ db.models, '\n' ∉ m.name.toList)
    (flat : ∀ m ∈ db.models, '\n' ∉ (m.primaryCpu?.getD "").toList) :
    enumeratorsIn (text db registry) = db.models.map enumerator := by
  obtain ⟨rest, shape⟩ := text_eq_enumeration db registry
  let enumeration := db.models.map fun m => enumeratorChars m (m.primaryCpu?.getD "")
  have start : "typedef enum \x7b\n".toList = InfoTable.unlines [enumerationStart.toList] := rfl
  have ending : "\x7d AppleModel;\n\n".toList = InfoTable.unlines [enumerationEnd.toList, []] := rfl
  have lines : (text db registry).toList = InfoTable.unlines (openingLines ++
      enumerationStart.toList :: (enumeration ++ [enumerationEnd.toList, []])) ++ rest.toList := by
    rw [shape]
    simp only [String.toList_append, toList_heading, start, toList_join_enumeratorLine, ending]
    simp [InfoTable.unlines, enumeration]
  have plain : ∀ line ∈ openingLines ++
      enumerationStart.toList :: (enumeration ++ [enumerationEnd.toList, []]), '\n' ∉ line := by
    simp only [List.forall_mem_append, List.forall_mem_cons, enumeration, List.forall_mem_map]
    refine ⟨by decide, by decide, fun m member => ?_, by decide, by decide, by simp⟩
    exact newline_not_mem_enumeratorChars (named m member) (flat m member)
  have opening : ∀ line ∈ openingLines, decide (line ≠ enumerationStart.toList) = true := by decide
  have within : ∀ line ∈ enumeration, decide (line ≠ enumerationEnd.toList) = true := by
    simp only [enumeration, List.forall_mem_map, decide_eq_true_eq]
    exact fun m _ => enumeratorChars_ne_end m _
  rw [enumeratorsIn, enumerationLines, lines, splitOn_unlines plain, List.append_assoc,
    List.dropWhile_append_of_pos opening, List.cons_append, List.dropWhile_cons_of_neg (by simp),
    List.drop_one, List.tail_cons, List.append_assoc, List.takeWhile_append_of_pos within,
    List.cons_append, List.takeWhile_cons_of_neg (by simp), List.append_nil, List.map_map]
  exact List.map_congr_left fun m _ => lineEnumerator_enumeratorChars m _

end Header

/-- Each model has an enumerator of its own exactly if no two of the names differ only in commas
against underscores. The enumerators are printed one on a line, behind the heading. -/
theorem enumerators_distinct_iff {db : Database} {registry : Registry} {header : String}
    (made : render db registry = .ok header) :
    (∃ rest, header = heading ++ "typedef enum \x7b\n" ++
      String.join (db.models.map fun m =>
        "  " ++ enumerator m ++ ", // " ++ m.primaryCpu?.getD "" ++ "\n") ++
      "\x7d AppleModel;\n\n" ++ rest) ∧
    ((db.models.map enumerator).Nodup ↔
      ∀ a ∈ db.models, ∀ b ∈ db.models, Confusable a.name b.name → a = b) ∧
    ((∀ m ∈ db.models, '_' ∉ m.name.toList) → (db.models.map enumerator).Nodup) ∧
    ((∀ m ∈ db.models, '\n' ∉ m.name.toList ∧ '\n' ∉ (m.primaryCpu?.getD "").toList) →
      enumeratorsIn header = db.models.map enumerator) := by
  obtain ⟨_, rfl⟩ := render_eq_ok_iff.mp made
  have distinct : (db.models.map enumerator).Nodup ↔
      ∀ a ∈ db.models, ∀ b ∈ db.models, Confusable a.name b.name → a = b := by
    simp only [List.nodup_map_iff_inj_on db.nodup_names.of_map, enumerator_eq_iff]
  refine ⟨text_eq_enumeration db registry, distinct, fun plain => distinct.mpr ?_, fun flat => ?_⟩
  · intro a first b second confusable
    have same := eq_of_confusable confusable (plain a first) (plain b second)
    exact List.inj_on_of_nodup_map db.nodup_names first second same
  · exact enumeratorsIn_text (fun m member => (flat m member).1) fun m member => (flat m member).2

/-- The names differ in a digit as well. -/
def apartDatabase : Database :=
  ⟨[listedModel "iMac20,1" ["FGYY"], listedModel "iMac20_2" ["FGYY"]], by decide⟩

theorem apart_enumerators_distinct : ∃ header, render apartDatabase OrderedMap.empty = .ok header ∧
    enumeratorsIn header = ["iMac20_1", "iMac20_2"] ∧ (enumeratorsIn header).Nodup ∧
    ¬ Confusable "iMac20,1" "iMac20_2" := by
  have complete : ∀ m ∈ apartDatabase.models, Complete m := by
    simp [apartDatabase, complete_listedModel]
  have made : render apartDatabase OrderedMap.empty = .ok (text apartDatabase OrderedMap.empty) :=
    render_eq_ok_iff.mpr ⟨complete, rfl⟩
  obtain ⟨_, distinct, _, printed⟩ := enumerators_distinct_iff made
  have found := (printed (by decide)).trans
    (by decide : apartDatabase.models.map enumerator = ["iMac20_1", "iMac20_2"])
  have nodup : (apartDatabase.models.map enumerator).Nodup := by decide
  refine ⟨_, made, found, found ▸ by decide, fun confusable => ?_⟩
  have same := distinct.mp nodup _ (.head _) _ (.tail _ (.head _)) confusable
  exact absurd same (by decide)

/-- The names differ in the comma alone. -/
def mergedDatabase : Database :=
  ⟨[listedModel "iMac20,1" ["FGYY"], listedModel "iMac20_1" ["FGYY"]], by decide⟩

/-- Two models of different names have one enumerator. -/
theorem merged_enumerators_coincide : ∃ header,
    render mergedDatabase OrderedMap.empty = .ok header ∧
    (∀ m ∈ mergedDatabase.models, m.name ≠ "" ∧ '\n' ∉ m.name.toList) ∧
    enumeratorsIn header = ["iMac20_1", "iMac20_1"] ∧ ¬ (enumeratorsIn header).Nodup := by
  have complete : ∀ m ∈ mergedDatabase.models, Complete m := by
    simp [mergedDatabase, complete_listedModel]
  have found : enumeratorsIn (text mergedDatabase OrderedMap.empty) = ["iMac20_1", "iMac20_1"] :=
    (enumeratorsIn_text (by decide) (by decide)).trans (by decide)
  refine ⟨_, render_eq_ok_iff.mpr ⟨complete, rfl⟩, by decide, found, ?_⟩
  rw [found]
  decide

end ModelCatalog.SerialTable
