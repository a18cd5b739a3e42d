import Mathlib.Data.List.Nodup
import ModelCatalog.Artifact.BoardMap
import ModelCatalog.Proofs.CollectedPairs

/-! The boards of the models that recovery knows. A board stands in the map where the first of these
models lists it, with the system of the last one that lists it; other models leave no trace. -/
namespace ModelCatalog

section Selection

variable {α β : Type}

theorem findSome?_filter (keep : α → Bool) (f : α → Option β) (items : List α) :
    (items.filter keep).findSome? f = items.findSome? fun a => if keep a then f a else none := by
  induction items with
  | nil => rfl
  | cons a rest ih =>
    cases kept : keep a with
    | true =>
      rw [List.filter_cons_of_pos kept, List.findSome?_cons, List.findSome?_cons, ih, if_pos kept]
    | false => simp [kept, ih]

theorem filter_eq_of_sublist {keep : α → Bool} {part all : List α} (sub : part.Sublist all)
    (distinct : all.Nodup) (dropped : ∀ a ∈ all, a ∉ part → keep a = false) :
    part.filter keep = all.filter keep := by
  induction sub with
  | slnil => rfl
  | @cons part all a sub ih =>
    obtain ⟨fresh, distinct⟩ := List.nodup_cons.mp distinct
    have gone : keep a = false :=
      dropped a (List.mem_cons_self ..) fun member => fresh (sub.subset member)
    rw [List.filter_cons_of_neg (by simp [gone])]
    exact ih distinct fun b member => dropped b (List.mem_cons_of_mem _ member)
  | @cons_cons part all a sub ih =>
    obtain ⟨fresh, distinct⟩ := List.nodup_cons.mp distinct
    have same : part.filter keep = all.filter keep := by
      apply ih distinct
      intro b member gone
      apply dropped b (List.mem_cons_of_mem _ member)
      rintro (_ | ⟨_, again⟩)
      · exact fresh member
      · exact gone again
    rw [List.filter_cons, List.filter_cons, same]

end Selection

namespace BoardMap

/-- The model has a serial number of twelve characters. -/
def Recoverable (m : Model) : Prop :=
  ∃ serial, m.serialNumber = some serial ∧ serial.length = 12

section Boards

variable {db : Database} {m : Model} {board os : String}

theorem isRecoverable_iff : isRecoverable m = true ↔ Recoverable m := by
  cases known : m.serialNumber <;> simp [isRecoverable, Recoverable, known, serialLength]

instance : DecidablePred Recoverable := fun _ => decidable_of_iff _ isRecoverable_iff

theorem newestOs_eq_iff :
    m.newestOs = os ↔ m.maximumOs = some os ∧ os ≠ "" ∨
      (m.maximumOs = none ∨ m.maximumOs = some "") ∧ os = "latest" := by
  unfold Model.newestOs
  cases m.maximumOs with
  | none => grind
  | some version =>
    simp only [String.isEmpty_iff]
    grind

theorem newestOs_ne_empty (m : Model) : m.newestOs ≠ "" := by
  intro empty
  rcases newestOs_eq_iff.mp empty with ⟨_, given⟩ | ⟨_, same⟩
  · exact given rfl
  · simp at same

theorem keys_ofDatabase (db : Database) :
    (ofDatabase db).keys = ((db.models.filter (Recoverable ·)).flatMap Model.boards).eraseDups := by
  have same : db.models.filter isRecoverable = db.models.filter (Recoverable ·) := by
    apply List.filter_congr
    intro m _
    rw [Bool.eq_iff_iff, isRecoverable_iff, decide_eq_true_iff]
  rw [ofDatabase, OrderedMap.keys_ofList, pairs, same, List.map_flatMap]
  simp [Function.comp_def]

/-- The system that the model gives for the board, if it is a recoverable one that lists it. -/
def systemFor? (board : String) (m : Model) : Option String :=
  if Recoverable m ∧ board ∈ m.boards then some m.newestOs else none

/-- Going through the models from the last to the first, the first answer counts. -/
theorem get?_ofDatabase (db : Database) (board : String) :
    (ofDatabase db).get? board = db.models.reverse.findSome? (systemFor? board) := by
  have given (m : Model) : (if isRecoverable m = true then
      pairValue? ((m.boards.map fun board => (board, m.newestOs)).reverse) board else none) =
        systemFor? board m := by
    simp only [← List.map_reverse, pairValue?_map_const, List.mem_reverse, ← ite_and,
      isRecoverable_iff, systemFor?]
  rw [ofDatabase, OrderedMap.get?_ofList, pairs, List.reverse_flatMap, pairValue?_flatMap,
    ← List.filter_reverse, findSome?_filter]
  simp only [Function.comp_apply, given]

theorem mem_ofDatabase_iff :
    (board, os) ∈ (ofDatabase db).entries ↔
      ∃ before m after, db.models = before ++ m :: after ∧
        Recoverable m ∧ board ∈ m.boards ∧ m.newestOs = os ∧
        ∀ later ∈ after, Recoverable later → board ∉ later.boards := by
  rw [OrderedMap.mem_entries_iff, get?_ofDatabase, List.findSome?_eq_some_iff]
  constructor
  · rintro ⟨after, m, before, split, given, others⟩
    -- what comes before `m` from behind are the models after it
    have order : db.models = before.reverse ++ m :: after.reverse := by
      rw [← List.reverse_reverse db.models, split]
      simp
    unfold systemFor? at given
    split at given
    · next listed =>
      refine ⟨before.reverse, m, after.reverse, order, listed.1, listed.2,
        Option.some.inj given, ?_⟩
      intro later behind recoverable again
      have silent := others later (List.mem_reverse.mp behind)
      simp [systemFor?, recoverable, again] at silent
    · cases given
  · rintro ⟨before, m, after, split, recoverable, listed, given, others⟩
    refine ⟨after.reverse, m, before.reverse, by simp [split], ?_, ?_⟩
    · simp [systemFor?, recoverable, listed, given]
    · intro later behind
      simpa [systemFor?] using others later (List.mem_reverse.mp behind)

theorem ofDatabase_of_deleted {rest : Database} (sub : rest.models.Sublist db.models)
    (deleted : ∀ m ∈ db.models, m ∉ rest.models → ¬ Recoverable m) :
    ofDatabase rest = ofDatabase db := by
  have distinct : db.models.Nodup := db.nodup_names.of_map
  have same : rest.models.filter isRecoverable = db.models.filter isRecoverable := by
    apply filter_eq_of_sublist sub distinct
    intro m member gone
    rw [Bool.eq_false_iff, ne_eq, isRecoverable_iff]
    exact deleted m member gone
  rw [ofDatabase, ofDatabase, pairs, pairs, same]

end Boards

/-- The map has each board of the models whose serial number has twelve characters once, in the
order in which these models first list them. The last of them to list a board gives its system:
the newest one that it runs, or `latest` where none is given; so none is empty. Without any of the
other models the map is the same. -/
theorem boards_of_recoverable (db : Database) :
    (ofDatabase db).keys.Nodup ∧
    (ofDatabase db).keys = ((db.models.filter (Recoverable ·)).flatMap Model.boards).eraseDups ∧
    (∀ board os, (board, os) ∈ (ofDatabase db).entries ↔
      ∃ before m after, db.models = before ++ m :: after ∧
        Recoverable m ∧ board ∈ m.boards ∧
        (m.maximumOs = some os ∧ os ≠ "" ∨
          (m.maximumOs = none ∨ m.maximumOs = some "") ∧ os = "latest") ∧
        ∀ later ∈ after, Recoverable later → board ∉ later.boards) ∧
    (∀ entry ∈ (ofDatabase db).entries, entry.2 ≠ "") ∧
    ∀ rest : Database, rest.models.Sublist db.models →
      (∀ m ∈ db.models, m ∉ rest.models → ¬ Recoverable m) → ofDatabase rest = ofDatabase db := by
  refine ⟨(ofDatabase db).distinct, keys_ofDatabase db, ?_, ?_, ?_⟩
  · intro board os
    simp only [mem_ofDatabase_iff, newestOs_eq_iff]
  · rintro ⟨board, os⟩ member
    obtain ⟨_, m, _, _, _, _, rfl, _⟩ := mem_ofDatabase_iff.mp member
    exact newestOs_ne_empty m
  · intro rest sub deleted
    exact ofDatabase_of_deleted sub deleted

/-- Four models share a board. One has a serial number of eleven characters and one has none. -/
def sharingDatabase : Database :=
  ⟨[{ productName := some "MacBookPro14,3", serialNumber := some "C02X1HACKGYH",
      boardProduct := some (.one "Mac-9"), maximumOs := some "13.7.4" },
    { productName := some "MacPro3,1", serialNumber := some "W88A77AXXUZ",
      boardProduct := some (.many ["Mac-5", "Mac-9"]), maximumOs := some "10.11.6" },
    { productName := some "iMac20,1", serialNumber := some "É02CXHACKGYG",
      boardProduct := some (.many ["Mac-7", "Mac-9", "Mac-7"]), maximumOs := some "" },
    { productName := some "iMac20,2", boardProduct := some (.one "Mac-9") }], by decide⟩

def recoverableDatabase : Database :=
  ⟨sharingDatabase.models.filter isRecoverable, by decide⟩

theorem shared_board_kept :
    (ofDatabase sharingDatabase).keys = ["Mac-9", "Mac-7"] ∧
    ("Mac-9", "latest") ∈ (ofDatabase sharingDatabase).entries ∧
    ofDatabase recoverableDatabase = ofDatabase sharingDatabase := by
  obtain ⟨_, keys, systems, _, deleted⟩ := boards_of_recoverable sharingDatabase
  refine ⟨keys.trans (by decide), ?_, deleted _ List.filter_sublist (by decide)⟩
  refine (systems "Mac-9" "latest").mpr ⟨sharingDatabase.models.take 2, _,
    sharingDatabase.models.drop 3, rfl, ?_⟩
  decide

end BoardMap

end ModelCatalog
