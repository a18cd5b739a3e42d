import ModelCatalog.Fault

/-! The database: models sorted by name, no name twice. -/
namespace ModelCatalog

structure Database where
  models : List Model
  increasing : models.Pairwise fun a b => a.name < b.name

namespace Database

@[ext] theorem ext_models {a b : Database} (same : a.models = b.models) : a = b := by
  cases a; cases b; cases same; rfl

instance : DecidableEq Database := fun a b =>
  decidable_of_iff (a.models = b.models) ⟨ext_models, fun h => h ▸ rfl⟩

def empty : Database := ⟨[], List.Pairwise.nil⟩

def sortByName (models : List Model) : List Model :=
  models.mergeSort fun a b => decide (a.name ≤ b.name)

/-- The first name that two neighbours share. -/
def repeated? : List Model → Option String
  | a :: b :: rest => if a.name = b.name then some a.name else repeated? (b :: rest)
  | _ => none

theorem sorted_sortByName (models : List Model) :
    (sortByName models).Pairwise fun a b => a.name ≤ b.name := by
  have sorted := @List.pairwise_mergeSort Model (fun a b => decide (a.name ≤ b.name))
    (fun a b c hab hbc => by
      simp only [decide_eq_true_eq] at *; exact String.le_trans hab hbc)
    (fun a b => by
      simp only [Bool.or_eq_true, decide_eq_true_eq]; exact String.le_total a.name b.name) models
  exact sorted.imp fun h => by simpa using h

theorem increasing_of_sorted {models : List Model}
    (sorted : models.Pairwise fun a b => a.name ≤ b.name) (unique : repeated? models = none) :
    models.Pairwise fun a b => a.name < b.name := by
  induction models with
  | nil => exact List.Pairwise.nil
  | cons a rest ih =>
    cases rest with
    | nil => exact List.pairwise_singleton _ _
    | cons b rest =>
      rw [repeated?] at unique
      split at unique
      · cases unique
      · next differ =>
        obtain ⟨least, sorted⟩ := List.pairwise_cons.mp sorted
        have increasing := ih sorted unique
        have first : a.name < b.name :=
          Decidable.byContradiction fun h =>
            differ (String.le_antisymm (least b (List.mem_cons_self ..)) (String.not_lt.mp h))
        refine List.pairwise_cons.mpr ⟨fun m member => ?_, increasing⟩
        rcases List.mem_cons.mp member with rfl | member
        · exact first
        · exact String.lt_trans first ((List.pairwise_cons.mp increasing).1 m member)

/-- Sorts models by name, unless two share one. -/
def ofModels (models : List Model) : Except Fault Database :=
  match unique : repeated? (sortByName models) with
  | some name => .error (.duplicateModel name)
  | none => .ok ⟨sortByName models, increasing_of_sorted (sorted_sortByName models) unique⟩

theorem nodup_names (db : Database) : (db.models.map Model.name).Nodup := by
  rw [List.Nodup, List.pairwise_map]
  refine db.increasing.imp ?_
  intro a b less same
  exact String.lt_irrefl _ (same ▸ less)

def size (db : Database) : Nat := db.models.length

def isEmpty (db : Database) : Bool := db.models.isEmpty

/-- Searches a name from one position up to another, each time in the middle. -/
def search (models : Array Model) (name : String) (low high : Nat) : Option Nat :=
  if low < high then
    let middle := (low + high) / 2
    match models[middle]? with
    | none => none
    | some m =>
      if m.name = name then some middle
      else if m.name < name then search models name (middle + 1) high
      else search models name low middle
  else none
termination_by high - low

def position? (db : Database) (name : String) : Option Nat :=
  search db.models.toArray name 0 db.size

def find? (db : Database) (name : String) : Option Model :=
  (db.position? name).bind fun i => db.models[i]?

end Database

end ModelCatalog
