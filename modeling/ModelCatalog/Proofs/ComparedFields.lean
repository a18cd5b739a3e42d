import ModelCatalog.Proofs.LoggedComparison

/-! What a comparison does not look at. Its result rests on the names of the models, their model codes
and the names in their reports. Board codes are gathered as well, but no list of them can end the
work, so that they show in remarks alone; the other fields do not show at all. -/
namespace ModelCatalog

/-- Two models agree in what a comparison looks at. A missing list counts as empty. -/
structure Model.ComparedAlike (m n : Model) : Prop where
  name : m.name = n.name
  codes : m.codes .model = n.codes .model
  reportNames : m.reportNames = n.reportNames

section Alike

variable {db other : Database}

theorem compared_of_alike {models others : List Model}
    (alike : List.Forall₂ Model.ComparedAlike models others) :
    models.map Model.compared = others.map Model.compared := by
  induction alike with
  | nil => rfl
  | cons first _ ih =>
    rw [List.map_cons, List.map_cons, ih]
    simp only [Model.compared, first.name, first.codes, first.reportNames]

theorem log_cover_of_alike (alike : db.models.map Model.compared = other.models.map Model.compared)
    (registry : Registry) (family : Family) :
    (cover db registry family).log = (cover other registry family).log ∨
      ∃ front back,
        (cover db registry family).log =
          front ++ placeholderEvents .board (db.codeUses .board) ++ back ∧
        (cover other registry family).log =
          front ++ placeholderEvents .board (other.codeUses .board) ++ back := by
  have uses : db.codeUses .model = other.codeUses .model := codeUses_of_compared alike
  have passes : other.gather .model .strict = db.gather .model .strict := by
    rw [Database.gather, Database.gather, uses]
  cases gathered : (db.gather .model .strict).result with
  | error fault =>
    left
    rw [log_cover_of_opposed gathered, log_cover_of_opposed (passes ▸ gathered), passes]
  | ok used =>
    right
    have first := log_cover_of_gathered registry family gathered
    have second := log_cover_of_gathered registry family (passes ▸ gathered)
    rw [← uses, suggest_eq_flatMap, ← suggestFor_of_compared alike, ← suggest_eq_flatMap] at second
    exact ⟨_, _, by rw [first, List.append_assoc], by rw [second, List.append_assoc]⟩

end Alike

/-- Databases of one length whose models agree, one by one, in name, model codes and report names are
compared with the same result, be it a coverage or a fault. If what is logged differs at all, then in
the remarks on the placeholders among the board codes. -/
theorem only_compared_fields_count {db other : Database}
    (alike : List.Forall₂ Model.ComparedAlike db.models other.models) (registry : Registry)
    (family : Family) :
    (cover db registry family).result = (cover other registry family).result ∧
    ((cover db registry family).log = (cover other registry family).log ∨
      ∃ front back,
        (cover db registry family).log =
          front ++ placeholderEvents .board (db.codeUses .board) ++ back ∧
        (cover other registry family).log =
          front ++ placeholderEvents .board (other.codeUses .board) ++ back) := by
  have compared := compared_of_alike alike
  exact ⟨result_cover_congr compared registry family, log_cover_of_alike compared registry family⟩

/-- Board codes that are empty, placeholders, or listed twice, and a model without any list. -/
def tangledDatabase : Database :=
  ⟨[remarkedLaptop, { productName := some "iMac14,2", boardCodes := some ["F5Q", "", "000"] }],
    by decide⟩

/-- The same models with other fields, lists that are empty in place of none, and no board codes. -/
def strippedDatabase : Database :=
  ⟨[{ laptop with biosVersion := some "1.0", productName := some "MacBookPro11,1" },
    { productName := some "iMac14,2", modelCodes := some [],
      specifications := some ⟨some ["Core i5"], some []⟩ }], by decide⟩

theorem tangled_compared_like_stripped :
    List.Forall₂ Model.ComparedAlike tangledDatabase.models strippedDatabase.models ∧
    (cover tangledDatabase scatteredRegistry .standard).result = .ok scatteredCoverage ∧
    (cover strippedDatabase scatteredRegistry .standard).result = .ok scatteredCoverage := by
  have alike : List.Forall₂ Model.ComparedAlike tangledDatabase.models strippedDatabase.models :=
    .cons ⟨rfl, rfl, rfl⟩ (.cons ⟨rfl, rfl, rfl⟩ .nil)
  have accepted : (cover tangledDatabase scatteredRegistry .standard).result =
      .ok scatteredCoverage := by decide +kernel
  obtain ⟨same, _⟩ := only_compared_fields_count alike scatteredRegistry .standard
  exact ⟨alike, accepted, same ▸ accepted⟩

end ModelCatalog
