/-! Texts inside texts. -/
namespace ModelCatalog.Text

/-- Whether `part` stands somewhere in `whole`. -/
def isInfix (part : List Char) : List Char → Bool
  | [] => part.isEmpty
  | c :: whole => part.isPrefixOf (c :: whole) || isInfix part whole

theorem isInfix_iff (part whole : List Char) : isInfix part whole = true ↔ part <:+: whole := by
  induction whole with
  | nil => simp [isInfix]
  | cons c whole ih => simp [isInfix, ih, List.infix_cons_iff]

def contains (whole part : String) : Bool := isInfix part.toList whole.toList

theorem contains_iff (whole part : String) :
    contains whole part = true ↔ ∃ before after, whole = before ++ part ++ after := by
  rw [contains, isInfix_iff]
  constructor
  · rintro ⟨before, after, split⟩
    refine ⟨String.ofList before, String.ofList after, ?_⟩
    rw [← String.toList_inj, ← split]
    simp
  · rintro ⟨before, after, rfl⟩
    exact ⟨before.toList, after.toList, by simp⟩

end ModelCatalog.Text
