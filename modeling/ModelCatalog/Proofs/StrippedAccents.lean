import ModelCatalog.Text.Accents

/-! Names without their accents, character by character. Marks are only moved past marks, and those
are left out, so that each character gives what its own decomposition keeps. -/
namespace ModelCatalog.Text

variable {c : Char} {s : String}

/-- What is kept of an ordered text does not show where a mark was put. -/
theorem filter_placeMark (c : Char) (cs : List Char) :
    (placeMark c cs).filter (!isMark ·) = (c :: cs).filter (!isMark ·) := by
  induction cs with
  | nil => rfl
  | cons d rest ih =>
    rw [placeMark]
    split
    · rename_i moves
      obtain ⟨mark, lower⟩ := Bool.and_eq_true_iff.mp moves
      -- a class above another is not class zero, so that the character that moves is a mark as well
      have moved : isMark c = true := by
        have := of_decide_eq_true lower
        simp only [isMark, bne_iff_ne]
        omega
      rw [List.filter_cons_of_neg (by simp [mark]), ih, List.filter_cons_of_neg (by simp [moved]),
        List.filter_cons_of_neg (by simp [moved]), List.filter_cons_of_neg (by simp [mark])]
    · rfl

theorem filter_orderMarks (cs : List Char) :
    (orderMarks cs).filter (!isMark ·) = cs.filter (!isMark ·) := by
  induction cs with
  | nil => rfl
  | cons c rest ih =>
    have placed : orderMarks (c :: rest) = placeMark c (orderMarks rest) := rfl
    rw [placed, filter_placeMark, List.filter_cons, List.filter_cons, ih]

/-- Marks are put in order only to be left out. -/
theorem toList_removeAccents (s : String) :
    (removeAccents s).toList = (s.toList.flatMap decompose).filter (!isMark ·) := by
  rw [removeAccents, String.toList_ofList, normalForm, filter_orderMarks]

theorem Compatibility.mem_of_lookup? {code : Nat} {parts : List Nat}
    (found : lookup? code = some parts) : ∃ page ∈ pages, (code, parts) ∈ page.2 := by
  have mem_of_lookup {α : Type} {rows : List (Nat × α)} {key : Nat} {value : α}
      (found : rows.lookup key = some value) : (key, value) ∈ rows := by
    obtain ⟨before, behind, rfl, -⟩ := List.lookup_eq_some_iff.mp found
    exact List.mem_append_right _ List.mem_cons_self
  obtain ⟨rows, page, row⟩ := Option.bind_eq_some_iff.mp found
  exact ⟨_, mem_of_lookup page, mem_of_lookup row⟩

theorem Syllable.letter_bounds {index letter : Nat} (within : index < count)
    (member : letter ∈ letters index) : leadBase ≤ letter ∧ letter < tailBase + tailCount := by
  unfold letters at member
  dsimp only at member
  split at member <;> simp only [List.mem_cons, List.not_mem_nil, or_false] at member <;>
    simp only [count, leadBase, vowelBase, tailBase, vowelCount, tailCount] at * <;> omega

theorem toNat_ofNat_or (code : Nat) : (Char.ofNat code).toNat = code ∨ Char.ofNat code = '\x00' := by
  by_cases valid : code.isValidChar
  · left
    have char : Char.ofNat code = Char.ofNatAux code valid := dif_pos valid
    rw [char]
    rfl
  · exact .inr (dif_neg valid)

theorem decomposeCode_of_outside {code : Nat}
    (outside : ¬ (Syllable.base ≤ code ∧ code < Syllable.base + Syllable.count)) :
    decomposeCode code = (Compatibility.lookup? code).getD [code] := by
  rw [decomposeCode, if_neg (by simpa using outside)]

/-- What holds of a code point that stands for itself, of the letters of syllables and of the rows
of the table for a code point, holds of its whole decomposition. -/
theorem forall_mem_decomposeCode {p : Nat → Prop} {code : Nat}
    (itself : decomposeCode code = [code] → p code)
    (letters : ∀ letter, Syllable.leadBase ≤ letter →
      letter < Syllable.tailBase + Syllable.tailCount → p letter)
    (parts : ∀ page ∈ Compatibility.pages, ∀ row ∈ page.2, row.1 = code →
      ∀ part ∈ row.2, p part) :
    ∀ part ∈ decomposeCode code, p part := by
  intro part member
  by_cases syllable : Syllable.base ≤ code ∧ code < Syllable.base + Syllable.count
  · rw [decomposeCode, if_pos (by simpa using syllable)] at member
    obtain ⟨above, below⟩ := Syllable.letter_bounds (by omega) member
    exact letters part above below
  · have tabled := decomposeCode_of_outside syllable
    cases found : Compatibility.lookup? code with
    | none =>
      rw [found, Option.getD_none] at tabled
      rw [tabled, List.mem_singleton] at member
      exact member ▸ itself tabled
    | some row =>
      rw [tabled, found, Option.getD_some] at member
      obtain ⟨page, isPage, isRow⟩ := Compatibility.mem_of_lookup? found
      exact parts page isPage _ isRow rfl part member

end ModelCatalog.Text
