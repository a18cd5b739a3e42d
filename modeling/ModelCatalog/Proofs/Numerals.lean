import ModelCatalog.Artifact.InfoTable

/-! Written numbers are told apart: hexadecimal words are read back, and a row of decimal numbers
falls into its numbers at the commas. -/
namespace ModelCatalog

namespace Number

theorem digit_of_mem_toDigits {n : Nat} {c : Char} (member : c ∈ Nat.toDigits 16 n) :
    ∃ d < 16, c = d.digitChar := by
  induction n using Nat.strongRecOn with
  | ind n ih =>
    by_cases small : n < 16
    · rw [Nat.toDigits_of_lt_base small, List.mem_singleton] at member
      exact ⟨n, small, member⟩
    · rw [Nat.toDigits_of_base_le (by decide) (by omega), List.mem_append, List.mem_singleton]
        at member
      rcases member with inside | rfl
      · exact ih (n / 16) (by omega) inside
      · exact ⟨n % 16, Nat.mod_lt _ (by decide), rfl⟩

theorem newline_not_mem_upperHex (n : Nat) : '\n' ∉ (upperHex n).toList := by
  intro inside
  rw [upperHex, String.toList_ofList] at inside
  obtain ⟨_, member, upper⟩ := List.mem_map.mp inside
  obtain ⟨d, small, rfl⟩ := digit_of_mem_toDigits member
  have apart : ∀ d < 16, d.digitChar.toUpper ≠ '\n' := by decide
  exact apart d small upper

end Number

theorem append_cons_inj {α : Type} {separator : α} {a b u v : List α} (first : separator ∉ a)
    (second : separator ∉ b) : a ++ separator :: u = b ++ separator :: v ↔ a = b ∧ u = v := by
  induction a generalizing b with
  | nil => cases b <;> simp_all
  | cons x a ih =>
    rw [List.mem_cons, not_or] at first
    cases b with
    | nil => simp [Ne.symm first.1]
    | cons y b =>
      rw [List.mem_cons, not_or] at second
      simp only [List.cons_append, List.cons.injEq, ih first.2 second.2, and_assoc]

section DecimalRows

theorem toDigits_inj {a b : Nat} : Nat.toDigits 10 a = Nat.toDigits 10 b ↔ a = b := by
  refine ⟨fun same => ?_, congrArg _⟩
  calc
    a = Nat.ofDigitChars 10 (Nat.toDigits 10 a) 0 := Nat.ofDigitChars_ten_toDigits.symm
    _ = b := by rw [same, Nat.ofDigitChars_ten_toDigits]

theorem not_mem_toDigits {c : Char} (other : c.isDigit = false) (n : Nat) :
    c ∉ Nat.toDigits 10 n := fun inside => by
  rw [Nat.isDigit_of_mem_toDigits (by decide) (by decide) inside] at other
  cases other

theorem toList_decimalRow_singleton (n : Nat) : (decimalRow [n]).toList = Nat.toDigits 10 n := by
  simp [decimalRow]

theorem toList_decimalRow_cons (n m : Nat) (rest : List Nat) :
    (decimalRow (n :: m :: rest)).toList =
      Nat.toDigits 10 n ++ ',' :: ' ' :: (decimalRow (m :: rest)).toList := by
  simp [decimalRow, String.intercalate_cons_cons]

theorem newline_not_mem_decimalRow (xs : List Nat) : '\n' ∉ (decimalRow xs).toList := by
  have newline (n : Nat) : '\n' ∉ Nat.toDigits 10 n := not_mem_toDigits rfl n
  induction xs with
  | nil => simp [decimalRow]
  | cons n xs ih =>
    cases xs with
    | nil => rw [toList_decimalRow_singleton]; exact newline n
    | cons m xs => simp [toList_decimalRow_cons, newline, ih]

end DecimalRows

end ModelCatalog
