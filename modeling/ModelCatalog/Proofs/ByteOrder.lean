/-! Texts are compared character by character, and this is the order of their bytes. -/
namespace ModelCatalog

def bytesOf (s : String) : List UInt8 := s.toUTF8.data.toList

theorem bytesOf_eq (s : String) : bytesOf s = s.toList.flatMap String.utf8EncodeChar := by
  have encoded : s.toUTF8 = (s.toList.flatMap String.utf8EncodeChar).toByteArray := by
    rw [String.toUTF8_eq_toByteArray, ← String.utf8Encode_toList]
    rfl
  rw [bytesOf, encoded, List.data_toByteArray]

theorem toNat_val_lt (c : Char) : c.val.toNat < 0x110000 := by
  rcases c.valid with low | ⟨_, high⟩
  · exact Nat.lt_trans low (by decide)
  · exact high

/-- Longer codes begin with greater bytes, and codes of one length are compared digit by digit. -/
theorem utf8EncodeChar_append_lt {c d : Char} (less : c < d) (front back : List UInt8) :
    String.utf8EncodeChar c ++ front < String.utf8EncodeChar d ++ back := by
  have less : c.val.toNat < d.val.toNat := less
  have bound := toNat_val_lt d
  unfold String.utf8EncodeChar
  generalize c.val.toNat = v at less
  generalize d.val.toNat = w at less bound
  -- what follows the first byte holds the digits of the character to the base 64
  have upper (n : Nat) : n / 4096 = n / 64 / 64 ∧ n / 262144 = n / 64 / 64 / 64 := by omega
  have digit (n : Nat) : (n % 64 + 128) % 2 ^ 8 = n % 64 + 128 := by omega
  have lead (n : Nat) : (n % 8 + 240) % 2 ^ 8 = n % 8 + 240 := by omega
  dsimp only
  repeat' split
  all_goals
    simp only [List.cons_append, List.nil_append, List.cons_lt_cons_iff, UInt8.lt_iff_toNat_lt,
      ← UInt8.toNat_inj, UInt8.toNat_ofNat', (upper _).1, (upper _).2, digit, lead]
    omega

theorem append_lt_append_left {front as bs : List UInt8} : front ++ as < front ++ bs ↔ as < bs := by
  induction front with
  | nil => rfl
  | cons byte front ih => simp [ih]

theorem lt_iff_bytesOf_lt {a b : String} : a < b ↔ bytesOf a < bytesOf b := by
  rw [bytesOf_eq, bytesOf_eq]
  change a.toList < b.toList ↔ _
  generalize a.toList = as
  generalize b.toList = bs
  induction as generalizing bs with
  | nil =>
    cases bs with
    | nil => simp
    | cons d bs =>
      obtain ⟨byte, rest, code⟩ :=
        List.exists_cons_of_ne_nil (String.utf8EncodeChar_ne_nil (c := d))
      simp [code]
  | cons c as ih =>
    cases bs with
    | nil => simp
    | cons d bs =>
      rw [List.flatMap_cons, List.flatMap_cons, List.cons_lt_cons_iff]
      rcases Std.lt_trichotomy c d with less | same | greater
      · simp [less, utf8EncodeChar_append_lt less]
      · subst same
        simp [append_lt_append_left, ih]
      · have later := utf8EncodeChar_append_lt greater (bs.flatMap String.utf8EncodeChar)
          (as.flatMap String.utf8EncodeChar)
        constructor
        · rintro (less | ⟨same, _⟩)
          · exact absurd less (Char.lt_asymm greater)
          · exact absurd greater (same ▸ Char.lt_irrefl c)
        · intro earlier
          exact absurd later (List.lt_asymm earlier)

theorem le_iff_bytesOf_le {a b : String} : a ≤ b ↔ bytesOf a ≤ bytesOf b := by
  rw [← String.not_lt, ← List.not_lt, lt_iff_bytesOf_lt]

theorem bytesOf_inj {a b : String} : bytesOf a = bytesOf b ↔ a = b := by
  refine ⟨fun same => ?_, congrArg bytesOf⟩
  have first : ¬ a < b := fun less => List.lt_irrefl _ (same ▸ lt_iff_bytesOf_lt.mp less)
  have second : ¬ b < a := fun less => List.lt_irrefl _ (same ▸ lt_iff_bytesOf_lt.mp less)
  exact String.le_antisymm (String.not_lt.mp second) (String.not_lt.mp first)

theorem lt_iff_map_bytesOf_lt {as bs : List String} :
    as < bs ↔ as.map bytesOf < bs.map bytesOf := by
  induction as generalizing bs with
  | nil => cases bs <;> simp
  | cons a as ih =>
    cases bs with
    | nil => simp
    | cons b bs =>
      rw [List.map_cons, List.map_cons, List.cons_lt_cons_iff, List.cons_lt_cons_iff,
        lt_iff_bytesOf_lt, bytesOf_inj, ih]

end ModelCatalog
