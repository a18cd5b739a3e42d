import Mathlib.Data.List.Basic
import ModelCatalog.Proofs.StrippedAccents

/-! Accents are removed from each character for itself. The normal form of two texts together need
not be the one form behind the other, as a mark may move over the seam; but only marks move, and what
is left without them is what each character keeps of its own decomposition. -/
namespace ModelCatalog.Text

/-- What a character keeps of its decomposition. -/
def kept (c : Char) : List Char := (decompose c).filter fun d => combiningClass d = 0

section Kept

variable {c d : Char} {s : String}

theorem not_isMark_eq (c : Char) : (!isMark c) = decide (combiningClass c = 0) := by
  rw [isMark, bne, Bool.not_not]
  rfl

theorem mem_kept : d ∈ kept c ↔ d ∈ decompose c ∧ combiningClass d = 0 := by
  rw [kept, List.mem_filter, decide_eq_true_eq]

theorem toList_removeAccents_eq_flatMap (s : String) :
    (removeAccents s).toList = s.toList.flatMap kept := by
  rw [toList_removeAccents, List.filter_flatMap]
  simp only [not_isMark_eq]
  rfl

theorem removeAccents_append (s t : String) :
    removeAccents (s ++ t) = removeAccents s ++ removeAccents t := by
  rw [← String.toList_inj, String.toList_append]
  simp only [toList_removeAccents_eq_flatMap, String.toList_append, List.flatMap_append]

theorem combiningClass_of_mem_removeAccents (member : c ∈ (removeAccents s).toList) :
    combiningClass c = 0 := by
  rw [toList_removeAccents_eq_flatMap] at member
  obtain ⟨_, _, isKept⟩ := List.mem_flatMap.mp member
  exact (mem_kept.mp isKept).2

theorem removeAccents_eq_self (settled : ∀ c ∈ s.toList, kept c = [c]) : removeAccents s = s := by
  rw [← String.toList_inj, toList_removeAccents_eq_flatMap]
  calc
    s.toList.flatMap kept = s.toList.flatMap fun c => [c] := List.flatMap_congr settled
    _ = s.toList := List.flatMap_singleton' _

theorem kept_eq_self (itself : decompose c = [c]) (unmarked : combiningClass c = 0) :
    kept c = [c] := by
  rw [kept, itself, List.filter_cons_of_pos (by simpa using unmarked), List.filter_nil]

end Kept

section Ascii

variable {c : Char} {s : String}

theorem decomposeCode_of_ascii : ∀ code < 128, decomposeCode code = [code] := by decide +kernel

/-- The first mark lies far beyond the first page. -/
theorem combiningClass_of_ascii (ascii : c.toNat < 128) : combiningClass c = 0 := by
  have beyond : ∀ run ∈ CombiningClass.runs, 128 ≤ run.1 := by decide +kernel
  have none : CombiningClass.runs.find?
      (fun run => run.1 ≤ c.toNat && c.toNat ≤ run.2.1) = none := by
    apply List.find?_eq_none.mpr
    intro run member
    have := beyond run member
    simp only [Bool.and_eq_true, decide_eq_true_eq]
    omega
  rw [combiningClass, none]

theorem kept_of_ascii (ascii : c.toNat < 128) : kept c = [c] := by
  refine kept_eq_self ?_ (combiningClass_of_ascii ascii)
  rw [decompose, decomposeCode_of_ascii _ ascii, List.map_singleton, Char.ofNat_toNat]

end Ascii

/-- The normal form does not go together with putting one text behind another. -/
theorem normalForm_append_ne :
    ∃ front back, normalForm (front ++ back) ≠ normalForm front ++ normalForm back :=
  -- a mark above the letter and one below it
  ⟨['\u0301'], ['\u0323'], by decide +kernel⟩

/-- To remove accents goes together with putting one text behind another, though the normal form
does not. The outcome is what each character in turn has of class zero in its decomposition, so that
no mark is left, and a text of ASCII characters stays as it is. -/
theorem accents_removed_by_character (s t : String) :
    removeAccents (s ++ t) = removeAccents s ++ removeAccents t ∧
    (∃ front back, normalForm (front ++ back) ≠ normalForm front ++ normalForm back) ∧
    (removeAccents s).toList =
      s.toList.flatMap (fun c => (decompose c).filter fun d => combiningClass d = 0) ∧
    (∀ c ∈ (removeAccents s).toList, combiningClass c = 0) ∧
    ((∀ c ∈ s.toList, c.toNat < 128) → removeAccents s = s) :=
  ⟨removeAccents_append s t, normalForm_append_ne, toList_removeAccents_eq_flatMap s,
    fun _ => combiningClass_of_mem_removeAccents,
    fun ascii => removeAccents_eq_self fun c member => kept_of_ascii (ascii c member)⟩

/-- The second text begins with marks, and they are not in order. -/
theorem marks_behind_seam_removed :
    (∀ c ∈ "Mac Pro".toList, c.toNat < 128) ∧ removeAccents "Mac Pro" = "Mac Pro" ∧
    removeAccents ("Mac Pro" ++ "\u0301\u0323 Été") = "Mac Pro" ++ " Ete" := by
  have ascii : ∀ c ∈ "Mac Pro".toList, c.toNat < 128 := by simp
  obtain ⟨together, _, _, _, same⟩ := accents_removed_by_character "Mac Pro" "\u0301\u0323 Été"
  have behind : removeAccents "\u0301\u0323 Été" = " Ete" := by decide +kernel
  rw [together, same ascii, behind]
  exact ⟨ascii, rfl, rfl⟩

end ModelCatalog.Text
