import ModelCatalog.Artifact.SerialTable
import ModelCatalog.Proofs.AccentsByCharacter

/-! Names without accents stay as they are. Decompositions are full: no part of a row of the table
and no letter of a syllable is decomposed any further, so that what a character keeps keeps itself. A
registry of names that have lost their accents gives the same tables of serial numbers. -/
namespace ModelCatalog

namespace Text

namespace Compatibility

/-- The code points that have a row, as the bits of a number. -/
def rowBits : List Row → Nat
  | [] => 0
  | row :: rest => 1 <<< row.1 ||| rowBits rest

def pageBits : List Page → Nat
  | [] => 0
  | page :: rest => rowBits page.2 ||| pageBits rest

theorem testBit_rowBits {rows : List Row} {row : Row} (member : row ∈ rows) :
    (rowBits rows).testBit row.1 = true := by
  induction rows with
  | nil => cases member
  | cons first rest ih =>
    rw [rowBits, Nat.testBit_or]
    rcases List.mem_cons.mp member with rfl | behind
    · rw [Nat.one_shiftLeft, Nat.testBit_two_pow_self, Bool.true_or]
    · rw [ih behind, Bool.or_true]

theorem testBit_pageBits {pages : List Page} {page : Page} {row : Row} (isPage : page ∈ pages)
    (isRow : row ∈ page.2) : (pageBits pages).testBit row.1 = true := by
  induction pages with
  | nil => cases isPage
  | cons first rest ih =>
    rw [pageBits, Nat.testBit_or]
    rcases List.mem_cons.mp isPage with rfl | behind
    · rw [testBit_rowBits isRow, Bool.true_or]
    · rw [ih behind, Bool.or_true]

end Compatibility

/-- The code points that are decomposed, as the bits of a number. Whether a code point is among them
is seen at one place, without a walk through the table. -/
def decomposedBits : Nat :=
  (1 <<< Syllable.count - 1) <<< Syllable.base ||| Compatibility.pageBits Compatibility.pages

section Full

variable {code part : Nat} {c d : Char}

theorem decomposeCode_of_testBit (free : decomposedBits.testBit code = false) :
    decomposeCode code = [code] := by
  rw [decomposedBits, Nat.testBit_or, Bool.or_eq_false_iff, Nat.testBit_shiftLeft,
    Nat.one_shiftLeft, Nat.testBit_two_pow_sub_one] at free
  obtain ⟨noSyllable, noRow⟩ := free
  have outside : ¬ (Syllable.base ≤ code ∧ code < Syllable.base + Syllable.count) := by
    simp only [Bool.and_eq_false_iff, decide_eq_false_iff_not] at noSyllable
    omega
  rw [decomposeCode_of_outside outside]
  cases found : Compatibility.lookup? code with
  | none => rfl
  | some parts =>
    obtain ⟨page, isPage, isRow⟩ := Compatibility.mem_of_lookup? found
    rw [Compatibility.testBit_pageBits isPage isRow] at noRow
    cases noRow

theorem testBit_part : ∀ page ∈ Compatibility.pages, ∀ row ∈ page.2, ∀ part ∈ row.2,
    decomposedBits.testBit part = false := by
  decide +kernel

/-- The letters of syllables share a page, and the table has no row for any of them. -/
theorem decomposeCode_letter (least : Syllable.leadBase ≤ code)
    (most : code < Syllable.tailBase + Syllable.tailCount) : decomposeCode code = [code] := by
  simp only [Syllable.leadBase, Syllable.tailBase, Syllable.tailCount] at least most
  have outside : ¬ (Syllable.base ≤ code ∧ code < Syllable.base + Syllable.count) := by
    simp only [Syllable.base]
    omega
  have page : code / 256 = 0x11 := by omega
  have noPage : Compatibility.pages.lookup 0x11 = none := by decide +kernel
  rw [decomposeCode_of_outside outside, Compatibility.lookup?, page, noPage]
  rfl

theorem decomposeCode_part (member : part ∈ decomposeCode code) : decomposeCode part = [part] := by
  refine forall_mem_decomposeCode (p := fun part => decomposeCode part = [part]) id
    (fun _ => decomposeCode_letter) ?_ part member
  intro page isPage row isRow _ part isPart
  exact decomposeCode_of_testBit (testBit_part page isPage row isRow part isPart)

theorem decompose_of_mem (member : d ∈ decompose c) : decompose d = [d] := by
  obtain ⟨part, isPart, rfl⟩ := List.mem_map.mp member
  rcases toNat_ofNat_or part with same | zero
  · rw [decompose, same, decomposeCode_part isPart, List.map_singleton]
  · rw [zero]
    decide +kernel

theorem kept_of_mem_kept (member : d ∈ kept c) : kept d = [d] := by
  obtain ⟨part, unmarked⟩ := mem_kept.mp member
  exact kept_eq_self (decompose_of_mem part) unmarked

end Full

theorem removeAccents_removeAccents (s : String) :
    removeAccents (removeAccents s) = removeAccents s := by
  apply removeAccents_eq_self
  intro d member
  rw [toList_removeAccents_eq_flatMap] at member
  obtain ⟨c, _, isKept⟩ := List.mem_flatMap.mp member
  exact kept_of_mem_kept isKept

end Text

def Product.withoutAccents (p : Product) : Product := { p with name := Text.removeAccents p.name }

def Registry.withoutAccents (registry : Registry) : Registry where
  entries := registry.entries.map fun entry => (entry.1, entry.2.withoutAccents)
  distinct := by
    rw [List.map_map]
    exact registry.distinct

namespace SerialTable

variable {registry : Registry} {entry : String × Product}

/-- Names decide neither what is described nor where it stands. -/
theorem described_withoutAccents (registry : Registry) :
    described registry.withoutAccents =
      (described registry).map fun entry => (entry.1, entry.2.withoutAccents) := by
  rw [described, described, Registry.withoutAccents, List.filter_map]
  exact (List.map_mergeSort (f := fun entry : String × Product => (entry.1, entry.2.withoutAccents))
    (r := fun a b => codeLe a.1 b.1) (s := fun a b => codeLe a.1 b.1) fun _ _ _ _ => rfl).symm

theorem descriptionRow_withoutAccents (code : String) (product : Product) :
    descriptionRow code product.withoutAccents = descriptionRow code product := by
  rw [descriptionRow, descriptionRow, Product.withoutAccents, Text.removeAccents_removeAccents]

theorem map_described_withoutAccents {row : String × Product → String}
    (same : ∀ entry, row (entry.1, entry.2.withoutAccents) = row entry) :
    (described registry.withoutAccents).map row = (described registry).map row := by
  rw [described_withoutAccents, List.map_map]
  exact List.map_congr_left fun entry _ => same entry

theorem render_withoutAccents (db : Database) (registry : Registry) :
    render db registry.withoutAccents = render db registry := by
  unfold render
  rw [map_described_withoutAccents]
  rintro ⟨code, product⟩
  exact descriptionRow_withoutAccents code product

theorem descriptionRow_of_mem (member : entry ∈ described registry.withoutAccents) :
    descriptionRow entry.1 entry.2 =
      " \x7b" ++ quoted entry.1 ++ ", " ++ quoted entry.2.name ++ "\x7d,\n" := by
  rw [described_withoutAccents] at member
  obtain ⟨original, _, rfl⟩ := List.mem_map.mp member
  rw [descriptionRow, Product.withoutAccents, Text.removeAccents_removeAccents]

end SerialTable

/-- Accents are removed once and for all. The tables of serial numbers are the same for a registry
whose names have lost their accents, and show these names as they are. -/
theorem names_settled_without_accents (s : String) (db : Database) (registry : Registry) :
    Text.removeAccents (Text.removeAccents s) = Text.removeAccents s ∧
    SerialTable.render db registry.withoutAccents = SerialTable.render db registry ∧
    ∀ entry ∈ SerialTable.described registry.withoutAccents,
      SerialTable.descriptionRow entry.1 entry.2 =
        " \x7b" ++ quoted entry.1 ++ ", " ++ quoted entry.2.name ++ "\x7d,\n" :=
  ⟨Text.removeAccents_removeAccents s, SerialTable.render_withoutAccents db registry,
    fun _ => SerialTable.descriptionRow_of_mem⟩

end ModelCatalog
