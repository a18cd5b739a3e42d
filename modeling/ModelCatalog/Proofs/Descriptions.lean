import ModelCatalog.Proofs.RegistryText
import ModelCatalog.Proofs.SerialTableText
import ModelCatalog.Proofs.StringLiterals
import ModelCatalog.Proofs.StrippedAccents

/-! The descriptions of products as C source. Codes and names are put between quotation marks as they
are, so that a row is read as it is meant exactly if nothing in it has to be escaped. A name may need
this only without its accents: three wide characters become a quotation mark or a backslash. -/
namespace ModelCatalog

namespace Literal

open Text (Compatibility.pages decompose isMark removeAccents)

/-- Characters that become a quotation mark or a backslash. -/
def wide : List Char := ['\uff02', '\ufe68', '\uff3c']

/-- Characters that are plain and remain so without accents. -/
def staysPlain (c : Char) : Bool := isPlain c && !wide.contains c

def special : List Nat := [0x22, 0x5C, 0x0A, 0x0D]

theorem isPlain_iff {c : Char} : isPlain c = true ↔ c.toNat ∉ special := by
  have same (d : Char) : c = d ↔ c.toNat = d.toNat := Char.toNat_inj.symm
  simp [isPlain, isLineEnd, special, same, and_assoc]

theorem isPlain_ofNat {code : Nat} (ordinary : code ∉ special) : isPlain (Char.ofNat code) := by
  rcases Text.toNat_ofNat_or code with same | zero
  · rw [isPlain_iff, same]
    exact ordinary
  · rw [zero]
    decide

theorem parts_ordinary : ∀ page ∈ Compatibility.pages, ∀ row ∈ page.2,
    (∀ part ∈ row.2, 0x5C < part ∨ part ∉ special) ∨ row.1 ∈ wide.map Char.toNat := by
  decide +kernel

/-- What a character gives without its marks is plain exactly if it stays plain itself. -/
theorem all_plain_decompose (c : Char) :
    ((decompose c).filter (!isMark ·)).all isPlain = staysPlain c := by
  have beyond {code : Nat} (above : 0x5C < code) : code ∉ special := by
    simp only [special, List.mem_cons, List.not_mem_nil, or_false]
    omega
  by_cases listed : c ∈ ['"', '\\', '\n', '\r'] ++ wide
  · simp only [wide, List.cons_append, List.nil_append, List.mem_cons, List.not_mem_nil,
      or_false] at listed
    rcases listed with rfl | rfl | rfl | rfl | rfl | rfl | rfl <;> decide +kernel
  · rw [List.mem_append, not_or] at listed
    obtain ⟨unmarked, narrow⟩ := listed
    have plain : isPlain c := by
      simpa [isPlain, isLineEnd, and_assoc] using unmarked
    have stays : staysPlain c := by simp [staysPlain, plain, narrow]
    rw [stays, List.all_eq_true]
    intro d kept
    obtain ⟨code, part, rfl⟩ := List.mem_map.mp (List.mem_filter.mp kept).1
    refine isPlain_ofNat (Text.forall_mem_decomposeCode (p := (· ∉ special))
      (fun _ => isPlain_iff.mp plain)
      (fun letter above _ => beyond (Nat.lt_of_lt_of_le (by decide) above)) ?_ code part)
    intro page isPage row isRow same part isPart
    -- only the rows of the wide characters are exempt, and this is none of them
    rcases parts_ordinary page isPage row isRow with ordinary | isWide
    · exact (ordinary part isPart).elim beyond id
    · obtain ⟨d, isWide, code⟩ := List.mem_map.mp isWide
      exact absurd (Char.toNat_inj.mp (code.trans same) ▸ isWide) narrow

theorem plain_removeAccents_iff (name : String) :
    (∀ c ∈ (removeAccents name).toList, isPlain c) ↔ ∀ c ∈ name.toList, staysPlain c := by
  have each (c : Char) : (∀ d ∈ decompose c, !isMark d → isPlain d) ↔ staysPlain c := by
    rw [← all_plain_decompose, List.all_eq_true, List.forall_mem_filter]
  simp only [Text.toList_removeAccents, List.forall_mem_filter, List.forall_mem_flatMap, each]

end Literal

namespace SerialTable

open Literal

variable {db : Database} {registry : Registry} {header : String}

def descriptionTable (registry : Registry) : String :=
  "static APPLE_MODEL_DESC AppleModelDesc[] = \x7b\n" ++
  String.join ((described registry).map fun (code, product) => descriptionRow code product) ++
  "\x7d;\n\n"

theorem text_eq_descriptions (db : Database) (registry : Registry) :
    ∃ before after, text db registry = before ++ descriptionTable registry ++ after := by
  have together (a b c d e : String) : a ++ b ++ c ++ d ++ e = a ++ (b ++ c ++ d) ++ e := by
    simp only [String.append_assoc]
  exact ⟨_, _, together ..⟩

theorem mem_described_iff {code : String} {product : Product} :
    (code, product) ∈ described registry ↔
      registry.get? code = some product ∧ product.isValid = true := by
  rw [described, List.mem_mergeSort, List.mem_filter, OrderedMap.mem_entries_iff]

/-- What a row is meant to be: two texts between braces, and a comma. -/
def initializer (code : String) (product : Product) : List Token :=
  [.opening, .literal (bytesOf code), .comma, .literal (bytesOf (Text.removeAccents product.name)),
    .closing, .comma]

/-- A row is read as it is meant exactly if nothing in it has to be escaped. -/
theorem tokens?_descriptionRow_iff (code : String) (product : Product) :
    tokens? (descriptionRow code product) = some (initializer code product) ↔
      (∀ c ∈ code.toList, isPlain c) ∧ ∀ c ∈ product.name.toList, staysPlain c := by
  have row : (descriptionRow code product).toList =
      ' ' :: '\x7b' :: '"' :: (code.toList ++ '"' :: ',' :: ' ' :: '"' ::
        ((Text.removeAccents product.name).toList ++ '"' :: ['\x7d', ',', '\n'])) := by
    simp [descriptionRow, quoted]
  have bytes (s : String) : bytesOf s = encoded s.toList := bytesOf_eq s
  have ending : tokensFrom (joinLines ['\x7d', ',', '\n']) = some [.closing, .comma] := by
    simp only [tokensFrom_closing, tokensFrom_comma, tokensFrom_lineFeed, tokensFrom_nil,
      Option.map_some]
  have behind (read : Option (List Token)) (first : Token) (others : List Token) :
      read.map (first :: ·) = some (first :: others) ↔ read = some others := by
    cases read <;> simp
  rw [tokens?, row, initializer, bytes, bytes, tokensFrom_space, tokensFrom_opening, behind,
    tokensFrom_marked_iff, tokensFrom_comma, behind, tokensFrom_space, tokensFrom_marked_iff, ending,
    plain_removeAccents_iff]
  exact and_congr_right fun _ => and_iff_left rfl

/-- The tables describe every valid product in one row, and a row is read back exactly if its code is
plain and its name stays so without its accents. -/
theorem descriptions_read_iff (made : render db registry = .ok header) :
    (∃ before after, header = before ++ descriptionTable registry ++ after) ∧
    (∀ code product, (code, product) ∈ described registry ↔
      registry.get? code = some product ∧ product.isValid = true) ∧
    (∀ code product, tokens? (descriptionRow code product) = some (initializer code product) ↔
      (∀ c ∈ code.toList, isPlain c) ∧ ∀ c ∈ product.name.toList, staysPlain c) := by
  obtain ⟨-, rfl⟩ := render_eq_ok_iff.mp made
  exact ⟨text_eq_descriptions db registry, fun _ _ => mem_described_iff, tokens?_descriptionRow_iff⟩

def oneModelDatabase : Database := ⟨[listedModel "iMac20,1" ["FGYY"]], by decide⟩

theorem render_oneModelDatabase (registry : Registry) :
    render oneModelDatabase registry = .ok (text oneModelDatabase registry) := by
  have complete : ∀ m ∈ oneModelDatabase.models, Complete m := by
    simp [oneModelDatabase, complete_listedModel]
  exact render_eq_ok_iff.mpr ⟨complete, rfl⟩

def accentedProduct : Product := ⟨"iMac Été", .ok⟩

def accentedRegistry : Registry := OrderedMap.empty.set "FGYY" accentedProduct

/-- A name is read back without its accents. -/
theorem accented_name_read : ∃ header, render oneModelDatabase accentedRegistry = .ok header ∧
    (∃ before after, header = before ++ descriptionTable accentedRegistry ++ after) ∧
    ("FGYY", accentedProduct) ∈ described accentedRegistry ∧
    tokens? (descriptionRow "FGYY" accentedProduct) =
      some [.opening, .literal (bytesOf "FGYY"), .comma, .literal (bytesOf "iMac Ete"), .closing,
        .comma] := by
  obtain ⟨printed, member, read⟩ := descriptions_read_iff (render_oneModelDatabase accentedRegistry)
  have plain : Text.removeAccents accentedProduct.name = "iMac Ete" := by decide +kernel
  have row := (read "FGYY" accentedProduct).mpr
    ⟨List.all_eq_true.mp (by decide), List.all_eq_true.mp (by decide)⟩
  rw [initializer, plain] at row
  exact ⟨_, render_oneModelDatabase _, printed, (member _ _).mpr ⟨by decide, by decide⟩, row⟩

def markedProduct : Product := ⟨"iMac", .ok⟩

def markedRegistry : Registry := OrderedMap.empty.set "FG\"Y" markedProduct

/-- A code with a quotation mark is accepted in a registry, and is put into the tables as it is. -/
theorem marked_code_misread :
    markedRegistry.toJson = "\x7b\"FG\\\"Y\":\x7b\"name\":\"iMac\",\"status\":\"ok\"\x7d\x7d" ∧
    Registry.readJson? markedRegistry.toJson.toUTF8 = some markedRegistry ∧
    ∃ header, render oneModelDatabase markedRegistry = .ok header ∧
      (∃ before after, header = before ++ descriptionTable markedRegistry ++ after) ∧
      ("FG\"Y", markedProduct) ∈ described markedRegistry ∧
      descriptionRow "FG\"Y" markedProduct = " \x7b\"FG\"Y\", \"iMac\"\x7d,\n" ∧
      tokens? (descriptionRow "FG\"Y" markedProduct) ≠ some (initializer "FG\"Y" markedProduct) := by
  have accepted : Registry.readJson? markedRegistry.toJson.toUTF8 = some markedRegistry := by
    rw [Registry.readJson?, Json.read?_of_denotes markedRegistry.denotes_toJson, Option.bind_some,
      Registry.ofJson?_json]
  refine ⟨by decide +kernel, accepted, _, render_oneModelDatabase _, text_eq_descriptions _ _,
    mem_described_iff.mpr ⟨by decide, by decide⟩, by decide +kernel, fun read => ?_⟩
  have plain := (tokens?_descriptionRow_iff _ _).mp read
  exact absurd (plain.1 '"' (by decide)) (by decide)

end SerialTable

end ModelCatalog
