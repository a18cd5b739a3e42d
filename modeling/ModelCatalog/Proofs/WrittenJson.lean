import ModelCatalog.Json.Writer
import ModelCatalog.Proofs.JsonDocuments

/-! Written JSON, read back. A quoted text is read as the text that it was made from, and an object
as its members in their order; what stands behind a value has no say in how it is read. -/
namespace ModelCatalog.Json

theorem symbols_toUTF8 (text : String) : symbols text.toUTF8 = text.toList.map some := by
  have valid : String.fromUTF8? text.toUTF8 = some text := by
    simp only [String.fromUTF8?, String.toUTF8_eq_toByteArray, dif_pos text.isValidUTF8]
    rfl
  rw [symbols, valid]

section Quotes

theorem hexValue?_hexDigit : ∀ n < 16, hexValue? (some (hexDigit n)) = some n := by decide

theorem hexCode?_of_control {n : Nat} (control : n < 0x20) :
    hexCode? (some '0') (some '0') (some (hexDigit (n / 16))) (some (hexDigit (n % 16))) =
      some n := by
  have zero : hexValue? (some '0') = some 0 := rfl
  have high := hexValue?_hexDigit (n / 16) (by omega)
  have low := hexValue?_hexDigit (n % 16) (by omega)
  simp only [hexCode?, zero, high, low, Option.bind_eq_bind, Option.bind_some, Option.pure_def]
  congr 1
  omega

/-- An escaped control character is no half of a surrogate pair, whatever follows it. -/
theorem textOf?_code_of_control {n : Nat} (control : n < 0x20) (more : List Piece) :
    textOf? (.code n :: more) = (textOf? more).map (Char.ofNat n :: ·) := by
  have high : isHighSurrogate n = false := by simp [isHighSurrogate]; omega
  have low : isLowSurrogate n = false := by simp [isLowSurrogate]; omega
  cases more with
  | nil => simp [textOf?, high, low]
  | cons piece more => cases piece <;> simp [textOf?, high, low]

theorem spells_escape (c : Char) : ∃ piece,
    (∀ more, textOf? (piece :: more) = (textOf? more).map (c :: ·)) ∧
    SpellsPiece ((escape c).map some) piece := by
  have itself (more : List Piece) :
      textOf? (.symbol (some c) :: more) = (textOf? more).map (c :: ·) := by rw [textOf?]
  unfold escape
  split
  -- The seven characters with a short escape come first, then all others.
  any_goals exact ⟨_, itself, .short rfl⟩
  next quote backslash _ _ _ _ _ =>
    split
    next control =>
      refine ⟨.code c.toNat, fun more => ?_, .code (hexCode?_of_control control)⟩
      rw [textOf?_code_of_control control, Char.ofNat_toNat]
    next visible => exact ⟨_, itself, .plain visible quote backslash⟩

theorem spells_flatMap_escape (cs : List Char) : ∃ pieces,
    textOf? pieces = some cs ∧ SpellsPieces ((cs.flatMap escape).map some) pieces := by
  induction cs with
  | nil => exact ⟨[], rfl, .nil⟩
  | cons c cs ih =>
    obtain ⟨pieces, text, others⟩ := ih
    obtain ⟨piece, stands, first⟩ := spells_escape c
    refine ⟨piece :: pieces, ?_, ?_⟩
    · rw [stands, text, Option.map_some]
    · rw [List.flatMap_cons, List.map_append]
      exact .cons first others

theorem spells_quote (s : String) : SpellsLiteral ((quote s).map some) (some s) := by
  obtain ⟨pieces, text, spelled⟩ := spells_flatMap_escape s.toList
  have literal := SpellsLiteral.quoted spelled
  simpa [quote, text] using literal

theorem string?_flatMap_escape (s : String) (rest : List Symbol) :
    string? ((s.toList.flatMap escape).map some ++ some '"' :: rest) = some (some s, rest) :=
  string?_eq_some_iff.mpr ⟨_, by simp [quote], spells_quote s⟩

end Quotes

section Gaps

/-- Blanks that a written document has between its parts. -/
structure Gap where
  chars : List Char
  blank : (chars.all fun c => isBlank (some c)) = true := by decide

theorem Gap.blanks (gap : Gap) : Blanks (gap.chars.map some) := by
  intro s member
  obtain ⟨c, inside, rfl⟩ := List.mem_map.mp member
  exact List.all_eq_true.mp gap.blank c inside

end Gaps

/-- A text that is read as the value with whatever behind it, and with no more fuel than it has
characters. -/
def Denotes (text : List Char) (value : Json) : Prop :=
  ∀ fuel rest, text.length ≤ fuel → value? fuel (text.map some ++ rest) = some (value, rest)

theorem denotes_quote (s : String) : Denotes (quote s) (.string (some s)) := by
  intro fuel rest enough
  obtain ⟨fuel, rfl⟩ : ∃ less, fuel = less + 1 := ⟨fuel - 1, by simp [quote] at enough; omega⟩
  have read := string?_flatMap_escape s rest
  simp [quote, value?, skipBlanks_cons, isBlank, read]

theorem read?_of_denotes {text : String} {value : Json} (denotes : Denotes text.toList value) :
    read? text.toUTF8 = some value := by
  have read := denotes (text.toList.length + 1) [] (Nat.le_succ _)
  rw [List.append_nil] at read
  simp only [read?, symbols_toUTF8, List.length_map, read]
  rfl

/-- Where a written object has blanks. -/
structure Spacing where
  behindComma : Gap
  beforeName : Gap
  behindColon : Gap
  insideBraces : Gap

namespace Spacing

variable (spacing : Spacing)

def member (name : String) (value : List Char) : List Char :=
  spacing.beforeName.chars ++ quote name ++ ':' :: spacing.behindColon.chars ++ value

def members (members : List (String × List Char)) : List Char :=
  join (',' :: spacing.behindComma.chars) (members.map fun pair => spacing.member pair.1 pair.2)

def object (members : List (String × List Char)) : List Char :=
  '\x7b' :: spacing.insideBraces.chars ++ spacing.members members ++
    spacing.insideBraces.chars ++ ['\x7d']

theorem length_member (name : String) (value : List Char) :
    value.length + 3 ≤ (spacing.member name value).length := by
  simp [member, quote]
  omega

/-- What is read behind a member: more of them behind a comma, or a closing brace. -/
def behindMember? (fuel : Nat) (read : Option String × Json) :
    List Symbol → Option (List (Option String × Json) × List Symbol)
  | some ',' :: rest => do
    let (more, rest) ← members? fuel rest
    return (read :: more, rest)
  | some '\x7d' :: rest => return ([read], rest)
  | _ => none

theorem behindMember?_comma (fuel : Nat) (read : Option String × Json) (rest : List Symbol) :
    behindMember? fuel read (some ',' :: rest) =
      (members? fuel rest).bind fun found => some (read :: found.1, found.2) := rfl

theorem members?_member {fuel : Nat} {name : String} {text : List Char} {value : Json}
    (denotes : Denotes text value) (enough : text.length ≤ fuel) (rest : List Symbol) :
    members? (fuel + 1) ((spacing.member name text).map some ++ rest) =
      behindMember? fuel (some name, value) (skipBlanks rest) := by
  have parts : (spacing.member name text).map some ++ rest =
      spacing.beforeName.chars.map some ++ some '"' :: ((name.toList.flatMap escape).map some ++
        some '"' :: some ':' ::
          (spacing.behindColon.chars.map some ++ (text.map some ++ rest))) := by
    simp [member, quote]
  have colon (rest : List Symbol) : skipBlanks (some ':' :: rest) = some ':' :: rest :=
    skipBlanks_cons rfl rest
  rw [parts, members?_append spacing.beforeName.blanks, members?, skipBlanks_cons rfl]
  simp only [string?_flatMap_escape, colon, value?_append spacing.behindColon.blanks,
    denotes fuel rest enough, Option.bind_eq_bind, Option.bind_some]
  rfl

variable {α : Type} (name : α → String) (text : α → List Char) (value : α → Json)

theorem members?_members (first : α) (others : List α)
    (denotes : ∀ a ∈ first :: others, Denotes (text a) (value a)) (fuel : Nat)
    (rest : List Symbol)
    (enough : (spacing.members ((first :: others).map fun a => (name a, text a))).length ≤ fuel) :
    members? fuel ((spacing.members ((first :: others).map fun a => (name a, text a))).map some ++
        (spacing.insideBraces.chars.map some ++ some '\x7d' :: rest)) =
      some ((first :: others).map fun a => (some (name a), value a), rest) := by
  have long (a : α) := spacing.length_member (name a) (text a)
  induction others generalizing first fuel with
  | nil =>
    simp only [members, List.map_cons, List.map_nil, join] at enough ⊢
    obtain ⟨fuel, rfl⟩ : ∃ less, fuel = less + 1 := ⟨fuel - 1, by have := long first; omega⟩
    have denoted := denotes first (List.mem_cons_self ..)
    have fits : (text first).length ≤ fuel := by have := long first; omega
    rw [spacing.members?_member denoted fits, skipBlanks_append spacing.insideBraces.blanks,
      skipBlanks_cons rfl]
    rfl
  | cons second others ih =>
    have inner := ih second fun a member => denotes a (List.mem_cons_of_mem _ member)
    simp only [members, List.map_cons, join, List.length_append, List.length_cons] at enough ⊢ inner
    obtain ⟨fuel, rfl⟩ : ∃ less, fuel = less + 1 := ⟨fuel - 1, by have := long first; omega⟩
    have denoted := denotes first (List.mem_cons_self ..)
    have fits : (text first).length ≤ fuel := by have := long first; omega
    simp only [List.map_append, List.map_cons, List.append_assoc, List.cons_append] at inner ⊢
    rw [spacing.members?_member denoted fits, skipBlanks_cons rfl, behindMember?_comma,
      members?_append spacing.behindComma.blanks, inner fuel (by omega)]
    rfl

/-- The first member begins with a quote, so an object with members is not taken for an empty
one. -/
theorem skipBlanks_members {written : List (String × List Char)} (nonempty : written ≠ [])
    (rest : List Symbol) :
    ∃ more, skipBlanks ((spacing.members written).map some ++ rest) = some '"' :: more := by
  obtain ⟨first, others, rfl⟩ := List.exists_cons_of_ne_nil nonempty
  cases others <;>
    simp [members, join, member, quote, skipBlanks_append spacing.beforeName.blanks,
      skipBlanks_cons, isBlank]

theorem denotes_object (items : List α) (denotes : ∀ a ∈ items, Denotes (text a) (value a)) :
    Denotes (spacing.object (items.map fun a => (name a, text a)))
      (.object (items.map fun a => (some (name a), value a))) := by
  intro fuel rest enough
  obtain ⟨fuel, rfl⟩ : ∃ less, fuel = less + 1 := ⟨fuel - 1, by simp [object] at enough; omega⟩
  simp only [object, List.map_append, List.map_cons, List.map_nil, List.append_assoc,
    List.cons_append, List.nil_append]
  cases items with
  | nil =>
    refine value?_emptyObject ?_
    simp only [members, join, List.map_nil, List.nil_append,
      skipBlanks_append spacing.insideBraces.blanks]
    exact skipBlanks_cons rfl rest
  | cons first others =>
    have read := spacing.members?_members name text value first others denotes fuel rest
      (by simp only [object, List.length_append, List.length_cons] at enough; omega)
    have nonempty : (first :: others).map (fun a => (name a, text a)) ≠ [] := by simp
    obtain ⟨more, quoted⟩ := spacing.skipBlanks_members nonempty
      (spacing.insideBraces.chars.map some ++ some '\x7d' :: rest)
    rw [← skipBlanks_append spacing.insideBraces.blanks] at quoted
    rw [value?_object fun _ => quoted ▸ nofun, members?_append spacing.insideBraces.blanks, read]
    rfl

end Spacing

section Layouts

variable {α : Type} (name : α → String) (text : α → List Char) (value : α → Json)

/-- No blanks at all. -/
def Spacing.compact : Spacing where
  behindComma := { chars := [] }
  beforeName := { chars := [] }
  behindColon := { chars := [] }
  insideBraces := { chars := [] }

/-- Each member on a line of its own. -/
def Spacing.indented : Spacing where
  behindComma := { chars := ['\n'] }
  beforeName := { chars := [' '] }
  behindColon := { chars := [' '] }
  insideBraces := { chars := ['\n'] }

theorem compactObject_eq (members : List (String × List Char)) :
    compactObject members = Spacing.compact.object members := by
  simp [compactObject, Spacing.object, Spacing.members, Spacing.member, Spacing.compact]

theorem denotes_compactObject (items : List α) (denotes : ∀ a ∈ items, Denotes (text a) (value a)) :
    Denotes (compactObject (items.map fun a => (name a, text a)))
      (.object (items.map fun a => (some (name a), value a))) := by
  rw [compactObject_eq]
  exact Spacing.compact.denotes_object name text value items denotes

/-- Without members there are no lines either. -/
theorem denotes_indentedObject (items : List α)
    (denotes : ∀ a ∈ items, Denotes (text a) (value a)) :
    Denotes (indentedObject (items.map fun a => (name a, text a)))
      (.object (items.map fun a => (some (name a), value a))) := by
  cases items with
  | nil => exact Spacing.compact.denotes_object name text value [] denotes
  | cons first others =>
    have read := Spacing.indented.denotes_object name text value (first :: others) denotes
    simpa [indentedObject, Spacing.object, Spacing.members, Spacing.member, Spacing.indented]
      using read

end Layouts

end ModelCatalog.Json
