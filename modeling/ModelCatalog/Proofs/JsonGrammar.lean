import ModelCatalog.Json.Reader

/-! The grammar of JSON, apart from the reader: which texts spell a value. The literals and the
numbers of the grammar are read here, each up to where it ends. -/
namespace ModelCatalog.Json

def Blanks (gap : List Symbol) : Prop := ∀ s ∈ gap, isBlank s = true

/-- A symbol that stands for itself in a literal, or an escape. -/
inductive SpellsPiece : List Symbol → Piece → Prop
  | stray : SpellsPiece [none] (.symbol none)
  | plain {c : Char} (visible : ¬ c.toNat < 0x20) (quote : c ≠ '"') (backslash : c ≠ '\\') :
      SpellsPiece [some c] (.symbol (some c))
  | short {e c : Char} (known : shortEscape? e = some c) :
      SpellsPiece [some '\\', some e] (.symbol (some c))
  | code {a b c d : Symbol} {n : Nat} (known : hexCode? a b c d = some n) :
      SpellsPiece [some '\\', some 'u', a, b, c, d] (.code n)

inductive SpellsPieces : List Symbol → List Piece → Prop
  | nil : SpellsPieces [] []
  | cons {text rest : List Symbol} {piece : Piece} {pieces : List Piece}
      (first : SpellsPiece text piece) (others : SpellsPieces rest pieces) :
      SpellsPieces (text ++ rest) (piece :: pieces)

/-- A literal between its quotes, and the text that it denotes, if any. -/
inductive SpellsLiteral : List Symbol → Option String → Prop
  | quoted {body : List Symbol} {pieces : List Piece} (inside : SpellsPieces body pieces) :
      SpellsLiteral (some '"' :: (body ++ [some '"'])) ((textOf? pieces).map String.ofList)

def Digits (row : List Symbol) : Prop := row ≠ [] ∧ ∀ s ∈ row, isDigit s = true

/-- No leading zeros. -/
inductive SpellsInteger : List Symbol → Prop
  | zero : SpellsInteger [some '0']
  | digits {row : List Symbol} (digits : Digits row) (leading : row.head? ≠ some (some '0')) :
      SpellsInteger row

inductive SpellsFraction : List Symbol → Prop
  | absent : SpellsFraction []
  | digits {row : List Symbol} (digits : Digits row) : SpellsFraction (some '.' :: row)

inductive SpellsExponent : List Symbol → Prop
  | absent : SpellsExponent []
  | digits {mark : Char} {sign row : List Symbol} (marked : mark = 'e' ∨ mark = 'E')
      (signed : sign = [] ∨ sign = [some '+'] ∨ sign = [some '-']) (digits : Digits row) :
      SpellsExponent (some mark :: (sign ++ row))

inductive SpellsNumber : List Symbol → Prop
  | parts {sign integer fraction exponent : List Symbol} (signed : sign = [] ∨ sign = [some '-'])
      (whole : SpellsInteger integer) (tenths : SpellsFraction fraction)
      (power : SpellsExponent exponent) :
      SpellsNumber (sign ++ (integer ++ (fraction ++ exponent)))

structure Padded where
  front : List Symbol
  text : List Symbol
  back : List Symbol
  frontBlank : Blanks front
  backBlank : Blanks back

def Padded.symbols (p : Padded) : List Symbol := p.front ++ (p.text ++ p.back)

/-- A name and a value with a colon between them. -/
structure Member where
  name : Padded
  key : Option String
  value : Padded
  json : Json

def Member.symbols (m : Member) : List Symbol := m.name.symbols ++ some ':' :: m.value.symbols

def commaSeparated : List (List Symbol) → List Symbol
  | [] => []
  | [text] => text
  | text :: rest => text ++ some ',' :: commaSeparated rest

inductive Spells : List Symbol → Json → Prop
  | null : Spells ("null".toList.map some) .null
  | boolean (b : Bool) : Spells ((if b then "true" else "false").toList.map some) (.boolean b)
  | number {text : List Symbol} (number : SpellsNumber text) : Spells text .number
  | string {text : List Symbol} {value : Option String} (literal : SpellsLiteral text value) :
      Spells text (.string value)
  | emptyArray {gap : List Symbol} (blank : Blanks gap) :
      Spells (some '[' :: (gap ++ [some ']'])) (.array [])
  | array {items : List (Padded × Json)} (nonempty : items ≠ [])
      (each : ∀ item ∈ items, Spells item.1.text item.2) :
      Spells (some '[' :: (commaSeparated (items.map fun item => item.1.symbols) ++ [some ']']))
        (.array (items.map Prod.snd))
  | emptyObject {gap : List Symbol} (blank : Blanks gap) :
      Spells (some '\x7b' :: (gap ++ [some '\x7d'])) (.object [])
  | object {members : List Member} (nonempty : members ≠ [])
      (names : ∀ m ∈ members, SpellsLiteral m.name.text m.key)
      (each : ∀ m ∈ members, Spells m.value.text m.json) :
      Spells (some '\x7b' :: (commaSeparated (members.map Member.symbols) ++ [some '\x7d']))
        (.object (members.map fun m => (m.key, m.json)))

section Gaps

variable {gap rest : List Symbol}

theorem skipBlanks_cons {s : Symbol} (solid : isBlank s = false) (rest : List Symbol) :
    skipBlanks (s :: rest) = s :: rest := by
  simp [skipBlanks, solid]

theorem skipBlanks_append (blank : Blanks gap) (rest : List Symbol) :
    skipBlanks (gap ++ rest) = skipBlanks rest :=
  List.dropWhile_append_of_pos blank

theorem exists_gap (symbols : List Symbol) :
    ∃ gap, Blanks gap ∧ symbols = gap ++ skipBlanks symbols :=
  ⟨symbols.takeWhile isBlank, List.all_eq_true.mp List.all_takeWhile,
    List.takeWhile_append_dropWhile.symm⟩

theorem skipBlanks_skipBlanks (symbols : List Symbol) :
    skipBlanks (skipBlanks symbols) = skipBlanks symbols := by
  obtain ⟨gap, blank, split⟩ := exists_gap symbols
  rw [← skipBlanks_append blank (skipBlanks symbols), ← split]

theorem skipBlanks_eq_nil_iff {symbols : List Symbol} :
    skipBlanks symbols = [] ↔ Blanks symbols := by
  constructor
  · intro nothing
    obtain ⟨gap, blank, split⟩ := exists_gap symbols
    rw [nothing, List.append_nil] at split
    exact split ▸ blank
  · intro blank
    rw [← List.append_nil symbols, skipBlanks_append blank]
    rfl

theorem value?_skipBlanks (fuel : Nat) (symbols : List Symbol) :
    value? fuel (skipBlanks symbols) = value? fuel symbols := by
  cases fuel with
  | zero => rfl
  | succ fuel => rw [value?, value?, skipBlanks_skipBlanks]

theorem items?_skipBlanks (fuel : Nat) (symbols : List Symbol) :
    items? fuel (skipBlanks symbols) = items? fuel symbols := by
  cases fuel with
  | zero => rfl
  | succ fuel => rw [items?, items?, value?_skipBlanks]

theorem members?_skipBlanks (fuel : Nat) (symbols : List Symbol) :
    members? fuel (skipBlanks symbols) = members? fuel symbols := by
  cases fuel with
  | zero => rfl
  | succ fuel => rw [members?, members?, skipBlanks_skipBlanks]

theorem value?_append (blank : Blanks gap) (fuel : Nat) (rest : List Symbol) :
    value? fuel (gap ++ rest) = value? fuel rest := by
  rw [← value?_skipBlanks, skipBlanks_append blank, value?_skipBlanks]

theorem members?_append (blank : Blanks gap) (fuel : Nat) (rest : List Symbol) :
    members? fuel (gap ++ rest) = members? fuel rest := by
  rw [← members?_skipBlanks, skipBlanks_append blank, members?_skipBlanks]

end Gaps

section Literals

variable {symbols rest body text : List Symbol} {pieces : List Piece} {piece : Piece} {n : Nat}
  {value : Option String}

theorem pieces?_plain {c : Char} (visible : ¬ c.toNat < 0x20) (quote : c ≠ '"')
    (backslash : c ≠ '\\') (rest : List Symbol) :
    pieces? (some c :: rest) =
      (pieces? rest).map fun read => (.symbol (some c) :: read.1, read.2) := by
  rw [pieces?]
  · simp only [visible, backslash, decide_false, beq_iff_eq, Bool.false_or, if_false]
    cases pieces? rest <;> rfl
  · exact quote
  · exact fun _ _ _ _ _ _ => backslash
  · exact fun _ _ _ => backslash

theorem pieces?_piece (spelled : SpellsPiece text piece) (rest : List Symbol) :
    pieces? (text ++ rest) = (pieces? rest).map fun read => (piece :: read.1, read.2) := by
  cases spelled with
  | stray =>
    rw [List.singleton_append, pieces?]
    cases pieces? rest <;> rfl
  | plain visible quote backslash => exact pieces?_plain visible quote backslash rest
  | short known =>
    rw [List.cons_append, List.singleton_append, pieces?]
    · rw [known]
      cases pieces? rest <;> rfl
    · rintro _ _ _ _ _ _ rfl
      cases known
  | code known =>
    simp only [List.cons_append, List.nil_append]
    rw [pieces?, known]
    cases pieces? rest <;> rfl

theorem pieces?_of_spells (spelled : SpellsPieces body pieces) (rest : List Symbol) :
    pieces? (body ++ some '"' :: rest) = some (pieces, rest) := by
  induction spelled with
  | nil => rw [List.nil_append, pieces?]
  | cons first _ ih => rw [List.append_assoc, pieces?_piece first, ih, Option.map_some]

theorem spells_of_piece_behind {tail : List Symbol} (first : SpellsPiece text piece)
    (behind : ∀ {pieces : List Piece}, pieces? tail = some (pieces, rest) →
      ∃ body, tail = body ++ some '"' :: rest ∧ SpellsPieces body pieces)
    (read : (do let (more, rest) ← pieces? tail; return (piece :: more, rest)) =
      some (pieces, rest)) :
    ∃ body, text ++ tail = body ++ some '"' :: rest ∧ SpellsPieces body pieces := by
  obtain ⟨⟨more, _⟩, inside, made⟩ := Option.bind_eq_some_iff.mp read
  obtain ⟨rfl, rfl⟩ := Prod.mk.inj (Option.some.inj made)
  obtain ⟨body, rfl, others⟩ := behind inside
  exact ⟨text ++ body, by simp, .cons first others⟩

theorem spells_of_pieces? (read : pieces? symbols = some (pieces, rest)) :
    ∃ body, symbols = body ++ some '"' :: rest ∧ SpellsPieces body pieces := by
  fun_induction pieces? symbols generalizing pieces with
  | case1 => cases read
  | case2 =>
    obtain ⟨rfl, rfl⟩ := Prod.mk.inj (Option.some.inj read)
    exact ⟨[], rfl, .nil⟩
  | case3 a b c d tail ih =>
    obtain ⟨code, known, read⟩ := Option.bind_eq_some_iff.mp read
    exact spells_of_piece_behind (.code known) ih read
  | case4 e tail _ ih =>
    obtain ⟨c, known, read⟩ := Option.bind_eq_some_iff.mp read
    exact spells_of_piece_behind (.short known) ih read
  | case5 tail ih => exact spells_of_piece_behind .stray ih read
  | case6 => cases read
  | case7 c tail quote _ _ plain ih =>
    have visible : ¬ c.toNat < 0x20 := fun control => plain (by simp [control])
    have backslash : c ≠ '\\' := fun same => plain (by simp [same])
    exact spells_of_piece_behind (.plain visible quote backslash) ih read

theorem string?_eq_some_iff : string? symbols = some (value, rest) ↔
    ∃ text, some '"' :: symbols = text ++ rest ∧ SpellsLiteral text value := by
  constructor
  · intro read
    obtain ⟨⟨pieces, _⟩, inside, made⟩ := Option.bind_eq_some_iff.mp read
    obtain ⟨rfl, rfl⟩ := Prod.mk.inj (Option.some.inj made)
    obtain ⟨body, rfl, spelled⟩ := spells_of_pieces? inside
    exact ⟨_, by simp, .quoted spelled⟩
  · rintro ⟨_, split, ⟨spelled⟩⟩
    simp only [List.cons_append, List.cons.injEq, true_and, List.append_assoc,
      List.nil_append] at split
    simp [string?, split, pieces?_of_spells spelled]

end Literals

section Numbers

/-- The first symbol, if there is one, is not of that kind. -/
def Stops (kind : Symbol → Bool) (symbols : List Symbol) : Prop :=
  ∀ s ∈ symbols.head?, kind s = false

def isPoint (s : Symbol) : Bool := s == some '.'

def isMark (s : Symbol) : Bool := s == some 'e' || s == some 'E'

/-- A symbol that would go on with a number. -/
def continuesNumber (s : Symbol) : Bool := isDigit s || isPoint s || isMark s

variable {kind : Symbol → Bool} {symbols rest row text integer fraction exponent : List Symbol}

theorem Stops.append (inside : Stops kind text) (behind : Stops kind rest) :
    Stops kind (text ++ rest) := by
  cases text with
  | nil => exact behind
  | cons s text => exact inside

theorem Stops.dropWhile_eq (stops : Stops kind rest) : rest.dropWhile kind = rest := by
  cases rest with
  | nil => rfl
  | cons s rest =>
    have other : kind s = false := stops s rfl
    simp [other]

theorem stops_dropWhile (kind : Symbol → Bool) (symbols : List Symbol) :
    Stops kind (symbols.dropWhile kind) := by
  intro s first
  have stopped := List.head?_dropWhile_not kind symbols
  rw [Option.mem_def.mp first] at stopped
  simpa using stopped

theorem digits?_eq_some_iff : digits? symbols = some rest ↔
    ∃ row, symbols = row ++ rest ∧ Digits row ∧ Stops isDigit rest := by
  constructor
  · intro read
    cases symbols with
    | nil => cases read
    | cons s tail =>
      rw [digits?] at read
      split at read
      · next digit =>
        obtain rfl := Option.some.inj read
        refine ⟨s :: tail.takeWhile isDigit, by simp, ⟨by simp, ?_⟩, stops_dropWhile isDigit tail⟩
        exact List.forall_mem_cons.mpr ⟨digit, List.all_eq_true.mp List.all_takeWhile⟩
      · cases read
  · rintro ⟨row, rfl, ⟨nonempty, digits⟩, stops⟩
    obtain ⟨s, more, rfl⟩ := List.exists_cons_of_ne_nil nonempty
    obtain ⟨digit, others⟩ := List.forall_mem_cons.mp digits
    rw [List.cons_append, digits?, if_pos digit, List.dropWhile_append_of_pos others,
      stops.dropWhile_eq]

theorem Digits.exists_cons (digits : Digits row) :
    ∃ s more, row = s :: more ∧ isDigit s = true := by
  obtain ⟨nonempty, digits⟩ := digits
  obtain ⟨s, more, rfl⟩ := List.exists_cons_of_ne_nil nonempty
  exact ⟨s, more, rfl, digits s (List.mem_cons_self ..)⟩

theorem cons_ne_of_isDigit {s t : Symbol} {more : List Symbol} (digit : isDigit s = true)
    (other : isDigit t = false) (tail : List Symbol) : s :: more ≠ t :: tail := by
  intro same
  rw [(List.cons.inj same).1, other] at digit
  cases digit

theorem stops_cons {s : Symbol} : Stops kind (s :: rest) ↔ kind s = false := by simp [Stops]

theorem integer?_zero_eq_some_iff :
    integer? (some '0' :: symbols) = some rest ↔ symbols = rest ∧ Stops isDigit rest := by
  cases symbols with
  | nil =>
    have stops : Stops isDigit [] := by simp [Stops]
    grind [integer?]
  | cons s symbols =>
    cases digit : isDigit s with
    | true => grind [integer?, stops_cons]
    | false => grind [integer?, stops_cons]

theorem integer?_eq_some_iff : integer? symbols = some rest ↔
    ∃ text, symbols = text ++ rest ∧ SpellsInteger text ∧ Stops isDigit rest := by
  by_cases zero : symbols.head? = some (some '0')
  · obtain ⟨tail, rfl⟩ := List.head?_eq_some_iff.mp zero
    rw [integer?_zero_eq_some_iff]
    constructor
    · rintro ⟨rfl, stops⟩
      exact ⟨_, rfl, .zero, stops⟩
    · rintro ⟨_, split, spelled, stops⟩
      cases spelled with
      | zero => exact ⟨(List.cons.inj split).2, stops⟩
      | digits digits leading =>
        obtain ⟨s, more, rfl, _⟩ := digits.exists_cons
        simp [(List.cons.inj split).1] at leading
  · have same : integer? symbols = digits? symbols := by
      rw [integer?]
      rintro tail rfl
      exact zero rfl
    rw [same, digits?_eq_some_iff]
    constructor
    · rintro ⟨row, rfl, digits, stops⟩
      obtain ⟨s, more, rfl, _⟩ := digits.exists_cons
      exact ⟨_, rfl, .digits digits zero, stops⟩
    · rintro ⟨row, rfl, spelled, stops⟩
      cases spelled with
      | zero => simp at zero
      | digits digits _ => exact ⟨row, rfl, digits, stops⟩

theorem spells_of_fraction? (read : fraction? symbols = some rest) :
    ∃ text, symbols = text ++ rest ∧ SpellsFraction text := by
  unfold fraction? at read
  split at read
  · obtain ⟨row, rfl, digits, _⟩ := digits?_eq_some_iff.mp read
    exact ⟨_, rfl, .digits digits⟩
  · obtain rfl := Option.some.inj read
    exact ⟨[], rfl, .absent⟩

theorem fraction?_of_spells (spelled : SpellsFraction text) (digit : Stops isDigit rest)
    (point : Stops isPoint rest) : fraction? (text ++ rest) = some rest := by
  cases spelled with
  | absent =>
    rw [List.nil_append, fraction?]
    rintro tail rfl
    simp [Stops, isPoint] at point
  | digits digits => exact digits?_eq_some_iff.mpr ⟨_, rfl, digits, digit⟩

/-- Skips digits that may have a sign. -/
def signedDigits? : List Symbol → Option (List Symbol)
  | some '+' :: rest | some '-' :: rest => digits? rest
  | symbols => digits? symbols

theorem exponent?_mark {mark : Char} (marked : mark = 'e' ∨ mark = 'E') (symbols : List Symbol) :
    exponent? (some mark :: symbols) = signedDigits? symbols := by
  rcases marked with rfl | rfl <;> unfold signedDigits? <;> split <;> rw [exponent?] <;> assumption

theorem signedDigits?_eq_some_iff : signedDigits? symbols = some rest ↔
    ∃ sign row, symbols = sign ++ row ++ rest ∧
      (sign = [] ∨ sign = [some '+'] ∨ sign = [some '-']) ∧ Digits row ∧ Stops isDigit rest := by
  constructor
  · intro read
    unfold signedDigits? at read
    split at read
    · obtain ⟨row, rfl, digits, stops⟩ := digits?_eq_some_iff.mp read
      exact ⟨[some '+'], row, rfl, by simp, digits, stops⟩
    · obtain ⟨row, rfl, digits, stops⟩ := digits?_eq_some_iff.mp read
      exact ⟨[some '-'], row, rfl, by simp, digits, stops⟩
    · obtain ⟨row, rfl, digits, stops⟩ := digits?_eq_some_iff.mp read
      exact ⟨[], row, rfl, by simp, digits, stops⟩
  · rintro ⟨sign, row, rfl, signed, digits, stops⟩
    have read : digits? (row ++ rest) = some rest :=
      digits?_eq_some_iff.mpr ⟨row, rfl, digits, stops⟩
    rcases signed with rfl | rfl | rfl
    · obtain ⟨s, more, rfl, digit⟩ := digits.exists_cons
      rw [List.nil_append, signedDigits?, read]
      · exact cons_ne_of_isDigit digit rfl
      · exact cons_ne_of_isDigit digit rfl
    · exact read
    · exact read

theorem spells_of_exponent? (read : exponent? symbols = some rest) :
    ∃ text, symbols = text ++ rest ∧ SpellsExponent text := by
  by_cases marked : ∃ mark tail, symbols = some mark :: tail ∧ (mark = 'e' ∨ mark = 'E')
  · obtain ⟨mark, tail, rfl, marked⟩ := marked
    rw [exponent?_mark marked] at read
    obtain ⟨sign, row, rfl, signed, digits, _⟩ := signedDigits?_eq_some_iff.mp read
    exact ⟨_, rfl, .digits marked signed digits⟩
  · rw [exponent?] at read
    · obtain rfl := Option.some.inj read
      exact ⟨[], rfl, .absent⟩
    · rintro tail rfl
      exact marked ⟨_, _, rfl, .inl rfl⟩
    · rintro tail rfl
      exact marked ⟨_, _, rfl, .inr rfl⟩

theorem exponent?_of_spells (spelled : SpellsExponent text) (digit : Stops isDigit rest)
    (mark : Stops isMark rest) : exponent? (text ++ rest) = some rest := by
  cases spelled with
  | absent =>
    rw [List.nil_append, exponent?]
    · rintro tail rfl
      simp [Stops, isMark] at mark
    · rintro tail rfl
      simp [Stops, isMark] at mark
  | digits marked signed digits =>
    rw [List.cons_append, exponent?_mark marked]
    exact signedDigits?_eq_some_iff.mpr ⟨_, _, rfl, signed, digits, digit⟩

theorem spells_of_parts (read : ((integer? symbols).bind fraction?).bind exponent? = some rest) :
    ∃ integer fraction exponent, symbols = integer ++ (fraction ++ exponent) ++ rest ∧
      SpellsInteger integer ∧ SpellsFraction fraction ∧ SpellsExponent exponent := by
  obtain ⟨_, read, last⟩ := Option.bind_eq_some_iff.mp read
  obtain ⟨_, first, next⟩ := Option.bind_eq_some_iff.mp read
  obtain ⟨integer, rfl, whole, _⟩ := integer?_eq_some_iff.mp first
  obtain ⟨fraction, rfl, tenths⟩ := spells_of_fraction? next
  obtain ⟨exponent, rfl, power⟩ := spells_of_exponent? last
  exact ⟨integer, fraction, exponent, by simp, whole, tenths, power⟩

theorem spells_of_number? (read : number? symbols = some rest) :
    ∃ text, symbols = text ++ rest ∧ SpellsNumber text := by
  unfold number? at read
  split at read
  · obtain ⟨_, _, _, rfl, whole, tenths, power⟩ := spells_of_parts read
    exact ⟨_, by simp, .parts (.inr rfl) whole tenths power⟩
  · obtain ⟨_, _, _, rfl, whole, tenths, power⟩ := spells_of_parts read
    exact ⟨_, by simp, .parts (.inl rfl) whole tenths power⟩

theorem stops_continuesNumber_iff : Stops continuesNumber rest ↔
    Stops isDigit rest ∧ Stops isPoint rest ∧ Stops isMark rest := by
  cases rest <;> simp [Stops, continuesNumber, and_assoc]

theorem SpellsInteger.exists_cons (spelled : SpellsInteger text) :
    ∃ s more, text = s :: more ∧ isDigit s = true := by
  cases spelled with
  | zero => exact ⟨_, _, rfl, by decide⟩
  | digits digits _ => exact digits.exists_cons

theorem SpellsFraction.stops (spelled : SpellsFraction text) : Stops isDigit text := by
  cases spelled with
  | absent => simp [Stops]
  | digits _ => exact stops_cons.mpr (by decide)

theorem SpellsExponent.stops (spelled : SpellsExponent text) :
    Stops isDigit text ∧ Stops isPoint text := by
  cases spelled with
  | absent => simp [Stops]
  | digits marked _ _ =>
    rcases marked with rfl | rfl <;> exact ⟨stops_cons.mpr (by decide), stops_cons.mpr (by decide)⟩

theorem parts_of_spells (whole : SpellsInteger integer) (tenths : SpellsFraction fraction)
    (power : SpellsExponent exponent) (stops : Stops continuesNumber rest) :
    ((integer? (integer ++ (fraction ++ (exponent ++ rest)))).bind fraction?).bind exponent? =
      some rest := by
  obtain ⟨digit, point, mark⟩ := stops_continuesNumber_iff.mp stops
  have digit' : Stops isDigit (exponent ++ rest) := power.stops.1.append digit
  have point' : Stops isPoint (exponent ++ rest) := power.stops.2.append point
  have integer : integer? (integer ++ (fraction ++ (exponent ++ rest))) =
      some (fraction ++ (exponent ++ rest)) :=
    integer?_eq_some_iff.mpr ⟨_, rfl, whole, tenths.stops.append digit'⟩
  rw [integer, Option.bind_some, fraction?_of_spells tenths digit' point', Option.bind_some,
    exponent?_of_spells power digit mark]

theorem number?_of_spells (spelled : SpellsNumber text) (stops : Stops continuesNumber rest) :
    number? (text ++ rest) = some rest := by
  obtain ⟨signed, whole, tenths, power⟩ := spelled
  have parts := parts_of_spells whole tenths power stops
  rcases signed with rfl | rfl
  · obtain ⟨s, more, rfl, digit⟩ := whole.exists_cons
    simp only [List.nil_append, List.append_assoc, List.cons_append] at parts ⊢
    unfold number?
    split
    · next same => exact absurd same (cons_ne_of_isDigit digit rfl _)
    · exact parts
  · simp only [List.append_assoc, List.cons_append]
    exact parts

theorem SpellsNumber.exists_cons (spelled : SpellsNumber text) :
    ∃ s more, text = s :: more ∧ (s = some '-' ∨ isDigit s = true) := by
  obtain ⟨rfl | rfl, whole, _, _⟩ := spelled
  · obtain ⟨s, more, rfl, digit⟩ := whole.exists_cons
    exact ⟨s, _, rfl, .inr digit⟩
  · exact ⟨_, _, rfl, .inl rfl⟩

end Numbers

end ModelCatalog.Json
