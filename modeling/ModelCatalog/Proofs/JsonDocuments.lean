import ModelCatalog.Proofs.JsonGrammar

/-! Reading JSON by its grammar. A text is read as the value that it spells, up to where it ends,
and nothing else is read; so a document has a value where its text spells that value. -/
namespace ModelCatalog.Json

theorem commaSeparated_cons {others : List (List Symbol)} (nonempty : others ≠ [])
    (text : List Symbol) :
    commaSeparated (text :: others) = text ++ some ',' :: commaSeparated others := by
  cases others with
  | nil => exact absurd rfl nonempty
  | cons => rfl

theorem exists_behind_first (text : List Symbol) (others : List (List Symbol)) :
    ∃ behind, commaSeparated (text :: others) = text ++ behind := by
  cases others with
  | nil => exact ⟨[], (List.append_nil text).symm⟩
  | cons => exact ⟨_, rfl⟩

section Beginnings

variable {text rest symbols : List Symbol} {value : Option String} {json : Json} {s : Symbol}

theorem SpellsLiteral.exists_cons (spelled : SpellsLiteral text value) :
    ∃ more, text = some '"' :: more := by
  cases spelled with
  | quoted => exact ⟨_, rfl⟩

theorem not_isBlank_of_isDigit (digit : isDigit s = true) : isBlank s = false := by
  cases s with
  | none => rfl
  | some c =>
    simp only [isBlank, Bool.or_eq_false_iff, beq_eq_false_iff_ne]
    refine ⟨⟨⟨?_, ?_⟩, ?_⟩, ?_⟩ <;> rintro rfl <;> cases digit

theorem Spells.exists_cons (spelled : Spells text json) : ∃ s more, text = s :: more ∧
    isBlank s = false ∧ s ≠ some ']' := by
  cases spelled with
  | number number =>
    obtain ⟨s, more, rfl, rfl | digit⟩ := number.exists_cons
    · exact ⟨_, _, rfl, rfl, by decide⟩
    · refine ⟨s, more, rfl, not_isBlank_of_isDigit digit, ?_⟩
      rintro rfl
      cases digit
  | string literal =>
    obtain ⟨more, rfl⟩ := literal.exists_cons
    exact ⟨_, _, rfl, rfl, by decide⟩
  | boolean b => cases b <;> exact ⟨_, _, rfl, rfl, by decide⟩
  | _ => exact ⟨_, _, rfl, rfl, by decide⟩

theorem value?_quote (fuel : Nat) (symbols : List Symbol) :
    value? (fuel + 1) (some '"' :: symbols) =
      (string? symbols).map fun read => (.string read.1, read.2) := by
  rw [value?, skipBlanks_cons rfl]
  rfl

theorem value?_number {s : Symbol} (begins : s = some '-' ∨ isDigit s = true) (fuel : Nat)
    (symbols : List Symbol) :
    value? (fuel + 1) (s :: symbols) =
      (number? (s :: symbols)).map fun rest => (.number, rest) := by
  have solid : isBlank s = false := begins.elim (fun sign => sign ▸ rfl) not_isBlank_of_isDigit
  rw [value?, skipBlanks_cons solid]
  split
  -- Everything but a number begins with a character that is neither a sign nor a digit.
  case h_7 => rfl
  all_goals
    next same =>
    obtain rfl := (List.cons.inj same).1
    rcases begins with sign | digit
    · cases sign
    · cases digit

theorem value?_emptyArray {fuel : Nat} (closed : skipBlanks symbols = some ']' :: rest) :
    value? (fuel + 1) (some '[' :: symbols) = some (.array [], rest) := by
  rw [value?, skipBlanks_cons rfl]
  simp only [closed]

theorem value?_array {fuel : Nat} (inside : ∀ more, skipBlanks symbols ≠ some ']' :: more) :
    value? (fuel + 1) (some '[' :: symbols) =
      (items? fuel symbols).map fun read => (.array read.1, read.2) := by
  rw [value?, skipBlanks_cons rfl]
  simp only [items?_skipBlanks]

theorem value?_emptyObject {fuel : Nat} (closed : skipBlanks symbols = some '\x7d' :: rest) :
    value? (fuel + 1) (some '\x7b' :: symbols) = some (.object [], rest) := by
  rw [value?, skipBlanks_cons rfl]
  simp only [closed]

theorem value?_object {fuel : Nat} (inside : ∀ more, skipBlanks symbols ≠ some '\x7d' :: more) :
    value? (fuel + 1) (some '\x7b' :: symbols) =
      (members? fuel symbols).map fun read => (.object read.1, read.2) := by
  rw [value?, skipBlanks_cons rfl]
  simp only [members?_skipBlanks]

end Beginnings

section Spelled

variable {fuel : Nat} {text gap symbols rest : List Symbol} {value : Json} {s : Symbol}

/-- The text is read as the value, with no more fuel than it has symbols, up to something that
would not go on with a number. -/
def IsRead (text : List Symbol) (value : Json) : Prop :=
  ∀ fuel rest, text.length ≤ fuel → Stops continuesNumber rest →
    value? fuel (text ++ rest) = some (value, rest)

theorem stops_append (blank : Blanks gap) (stops : Stops continuesNumber rest) :
    Stops continuesNumber (gap ++ rest) := by
  refine Stops.append (fun s first => ?_) stops
  cases s with
  | none => rfl
  | some c =>
    have blank : isBlank (some c) = true := blank _ (List.mem_of_mem_head? first)
    simp only [isBlank, Bool.or_eq_true, beq_iff_eq] at blank
    rcases blank with ((rfl | rfl) | rfl) | rfl <;> decide

/-- What stands behind a value: a comma or a closing bracket. -/
def Solid (s : Symbol) : Prop := isBlank s = false ∧ continuesNumber s = false

theorem solid_comma : Solid (some ',') := ⟨rfl, rfl⟩

theorem solid_bracket : Solid (some ']') := ⟨rfl, rfl⟩

theorem solid_brace : Solid (some '\x7d') := ⟨rfl, rfl⟩

theorem Padded.exists_behind {p : Padded} (read : IsRead p.text value)
    (enough : p.symbols.length ≤ fuel) (solid : Solid s) (rest : List Symbol) :
    ∃ behind, value? fuel (p.symbols ++ s :: rest) = some (value, behind) ∧
      skipBlanks behind = s :: rest := by
  have fits : p.text.length ≤ fuel := by
    simp only [Padded.symbols, List.length_append] at enough
    omega
  refine ⟨p.back ++ s :: rest, ?_, ?_⟩
  · rw [Padded.symbols, List.append_assoc, value?_append p.frontBlank, List.append_assoc]
    exact read fuel _ fits (stops_append p.backBlank (stops_cons.mpr solid.2))
  · rw [skipBlanks_append p.backBlank, skipBlanks_cons solid.1]

theorem items?_last {p : Padded} (read : IsRead p.text value) (enough : p.symbols.length ≤ fuel)
    (rest : List Symbol) :
    items? (fuel + 1) (p.symbols ++ some ']' :: rest) = some ([value], rest) := by
  obtain ⟨behind, read, next⟩ := Padded.exists_behind read enough solid_bracket rest
  rw [items?, read, Option.bind_eq_bind, Option.bind_some]
  simp only [next]
  rfl

theorem items?_next {p : Padded} (read : IsRead p.text value) (enough : p.symbols.length ≤ fuel)
    (rest : List Symbol) :
    items? (fuel + 1) (p.symbols ++ some ',' :: rest) =
      (items? fuel rest).map fun more => (value :: more.1, more.2) := by
  obtain ⟨behind, read, next⟩ := Padded.exists_behind read enough solid_comma rest
  rw [items?, read, Option.bind_eq_bind, Option.bind_some]
  simp only [next]
  cases items? fuel rest <;> rfl

theorem items?_of_isRead (items : List (Padded × Json)) (nonempty : items ≠ [])
    (each : ∀ item ∈ items, IsRead item.1.text item.2) (fuel : Nat) (rest : List Symbol)
    (enough : (commaSeparated (items.map fun item => item.1.symbols)).length < fuel) :
    items? fuel (commaSeparated (items.map fun item => item.1.symbols) ++ some ']' :: rest) =
      some (items.map Prod.snd, rest) := by
  induction items generalizing fuel with
  | nil => exact absurd rfl nonempty
  | cons item others ih =>
    obtain ⟨read, behind⟩ := List.forall_mem_cons.mp each
    obtain ⟨fuel, rfl⟩ : ∃ less, fuel = less + 1 := ⟨fuel - 1, by omega⟩
    by_cases last : others = []
    · subst last
      exact items?_last read (Nat.le_of_lt_succ enough) rest
    · rw [List.map_cons, commaSeparated_cons (by simpa using last)] at enough ⊢
      rw [List.length_append, List.length_cons] at enough
      rw [List.append_assoc, List.cons_append, items?_next read (by omega),
        ih last behind fuel (by omega)]
      rfl

theorem Member.exists_behind {m : Member} (name : SpellsLiteral m.name.text m.key)
    (read : IsRead m.value.text m.json) (enough : m.symbols.length ≤ fuel) (solid : Solid s)
    (rest : List Symbol) : ∃ literal colon text behind,
      skipBlanks (m.symbols ++ s :: rest) = some '"' :: literal ∧
      string? literal = some (m.key, colon) ∧ skipBlanks colon = some ':' :: text ∧
      value? fuel text = some (m.json, behind) ∧ skipBlanks behind = s :: rest := by
  have fits : m.value.symbols.length ≤ fuel := by
    simp only [Member.symbols, List.length_append, List.length_cons] at enough
    omega
  obtain ⟨behind, read, next⟩ := Padded.exists_behind read fits solid rest
  obtain ⟨literal, begins⟩ := name.exists_cons
  let colon := m.name.back ++ some ':' :: (m.value.symbols ++ s :: rest)
  have split : m.symbols ++ s :: rest = m.name.front ++ some '"' :: (literal ++ colon) := by
    simp [Member.symbols, Padded.symbols, begins, colon]
  refine ⟨literal ++ colon, colon, _, behind, ?_, ?_, ?_, read, next⟩
  · rw [split, skipBlanks_append m.name.frontBlank, skipBlanks_cons rfl]
  · exact string?_eq_some_iff.mpr ⟨m.name.text, by simp [begins], name⟩
  · rw [skipBlanks_append m.name.backBlank, skipBlanks_cons rfl]

theorem members?_last {m : Member} (name : SpellsLiteral m.name.text m.key)
    (read : IsRead m.value.text m.json) (enough : m.symbols.length ≤ fuel) (rest : List Symbol) :
    members? (fuel + 1) (m.symbols ++ some '\x7d' :: rest) = some ([(m.key, m.json)], rest) := by
  obtain ⟨literal, colon, text, behind, quote, key, mark, json, next⟩ :=
    Member.exists_behind name read enough solid_brace rest
  rw [members?, quote]
  simp only [key, mark, json, next, Option.bind_eq_bind, Option.bind_some]
  rfl

theorem members?_next {m : Member} (name : SpellsLiteral m.name.text m.key)
    (read : IsRead m.value.text m.json) (enough : m.symbols.length ≤ fuel) (rest : List Symbol) :
    members? (fuel + 1) (m.symbols ++ some ',' :: rest) =
      (members? fuel rest).map fun more => ((m.key, m.json) :: more.1, more.2) := by
  obtain ⟨literal, colon, text, behind, quote, key, mark, json, next⟩ :=
    Member.exists_behind name read enough solid_comma rest
  rw [members?, quote]
  simp only [key, mark, json, next, Option.bind_eq_bind, Option.bind_some]
  cases members? fuel rest <;> rfl

theorem members?_of_isRead (members : List Member) (nonempty : members ≠ [])
    (names : ∀ m ∈ members, SpellsLiteral m.name.text m.key)
    (each : ∀ m ∈ members, IsRead m.value.text m.json) (fuel : Nat) (rest : List Symbol)
    (enough : (commaSeparated (members.map Member.symbols)).length < fuel) :
    members? fuel (commaSeparated (members.map Member.symbols) ++ some '\x7d' :: rest) =
      some (members.map fun m => (m.key, m.json), rest) := by
  induction members generalizing fuel with
  | nil => exact absurd rfl nonempty
  | cons m others ih =>
    obtain ⟨name, names⟩ := List.forall_mem_cons.mp names
    obtain ⟨read, behind⟩ := List.forall_mem_cons.mp each
    obtain ⟨fuel, rfl⟩ : ∃ less, fuel = less + 1 := ⟨fuel - 1, by omega⟩
    by_cases last : others = []
    · subst last
      exact members?_last name read (Nat.le_of_lt_succ enough) rest
    · rw [List.map_cons, commaSeparated_cons (by simpa using last)] at enough ⊢
      rw [List.length_append, List.length_cons] at enough
      rw [List.append_assoc, List.cons_append, members?_next name read (by omega),
        ih last names behind fuel (by omega)]
      rfl

theorem Padded.skipBlanks_symbols {p : Padded} {more : List Symbol} (begins : p.text = s :: more)
    (solid : isBlank s = false) (rest : List Symbol) :
    skipBlanks (p.symbols ++ rest) = s :: (more ++ (p.back ++ rest)) := by
  rw [Padded.symbols, List.append_assoc, skipBlanks_append p.frontBlank, begins,
    List.append_assoc, List.cons_append, skipBlanks_cons solid]

theorem value?_items {items : List (Padded × Json)} (nonempty : items ≠ [])
    (each : ∀ item ∈ items, Spells item.1.text item.2) (fuel : Nat) (rest : List Symbol) :
    let symbols := commaSeparated (items.map fun item => item.1.symbols) ++ rest
    value? (fuel + 1) (some '[' :: symbols) =
      (items? fuel symbols).map fun read => (.array read.1, read.2) := by
  obtain ⟨first, others, rfl⟩ := List.exists_cons_of_ne_nil nonempty
  obtain ⟨s, more, begins, solid, other⟩ := (each first (List.mem_cons_self ..)).exists_cons
  obtain ⟨behind, split⟩ := exists_behind_first first.1.symbols
    (others.map fun item => item.1.symbols)
  refine value?_array fun tail closed => other ?_
  rw [List.map_cons, split, List.append_assoc, Padded.skipBlanks_symbols begins solid] at closed
  exact (List.cons.inj closed).1

theorem value?_members {members : List Member} (nonempty : members ≠ [])
    (names : ∀ m ∈ members, SpellsLiteral m.name.text m.key) (fuel : Nat) (rest : List Symbol) :
    let symbols := commaSeparated (members.map Member.symbols) ++ rest
    value? (fuel + 1) (some '\x7b' :: symbols) =
      (members? fuel symbols).map fun read => (.object read.1, read.2) := by
  obtain ⟨first, others, rfl⟩ := List.exists_cons_of_ne_nil nonempty
  obtain ⟨more, begins⟩ := (names first (List.mem_cons_self ..)).exists_cons
  obtain ⟨behind, split⟩ := exists_behind_first first.symbols (others.map Member.symbols)
  refine value?_object fun tail closed => ?_
  rw [List.map_cons, split, Member.symbols, List.append_assoc, List.append_assoc,
    Padded.skipBlanks_symbols begins rfl] at closed
  cases closed

theorem isRead_cons {more : List Symbol} (read : ∀ fuel rest, more.length ≤ fuel →
      Stops continuesNumber rest → value? (fuel + 1) (s :: (more ++ rest)) = some (value, rest)) :
    IsRead (s :: more) value := by
  intro fuel rest enough stops
  obtain ⟨fuel, rfl⟩ : ∃ less, fuel = less + 1 := ⟨fuel - 1, by simp at enough; omega⟩
  exact read fuel rest (Nat.le_of_succ_le_succ enough) stops

/-- What is spelled is read. The induction is on the spelling: each part of it is shorter than the
text, so the fuel is enough for the part. -/
theorem Spells.isRead (spelled : Spells text value) : IsRead text value := by
  induction spelled with
  | null => exact isRead_cons fun _ _ _ _ => rfl
  | boolean b => cases b <;> exact isRead_cons fun _ _ _ _ => rfl
  | number number =>
    obtain ⟨s, more, rfl, begins⟩ := number.exists_cons
    refine isRead_cons fun fuel rest _ stops => ?_
    rw [value?_number begins, ← List.cons_append, number?_of_spells number stops, Option.map_some]
  | string literal =>
    obtain ⟨more, rfl⟩ := literal.exists_cons
    refine isRead_cons fun fuel rest _ _ => ?_
    have read : string? (more ++ rest) = some (_, rest) :=
      string?_eq_some_iff.mpr ⟨_, List.cons_append.symm, literal⟩
    rw [value?_quote, read, Option.map_some]
  | emptyArray blank =>
    refine isRead_cons fun fuel rest _ _ => value?_emptyArray ?_
    rw [List.append_assoc, skipBlanks_append blank, List.singleton_append, skipBlanks_cons rfl]
  | array nonempty each ih =>
    refine isRead_cons fun fuel rest enough _ => ?_
    rw [List.length_append] at enough
    rw [List.append_assoc, List.singleton_append, value?_items nonempty each,
      items?_of_isRead _ nonempty ih fuel rest enough, Option.map_some]
  | emptyObject blank =>
    refine isRead_cons fun fuel rest _ _ => value?_emptyObject ?_
    rw [List.append_assoc, skipBlanks_append blank, List.singleton_append, skipBlanks_cons rfl]
  | object nonempty names each ih =>
    refine isRead_cons fun fuel rest enough _ => ?_
    rw [List.length_append] at enough
    rw [List.append_assoc, List.singleton_append, value?_members nonempty names,
      members?_of_isRead _ nonempty names ih fuel rest enough, Option.map_some]

end Spelled

section Read

/-- In front of the rest a value is spelled, behind blanks. -/
def ValueBefore (rest symbols : List Symbol) (value : Json) : Prop :=
  ∃ gap text, symbols = gap ++ (text ++ rest) ∧ Blanks gap ∧ Spells text value

/-- In front of the rest there are items and a closing bracket. -/
def ItemsBefore (rest symbols : List Symbol) (values : List Json) : Prop :=
  ∃ items : List (Padded × Json), items ≠ [] ∧ (∀ item ∈ items, Spells item.1.text item.2) ∧
    symbols = commaSeparated (items.map fun item => item.1.symbols) ++ some ']' :: rest ∧
    values = items.map Prod.snd

/-- In front of the rest there are members and a closing brace. -/
def MembersBefore (rest symbols : List Symbol) (values : List (Option String × Json)) : Prop :=
  ∃ members : List Member, members ≠ [] ∧ (∀ m ∈ members, SpellsLiteral m.name.text m.key) ∧
    (∀ m ∈ members, Spells m.value.text m.json) ∧
    symbols = commaSeparated (members.map Member.symbols) ++ some '\x7d' :: rest ∧
    values = members.map fun m => (m.key, m.json)

/-- Whatever is read with so much fuel is spelled in front of what is left. -/
structure ReadsSpelled (fuel : Nat) : Prop where
  value : ∀ {symbols rest value},
    value? fuel symbols = some (value, rest) → ValueBefore rest symbols value
  items : ∀ {symbols rest values},
    items? fuel symbols = some (values, rest) → ItemsBefore rest symbols values
  members : ∀ {symbols rest values},
    members? fuel symbols = some (values, rest) → MembersBefore rest symbols values

variable {fuel : Nat} {symbols rest : List Symbol}

theorem spells_of_array (inner : ReadsSpelled fuel) {value : Json}
    (read : value? (fuel + 1) (some '[' :: symbols) = some (value, rest)) :
    ∃ text, some '[' :: symbols = text ++ rest ∧ Spells text value := by
  by_cases closed : ∃ more, skipBlanks symbols = some ']' :: more
  · obtain ⟨more, closed⟩ := closed
    obtain ⟨gap, blank, split⟩ := exists_gap symbols
    rw [value?_emptyArray closed] at read
    rw [closed] at split
    obtain ⟨rfl, rfl⟩ := Prod.mk.inj (Option.some.inj read)
    exact ⟨_, by simp [split], .emptyArray blank⟩
  · rw [value?_array (not_exists.mp closed)] at read
    obtain ⟨⟨values, _⟩, items, made⟩ := Option.map_eq_some_iff.mp read
    obtain ⟨rfl, rfl⟩ := Prod.mk.inj made
    obtain ⟨items, nonempty, each, rfl, rfl⟩ := inner.items items
    exact ⟨_, by simp, .array nonempty each⟩

theorem spells_of_object (inner : ReadsSpelled fuel) {value : Json}
    (read : value? (fuel + 1) (some '\x7b' :: symbols) = some (value, rest)) :
    ∃ text, some '\x7b' :: symbols = text ++ rest ∧ Spells text value := by
  by_cases closed : ∃ more, skipBlanks symbols = some '\x7d' :: more
  · obtain ⟨more, closed⟩ := closed
    obtain ⟨gap, blank, split⟩ := exists_gap symbols
    rw [value?_emptyObject closed] at read
    rw [closed] at split
    obtain ⟨rfl, rfl⟩ := Prod.mk.inj (Option.some.inj read)
    exact ⟨_, by simp [split], .emptyObject blank⟩
  · rw [value?_object (not_exists.mp closed)] at read
    obtain ⟨⟨values, _⟩, members, made⟩ := Option.map_eq_some_iff.mp read
    obtain ⟨rfl, rfl⟩ := Prod.mk.inj made
    obtain ⟨members, nonempty, names, each, rfl, rfl⟩ := inner.members members
    exact ⟨_, by simp, .object nonempty names each⟩

theorem spells_of_value? (inner : ReadsSpelled fuel) {value : Json}
    (read : value? (fuel + 1) symbols = some (value, rest)) : ValueBefore rest symbols value := by
  obtain ⟨gap, blank, split⟩ := exists_gap symbols
  suffices inside : ∃ text, skipBlanks symbols = text ++ rest ∧ Spells text value by
    obtain ⟨text, begins, spelled⟩ := inside
    exact ⟨gap, text, by rw [← begins, ← split], blank, spelled⟩
  have whole := read
  rw [← value?_skipBlanks] at whole
  rw [value?] at read
  split at read
  · next begins =>
    obtain ⟨rfl, rfl⟩ := Prod.mk.inj (Option.some.inj read)
    exact ⟨_, begins, .null⟩
  · next begins =>
    obtain ⟨rfl, rfl⟩ := Prod.mk.inj (Option.some.inj read)
    exact ⟨_, begins, .boolean true⟩
  · next begins =>
    obtain ⟨rfl, rfl⟩ := Prod.mk.inj (Option.some.inj read)
    exact ⟨_, begins, .boolean false⟩
  · next begins =>
    obtain ⟨⟨text, _⟩, literal, made⟩ := Option.map_eq_some_iff.mp read
    obtain ⟨rfl, rfl⟩ := Prod.mk.inj made
    obtain ⟨text, split, spelled⟩ := string?_eq_some_iff.mp literal
    exact ⟨text, begins.trans split, .string spelled⟩
  · next begins =>
    rw [begins] at whole ⊢
    exact spells_of_array inner whole
  · next begins =>
    rw [begins] at whole ⊢
    exact spells_of_object inner whole
  · obtain ⟨_, number, made⟩ := Option.map_eq_some_iff.mp read
    obtain ⟨rfl, rfl⟩ := Prod.mk.inj made
    obtain ⟨text, begins, spelled⟩ := spells_of_number? number
    exact ⟨text, begins, .number spelled⟩

theorem exists_padded (inner : ReadsSpelled fuel) {value : Json} {behind : List Symbol}
    (read : value? fuel symbols = some (value, behind)) :
    ∃ p : Padded, symbols = p.symbols ++ skipBlanks behind ∧ Spells p.text value := by
  obtain ⟨front, text, rfl, frontBlank, spelled⟩ := inner.value read
  obtain ⟨back, backBlank, split⟩ := exists_gap behind
  refine ⟨⟨front, text, back, frontBlank, backBlank⟩, ?_, spelled⟩
  simp only [Padded.symbols, List.append_assoc, ← split]

theorem exists_name {key : Option String} {literal behind : List Symbol}
    (quote : skipBlanks symbols = some '"' :: literal)
    (read : string? literal = some (key, behind)) :
    ∃ p : Padded, symbols = p.symbols ++ skipBlanks behind ∧ SpellsLiteral p.text key := by
  obtain ⟨front, frontBlank, begins⟩ := exists_gap symbols
  obtain ⟨back, backBlank, ends⟩ := exists_gap behind
  obtain ⟨text, split, spelled⟩ := string?_eq_some_iff.mp read
  refine ⟨⟨front, text, back, frontBlank, backBlank⟩, ?_, spelled⟩
  rw [begins, quote, split, ends]
  simp only [Padded.symbols, List.append_assoc, skipBlanks_append backBlank,
    skipBlanks_skipBlanks]

theorem spells_of_items? (inner : ReadsSpelled fuel) {values : List Json}
    (read : items? (fuel + 1) symbols = some (values, rest)) : ItemsBefore rest symbols values := by
  rw [items?] at read
  obtain ⟨⟨value, behind⟩, first, read⟩ := Option.bind_eq_some_iff.mp read
  obtain ⟨p, padded, spelled⟩ := exists_padded inner first
  rw [padded]
  dsimp only at read
  split at read
  · next comma =>
    obtain ⟨⟨more, _⟩, others, made⟩ := Option.bind_eq_some_iff.mp read
    obtain ⟨rfl, rfl⟩ := Prod.mk.inj (Option.some.inj made)
    obtain ⟨items, nonempty, each, rfl, rfl⟩ := inner.items others
    refine ⟨(p, value) :: items, by simp, List.forall_mem_cons.mpr ⟨spelled, each⟩, ?_, rfl⟩
    rw [List.map_cons, commaSeparated_cons (by simpa using nonempty), List.append_assoc, comma,
      List.cons_append]
  · next closed =>
    obtain ⟨rfl, rfl⟩ := Prod.mk.inj (Option.some.inj read)
    exact ⟨[(p, value)], by simp, by simpa using spelled, by rw [closed]; rfl, rfl⟩
  · cases read

theorem spells_of_members? (inner : ReadsSpelled fuel) {values : List (Option String × Json)}
    (read : members? (fuel + 1) symbols = some (values, rest)) :
    MembersBefore rest symbols values := by
  rw [members?] at read
  split at read
  case h_2 => cases read
  next quote =>
  obtain ⟨⟨key, behindName⟩, literal, read⟩ := Option.bind_eq_some_iff.mp read
  obtain ⟨name, beginning, named⟩ := exists_name quote literal
  dsimp only at read
  split at read
  case h_2 => cases read
  next colon =>
  obtain ⟨⟨json, behindValue⟩, first, read⟩ := Option.bind_eq_some_iff.mp read
  obtain ⟨value, ending, spelled⟩ := exists_padded inner first
  let m : Member := ⟨name, key, value, json⟩
  have split : symbols = m.symbols ++ skipBlanks behindValue := by
    rw [beginning, colon, ending, Member.symbols, List.append_assoc, List.cons_append]
  rw [split]
  dsimp only at read
  split at read
  · next comma =>
    obtain ⟨⟨more, _⟩, others, made⟩ := Option.bind_eq_some_iff.mp read
    obtain ⟨rfl, rfl⟩ := Prod.mk.inj (Option.some.inj made)
    obtain ⟨members, nonempty, names, each, rfl, rfl⟩ := inner.members others
    refine ⟨m :: members, by simp, List.forall_mem_cons.mpr ⟨named, names⟩,
      List.forall_mem_cons.mpr ⟨spelled, each⟩, ?_, rfl⟩
    rw [List.map_cons, commaSeparated_cons (by simpa using nonempty), List.append_assoc, comma,
      List.cons_append]
  · next closed =>
    obtain ⟨rfl, rfl⟩ := Prod.mk.inj (Option.some.inj read)
    exact ⟨[m], by simp, by simpa using named, by simpa using spelled, by rw [closed]; rfl, rfl⟩
  · cases read

/-- What is read is spelled, by induction on the fuel. -/
theorem reads_spelled (fuel : Nat) : ReadsSpelled fuel := by
  induction fuel with
  | zero => exact ⟨nofun, nofun, nofun⟩
  | succ fuel inner =>
    exact ⟨spells_of_value? inner, spells_of_items? inner, spells_of_members? inner⟩

end Read

theorem read?_eq_some_iff {bytes : ByteArray} {value : Json} : read? bytes = some value ↔
    ∃ p : Padded, symbols bytes = p.symbols ∧ Spells p.text value := by
  constructor
  · intro read
    obtain ⟨⟨found, rest⟩, inside, ended⟩ := Option.bind_eq_some_iff.mp read
    obtain ⟨blank, same⟩ := Option.ite_none_right_eq_some.mp ended
    obtain rfl := Option.some.inj same
    obtain ⟨gap, text, split, front, spelled⟩ := (reads_spelled _).value inside
    have back : Blanks rest := skipBlanks_eq_nil_iff.mp (List.isEmpty_iff.mp blank)
    exact ⟨⟨gap, text, rest, front, back⟩, split, spelled⟩
  · rintro ⟨p, split, spelled⟩
    have enough : p.text.length ≤ (symbols bytes).length + 1 := by
      simp only [split, Padded.symbols, List.length_append]
      omega
    have stops : Stops continuesNumber (p.back ++ []) := stops_append p.backBlank nofun
    rw [List.append_nil] at stops
    have read := spelled.isRead _ p.back enough stops
    rw [← value?_append p.frontBlank] at read
    have closed : skipBlanks p.back = [] := skipBlanks_eq_nil_iff.mpr p.backBlank
    have whole : symbols bytes = p.front ++ (p.text ++ p.back) := split
    simp only [read?, whole] at read ⊢
    rw [read, Option.bind_eq_bind, Option.bind_some]
    simp only [closed]
    rfl

end ModelCatalog.Json
