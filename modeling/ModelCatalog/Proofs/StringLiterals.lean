import Mathlib.Data.List.TakeWhile
import ModelCatalog.Number.Notation
import ModelCatalog.Proofs.ByteOrder

/-! Rows of a table read as C source: braces, commas and string literals. Between its marks a text is
read as its own bytes exactly if it has no mark, no backslash and no end of a line, whatever stands
behind it. Every character is taken for itself where it is no escape, so that there are no trigraphs,
and bytes are those of UTF-8. -/
namespace ModelCatalog.Literal

open Number (digitValue? ofDigits?)

def isLineEnd (c : Char) : Bool := c == '\n' || c == '\r'

/-- Joins the lines that a backslash continues. This comes before anything else is read. -/
def joinLines : List Char → List Char
  | '\\' :: '\r' :: '\n' :: rest => joinLines rest
  | '\\' :: '\n' :: rest => joinLines rest
  | '\\' :: '\r' :: rest => joinLines rest
  | c :: rest => c :: joinLines rest
  | [] => []

/-- What is spelled up to the closing mark, and what stands behind the mark. -/
def spelling? : List Char → Option (List Char × List Char)
  | [] => none
  | '"' :: rest => some ([], rest)
  | '\\' :: c :: rest =>
    if isLineEnd c then none
    else (spelling? rest).map fun (body, behind) => ('\\' :: c :: body, behind)
  | c :: rest =>
    if isLineEnd c then none
    else (spelling? rest).map fun (body, behind) => (c :: body, behind)

/-- The byte of an escape that is a single letter or mark. -/
def letterByte? : Char → Option UInt8
  | '"' => some 0x22
  | '\x27' => some 0x27
  | '?' => some 0x3F
  | '\\' => some 0x5C
  | 'a' => some 7
  | 'b' => some 8
  | 't' => some 9
  | 'n' => some 10
  | 'v' => some 11
  | 'f' => some 12
  | 'r' => some 13
  | _ => none

/-- The digits that a text begins with, up to a number of them. -/
def leadingDigits (base most : Nat) (cs : List Char) : List Char :=
  (cs.take most).takeWhile fun c => (digitValue? base c).isSome

def byte? (base : Nat) (digits : List Char) : Option (List UInt8) :=
  (ofDigits? base digits).bind fun n => if n < 256 then some [UInt8.ofNat n] else none

/-- The bytes of the character whose code is written in a fixed number of digits. -/
def character? (count : Nat) (digits : List Char) : Option (List UInt8) :=
  if digits.length = count then
    (ofDigits? 16 digits).bind fun n =>
      if n.isValidChar then some (String.utf8EncodeChar (Char.ofNat n)) else none
  else none

/-- An escape behind its backslash: the number of its characters, and the bytes that it denotes. -/
def escape? : List Char → Option (Nat × List UInt8)
  | [] => none
  | 'x' :: rest =>
    let digits := leadingDigits 16 rest.length rest
    (byte? 16 digits).map fun bytes => (digits.length + 1, bytes)
  | 'u' :: rest => (character? 4 (leadingDigits 16 4 rest)).map fun bytes => (5, bytes)
  | 'U' :: rest => (character? 8 (leadingDigits 16 8 rest)).map fun bytes => (9, bytes)
  | c :: rest =>
    match letterByte? c with
    | some byte => some (1, [byte])
    | none =>
      let digits := leadingDigits 8 3 (c :: rest)
      (byte? 8 digits).map fun bytes => (digits.length, bytes)

/-- The bytes that a spelling denotes. -/
def value? : List Char → Option (List UInt8)
  | [] => some []
  | '\\' :: rest =>
    (escape? rest).bind fun (taken, bytes) => (value? (rest.drop taken)).map (bytes ++ ·)
  | c :: rest => (value? rest).map (String.utf8EncodeChar c ++ ·)
termination_by cs => cs.length
decreasing_by all_goals simp only [List.length_cons, List.length_drop]; omega

/-- The bytes of a literal, read behind its opening mark, and what stands behind its closing one. -/
def literal? (cs : List Char) : Option (List UInt8 × List Char) :=
  (spelling? cs).bind fun (body, behind) => (value? body).map fun bytes => (bytes, behind)

def encoded (text : List Char) : List UInt8 := text.flatMap String.utf8EncodeChar

/-- Characters that stand for themselves in a literal, wherever they come. -/
def isPlain (c : Char) : Bool := c != '"' && c != '\\' && !isLineEnd c

section Texts

variable {text tail cs behind : List Char} {c : Char} {bytes : List UInt8}

@[simp] theorem encoded_append (text tail : List Char) :
    encoded (text ++ tail) = encoded text ++ encoded tail :=
  List.flatMap_append

theorem encoded_cons (c : Char) (text : List Char) :
    encoded (c :: text) = String.utf8EncodeChar c ++ encoded text :=
  List.flatMap_cons

@[simp] theorem length_encoded_cons (c : Char) (text : List Char) :
    (encoded (c :: text)).length = c.utf8Size + (encoded text).length := by
  rw [encoded_cons, List.length_append, String.length_utf8EncodeChar]

theorem length_le_encoded (text : List Char) : text.length ≤ (encoded text).length := by
  induction text with
  | nil => exact Nat.le_refl _
  | cons c text ih =>
    have some := c.utf8Size_pos
    rw [length_encoded_cons, List.length_cons]
    omega

theorem count_encoded_le (text : List Char) : (encoded text).count 0x22 ≤ text.count '"' := by
  have absent (c : Char) (other : c ≠ '"') : (0x22 : UInt8) ∉ String.utf8EncodeChar c := by
    have other : c.val.toNat ≠ 0x22 := fun same => other (Char.ext (UInt32.toNat_inj.mp same))
    have mark : (0x22 : UInt8).toNat = 0x22 := rfl
    unfold String.utf8EncodeChar
    dsimp only
    repeat' split
    all_goals
      simp only [List.mem_cons, List.not_mem_nil, or_false, ← UInt8.toNat_inj, UInt8.toNat_ofNat',
        mark]
      omega
  induction text with
  | nil => exact Nat.le_refl _
  | cons c text ih =>
    rw [encoded_cons, List.count_append]
    by_cases same : c = '"'
    · subst same
      have one : (String.utf8EncodeChar '"').count 0x22 = 1 := by decide
      rw [List.count_cons_self]
      omega
    · rw [List.count_eq_zero.mpr (absent c same), List.count_cons_of_ne same]
      omega

theorem length_joinLines_le (text : List Char) :
    (encoded (joinLines text)).length ≤ (encoded text).length := by
  fun_induction joinLines text with
  | case1 | case2 | case3 | case4 =>
    simp only [length_encoded_cons]
    omega
  | case5 => exact Nat.le_refl _

theorem joinLines_eq_or_shorter (text : List Char) :
    joinLines text = text ∨ (encoded (joinLines text)).length < (encoded text).length := by
  have backslash := Char.utf8Size_pos '\\'
  fun_induction joinLines text with
  | case1 rest | case2 rest | case3 rest =>
    have shorter := length_joinLines_le rest
    simp only [length_encoded_cons]
    omega
  | case4 c rest _ _ _ ih =>
    rcases ih with same | shorter
    · exact .inl (congrArg _ same)
    · simp only [length_encoded_cons]
      omega
  | case5 => exact .inl rfl

theorem count_joinLines (text : List Char) : (joinLines text).count '"' = text.count '"' := by
  fun_induction joinLines text <;> simp_all [List.count_cons]

/-- A mark keeps apart what is joined before it and what is joined behind it. -/
theorem joinLines_append_mark (text tail : List Char) :
    joinLines (text ++ '"' :: tail) = joinLines text ++ '"' :: joinLines tail := by
  have apart {rest : List Char} {c : Char} {more : List Char} (other : c ≠ '"')
      (apart : ∀ more, rest ≠ c :: more) : rest ++ '"' :: tail ≠ c :: more := by
    cases rest <;> simp_all [Ne.symm other]
  fun_induction joinLines text with
  | case1 rest ih | case2 rest ih => simp [joinLines, ih]
  | case3 rest other ih =>
    rw [List.cons_append, List.cons_append,
      joinLines.eq_3 _ fun _ => apart (by decide) fun _ => other _, ih]
  | case4 c rest _ noFeed noReturn ih =>
    rw [List.cons_append, joinLines.eq_4, ih, List.cons_append]
    · exact fun _ backslash => apart (by decide) (noReturn · backslash)
    · exact fun _ backslash => apart (by decide) (noFeed · backslash)
    · exact fun _ backslash => apart (by decide) (noReturn · backslash)
  | case5 => simp [joinLines]

theorem joinLines_of_plain (plain : '\\' ∉ text) : joinLines text = text := by
  fun_induction joinLines text <;> simp_all

theorem leadingDigits_prefix (base most : Nat) (cs : List Char) :
    leadingDigits base most cs <+: cs :=
  (List.takeWhile_prefix _).trans (List.take_prefix _ _)

theorem count_leadingDigits (base most : Nat) (cs : List Char) :
    (leadingDigits base most cs).count '"' = 0 := by
  have noDigit : digitValue? base '"' = none := if_neg (Nat.lt_irrefl base)
  refine List.count_eq_zero.mpr fun mark => ?_
  have digit := List.mem_takeWhile_imp mark
  rw [noDigit] at digit
  cases digit

theorem length_of_byte? {base : Nat} {digits : List Char}
    (read : byte? base digits = some bytes) : bytes.length = 1 ∧ 0 < digits.length := by
  obtain ⟨n, number, inByte⟩ := Option.bind_eq_some_iff.mp read
  constructor
  · split at inByte <;> cases inByte
    rfl
  · cases digits with
    | nil => cases number
    | cons => exact Nat.succ_pos _

theorem length_of_character? {count : Nat} {digits : List Char}
    (read : character? count digits = some bytes) : digits.length = count ∧ bytes.length ≤ 4 := by
  unfold character? at read
  split at read
  · obtain ⟨n, -, isChar⟩ := Option.bind_eq_some_iff.mp read
    split at isChar <;> cases isChar
    exact ⟨‹_›, String.length_utf8EncodeChar _ ▸ Char.utf8Size_le_four _⟩
  · cases read

/-- An escape denotes no more bytes than it takes characters behind its backslash, and a mark among
these is denoted too. -/
def Covered (cs : List Char) (taken : Nat) (bytes : List UInt8) : Prop :=
  ∃ front behind, cs = front ++ behind ∧ front.length = taken ∧ bytes.length ≤ taken ∧
    front.count '"' ≤ bytes.count 0x22

theorem Covered.of_digits (before : List Char) (base most : Nat) {taken : Nat}
    (unmarked : '"' ∉ before) (all : (before ++ leadingDigits base most cs).length = taken)
    (short : bytes.length ≤ taken) : Covered (before ++ cs) taken bytes := by
  obtain ⟨behind, split⟩ := leadingDigits_prefix base most cs
  refine ⟨before ++ leadingDigits base most cs, behind, ?_, all, short, ?_⟩
  · rw [List.append_assoc, split]
  · rw [List.count_append, count_leadingDigits, List.count_eq_zero.mpr unmarked]
    exact Nat.zero_le _

theorem Covered.of_letter {byte : UInt8} (letter : letterByte? c = some byte) :
    Covered (c :: cs) 1 [byte] := by
  refine ⟨[c], cs, rfl, rfl, Nat.le_refl _, ?_⟩
  by_cases mark : c = '"'
  · subst mark
    cases letter
    decide
  · rw [List.count_cons_of_ne mark]
    exact Nat.zero_le _

theorem covered_of_escape? {taken : Nat} (read : escape? cs = some (taken, bytes)) :
    Covered cs taken bytes := by
  unfold escape? at read
  split at read
  · cases read
  · obtain ⟨_, byte, same⟩ := Option.map_eq_some_iff.mp read
    cases same
    have one := length_of_byte? byte
    exact .of_digits ['x'] 16 _ (by decide) rfl (by omega)
  · obtain ⟨_, character, same⟩ := Option.map_eq_some_iff.mp read
    cases same
    have four := length_of_character? character
    exact .of_digits ['u'] 16 _ (by decide) (congrArg _ four.1) (by omega)
  · obtain ⟨_, character, same⟩ := Option.map_eq_some_iff.mp read
    cases same
    have eight := length_of_character? character
    exact .of_digits ['U'] 16 _ (by decide) (congrArg _ eight.1) (by omega)
  · split at read
    · cases read
      exact .of_letter ‹_›
    · obtain ⟨_, byte, same⟩ := Option.map_eq_some_iff.mp read
      cases same
      have one := length_of_byte? byte
      exact .of_digits [] 8 3 (by decide) rfl (by omega)

theorem value?_bounds (read : value? cs = some bytes) :
    bytes.length ≤ (encoded cs).length ∧ ('\\' ∈ cs → bytes.length < (encoded cs).length) ∧
      cs.count '"' ≤ bytes.count 0x22 := by
  fun_induction value? cs generalizing bytes with
  | case1 =>
    cases read
    exact ⟨Nat.le_refl _, fun absent => (List.not_mem_nil absent).elim, Nat.le_refl _⟩
  | case2 rest ih =>
    obtain ⟨⟨taken, first⟩, escape, read⟩ := Option.bind_eq_some_iff.mp read
    obtain ⟨more, others, rfl⟩ := Option.map_eq_some_iff.mp read
    obtain ⟨front, behind, rfl, rfl, short, marks⟩ := covered_of_escape? escape
    obtain ⟨shortMore, -, marksMore⟩ := ih front.length others
    rw [List.drop_left] at shortMore marksMore
    have width := length_le_encoded front
    have backslash := Char.utf8Size_pos '\\'
    rw [length_encoded_cons, encoded_append, List.length_append, List.length_append,
      List.count_cons_of_ne (by decide), List.count_append, List.count_append]
    omega
  | case3 c rest other ih =>
    obtain ⟨more, others, rfl⟩ := Option.map_eq_some_iff.mp read
    obtain ⟨shortMore, shorter, marksMore⟩ := ih others
    rw [length_encoded_cons, List.length_append, String.length_utf8EncodeChar, List.count_append]
    have marks : (c :: rest).count '"' ≤ (String.utf8EncodeChar c).count 0x22 + rest.count '"' := by
      by_cases mark : c = '"'
      · subst mark
        rw [List.count_cons_self, Nat.add_comm]
        exact Nat.le_refl _
      · rw [List.count_cons_of_ne mark]
        omega
    refine ⟨by omega, fun within => ?_, by omega⟩
    have := shorter ((List.mem_cons.mp within).resolve_left fun same => other same.symm)
    omega

theorem value?_of_plain (plain : '\\' ∉ cs) : value? cs = some (encoded cs) := by
  fun_induction value? cs with
  | case1 => rfl
  | case2 => exact absurd List.mem_cons_self plain
  | case3 c rest other ih => rw [ih fun within => plain (.tail _ within)]; rfl

theorem eq_of_spelling? {body : List Char} (read : spelling? cs = some (body, behind)) :
    cs = body ++ '"' :: behind ∧ (∀ c ∈ body, isLineEnd c = false) ∧
      ('\\' ∉ body → '"' ∉ body) := by
  fun_induction spelling? cs generalizing body behind with
  | case1 => cases read
  | case2 rest => cases read; simp
  | case3 => cases read
  | case4 c rest other ih =>
    obtain ⟨⟨body, behind⟩, inner, same⟩ := Option.map_eq_some_iff.mp read
    cases same
    obtain ⟨rfl, ends, -⟩ := ih inner
    have backslash : isLineEnd '\\' = false := by decide
    exact ⟨rfl, by simp_all, fun free => (free List.mem_cons_self).elim⟩
  | case5 => cases read
  | case6 c rest noMark _ inLine ih =>
    obtain ⟨⟨body, behind⟩, inner, same⟩ := Option.map_eq_some_iff.mp read
    cases same
    obtain ⟨rfl, ends, free⟩ := ih inner
    refine ⟨rfl, by simp_all, fun apart within => ?_⟩
    rcases List.mem_cons.mp within with same | within
    · exact noMark same.symm
    · exact free (fun slash => apart (.tail _ slash)) within

theorem spelling?_of_plain (plain : ∀ c ∈ cs, isPlain c) :
    spelling? (cs ++ '"' :: behind) = some (cs, behind) := by
  induction cs with
  | nil => rfl
  | cons c cs ih =>
    have here := plain c List.mem_cons_self
    simp only [isPlain, Bool.and_eq_true, bne_iff_ne, ne_eq, Bool.not_eq_true'] at here
    obtain ⟨⟨noMark, noBackslash⟩, inLine⟩ := here
    rw [List.cons_append, spelling?.eq_4 _ _ noMark (fun _ _ same _ => noBackslash same), inLine,
      ih fun d within => plain d (.tail _ within)]
    rfl

theorem literal?_of_plain (plain : ∀ c ∈ text, isPlain c) :
    literal? (joinLines (text ++ '"' :: tail)) = some (encoded text, joinLines tail) := by
  have noBackslash : '\\' ∉ text := fun within => by simpa [isPlain] using plain _ within
  rw [joinLines_append_mark, joinLines_of_plain noBackslash, literal?, spelling?_of_plain plain]
  simp only [Option.bind_some, value?_of_plain noBackslash, Option.map_some]

/-- If a literal denotes what is written between the marks, every character of this stands for itself.
A literal that ends at an earlier mark denotes too few bytes, and one that ends at a later mark
denotes more marks than the text has. -/
theorem plain_of_literal?
    (read : literal? (joinLines (text ++ '"' :: tail)) = some (encoded text, behind)) :
    ∀ c ∈ text, isPlain c := by
  obtain ⟨⟨body, rest⟩, spelled, read⟩ := Option.bind_eq_some_iff.mp read
  obtain ⟨bytes, denoted, same⟩ := Option.map_eq_some_iff.mp read
  cases same
  obtain ⟨short, shorter, marks⟩ := value?_bounds denoted
  obtain ⟨parts, inLine, unmarked⟩ := eq_of_spelling? spelled
  rw [joinLines_append_mark] at parts
  have joined := length_joinLines_le text
  have joinedMarks := count_joinLines text
  have textMarks := count_encoded_le text
  have same : body = joinLines text := by
    rcases List.append_eq_append_iff.mp parts with
      ⟨_ | ⟨mark, more⟩, longer, rest⟩ | ⟨_ | ⟨mark, more⟩, longer, rest⟩
    · rw [longer, List.append_nil]
    · obtain ⟨rfl, -⟩ := List.cons.inj rest
      rw [longer, List.count_append, List.count_cons_self] at marks
      omega
    · rw [longer, List.append_nil]
    · rw [longer, encoded_append, List.length_append, length_encoded_cons] at joined
      have some := mark.utf8Size_pos
      omega
  subst same
  have whole : joinLines text = text := (joinLines_eq_or_shorter text).resolve_right fun _ => by omega
  rw [whole] at shorter inLine unmarked
  have noBackslash : '\\' ∉ text := fun within => by have := shorter within; omega
  intro c within
  simp only [isPlain, Bool.and_eq_true, bne_iff_ne, Bool.not_eq_true']
  have noMark : c ≠ '"' := fun same => unmarked noBackslash (same ▸ within)
  have noEscape : c ≠ '\\' := fun same => noBackslash (same ▸ within)
  exact ⟨⟨noMark, noEscape⟩, inLine c within⟩

theorem length_of_literal? (read : literal? cs = some (bytes, behind)) :
    behind.length < cs.length := by
  obtain ⟨⟨body, rest⟩, spelled, read⟩ := Option.bind_eq_some_iff.mp read
  obtain ⟨bytes, denoted, same⟩ := Option.map_eq_some_iff.mp read
  cases same
  rw [(eq_of_spelling? spelled).1, List.length_append, List.length_cons]
  omega

end Texts

def isBlank (c : Char) : Bool := c ∈ [' ', '\t', '\n', '\r', '\x0b', '\x0c']

/-- What a row consists of, but for blanks. -/
inductive Token
  | opening
  | closing
  | comma
  | literal (bytes : List UInt8)
deriving DecidableEq, Repr

def tokensFrom : List Char → Option (List Token)
  | [] => some []
  | '\x7b' :: rest => (tokensFrom rest).map (.opening :: ·)
  | '\x7d' :: rest => (tokensFrom rest).map (.closing :: ·)
  | ',' :: rest => (tokensFrom rest).map (.comma :: ·)
  | '"' :: rest =>
    match _ : literal? rest with
    | some (bytes, behind) => (tokensFrom behind).map (.literal bytes :: ·)
    | none => none
  | c :: rest => if isBlank c then tokensFrom rest else none
termination_by cs => cs.length
decreasing_by
  all_goals simp only [List.length_cons]
  any_goals omega
  exact Nat.lt_succ_of_lt (length_of_literal? ‹_›)

/-- The tokens of a row. Neighbouring literals are not joined. -/
def tokens? (row : String) : Option (List Token) := tokensFrom (joinLines row.toList)

section Tokens

variable (rest : List Char)

theorem tokensFrom_nil : tokensFrom (joinLines []) = some [] := by simp [joinLines, tokensFrom]

/-- The characters that are tokens by themselves. -/
def signs : List (Char × Token) := [('\x7b', .opening), ('\x7d', .closing), (',', .comma)]

theorem tokensFrom_sign {c : Char} {token : Token} (sign : (c, token) ∈ signs) :
    tokensFrom (joinLines (c :: rest)) = (tokensFrom (joinLines rest)).map (token :: ·) := by
  simp only [signs, List.mem_cons, Prod.mk.injEq, List.not_mem_nil, or_false] at sign
  rcases sign with ⟨rfl, rfl⟩ | ⟨rfl, rfl⟩ | ⟨rfl, rfl⟩ <;> simp [joinLines, tokensFrom]

theorem tokensFrom_blank {c : Char} (blank : isBlank c = true) :
    tokensFrom (joinLines (c :: rest)) = tokensFrom (joinLines rest) := by
  simp only [isBlank, List.mem_cons, List.not_mem_nil, or_false, decide_eq_true_eq] at blank
  rcases blank with rfl | rfl | rfl | rfl | rfl | rfl <;> simp [joinLines, tokensFrom, isBlank]

theorem tokensFrom_opening : tokensFrom (joinLines ('\x7b' :: rest)) =
    (tokensFrom (joinLines rest)).map (.opening :: ·) := tokensFrom_sign rest (by simp [signs])

theorem tokensFrom_closing : tokensFrom (joinLines ('\x7d' :: rest)) =
    (tokensFrom (joinLines rest)).map (.closing :: ·) := tokensFrom_sign rest (by simp [signs])

theorem tokensFrom_comma : tokensFrom (joinLines (',' :: rest)) =
    (tokensFrom (joinLines rest)).map (.comma :: ·) := tokensFrom_sign rest (by simp [signs])

theorem tokensFrom_space : tokensFrom (joinLines (' ' :: rest)) = tokensFrom (joinLines rest) :=
  tokensFrom_blank rest (by decide)

theorem tokensFrom_lineFeed : tokensFrom (joinLines ('\n' :: rest)) = tokensFrom (joinLines rest) :=
  tokensFrom_blank rest (by decide)

end Tokens

/-- A text between marks is read as its own bytes exactly if it is plain, and then reading goes on behind
it. -/
theorem tokensFrom_marked_iff {text tail : List Char} {tokens : List Token} :
    tokensFrom (joinLines ('"' :: (text ++ '"' :: tail))) = some (.literal (encoded text) :: tokens) ↔
      (∀ c ∈ text, isPlain c) ∧ tokensFrom (joinLines tail) = some tokens := by
  have opened : joinLines ('"' :: (text ++ '"' :: tail)) = '"' :: joinLines (text ++ '"' :: tail) := by
    simp [joinLines]
  rw [opened, tokensFrom]
  constructor
  · intro read
    split at read
    · rename_i bytes behind literal
      obtain ⟨more, rest, same⟩ := Option.map_eq_some_iff.mp read
      obtain ⟨same, rfl⟩ := List.cons.inj same
      cases same
      have plain := plain_of_literal? literal
      rw [literal?_of_plain plain, Option.some.injEq, Prod.mk.injEq] at literal
      exact ⟨plain, literal.2 ▸ rest⟩
    · cases read
  · rintro ⟨plain, rest⟩
    split
    · rename_i bytes behind literal
      rw [literal?_of_plain plain, Option.some.injEq, Prod.mk.injEq] at literal
      obtain ⟨rfl, rfl⟩ := literal
      rw [rest, Option.map_some]
    · rename_i literal
      rw [literal?_of_plain plain] at literal
      cases literal

end ModelCatalog.Literal
