import ModelCatalog.Text.Visible

/-! Paths as they are written: segments between slashes. Empty segments and single dots count for
nothing behind the first segment. -/
namespace ModelCatalog

structure Path where
  text : String
deriving DecidableEq, Repr

namespace Path

/-- The pieces between the slashes. -/
def splitSlashes : List Char → List (List Char)
  | [] => [[]]
  | c :: cs =>
    if c = '/' then [] :: splitSlashes cs
    else match splitSlashes cs with
      | piece :: rest => (c :: piece) :: rest
      | [] => [[c]]

/-- The pieces between the slashes; a leading slash leaves an empty first piece. -/
def segments (p : Path) : List String := (splitSlashes p.text.toList).map String.ofList

theorem splitSlashes_ne_nil (cs : List Char) : splitSlashes cs ≠ [] := by
  cases cs with
  | nil => simp [splitSlashes]
  | cons c cs =>
    rw [splitSlashes]
    split
    · simp
    · split <;> simp

theorem segments_ne_nil (p : Path) : p.segments ≠ [] := by
  simp [segments, splitSlashes_ne_nil]

theorem splitSlashes_append (front back : List Char) :
    splitSlashes (front ++ '/' :: back) = splitSlashes front ++ splitSlashes back := by
  induction front with
  | nil => simp [splitSlashes]
  | cons c front ih =>
    by_cases slash : c = '/'
    · simp [splitSlashes, slash, ih]
    · rw [List.cons_append, splitSlashes, if_neg slash, ih, splitSlashes, if_neg slash]
      obtain ⟨piece, rest, split⟩ := List.exists_cons_of_ne_nil (splitSlashes_ne_nil front)
      simp [split]

theorem splitSlashes_of_no_slash {cs : List Char} (plain : '/' ∉ cs) : splitSlashes cs = [cs] := by
  induction cs with
  | nil => rfl
  | cons c cs ih =>
    rw [List.mem_cons, not_or] at plain
    simp [splitSlashes, Ne.symm plain.1, ih plain.2]

def ofSegments (segments : List String) : Path := ⟨"/".intercalate segments⟩

def isAbsolute (p : Path) : Bool := p.text.toList.head? == some '/'

def isIdle (segment : String) : Bool := segment.isEmpty || segment == "."

/-- Drops idle segments at the end, but not the first segment. -/
def trimIdle (segments : List String) : List String :=
  match segments with
  | [] => []
  | first :: rest => first :: (rest.reverse.dropWhile isIdle).reverse

/-- The path without its last segment that counts; a root and an empty path have none. -/
def parent? (p : Path) : Option Path :=
  match trimIdle p.segments with
  | [] | [""] => none
  | segments =>
    match trimIdle segments.dropLast with
    | [""] => some (if p.isAbsolute then ⟨"/"⟩ else ⟨""⟩)
    | upper => some (ofSegments upper)

/-- The last segment that counts, unless it is a dot or two. -/
def fileName? (p : Path) : Option String :=
  match (trimIdle p.segments).getLast? with
  | some name => if name.isEmpty || name == "." || name == ".." then none else some name
  | none => none

/-- What follows the last dot of the file name; a dot that begins the name is none. -/
def extension (p : Path) : String :=
  match p.fileName? with
  | none => ""
  | some name =>
    let behind := name.toList.reverse.takeWhile (· != '.')
    if behind.length + 1 < name.length then String.ofList behind.reverse else ""

/-- The second path seen from the first. -/
def join (base other : Path) : Path :=
  if other.isAbsolute || base.text.isEmpty then other
  else if base.text.toList.getLast? == some '/' then ⟨base.text ++ other.text⟩
  else ⟨base.text ++ "/" ++ other.text⟩

/-- A character in quoted form: quotes, backslashes and whatever is not visible are escaped. -/
def quoteChar (c : Char) : List Char :=
  match c with
  | '"' => ['\\', '"']
  | '\\' => ['\\', '\\']
  | '\x00' => ['\\', '0']
  | '\t' => ['\\', 't']
  | '\n' => ['\\', 'n']
  | '\r' => ['\\', 'r']
  | c =>
    if Text.isVisible c then [c]
    else ['\\', 'u', '\x7b'] ++ Nat.toDigits 16 c.toNat ++ ['\x7d']

def quoted (p : Path) : String :=
  String.ofList ('"' :: p.text.toList.flatMap quoteChar ++ ['"'])

end Path

end ModelCatalog
