/-! A place in a marked-up text, and the classes of characters that end words and lines. -/
namespace ModelCatalog.Markup

/-- Characters that a text may hold at all. -/
def isAllowed (c : Char) : Bool :=
  c == '\t' || c == '\n' || c == '\r' || (' ' ≤ c && c ≤ '~') || c == '\u0085' ||
    ('\u00A0' ≤ c && c ≤ '\uFFFD') || 0x10000 ≤ c.toNat

/-- Line breaks; a carriage return and a line feed together are one break. -/
def isBreak (c : Char) : Bool :=
  c == '\n' || c == '\r' || c == '\u0085' || c == '\u2028' || c == '\u2029'

def isBlank (c : Char) : Bool := c == ' ' || c == '\t'

def isBlankOrBreak (c : Char) : Bool := isBlank c || isBreak c

/-- Characters of names: ASCII letters and digits, underscore and hyphen. -/
def isNameChar (c : Char) : Bool := c.isAlphanum || c == '_' || c == '-'

structure Cursor where
  rest : List Char
  /-- Length of the whole text, which bounds the steps of every loop over it. -/
  size : Nat
  index : Nat
  line : Nat
  column : Nat
deriving Repr

namespace Cursor

def start (cs : List Char) : Cursor := ⟨cs, cs.length, 0, 0, 0⟩

def peek? (c : Cursor) : Option Char := c.rest.head?

/-- Whether the character `n` places ahead passes the test; the end does not. -/
def ahead (c : Cursor) (n : Nat) (test : Char → Bool) : Bool := (c.rest[n]?.map test).getD false

/-- Whether a blank, a line break or the end is `n` places ahead. -/
def endsWord (c : Cursor) (n : Nat) : Bool := (c.rest[n]?.map isBlankOrBreak).getD true

def atBreakOrEnd (c : Cursor) : Bool := (c.peek?.map isBreak).getD true

/-- Moves over characters of one line. -/
def skip (c : Cursor) (n : Nat) : Cursor :=
  { c with rest := c.rest.drop n, index := c.index + n, column := c.column + n }

/-- The beginning of the next line, behind a break of the given width. -/
def nextLine (c : Cursor) (rest : List Char) (width : Nat) : Cursor :=
  { c with rest := rest, index := c.index + width, line := c.line + 1, column := 0 }

/-- Moves over one line break, and tells how it is read: every break of one line is a line feed,
and the separators of lines and paragraphs stay. -/
def takeBreak? (c : Cursor) : Option (Char × Cursor) :=
  match c.rest with
  | '\r' :: '\n' :: rest => some ('\n', c.nextLine rest 2)
  | b :: rest =>
    if b == '\u2028' || b == '\u2029' then some (b, c.nextLine rest 1)
    else if isBreak b then some ('\n', c.nextLine rest 1)
    else none
  | [] => none

def skipBreak (c : Cursor) : Cursor := (c.takeBreak?.map Prod.snd).getD c

/-- Splits off the characters of the line that pass the test. -/
def takeWhile (c : Cursor) (test : Char → Bool) : List Char × Cursor :=
  let taken := c.rest.takeWhile test
  (taken, c.skip taken.length)

def skipWhile (c : Cursor) (test : Char → Bool) : Cursor := (c.takeWhile test).2

def skipComment (c : Cursor) : Cursor :=
  if c.peek? == some '#' then c.skipWhile fun d => !isBreak d else c

/-- Whether a line begins here that consists of three of the given characters and then ends or goes
on after a blank. -/
def startsMarker (c : Cursor) (d : Char) : Bool :=
  c.column == 0 && c.rest.take 3 == [d, d, d] && c.endsWord 3

def startsDocumentMarker (c : Cursor) : Bool := c.startsMarker '-' || c.startsMarker '.'

end Cursor

end ModelCatalog.Markup
