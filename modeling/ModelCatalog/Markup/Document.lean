import ModelCatalog.OrderedMap
import ModelCatalog.Markup.Event
import ModelCatalog.Markup.Scanner

/-! Documents: trees of nodes, and the nodes that aliases stand for. -/
namespace ModelCatalog.Markup

structure Scalar where
  text : String
  style : Style
  tag : Option String
deriving DecidableEq, Repr

/-- An alias refers to an anchor by its number. -/
inductive Node
  | scalar (value : Scalar)
  | sequence (tag : Option String) (items : List Node)
  | mapping (tag : Option String) (entries : List (Node × Node))
  | alias (number : Nat)
deriving Repr

/-- What an unfinished collection holds, the last item first, and a key that waits for its value. -/
inductive Frame
  | items (tag : Option String) (found : List Node)
  | entries (tag : Option String) (found : List (Node × Node)) (key : Option Node)

/-- An anchored node: its number, and how many anchored nodes began before it. -/
structure Anchored where
  number : Nat
  order : Nat
  node : Node

/-- A number is the count of different names before the anchor, so that a name which is used again
takes the next number, and two anchors may share one. -/
structure Composer where
  /-- Unfinished collections, the innermost first, with their numbers and orders. -/
  frames : List (Frame × Option (Nat × Nat))
  names : OrderedMap String Nat
  begun : Nat
  anchored : List Anchored
  root : Option Node

namespace Composer

def start : Composer := ⟨[], OrderedMap.empty, 0, [], none⟩

/-- Gives a number and an order to an anchored node that begins. -/
def begin (c : Composer) (anchor : Option String) : Composer × Option (Nat × Nat) :=
  match anchor with
  | none => (c, none)
  | some name =>
    ({ c with names := c.names.set name c.names.size, begun := c.begun + 1 },
      some (c.names.size, c.begun))

def note (c : Composer) (place : Option (Nat × Nat)) (node : Node) : Composer :=
  match place with
  | some (number, order) => { c with anchored := ⟨number, order, node⟩ :: c.anchored }
  | none => c

/-- Adds a finished node to the innermost collection. -/
def add (c : Composer) (node : Node) : Composer :=
  match c.frames with
  | [] => { c with root := some node }
  | (.items tag found, place) :: rest =>
    { c with frames := (.items tag (node :: found), place) :: rest }
  | (.entries tag found none, place) :: rest =>
    { c with frames := (.entries tag found (some node), place) :: rest }
  | (.entries tag found (some key), place) :: rest =>
    { c with frames := (.entries tag ((key, node) :: found) none, place) :: rest }

def opening (c : Composer) (anchor : Option String) (frame : Frame) : Composer :=
  let (c, place) := c.begin anchor
  { c with frames := (frame, place) :: c.frames }

def close (c : Composer) : Composer :=
  match c.frames with
  | [] => c
  | (frame, place) :: rest =>
    let node :=
      match frame with
      | .items tag found => Node.sequence tag found.reverse
      | .entries tag found _ => Node.mapping tag found.reverse
    (note { c with frames := rest } place node).add node

/-- Takes the next event; an alias needs an anchor of its name before it. -/
def next? (c : Composer) : Event → Option Composer
  | .alias name => (c.names.get? name).map fun number => c.add (.alias number)
  | .scalar property text style =>
    let (c, place) := c.begin property.anchor
    let node := Node.scalar ⟨text, style, property.tag⟩
    some ((c.note place node).add node)
  | .sequenceStart property => some (c.opening property.anchor (.items property.tag []))
  | .mappingStart property => some (c.opening property.anchor (.entries property.tag [] none))
  | .sequenceEnd | .mappingEnd => some c.close

end Composer

/-- The root, if the text has one, and the anchored nodes in the order in which they begin. -/
structure Document where
  root : Option Node
  anchored : List Anchored

/-- Among the anchored nodes of a number, the one that begins last. -/
def Document.target? (doc : Document) (number : Nat) : Option Node :=
  (doc.anchored.foldl (fun best candidate =>
    if candidate.number != number then best
    else match best with
      | some chosen => if chosen.order < candidate.order then some candidate else best
      | none => some candidate) (none : Option Anchored)).map (·.node)

/-- The node itself, or the node that an alias stands for. -/
def Document.resolve (doc : Document) (node : Node) : Node :=
  match node with
  | .alias number => (doc.target? number).getD node
  | _ => node

def Document.ofEvents? (events : List Event) : Option Document :=
  (events.foldlM Composer.next? Composer.start).map fun c => ⟨c.root, c.anchored⟩

/-- Reads a text that holds at most one document. -/
def Document.read? (text : String) : Option Document :=
  ((tokens? text.toList).bind events?).bind Document.ofEvents?

end ModelCatalog.Markup
