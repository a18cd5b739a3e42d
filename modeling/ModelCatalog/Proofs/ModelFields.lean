import Mathlib.Logic.Relation
import ModelCatalog.Proofs.ResolvedNodes

/-! A model is read from the values of its known fields alone. The order of the fields, fields of
other names, and null fields in place of absent ones have no say in it, nor in whether there is a
model at all; a known field that is given twice is refused. The same holds of the specifications
inside a model. -/
namespace ModelCatalog

open Markup

/-- A document and the fields of one of its mappings, whose values are nodes of the document. -/
abbrev Given := Document × Fields

def plainNode (text : String) : Node := .scalar ⟨text, .plain, none⟩

/-- Plain scalars that stand for no value: empty ones, and null words, which may have their tag. -/
inductive IsNull : Node → Prop
  | empty : IsNull (.scalar ⟨"", .plain, none⟩)
  | word {text : String} {tag : Option String} : text ∈ ["~", "null", "Null", "NULL"] →
      tag ∈ [none, some nullTag] → IsNull (.scalar ⟨text, .plain, tag⟩)

/-- Changes of a mapping that leave the known fields as they are. -/
inductive Edit (known : List String) : Given → Given → Prop
  /-- The values are written with other aliases. -/
  | resolved {doc doc' : Document} {fields fields' : Fields} :
      SameFields doc doc' fields fields' → Edit known (doc, fields) (doc', fields')
  | reordered {doc : Document} {fields fields' : Fields} :
      fields.Perm fields' → Edit known (doc, fields) (doc, fields')
  /-- A field of another name is added. -/
  | unknown {doc : Document} {before after : Fields} {name : String} {node : Node} :
      name ∉ known → Edit known (doc, before ++ after) (doc, before ++ (name, node) :: after)
  /-- An absent field is given as null. -/
  | null {doc : Document} {before after : Fields} {name : String} {node : Node} :
      name ∉ (before ++ after).map Prod.fst → IsNull (doc.resolve node) →
      Edit known (doc, before ++ after) (doc, before ++ (name, node) :: after)

/-- Changes of the mapping of a model, or of the mapping of the specifications in it. -/
inductive ModelEdit : Given → Given → Prop
  | fields {given given' : Given} : Edit Model.keys given given' → ModelEdit given given'
  | specifications {doc : Document} {before after details details' : Fields} {node node' : Node}
      {tag tag' : Option String} {entries entries' : List (Node × Node)} :
      doc.resolve node = .mapping tag entries → fields? doc entries = some details →
      doc.resolve node' = .mapping tag' entries' → fields? doc entries' = some details' →
      Edit Specifications.keys (doc, details) (doc, details') →
      ModelEdit (doc, before ++ ("Specifications", node) :: after)
        (doc, before ++ ("Specifications", node') :: after)

/-- The text is a document whose root is a mapping with scalar keys. -/
def GivenIn (text : String) (given : Given) : Prop :=
  Document.read? text = some given.1 ∧ ∃ tag entries,
    given.1.root = some (.mapping tag entries) ∧ fields? given.1 entries = some given.2

/-- Whether one of the known names comes more than once. -/
def Repeats (known : List String) (fields : Fields) : Prop :=
  ∃ name ∈ known, 1 < (fields.map Prod.fst).count name

/-- Whether two mappings are read alike: both or neither are refused for a repeated name, and if
they are not, each known field has one value for both. -/
structure ReadAlike (known : List String) (given given' : Given) : Prop where
  unique : given.2.areUnique known = given'.2.areUnique known
  values : given.2.areUnique known = true → ∀ name ∈ known, ∀ {α : Type} (decode : Decoder α),
    Resolving decode → given.2.get? given.1 name decode = given'.2.get? given'.1 name decode

section Fields

variable {α : Type} {known : List String} {doc doc' : Document} {fields fields' : Fields}
  {before after : Fields} {name other : String} {node : Node} {decode : Decoder α}

theorem areUnique_iff :
    fields.areUnique known = true ↔ ∀ name ∈ known, (fields.map Prod.fst).count name ≤ 1 := by
  simp [Fields.areUnique]

theorem areUnique_of_repeats (twice : Repeats known fields) : fields.areUnique known = false := by
  obtain ⟨name, member, more⟩ := twice
  refine Bool.eq_false_iff.mpr fun unique => ?_
  exact absurd (areUnique_iff.mp unique name member) (Nat.not_le.mpr more)

theorem count_insert (before after : Fields) (name other : String) (node : Node) :
    ((before ++ (name, node) :: after).map Prod.fst).count other =
      ((before ++ after).map Prod.fst).count other + if name = other then 1 else 0 := by
  rw [(List.perm_middle.map Prod.fst).count_eq, List.map_cons, List.count_cons]
  simp only [beq_iff_eq]

theorem areUnique_insert_absent (absent : name ∉ (before ++ after).map Prod.fst) :
    Fields.areUnique known (before ++ (name, node) :: after) =
      Fields.areUnique known (before ++ after) := by
  rw [Bool.eq_iff_iff, areUnique_iff, areUnique_iff]
  refine forall₂_congr fun other member => ?_
  rw [count_insert]
  by_cases same : name = other
  · subst same
    rw [List.count_eq_zero.mpr absent, if_pos rfl]
    decide
  · rw [if_neg same, Nat.add_zero]

theorem get?_insert_other (apart : name ≠ other) :
    Fields.get? (before ++ (name, node) :: after) doc other decode =
      Fields.get? (before ++ after) doc other decode := by
  simp only [Fields.get?, pairValue?_append, pairValue?, if_neg apart]

theorem get?_of_mem (member : (name, node) ∈ fields)
    (once : (fields.map Prod.fst).count name ≤ 1) :
    fields.get? doc name decode = optional decode doc (doc.resolve node) := by
  rw [Fields.get?, pairValue?_of_mem member once]

theorem get?_of_absent (absent : name ∉ fields.map Prod.fst) :
    fields.get? doc name decode = some none := by
  rw [Fields.get?, pairValue?_eq_none absent]

theorem isPresent?_of_isNull (null : IsNull node) : node.isPresent? = some false := by
  cases null with
  | empty => rfl
  | @word text tag word tagged =>
    have isWord : isNullWord text = true := by
      simp only [List.mem_cons, List.not_mem_nil, or_false] at word
      rcases word with rfl | rfl | rfl | rfl <;> rfl
    simp only [List.mem_cons, List.not_mem_nil, or_false] at tagged
    rcases tagged with rfl | rfl <;> simp [Node.isPresent?, isWord]

theorem optional_of_isNull (null : IsNull node) : optional decode doc node = some none := by
  unfold Markup.optional
  rw [isPresent?_of_isNull null]

theorem get?_insert_null (absent : name ∉ (before ++ after).map Prod.fst)
    (null : IsNull (doc.resolve node)) :
    Fields.get? (before ++ (name, node) :: after) doc name decode = some none := by
  rw [List.map_append, List.mem_append, not_or] at absent
  simp only [Fields.get?, pairValue?_append, pairValue?_eq_none absent.1, pairValue?, if_true,
    Option.none_or]
  exact optional_of_isNull null

end Fields

/-- No change makes a mapping be read otherwise. -/
theorem Edit.readAlike {known : List String} {given given' : Given}
    (edit : Edit known given given') : ReadAlike known given given' := by
  cases edit with
  | resolved same =>
    exact ⟨same.areUnique, fun _ name _ _ decode seen => same.get? seen⟩
  | @reordered doc fields fields' same =>
    refine ⟨?_, fun unique name member _ decode _ => ?_⟩
    · simp only [Fields.areUnique, (same.map Prod.fst).count_eq]
    · simp only [Fields.get?]
      rw [pairValue?_of_perm same (areUnique_iff.mp unique name member)]
  | @unknown doc before after name node strange =>
    have apart (other : String) (member : other ∈ known) : name ≠ other :=
      fun same => strange (same ▸ member)
    refine ⟨?_, fun _ other member _ decode _ => (get?_insert_other (apart other member)).symm⟩
    rw [Bool.eq_iff_iff, areUnique_iff, areUnique_iff]
    refine forall₂_congr fun other member => ?_
    rw [count_insert, if_neg (apart other member), Nat.add_zero]
  | @null doc before after name node absent null =>
    refine ⟨(areUnique_insert_absent absent).symm, fun _ other member _ decode _ => ?_⟩
    by_cases same : name = other
    · subst same
      exact (get?_of_absent absent).trans (get?_insert_null absent null).symm
    · exact (get?_insert_other same).symm

/-- What a mapping is decoded to by its fields. -/
def decodeGiven {α : Type} (known : List String) (decode : Document → Fields → Option α)
    (given : Given) : Option α :=
  if given.2.areUnique known then decode given.1 given.2 else none

section Structures

variable {α : Type} {known : List String} {given given' : Given} {doc : Document} {fields : Fields}
  {tag : Option String} {entries : List (Node × Node)} {decode : Document → Fields → Option α}

theorem structure?_mapping (named : fields? doc entries = some fields) :
    structure? known decode doc (.mapping tag entries) =
      decodeGiven known decode (doc, fields) := by
  simp [structure?, named, decodeGiven]

theorem decodeGiven_of_repeats (twice : Repeats known given.2) :
    decodeGiven known decode given = none := by
  rw [decodeGiven, areUnique_of_repeats twice, if_neg Bool.false_ne_true]

theorem ReadAlike.decodeGiven (alike : ReadAlike known given given')
    (made : (∀ name ∈ known, ∀ {β : Type} (each : Decoder β), Resolving each →
        given.2.get? given.1 name each = given'.2.get? given'.1 name each) →
      decode given.1 given.2 = decode given'.1 given'.2) :
    ModelCatalog.decodeGiven known decode given = ModelCatalog.decodeGiven known decode given' := by
  unfold ModelCatalog.decodeGiven
  rw [← alike.unique]
  split
  · next unique => exact made (alike.values unique)
  · rfl

end Structures

section Specifications

variable {doc doc' : Document} {fields fields' : Fields}

theorem Specifications.ofFields?_congr
    (same : ∀ name ∈ keys, ∀ {β : Type} (each : Decoder β), Resolving each →
      fields.get? doc name each = fields'.get? doc' name each) :
    ofFields? doc fields = ofFields? doc' fields' := by
  have lists (name : String) (member : name ∈ keys) := same name member _ resolving_freeText.list
  simp only [ofFields?, lists "CPU" (by decide), lists "SystemReportName" (by decide)]

theorem resolving_specifications : Resolving Specifications.decode := by
  intro doc doc' node node' same
  cases same with
  | mapping tag pairs =>
    rcases fields?_eq_of_sameHead pairs with ⟨none, none'⟩ | ⟨fields, fields', some, some', same⟩
    · simp [Specifications.decode, structure?, none, none']
    · rw [Specifications.decode, structure?_mapping some, structure?_mapping some']
      exact (Edit.resolved same).readAlike.decodeGiven Specifications.ofFields?_congr
  | scalar s =>
    -- an omitted scalar is read as a mapping without entries
    have empty : decodeGiven Specifications.keys Specifications.ofFields? (doc, []) =
        decodeGiven Specifications.keys Specifications.ofFields? (doc', []) :=
      (Edit.resolved .nil).readAlike.decodeGiven Specifications.ofFields?_congr
    by_cases omitted : (Node.scalar s).isOmitted
    · simpa [Specifications.decode, structure?, fields?, omitted, decodeGiven] using empty
    · simp [Specifications.decode, structure?, omitted]
  | sequence | unresolved => rfl

/-- A model is made from its known fields, of which the specifications have a decoder of their
own. -/
theorem Model.ofFields?_congr
    (same : ∀ name ∈ keys, name ≠ "Specifications" → ∀ {β : Type} (each : Decoder β),
      Resolving each → fields.get? doc name each = fields'.get? doc' name each)
    (details : fields.get? doc "Specifications" Specifications.decode =
      fields'.get? doc' "Specifications" Specifications.decode) :
    ofFields? doc fields = ofFields? doc' fields' := by
  have texts (name : String) (member : name ∈ keys) (apart : name ≠ "Specifications") :=
    same name member apart _ resolving_freeText
  have lists (name : String) (member : name ∈ keys) (apart : name ≠ "Specifications") :=
    same name member apart _ resolving_freeText.list
  have bytes (name : String) (member : name ∈ keys) (apart : name ≠ "Specifications") :=
    same name member apart _ resolving_word8.list
  have years (name : String) (member : name ∈ keys) (apart : name ≠ "Specifications") :=
    same name member apart _ resolving_word32.list
  have words (name : String) (member : name ∈ keys) (apart : name ≠ "Specifications") :=
    same name member apart _ resolving_word32
  have wide (name : String) (member : name ∈ keys) (apart : name ≠ "Specifications") :=
    same name member apart _ resolving_word64
  have boards (name : String) (member : name ∈ keys) (apart : name ≠ "Specifications") :=
    same name member apart _ resolving_boards
  simp (disch := decide) only [ofFields?, texts, lists, bytes, years, words, wide, boards, details]

end Specifications

section Model

variable {doc : Document} {fields before after : Fields} {node node' : Node}
  {tag tag' : Option String} {entries entries' : List (Node × Node)} {given given' : Given}

theorem Model.ofFields?_of_details
    (refused : fields.get? doc "Specifications" Specifications.decode = none) :
    ofFields? doc fields = none := by
  simp [ofFields?, refused]

/-- The specifications matter only as far as they are decoded. -/
theorem get?_specifications_congr
    (found : doc.resolve node = .mapping tag entries)
    (found' : doc.resolve node' = .mapping tag' entries')
    (same : Specifications.decode doc (.mapping tag entries) =
      Specifications.decode doc (.mapping tag' entries')) :
    Fields.get? (before ++ ("Specifications", node) :: after) doc "Specifications"
        Specifications.decode =
      Fields.get? (before ++ ("Specifications", node') :: after) doc "Specifications"
        Specifications.decode := by
  simp only [Fields.get?, pairValue?_append, pairValue?, if_true]
  cases pairValue? before "Specifications" with
  | some _ => rfl
  | none =>
    simp only [Option.none_or, found, found']
    exact congrArg (Option.map some) same

theorem ModelEdit.decodeGiven (edit : ModelEdit given given') :
    ModelCatalog.decodeGiven Model.keys Model.ofFields? given =
      ModelCatalog.decodeGiven Model.keys Model.ofFields? given' := by
  cases edit with
  | fields edit =>
    refine edit.readAlike.decodeGiven fun same => Model.ofFields?_congr ?_ ?_
    · exact fun name member _ _ each seen => same name member each seen
    · exact same "Specifications" (by decide) _ resolving_specifications
  | @specifications doc before after details details' node node' _ _ _ _ found named found' named'
      edit =>
    have same := edit.readAlike.decodeGiven Specifications.ofFields?_congr
    rw [← structure?_mapping named, ← structure?_mapping named'] at same
    have made : Model.ofFields? doc (before ++ ("Specifications", node) :: after) =
        Model.ofFields? doc (before ++ ("Specifications", node') :: after) := by
      refine Model.ofFields?_congr (fun name _ apart _ each _ => ?_) ?_
      · rw [get?_insert_other apart.symm, get?_insert_other apart.symm]
      · exact get?_specifications_congr found found' same
    simp only [ModelCatalog.decodeGiven, Fields.areUnique, List.map_append, List.map_cons, made]

theorem decodeGiven_of_edited (edited : Relation.EqvGen ModelEdit given given') :
    decodeGiven Model.keys Model.ofFields? given =
      decodeGiven Model.keys Model.ofFields? given' := by
  induction edited with
  | rel _ _ edit => exact edit.decodeGiven
  | refl => rfl
  | symm _ _ _ ih => exact ih.symm
  | trans _ _ _ _ _ first second => exact first.trans second

theorem decodeGiven_of_details {details : Fields} (member : ("Specifications", node) ∈ given.2)
    (found : given.1.resolve node = .mapping tag entries)
    (named : fields? given.1 entries = some details)
    (twice : Repeats Specifications.keys details) :
    decodeGiven Model.keys Model.ofFields? given = none := by
  unfold decodeGiven
  split
  · next unique =>
    have once := areUnique_iff.mp unique "Specifications" (by decide)
    refine Model.ofFields?_of_details ?_
    rw [get?_of_mem member once, found]
    change (Specifications.decode given.1 (.mapping tag entries)).map some = none
    rw [Specifications.decode, structure?_mapping named, decodeGiven_of_repeats twice,
      Option.map_none]
  · rfl

theorem read?_of_givenIn {text : String} (holds : GivenIn text given) :
    Model.read? text = decodeGiven Model.keys Model.ofFields? given := by
  obtain ⟨parsed, tag, entries, root, named⟩ := holds
  simp only [Model.read?, parsed, Option.bind_eq_bind, Option.bind_some, root]
  exact structure?_mapping named

end Model

/-- A model is read from the values of its known fields alone, and if one of them is given twice,
there is no model. -/
theorem read?_of_edited {text : String} {given : Given} (holds : GivenIn text given) :
    (∀ text' given', GivenIn text' given' → Relation.EqvGen ModelEdit given given' →
      Model.read? text = Model.read? text') ∧
    (Repeats Model.keys given.2 → Model.read? text = none) ∧
    (∀ node tag entries details, ("Specifications", node) ∈ given.2 →
      given.1.resolve node = .mapping tag entries → fields? given.1 entries = some details →
      Repeats Specifications.keys details → Model.read? text = none) := by
  rw [read?_of_givenIn holds]
  refine ⟨fun text' given' holds' edited => ?_, decodeGiven_of_repeats, ?_⟩
  · rw [read?_of_givenIn holds']
    exact decodeGiven_of_edited edited
  · intro node tag entries details member found named twice
    exact decodeGiven_of_details member found named twice

def anchoredText : String := "Years: &y [2010]\nSystemProductName: A\nAppleModelYear: *y\n"

def anchoredFields : Given :=
  let years := Node.sequence none [plainNode "2010"]
  let fields := [("Years", years), ("SystemProductName", plainNode "A"),
    ("AppleModelYear", .alias 0)]
  (⟨some (.mapping none (fields.map fun field => (plainNode field.1, field.2))), [⟨0, 0, years⟩]⟩,
    fields)

def spelledText : String := "AppleModelYear: [2010]\nBIOSVersion: ~\nSystemProductName: A\n"

def spelledFields : Given :=
  let fields := [("AppleModelYear", .sequence none [plainNode "2010"]),
    ("BIOSVersion", plainNode "~"), ("SystemProductName", plainNode "A")]
  (⟨some (.mapping none (fields.map fun field => (plainNode field.1, field.2))), []⟩, fields)

def repeatingText : String := "SystemProductName: A\nSpecifications: \x7bCPU: ~, CPU: [B]\x7d\n"

def repeatingFields : Given :=
  let details := Node.mapping none [(plainNode "CPU", plainNode "~"),
    (plainNode "CPU", .sequence none [plainNode "B"])]
  let fields := [("SystemProductName", plainNode "A"), ("Specifications", details)]
  (⟨some (.mapping none (fields.map fun field => (plainNode field.1, field.2))), []⟩, fields)

theorem givenIn_anchoredText : GivenIn anchoredText anchoredFields := ⟨rfl, none, _, rfl, rfl⟩

theorem givenIn_spelledText : GivenIn spelledText spelledFields := ⟨rfl, none, _, rfl, rfl⟩

theorem givenIn_repeatingText : GivenIn repeatingText repeatingFields := ⟨rfl, none, _, rfl, rfl⟩

/-- The field of another name goes with its anchor, the alias is replaced by what it stood for, the
order changes, and a null field comes. -/
theorem edited_anchoredFields : Relation.EqvGen ModelEdit anchoredFields spelledFields := by
  have dropped : ModelEdit (anchoredFields.1, [("SystemProductName", plainNode "A"),
      ("AppleModelYear", .alias 0)]) anchoredFields :=
    .fields (@Edit.unknown _ _ [] _ _ _ (by decide))
  have spelled : ModelEdit (anchoredFields.1, [("SystemProductName", plainNode "A"),
      ("AppleModelYear", .alias 0)]) (spelledFields.1, [("SystemProductName", plainNode "A"),
      ("AppleModelYear", .sequence none [plainNode "2010"])]) := by
    refine .fields (.resolved (.cons ⟨rfl, fun depth => ?_⟩ (.cons ⟨rfl, fun depth => ?_⟩ .nil)))
    · cases depth <;> rfl
    · match depth with
      | 0 | 1 | _ + 2 => rfl
  have swapped : ModelEdit (spelledFields.1, [("SystemProductName", plainNode "A"),
      ("AppleModelYear", .sequence none [plainNode "2010"])]) (spelledFields.1,
      [("AppleModelYear", .sequence none [plainNode "2010"]),
      ("SystemProductName", plainNode "A")]) :=
    .fields (.reordered (.swap ..))
  have filled : ModelEdit (spelledFields.1, [("AppleModelYear", .sequence none [plainNode "2010"]),
      ("SystemProductName", plainNode "A")]) spelledFields :=
    .fields (@Edit.null _ _ [_] _ _ _ (by decide) (.word (by decide) (by decide)))
  exact .trans _ _ _ (.symm _ _ (.rel _ _ dropped))
    (.trans _ _ _ (.rel _ _ spelled) (.trans _ _ _ (.rel _ _ swapped) (.rel _ _ filled)))

/-- The alias and what it stands for make one model, and a repeated detail makes none. -/
theorem edited_text_read_alike :
    (GivenIn anchoredText anchoredFields ∧ GivenIn spelledText spelledFields ∧
      Relation.EqvGen ModelEdit anchoredFields spelledFields ∧
      Model.read? anchoredText = Model.read? spelledText) ∧
    GivenIn repeatingText repeatingFields ∧ Model.read? repeatingText = none := by
  obtain ⟨same, _⟩ := read?_of_edited givenIn_anchoredText
  obtain ⟨_, _, refused⟩ := read?_of_edited givenIn_repeatingText
  refine ⟨⟨givenIn_anchoredText, givenIn_spelledText, edited_anchoredFields, ?_⟩,
    givenIn_repeatingText, ?_⟩
  · exact same _ _ givenIn_spelledText edited_anchoredFields
  · exact refused _ _ _ [("CPU", plainNode "~"), ("CPU", .sequence none [plainNode "B"])]
      (.tail _ (.head _)) rfl rfl ⟨"CPU", by decide, by decide⟩

end ModelCatalog
