import Mathlib.Data.List.Forall2
import ModelCatalog.Model.Decode

/-! What decoders see of a node. They follow an alias wherever they meet one, so that two nodes are
read alike if nothing distinguishes them once their aliases are resolved, also if they lie in
different documents. -/
namespace ModelCatalog.Markup

/-- A node with the aliases in it resolved. It is cut off at a depth, since an alias may stand for a
node that it lies in. -/
def Document.unfold (doc : Document) : Nat → Node → Node
  | 0, _ => .sequence none []
  | depth + 1, node =>
    match doc.resolve node with
    | .scalar s => .scalar s
    | .sequence tag items => .sequence tag (items.map (doc.unfold depth))
    | .mapping tag entries =>
      .mapping tag (entries.map fun entry => (doc.unfold depth entry.1, doc.unfold depth entry.2))
    | .alias number => .alias number

/-- Whether nodes of two documents are the same once their aliases are resolved. -/
def SameValue (doc doc' : Document) (node node' : Node) : Prop :=
  ∀ depth, doc.unfold depth node = doc'.unfold depth node'

/-- Whether two mappings have the same names with the same values, in the same order. -/
def SameFields (doc doc' : Document) : Fields → Fields → Prop :=
  List.Forall₂ fun field field' => field.1 = field'.1 ∧ SameValue doc doc' field.2 field'.2

/-- Whether nodes that are no aliases are the same but for the aliases in them. -/
inductive SameHead (doc doc' : Document) : Node → Node → Prop
  | scalar (s : Scalar) : SameHead doc doc' (.scalar s) (.scalar s)
  | sequence {items items' : List Node} (tag : Option String) :
      List.Forall₂ (SameValue doc doc') items items' →
      SameHead doc doc' (.sequence tag items) (.sequence tag items')
  | mapping {entries entries' : List (Node × Node)} (tag : Option String) :
      List.Forall₂ (fun entry entry' => SameValue doc doc' entry.1 entry'.1 ∧
        SameValue doc doc' entry.2 entry'.2) entries entries' →
      SameHead doc doc' (.mapping tag entries) (.mapping tag entries')
  | unresolved (number : Nat) : SameHead doc doc' (.alias number) (.alias number)

/-- A decoder that sees no aliases. -/
def Resolving {α : Type} (decode : Decoder α) : Prop :=
  ∀ ⦃doc doc' node node'⦄, SameHead doc doc' node node' → decode doc node = decode doc' node'

section Head

variable {doc doc' : Document} {node node' : Node}

theorem forall₂_of_map_eq {α β γ : Type} {image : Nat → α → γ} {image' : Nat → β → γ}
    {items : List α} {items' : List β}
    (same : ∀ depth, items.map (image depth) = items'.map (image' depth)) :
    List.Forall₂ (fun item item' => ∀ depth, image depth item = image' depth item')
      items items' := by
  induction items generalizing items' with
  | nil =>
    cases items' with
    | nil => exact .nil
    | cons item' rest' => cases same 0
  | cons item rest ih =>
    cases items' with
    | nil => cases same 0
    | cons item' rest' =>
      refine .cons (fun depth => ?_) (ih fun depth => ?_)
      · exact (List.cons.inj (same depth)).1
      · exact (List.cons.inj (same depth)).2

theorem SameValue.head (same : SameValue doc doc' node node') :
    SameHead doc doc' (doc.resolve node) (doc'.resolve node') := by
  have deeper (depth : Nat) := same (depth + 1)
  simp only [Document.unfold] at deeper
  cases found : doc.resolve node <;> cases found' : doc'.resolve node' <;>
    simp only [found, found', Node.scalar.injEq, Node.sequence.injEq, Node.mapping.injEq,
      Node.alias.injEq, reduceCtorEq, forall_const] at deeper
  case scalar.scalar => exact deeper ▸ .scalar _
  case sequence.sequence =>
    obtain rfl := (deeper 0).1
    exact .sequence _ (forall₂_of_map_eq fun depth => (deeper depth).2)
  case mapping.mapping =>
    obtain rfl := (deeper 0).1
    refine .mapping _ ((forall₂_of_map_eq fun depth => (deeper depth).2).imp fun _ _ pairs => ?_)
    exact ⟨fun depth => congrArg Prod.fst (pairs depth),
      fun depth => congrArg Prod.snd (pairs depth)⟩
  case alias.alias => exact deeper ▸ .unresolved _

theorem SameHead.isPresent? (same : SameHead doc doc' node node') :
    node.isPresent? = node'.isPresent? := by
  cases same <;> rfl

theorem SameHead.isOmitted (same : SameHead doc doc' node node') :
    node.isOmitted = node'.isOmitted := by
  cases same <;> rfl

end Head

theorem mapM_eq_of_forall₂ {α β γ : Type} {same : α → β → Prop} {work : α → Option γ}
    {work' : β → Option γ} {items : List α} {items' : List β}
    (pairs : List.Forall₂ same items items')
    (each : ∀ item item', same item item' → work item = work' item') :
    items.mapM work = items'.mapM work' := by
  induction pairs with
  | nil => rfl
  | cons first _ ih => rw [List.mapM_cons, List.mapM_cons, each _ _ first, ih]

section Decoders

variable {α : Type} {decode : Decoder α}

theorem resolving_freeText : Resolving freeText := by
  intro doc doc' node node' same
  cases same <;> rfl

theorem resolving_ownText : Resolving ownText := by
  intro doc doc' node node' same
  cases same <;> rfl

theorem resolving_rawText : Resolving rawText := by
  intro doc doc' node node' same
  cases same <;> rfl

theorem resolving_natural (limit : Nat) : Resolving (natural limit) := by
  intro doc doc' node node' same
  cases same <;> rfl

theorem resolving_word8 : Resolving word8 := fun _ _ _ _ same =>
  congrArg (Option.map UInt8.ofNat) (resolving_natural _ same)

theorem resolving_word32 : Resolving word32 := fun _ _ _ _ same =>
  congrArg (Option.map UInt32.ofNat) (resolving_natural _ same)

theorem resolving_word64 : Resolving word64 := fun _ _ _ _ same =>
  congrArg (Option.map UInt64.ofNat) (resolving_natural _ same)

theorem Resolving.list (each : Resolving decode) : Resolving (list decode) := by
  intro doc doc' node node' same
  cases same with
  | sequence tag items => exact mapM_eq_of_forall₂ items fun _ _ item => each item.head
  | scalar | mapping | unresolved => rfl

theorem Resolving.optional (present : Resolving decode) : Resolving (optional decode) := by
  intro doc doc' node node' same
  unfold Markup.optional
  rw [same.isPresent?, present same]

theorem resolving_boards : Resolving Boards.decode := by
  intro doc doc' node node' same
  have boards := resolving_ownText.list same
  cases same with
  | sequence tag items => simp only [Boards.decode, boards]
  | scalar | mapping | unresolved => rfl

theorem fields?_eq_of_sameHead {doc doc' : Document} {entries entries' : List (Node × Node)}
    (same : List.Forall₂ (fun entry entry' => SameValue doc doc' entry.1 entry'.1 ∧
      SameValue doc doc' entry.2 entry'.2) entries entries') :
    fields? doc entries = none ∧ fields? doc' entries' = none ∨
      ∃ fields fields', fields? doc entries = some fields ∧
        fields? doc' entries' = some fields' ∧ SameFields doc doc' fields fields' := by
  induction same with
  | nil => exact .inr ⟨[], [], rfl, rfl, .nil⟩
  | @cons entry entry' rest rest' first _ ih =>
    have text : rawText doc (doc.resolve entry.1) = rawText doc' (doc'.resolve entry'.1) :=
      resolving_rawText first.1.head
    simp only [fields?, List.mapM_cons] at ih ⊢
    rw [← text]
    cases rawText doc (doc.resolve entry.1) with
    | none => exact .inl ⟨rfl, rfl⟩
    | some name =>
      rcases ih with ⟨none, none'⟩ | ⟨fields, fields', some, some', others⟩
      · exact .inl ⟨by simp [none], by simp [none']⟩
      · refine .inr ⟨(name, entry.2) :: fields, (name, entry'.2) :: fields', ?_, ?_, ?_⟩
        · simp [some]
        · simp [some']
        · exact .cons ⟨rfl, first.2⟩ others

end Decoders

section Fields

variable {α : Type} {doc doc' : Document} {fields fields' : Fields} {decode : Decoder α}
  {known : List String} {name : String}

theorem SameFields.names (same : SameFields doc doc' fields fields') :
    fields.map Prod.fst = fields'.map Prod.fst := by
  induction same with
  | nil => rfl
  | cons first _ ih => rw [List.map_cons, List.map_cons, first.1, ih]

theorem SameFields.areUnique (same : SameFields doc doc' fields fields') :
    fields.areUnique known = fields'.areUnique known := by
  rw [Fields.areUnique, Fields.areUnique, same.names]

/-- A field has the same value for every decoder that sees no aliases. -/
theorem SameFields.get? (same : SameFields doc doc' fields fields') (seen : Resolving decode) :
    fields.get? doc name decode = fields'.get? doc' name decode := by
  unfold Fields.get?
  induction same with
  | nil => rfl
  | @cons field field' rest rest' first _ ih =>
    rw [pairValue?, pairValue?, ← first.1]
    by_cases here : field.1 = name
    · simpa only [if_pos here] using seen.optional first.2.head
    · simpa only [if_neg here] using ih

end Fields

end ModelCatalog.Markup
