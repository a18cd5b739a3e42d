import ModelCatalog.Proofs.CollectedPairs
import ModelCatalog.Proofs.JsonDocuments
import ModelCatalog.Registry.Json

/-! Registries that are collected from codes and products. A JSON object makes the registry that
its members make, one by one in the order of the text. -/
namespace ModelCatalog

theorem mapM_eq_some_iff_forall₂ {α β : Type} {work : α → Option β} {items : List α}
    {values : List β} :
    items.mapM work = some values ↔ List.Forall₂ (fun a b => work a = some b) items values := by
  rw [mapM_eq_some_iff, ← List.forall₂_eq_eq_eq, List.forall₂_map_left_iff,
    List.forall₂_map_right_iff]

/-- The bytes are the text of an object with these members. -/
def Json.HoldsObject (bytes : ByteArray) (members : List (Option String × Json)) : Prop :=
  ∃ document : Padded, symbols bytes = document.symbols ∧ Spells document.text (.object members)

namespace Registry

/-- The member is read as the code and the product. -/
def IsEntry (member : Option String × Json) (pair : String × Product) : Prop :=
  member.1 = some pair.1 ∧ Product.ofJson? member.2 = some pair.2

variable {members : List (Option String × Json)} {registry : Registry}

/-- Entries are found in two stages: all members are named, and then their products are read. -/
theorem forall₂_isEntry_iff {pairs : List (String × Product)} :
    List.Forall₂ IsEntry members pairs ↔ ∃ named, Product.named? members = some named ∧
      named.mapM (fun (code, value) => (Product.ofJson? value).map fun product =>
        (code, product)) = some pairs := by
  simp only [Product.named?, mapM_eq_some_iff_forall₂]
  constructor
  · intro entries
    induction entries with
    | nil => exact ⟨[], .nil, .nil⟩
    | @cons member pair _ _ entry _ ih =>
      obtain ⟨named, names, products⟩ := ih
      exact ⟨(pair.1, member.2) :: named, .cons (by simp [entry.1]) names,
        .cons (by simp [entry.2]) products⟩
  · rintro ⟨named, names, products⟩
    induction names generalizing pairs with
    | nil =>
      cases products
      exact .nil
    | cons name _ ih =>
      obtain _ | ⟨product, products⟩ := products
      obtain ⟨_, key, rfl⟩ := Option.map_eq_some_iff.mp name
      obtain ⟨_, value, rfl⟩ := Option.map_eq_some_iff.mp product
      exact .cons ⟨key, value⟩ (ih products)

theorem ofJson?_object_eq_some_iff : ofJson? (.object members) = some registry ↔
    ∃ pairs, List.Forall₂ IsEntry members pairs ∧ registry = OrderedMap.ofList pairs := by
  simp only [forall₂_isEntry_iff, ofJson?, Option.bind_eq_bind, Option.bind_eq_some_iff,
    Option.pure_def, Option.some.injEq]
  constructor
  · rintro ⟨named, names, pairs, products, rfl⟩
    exact ⟨pairs, ⟨named, names, products⟩, rfl⟩
  · rintro ⟨pairs, ⟨named, names, products⟩, rfl⟩
    exact ⟨named, names, pairs, products, rfl⟩

theorem readJson?_eq_some_iff {bytes : ByteArray} : readJson? bytes = some registry ↔
    ∃ members pairs, Json.HoldsObject bytes members ∧ List.Forall₂ IsEntry members pairs ∧
      registry = OrderedMap.ofList pairs := by
  rw [readJson?, Option.bind_eq_some_iff]
  constructor
  · rintro ⟨json, read, made⟩
    obtain ⟨members, rfl⟩ : ∃ members, json = .object members := by
      cases json <;> simp [ofJson?] at made ⊢
    obtain ⟨pairs, entries, same⟩ := ofJson?_object_eq_some_iff.mp made
    exact ⟨members, pairs, Json.read?_eq_some_iff.mp read, entries, same⟩
  · rintro ⟨members, pairs, held, entries, same⟩
    exact ⟨.object members, Json.read?_eq_some_iff.mpr held,
      ofJson?_object_eq_some_iff.mpr ⟨pairs, entries, same⟩⟩

/-- A registry that is collected from codes and products is the one in which each code comes once,
where it first came and with its last product; and a JSON object whose members are codes and
products is read as the registry that is collected from them. -/
theorem registry_collects_pairs :
    (∀ (pairs : List (String × Product)) (registry : Registry),
      registry = OrderedMap.ofList pairs ↔ registry.Collects pairs) ∧
    ∀ (bytes : ByteArray) (registry : Registry), readJson? bytes = some registry ↔
      ∃ members pairs, Json.HoldsObject bytes members ∧ List.Forall₂ IsEntry members pairs ∧
        registry = OrderedMap.ofList pairs :=
  ⟨fun _ _ => OrderedMap.collects_iff.symm, fun _ _ => readJson?_eq_some_iff⟩

example : (OrderedMap.ofList [("FH00", 1), ("000", 2), ("FH00", 3)]).entries =
    [("FH00", 3), ("000", 2)] := by decide

end Registry

end ModelCatalog
