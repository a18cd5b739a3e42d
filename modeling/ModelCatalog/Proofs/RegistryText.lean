import ModelCatalog.Proofs.Traversal
import ModelCatalog.Proofs.WrittenJson
import ModelCatalog.Registry.Json

/-! The registry written as JSON and read back: nothing is lost, and the codes keep their order. -/
namespace ModelCatalog

theorem mapM_map_eq_some {α β γ : Type} {read : β → Option γ} {write : α → β}
    {value : α → γ} {items : List α} (each : ∀ a ∈ items, read (write a) = some (value a)) :
    (items.map write).mapM read = some (items.map value) :=
  mapM_eq_some_iff.mpr (by simpa using each)

theorem Product.named?_map {α : Type} (name : α → String) (value : α → Json) (items : List α) :
    named? (items.map fun a => (some (name a), value a)) =
      some (items.map fun a => (name a, value a)) :=
  mapM_map_eq_some fun _ _ => rfl

theorem Status.ofWord?_word (status : Status) : ofWord? status.word = some status := by
  cases status <;> decide

namespace Product

def json (p : Product) : Json :=
  .object [(some "name", .string (some p.name)), (some "status", .string (some p.status.word))]

theorem denotes_toJson (p : Product) : Json.Denotes p.toJson p.json :=
  Json.denotes_compactObject Prod.fst (fun field => Json.quote field.2)
    (fun field => .string (some field.2)) [("name", p.name), ("status", p.status.word)]
    fun field _ => Json.denotes_quote field.2

theorem ofJson?_json (p : Product) : ofJson? p.json = some p := by
  have named : named? [(some "name", Json.string (some p.name)),
      (some "status", .string (some p.status.word))] =
      some [("name", .string (some p.name)), ("status", .string (some p.status.word))] := rfl
  have name : onlyMember? "name" [("name", Json.string (some p.name)),
      ("status", .string (some p.status.word))] = some (.string (some p.name)) := rfl
  have status : onlyMember? "status" [("name", Json.string (some p.name)),
      ("status", .string (some p.status.word))] = some (.string (some p.status.word)) := rfl
  simp [json, ofJson?, named, name, status, ofFields?, Status.ofJson?, Status.ofWord?_word]

end Product

namespace Registry

def json (r : Registry) : Json :=
  .object (r.entries.map fun entry => (some entry.1, entry.2.json))

theorem denotes_toJson (r : Registry) : Json.Denotes r.toJson.toList r.json := by
  have members := Json.denotes_compactObject Prod.fst (fun entry => entry.2.toJson)
    (fun entry => entry.2.json) r.entries fun entry _ => entry.2.denotes_toJson
  simpa [toJson, json] using members

theorem ofJson?_json (r : Registry) : ofJson? r.json = some r := by
  have named := Product.named?_map Prod.fst (fun entry : String × Product => entry.2.json) r.entries
  have each (entry : String × Product) : (Product.ofJson? entry.2.json).map
      (fun product => (entry.1, product)) = some (id entry) := by
    rw [Product.ofJson?_json]
    rfl
  rw [json, ofJson?, named, Option.bind_eq_bind, Option.bind_some,
    mapM_map_eq_some fun entry _ => each entry, List.map_id, Option.bind_eq_bind,
    Option.bind_some, OrderedMap.ofList_entries]
  rfl

theorem readJson?_toJson (r : Registry) : readJson? r.toJson.toUTF8 = some r := by
  rw [readJson?, Json.read?_of_denotes r.denotes_toJson, Option.bind_some, ofJson?_json]

/-- Reading undoes writing, entry by entry and in the same order. So whatever is read from some
bytes is read again from what it is written as. -/
theorem read_undoes_write :
    (∀ r : Registry, readJson? r.toJson.toUTF8 = some r) ∧
    ∀ bytes, ((readJson? bytes).bind fun r => readJson? r.toJson.toUTF8) = readJson? bytes := by
  refine ⟨readJson?_toJson, fun bytes => ?_⟩
  cases readJson? bytes with
  | none => rfl
  | some r => exact readJson?_toJson r

end Registry

end ModelCatalog
