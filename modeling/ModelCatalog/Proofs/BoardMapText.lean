import ModelCatalog.Generation
import ModelCatalog.Proofs.WrittenJson

/-! The text of the map of boards: one JSON object, whose members are the boards of the map. -/
namespace ModelCatalog.BoardMap

def json (map : OrderedMap String String) : Json :=
  .object (map.entries.map fun entry => (some entry.1, .string (some entry.2)))

theorem json_injective {a b : OrderedMap String String} (same : json a = json b) : a = b := by
  have members := Json.object.inj same
  refine OrderedMap.ext_entries ((List.map_inj_right ?_).mp members)
  rintro ⟨board, os⟩ ⟨board', os'⟩ equal
  simpa using equal

theorem read?_render (db : Database) :
    Json.read? (render db).toUTF8 = some (json (ofDatabase db)) := by
  refine Json.read?_of_denotes ?_
  have members := Json.denotes_indentedObject Prod.fst (fun entry => Json.quote entry.2)
    (fun entry => .string (some entry.2)) (ofDatabase db).entries
    fun entry _ => Json.denotes_quote entry.2
  simpa [render, json] using members

/-- The map is always made. Its text is one document, an object that has the boards of the map
with their systems as its members, each once and in the order of the map; and no two maps share a
text. -/
theorem text_holds_map (db : Database) (registry : Registry) (minYear : UInt32) :
    ArtifactKind.boardMap.content db registry minYear = .ok (render db) ∧
    Json.read? (render db).toUTF8 = some (.object ((ofDatabase db).entries.map fun entry =>
      (some entry.1, .string (some entry.2)))) ∧
    (ofDatabase db).keys.Nodup ∧
    ∀ other, render db = render other ↔ (ofDatabase db).entries = (ofDatabase other).entries := by
  refine ⟨rfl, read?_render db, (ofDatabase db).distinct, fun other => ?_⟩
  constructor <;> intro same
  · have read := read?_render other
    rw [← same, read?_render] at read
    exact congrArg OrderedMap.entries (json_injective (Option.some.inj read))
  · rw [render, render, same]

end ModelCatalog.BoardMap
