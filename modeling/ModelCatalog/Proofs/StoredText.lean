import ModelCatalog.Proofs.ModelFields
import ModelCatalog.Proofs.PlainCodes
import ModelCatalog.Proofs.Traversal
import ModelCatalog.Registry.Markup

/-! Where the texts of plain codes are stored. A model keeps them in its text fields and in its
lists of codes as its reader of scalars leaves them; the registry keeps every code as it is
written. -/
namespace ModelCatalog

open Markup Number

/-- A field of a model, with the name under which and the decoder by which it is read. -/
structure ModelField (α : Type) where
  key : String
  decode : Decoder α
  read : Model → Option α

def textFields : List (ModelField String) :=
  [⟨"SystemProductName", freeText, (·.productName)⟩, ⟨"BIOSVersion", freeText, (·.biosVersion)⟩,
   ⟨"BIOSReleaseDate", freeText, (·.biosReleaseDate)⟩,
   ⟨"SystemVersion", freeText, (·.systemVersion)⟩, ⟨"SystemSKUNumber", freeText, (·.skuNumber)⟩,
   ⟨"SystemFamily", freeText, (·.family)⟩, ⟨"BoardVersion", freeText, (·.boardVersion)⟩,
   ⟨"BoardAssetTag", freeText, (·.boardAssetTag)⟩,
   ⟨"BoardLocationInChassis", freeText, (·.boardLocation)⟩,
   ⟨"ChassisAssetTag", freeText, (·.chassisAssetTag)⟩, ⟨"AppleModelId", freeText, (·.modelId)⟩,
   ⟨"SystemSerialNumber", freeText, (·.serialNumber)⟩,
   ⟨"MaximumOSVersion", freeText, (·.maximumOs)⟩]

/-- The lists of codes, whose items may be any scalars. -/
def codeField (kind : CodeKind) : ModelField (List String) :=
  ⟨kind.key, list freeText, (·.codes? kind)⟩

def otherFields : List ((α : Type) × ModelField α) :=
  [⟨_, "BoardProduct", Boards.decode, (·.boardProduct)⟩,
   ⟨_, "BoardRevision", word32, (·.boardRevision)⟩,
   ⟨_, "SmcRevision", list word8, (·.smcRevision)⟩, ⟨_, "SmcBranch", list word8, (·.smcBranch)⟩,
   ⟨_, "SmcPlatform", list word8, (·.smcPlatform)⟩,
   ⟨_, "SmcGeneration", word32, (·.smcGeneration)⟩, ⟨_, "BoardType", word32, (·.boardType)⟩,
   ⟨_, "ChassisType", word32, (·.chassisType)⟩,
   ⟨_, "MemoryFormFactor", word32, (·.memoryFormFactor)⟩,
   ⟨_, "PlatformFeature", word32, (·.platformFeature)⟩,
   ⟨_, "FirmwareFeatures", word64, (·.firmwareFeatures)⟩,
   ⟨_, "FirmwareFeaturesMask", word64, (·.firmwareFeaturesMask)⟩,
   ⟨_, "ExtendedFirmwareFeatures", word64, (·.extendedFeatures)⟩,
   ⟨_, "ExtendedFirmwareFeaturesMask", word64, (·.extendedFeaturesMask)⟩,
   ⟨_, "AppleModelYear", list word32, (·.modelYears)⟩,
   ⟨_, "MacserialModelYear", word32, (·.preferredYear)⟩,
   ⟨_, "Specifications", Specifications.decode, (·.specifications)⟩]

def Model.fields : List ((α : Type) × ModelField α) :=
  textFields.map (⟨_, ·⟩) ++ [⟨_, codeField .model⟩, ⟨_, codeField .board⟩] ++ otherFields

section Fields

variable {doc : Document} {fields others : Fields} {m : Model}

theorem exists_of_bind_eq_some {α β : Type} {x : Option α} {next : α → Option β} {b : β}
    (made : (x >>= next) = some b) : ∃ a, x = some a ∧ next a = some b :=
  Option.bind_eq_some_iff.mp made

theorem isSome_bind {α β : Type} {x : Option α} {next : α → Option β} (first : x.isSome)
    (others : ∀ a, (next a).isSome) : (x >>= next).isSome := by
  obtain ⟨a, rfl⟩ := Option.isSome_iff_exists.mp first
  exact others a

theorem read_of_ofFields? (made : Model.ofFields? doc fields = some m) :
    ∀ field ∈ Model.fields, fields.get? doc field.2.key field.2.decode = some (field.2.read m) := by
  unfold Model.ofFields? at made
  iterate 32 obtain ⟨_, _, made⟩ := exists_of_bind_eq_some made
  obtain rfl := Option.some.inj made
  iterate 32 refine List.forall_mem_cons.mpr ⟨by assumption, ?_⟩
  exact List.forall_mem_nil _

theorem isSome_ofFields?_iff : (Model.ofFields? doc fields).isSome ↔
    ∀ field ∈ Model.fields, (fields.get? doc field.2.key field.2.decode).isSome := by
  constructor
  · intro made field member
    obtain ⟨m, found⟩ := Option.isSome_iff_exists.mp made
    rw [read_of_ofFields? found field member]
    rfl
  · intro decoded
    iterate 32 obtain ⟨_, decoded⟩ := List.forall_mem_cons.mp decoded
    unfold Model.ofFields?
    iterate 32 refine isSome_bind (by assumption) fun _ => ?_
    rfl

theorem field_eq_of_key {field other : (α : Type) × ModelField α} (member : field ∈ Model.fields)
    (otherMember : other ∈ Model.fields) (same : other.2.key = field.2.key) : other = field := by
  have distinct : (Model.fields.map (·.2.key)).Nodup := by decide
  exact List.inj_on_of_nodup_map distinct otherMember member same

/-- Whether all fields of a mapping but one can be decoded. -/
def OthersDecode (doc : Document) (fields : Fields) (key : String) : Prop :=
  ∀ other ∈ Model.fields, other.2.key ≠ key →
    (fields.get? doc other.2.key other.2.decode).isSome

variable {α : Type} {field : ModelField α} {value : Option α}

theorem isSome_ofFields?_iff_field (member : ⟨α, field⟩ ∈ Model.fields) :
    (Model.ofFields? doc fields).isSome ↔
      (fields.get? doc field.key field.decode).isSome ∧ OthersDecode doc fields field.key := by
  rw [isSome_ofFields?_iff]
  constructor
  · exact fun decoded => ⟨decoded _ member, fun other otherMember _ => decoded other otherMember⟩
  · rintro ⟨first, others⟩ other otherMember
    by_cases same : other.2.key = field.key
    · rwa [field_eq_of_key member otherMember same]
    · exact others other otherMember same

theorem exists_read_iff (member : ⟨α, field⟩ ∈ Model.fields) :
    (∃ m, Model.ofFields? doc fields = some m ∧ field.read m = value) ↔
      fields.get? doc field.key field.decode = some value ∧
        OthersDecode doc fields field.key := by
  constructor
  · rintro ⟨m, made, rfl⟩
    have decoded := (isSome_ofFields?_iff_field member).mp (by rw [made]; rfl)
    exact ⟨read_of_ofFields? made _ member, decoded.2⟩
  · rintro ⟨found, others⟩
    have made := (isSome_ofFields?_iff_field member).mpr ⟨by rw [found]; rfl, others⟩
    obtain ⟨m, made⟩ := Option.isSome_iff_exists.mp made
    refine ⟨m, made, Option.some.inj ?_⟩
    rw [← read_of_ofFields? made _ member, found]

end Fields

section Places

variable {α : Type} {doc : Document} {before after : Fields} {key : String} {node : Node}
  {decode : Decoder α} {token : String} {field : ModelField String}

theorem othersDecode_insert :
    OthersDecode doc (before ++ (key, node) :: after) key ↔
      OthersDecode doc (before ++ after) key :=
  forall₂_congr fun other _ => forall_congr' fun apart => by rw [get?_insert_other apart.symm]

theorem optional_plainNode (code : IsCode token) :
    optional freeText doc (plainNode token) =
      ((plainValue? token).bind Value.freeText?).map some := by
  have present : (plainNode token).isPresent? = some true := by
    have shown : token.isEmpty = false := by
      rw [Bool.eq_false_iff, ne_eq, String.isEmpty_iff]
      exact code.nonempty
    simp [plainNode, Node.isPresent?, shown, code.isNullWord]
  unfold Markup.optional
  rw [present]
  rfl

theorem decode_of_mem_textFields (member : field ∈ textFields) : field.decode = freeText := by
  simp only [textFields, List.mem_cons, List.not_mem_nil, or_false] at member
  rcases member with rfl | rfl | rfl | rfl | rfl | rfl | rfl | rfl | rfl | rfl | rfl | rfl | rfl <;>
    rfl

theorem mem_fields_of_mem_textFields (member : field ∈ textFields) :
    ⟨String, field⟩ ∈ Model.fields :=
  List.mem_append_left _ (List.mem_append_left _ (List.mem_map_of_mem member))

theorem codeField_mem_fields (kind : CodeKind) : ⟨_, codeField kind⟩ ∈ Model.fields := by
  refine List.mem_append_left _ (List.mem_append_right _ ?_)
  cases kind with
  | model => exact List.mem_cons_self ..
  | board => exact List.mem_cons_of_mem _ (List.mem_cons_self ..)

end Places

section Texts

variable {doc : Document} {before after : Fields} {node : Node} {token : String}
  {field : ModelField String}

theorem get?_plain (member : field ∈ textFields) (found : doc.resolve node = plainNode token)
    (code : IsCode token) (absent : field.key ∉ (before ++ after).map Prod.fst) :
    Fields.get? (before ++ (field.key, node) :: after) doc field.key field.decode =
      ((plainValue? token).bind Value.freeText?).map some := by
  have once : ((before ++ (field.key, node) :: after).map Prod.fst).count field.key ≤ 1 := by
    rw [count_insert, List.count_eq_zero.mpr absent, if_pos rfl]
  have here : (field.key, node) ∈ before ++ (field.key, node) :: after :=
    List.mem_append_right before (List.mem_cons_self ..)
  rw [get?_of_mem here once, found, decode_of_mem_textFields member, optional_plainNode code]

theorem isSome_rest (member : field ∈ textFields)
    (absent : field.key ∉ (before ++ after).map Prod.fst) :
    (Model.ofFields? doc (before ++ after)).isSome ↔
      OthersDecode doc (before ++ (field.key, node) :: after) field.key := by
  rw [isSome_ofFields?_iff_field (mem_fields_of_mem_textFields member), get?_of_absent absent,
    othersDecode_insert]
  exact and_iff_right rfl

/-- A plain code in a text field is stored as it is if it is kept and the other fields are right. -/
theorem exists_text_iff (member : field ∈ textFields) (found : doc.resolve node = plainNode token)
    (code : IsCode token) (absent : field.key ∉ (before ++ after).map Prod.fst) :
    (∃ m, decodeGiven Model.keys Model.ofFields? (doc, before ++ (field.key, node) :: after) =
        some m ∧ field.read m = some token) ↔
      Kept token.toList ∧
        (decodeGiven Model.keys Model.ofFields? (doc, before ++ after)).isSome := by
  simp only [decodeGiven, areUnique_insert_absent absent]
  split
  · rw [exists_read_iff (mem_fields_of_mem_textFields member), get?_plain member found code absent,
      isSome_rest member absent]
    refine and_congr_left fun _ => ?_
    rw [← plainText?_eq_some_iff code, Option.map_eq_some_iff]
    simp
  · simp

/-- Nothing else but an integer that is too wide is refused in a text field. -/
theorem isSome_text_iff (member : field ∈ textFields) (found : doc.resolve node = plainNode token)
    (code : IsCode token) (absent : field.key ∉ (before ++ after).map Prod.fst) :
    (decodeGiven Model.keys Model.ofFields? (doc, before ++ (field.key, node) :: after)).isSome ↔
      ¬ IsTooWide token.toList ∧
        (decodeGiven Model.keys Model.ofFields? (doc, before ++ after)).isSome := by
  simp only [decodeGiven, areUnique_insert_absent absent]
  split
  · rw [isSome_ofFields?_iff_field (mem_fields_of_mem_textFields member),
      get?_plain member found code absent, isSome_rest member absent,
      ← plainText?_eq_none_iff code, Option.isSome_map, Option.isSome_iff_ne_none]
  · simp

end Texts

section Codes

variable {doc : Document} {before after : Fields} {node item : Node} {token : String}
  {kind : CodeKind} {tag : Option String} {left right : List Node}

theorem exists_item_iff {α : Type} {work : Node → Option α} {value : α} :
    (∃ values, (left ++ item :: right).mapM work = some values ∧
      values[left.length]? = some value) ↔
      work item = some value ∧ ((left ++ right).mapM work).isSome := by
  have place : ((left ++ item :: right).map work)[left.length]? = some (work item) := by simp
  have split : ((left ++ item :: right).mapM work).isSome ↔
      (work item).isSome ∧ ((left ++ right).mapM work).isSome := by
    simp only [isSome_mapM_iff, List.forall_mem_append, List.forall_mem_cons]
    exact and_left_comm
  constructor
  · rintro ⟨values, read, here⟩
    refine ⟨?_, (split.mp (by rw [read]; rfl)).2⟩
    rw [mapM_eq_some_iff.mp read, List.getElem?_map, here, Option.map_some,
      Option.some.injEq] at place
    exact place.symm
  · rintro ⟨here, others⟩
    obtain ⟨values, read⟩ := Option.isSome_iff_exists.mp (split.mpr ⟨by rw [here]; rfl, others⟩)
    refine ⟨values, read, ?_⟩
    rw [mapM_eq_some_iff.mp read, List.getElem?_map, here, Option.map_eq_some_iff] at place
    obtain ⟨_, found, same⟩ := place
    rw [found, Option.some.inj same]

theorem get?_list {α : Type} {decode : Decoder α} {key : String} {items : List Node}
    (once : ((before ++ (key, node) :: after).map Prod.fst).count key ≤ 1)
    (found : doc.resolve node = .sequence tag items) :
    Fields.get? (before ++ (key, node) :: after) doc key (list decode) =
      (items.mapM fun item => decode doc (doc.resolve item)).map some := by
  have here : (key, node) ∈ before ++ (key, node) :: after :=
    List.mem_append_right before (List.mem_cons_self ..)
  rw [get?_of_mem here once, found]
  rfl

theorem exists_codes_iff {items : List Node} {codes : List String}
    (once : ((before ++ (kind.key, node) :: after).map Prod.fst).count kind.key ≤ 1)
    (found : doc.resolve node = .sequence tag items) :
    (∃ m, Model.ofFields? doc (before ++ (kind.key, node) :: after) = some m ∧
        m.codes? kind = some codes) ↔
      (items.mapM fun item => freeText doc (doc.resolve item)) = some codes ∧
        OthersDecode doc (before ++ after) kind.key := by
  refine (exists_read_iff (codeField_mem_fields kind)).trans (and_congr ?_ othersDecode_insert)
  have given : Fields.get? (before ++ (kind.key, node) :: after) doc (codeField kind).key
      (codeField kind).decode = _ := get?_list once found
  rw [given, Option.map_eq_some_iff]
  simp

theorem isSome_codes_iff {items : List Node}
    (once : ((before ++ (kind.key, node) :: after).map Prod.fst).count kind.key ≤ 1)
    (found : doc.resolve node = .sequence tag items) :
    (Model.ofFields? doc (before ++ (kind.key, node) :: after)).isSome ↔
      (items.mapM fun item => freeText doc (doc.resolve item)).isSome ∧
        OthersDecode doc (before ++ after) kind.key := by
  refine (isSome_ofFields?_iff_field (codeField_mem_fields kind)).trans
    (and_congr ?_ othersDecode_insert)
  have given : Fields.get? (before ++ (kind.key, node) :: after) doc (codeField kind).key
      (codeField kind).decode = _ := get?_list once found
  rw [given, Option.isSome_map]

theorem exists_code_iff (found : doc.resolve node = .sequence tag (left ++ item :: right))
    (plain : doc.resolve item = plainNode token) (code : IsCode token) :
    (∃ m codes, decodeGiven Model.keys Model.ofFields?
        (doc, before ++ (kind.key, node) :: after) = some m ∧
        m.codes? kind = some codes ∧ codes[left.length]? = some token) ↔
      Kept token.toList ∧ (decodeGiven Model.keys Model.ofFields?
        (doc, before ++ (kind.key, .sequence tag (left ++ right)) :: after)).isSome := by
  have names : (before ++ (kind.key, node) :: after).map Prod.fst =
      (before ++ (kind.key, .sequence tag (left ++ right)) :: after).map Prod.fst := by
    simp only [List.map_append, List.map_cons]
  have known : kind.key ∈ Model.keys := by cases kind <;> decide
  have kept : freeText doc (doc.resolve item) = some token ↔ Kept token.toList := by
    rw [plain, ← plainText?_eq_some_iff code]
    rfl
  simp only [decodeGiven]
  rw [Fields.areUnique, Fields.areUnique, ← names]
  split
  · next unique =>
    have once := areUnique_iff.mp unique _ known
    calc (∃ m codes, Model.ofFields? doc (before ++ (kind.key, node) :: after) = some m ∧
          m.codes? kind = some codes ∧ codes[left.length]? = some token)
        ↔ ∃ codes, (∃ m, Model.ofFields? doc (before ++ (kind.key, node) :: after) = some m ∧
            m.codes? kind = some codes) ∧ codes[left.length]? = some token := by
          constructor
          · rintro ⟨m, codes, made, read, here⟩
            exact ⟨codes, ⟨m, made, read⟩, here⟩
          · rintro ⟨codes, ⟨m, made, read⟩, here⟩
            exact ⟨m, codes, made, read, here⟩
      _ ↔ (∃ codes, ((left ++ item :: right).mapM fun item => freeText doc (doc.resolve item)) =
            some codes ∧ codes[left.length]? = some token) ∧
            OthersDecode doc (before ++ after) kind.key := by
          simp only [exists_codes_iff once found]
          rw [← exists_and_right]
          exact exists_congr fun codes => and_right_comm
      _ ↔ Kept token.toList ∧ (Model.ofFields? doc
            (before ++ (kind.key, .sequence tag (left ++ right)) :: after)).isSome := by
          rw [exists_item_iff, kept, and_assoc, isSome_codes_iff (names ▸ once) rfl]
  · simp

end Codes

section Registry

variable {doc : Document} {before after : List (Node × Node)} {key value : Node} {token : String}
  {tag : Option String} {product : Product}

theorem mapM_append_eq_some_iff {α β : Type} {work : α → Option β} {items others : List α}
    {values : List β} : (items ++ others).mapM work = some values ↔
      ∃ front rest, items.mapM work = some front ∧ others.mapM work = some rest ∧
        values = front ++ rest := by
  simp only [List.mapM_append, Option.bind_eq_bind, Option.bind_eq_some_iff, Option.pure_def,
    Option.some.injEq]
  constructor
  · rintro ⟨front, first, rest, last, rfl⟩
    exact ⟨front, rest, first, last, rfl⟩
  · rintro ⟨front, rest, first, last, rfl⟩
    exact ⟨front, first, rest, last, rfl⟩

theorem structure?_registry_eq_some_iff {entries : List (Node × Node)} {registry : Registry} :
    Markup.structure? [] Registry.ofMarkupFields? doc (.mapping tag entries) = some registry ↔
      ∃ fields products, fields? doc entries = some fields ∧
        (fields.mapM fun field => (Product.decode doc (doc.resolve field.2)).map
          fun product => (field.1, product)) = some products ∧
        registry = OrderedMap.ofList products := by
  simp only [Markup.structure?, Registry.ofMarkupFields?, Fields.areUnique, List.all_nil, if_true,
    Option.bind_eq_bind, Option.bind_some, Option.bind_eq_some_iff, Option.pure_def,
    Option.some.injEq, eq_comm (b := registry), exists_and_left]

theorem registry_code {registry : Registry} {bytes : ByteArray} {text : String}
    (valid : String.fromUTF8? bytes = some text) (parsed : Document.read? text = some doc)
    (root : doc.root = some (.mapping tag (before ++ (key, value) :: after)))
    (plain : doc.resolve key = plainNode token)
    (decoded : Product.decode doc (doc.resolve value) = some product)
    (others : Markup.structure? [] Registry.ofMarkupFields? doc (.mapping tag (before ++ after)) =
      some registry) (fresh : token ∉ registry.keys) :
    ∃ whole, Registry.readMarkup? bytes = some whole ∧ whole.get? token = some product := by
  obtain ⟨_, _, names, values, rfl⟩ := structure?_registry_eq_some_iff.mp others
  obtain ⟨fields, fields', named, named', rfl⟩ := mapM_append_eq_some_iff.mp names
  obtain ⟨products, products', each, each', rfl⟩ := mapM_append_eq_some_iff.mp values
  have name : rawText doc (doc.resolve key) = some token := by rw [plain]; rfl
  refine ⟨.ofList (products ++ (token, product) :: products'), ?_, ?_⟩
  · simp only [Registry.readMarkup?, valid, parsed, root, Option.bind_eq_bind, Option.bind_some]
    rw [structure?_registry_eq_some_iff]
    refine ⟨fields ++ (token, value) :: fields', products ++ (token, product) :: products', ?_, ?_,
      rfl⟩
    · refine mapM_append_eq_some_iff.mpr ⟨fields, (token, value) :: fields', named, ?_, rfl⟩
      simp only [List.mapM_cons, named', name]
      rfl
    · refine mapM_append_eq_some_iff.mpr
        ⟨products, (token, product) :: products', each, ?_, rfl⟩
      rw [List.mapM_cons, each', decoded]
      rfl
  · rw [OrderedMap.mem_keys_ofList, List.map_append, List.mem_append, not_or] at fresh
    have absent : token ∉ products'.reverse.map Prod.fst := by simpa using fresh.2
    rw [OrderedMap.get?_ofList, List.reverse_append, List.reverse_cons, List.append_assoc,
      pairValue?_append, pairValue?_eq_none absent]
    simp [pairValue?]

end Registry

/-- The registry stores a plain code as it is written. A model does so, in its text fields and in
its lists of codes, just if the code is kept: a version of up to fifteen digits is, unless there is a
superfluous zero at its end. An integer that is too wide is refused. -/
theorem plain_code_stored_iff {token : String} (code : IsCode token) :
    (∀ field ∈ textFields, ∀ (text : String) (doc : Document) (before after : Fields) (node : Node),
      GivenIn text (doc, before ++ (field.key, node) :: after) →
      doc.resolve node = plainNode token → field.key ∉ (before ++ after).map Prod.fst →
      ((∃ m, Model.read? text = some m ∧ field.read m = some token) ↔ Kept token.toList ∧
        (decodeGiven Model.keys Model.ofFields? (doc, before ++ after)).isSome) ∧
      ((Model.read? text).isSome ↔ ¬ IsTooWide token.toList ∧
        (decodeGiven Model.keys Model.ofFields? (doc, before ++ after)).isSome)) ∧
    (∀ (kind : CodeKind) (text : String) (doc : Document) (before after : Fields)
      (node item : Node) (tag : Option String) (left right : List Node),
      GivenIn text (doc, before ++ (kind.key, node) :: after) →
      doc.resolve node = .sequence tag (left ++ item :: right) →
      doc.resolve item = plainNode token →
      ((∃ m codes, Model.read? text = some m ∧ m.codes? kind = some codes ∧
          codes[left.length]? = some token) ↔ Kept token.toList ∧
        (decodeGiven Model.keys Model.ofFields?
          (doc, before ++ (kind.key, .sequence tag (left ++ right)) :: after)).isSome)) ∧
    (∀ (bytes : ByteArray) (text : String) (doc : Document) (before after : List (Node × Node))
      (key value : Node) (tag : Option String) (product : Product) (registry : Registry),
      String.fromUTF8? bytes = some text → Document.read? text = some doc →
      doc.root = some (.mapping tag (before ++ (key, value) :: after)) →
      doc.resolve key = plainNode token → Product.decode doc (doc.resolve value) = some product →
      Markup.structure? [] Registry.ofMarkupFields? doc (.mapping tag (before ++ after)) =
        some registry → token ∉ registry.keys →
      ∃ whole, Registry.readMarkup? bytes = some whole ∧ whole.get? token = some product) ∧
    (∀ d : Decimal, d.exponent < 0 → d.IsModerate → d.coefficient < 10 ^ 15 →
      token.toList = d.positional →
      (Kept token.toList ↔ d.exponent = -1 ∨ d.coefficient % 10 ≠ 0)) := by
  refine ⟨?_, ?_, ?_, ?_⟩
  · intro field member text doc before after node holds found absent
    rw [read?_of_givenIn holds]
    exact ⟨exists_text_iff member found code absent, isSome_text_iff member found code absent⟩
  · intro kind text doc before after node item tag left right holds found plain
    rw [read?_of_givenIn holds]
    exact exists_code_iff found plain code
  · intro bytes text doc before after key value tag product registry valid parsed root plain decoded
      others fresh
    exact registry_code valid parsed root plain decoded others fresh
  · intro d fraction moderate short split
    rw [split]
    exact kept_positional_iff fraction moderate short

def versionText : String :=
  "SystemProductName: A\nMaximumOSVersion: 10.15\nAppleModelCode: [B, 10.15]\n"

def versionFields : Fields :=
  [("SystemProductName", plainNode "A"), ("MaximumOSVersion", plainNode "10.15"),
   ("AppleModelCode", .sequence none [plainNode "B", plainNode "10.15"])]

def versionDocument : Document :=
  ⟨some (.mapping none (versionFields.map fun field => (plainNode field.1, field.2))), []⟩

theorem givenIn_versionText : GivenIn versionText (versionDocument, versionFields) :=
  ⟨rfl, none, _, rfl, rfl⟩

def versionRegistry : String := "10.15:\n  name: A\n  status: ok\n"

def versionProduct : Node :=
  .mapping none [(plainNode "name", plainNode "A"), (plainNode "status", plainNode "ok")]

theorem read?_versionRegistry : Document.read? versionRegistry =
    some ⟨some (.mapping none [(plainNode "10.15", versionProduct)]), []⟩ := rfl

theorem isCode_version : IsCode "10.15" := ⟨rfl, by decide, by decide⟩

/-- A version that is kept goes into a text field, into a list of codes and into the registry. -/
theorem version_stored : IsCode "10.15" ∧ GivenIn versionText (versionDocument, versionFields) ∧
    (∃ m, Model.read? versionText = some m ∧ m.maximumOs = some "10.15") ∧
    (Model.read? versionText).isSome ∧
    (∃ m codes, Model.read? versionText = some m ∧ m.codes? .model = some codes ∧
      codes[1]? = some "10.15") ∧
    ∃ registry, Registry.readMarkup? versionRegistry.toUTF8 = some registry ∧
      registry.get? "10.15" = some ⟨"A", .ok⟩ := by
  obtain ⟨texts, codes, registry, digits⟩ := plain_code_stored_iff isCode_version
  have kept : Kept "10.15".toList :=
    (digits ⟨1015, -2⟩ (by decide) (fun _ => by decide) (by decide) rfl).mpr (.inr (by decide))
  have narrow : ¬ IsTooWide "10.15".toList := by
    rintro ⟨n, _, _, split⟩
    have point : '.' ∈ Nat.toDigits 10 n := split ▸ (by decide : '.' ∈ "10.15".toList)
    exact absurd (areDigits_toDigits n _ point) (by decide)
  have last : ⟨"MaximumOSVersion", freeText, (·.maximumOs)⟩ ∈ textFields :=
    List.mem_of_getLast? rfl
  have field := texts _ last versionText versionDocument [_] _ _ givenIn_versionText rfl
    (by decide)
  have item := codes .model versionText versionDocument [_, _] _ _ _ none [plainNode "B"] []
    givenIn_versionText rfl rfl
  have product := registry versionRegistry.toUTF8 versionRegistry _ [] [] (plainNode "10.15")
    versionProduct none ⟨"A", .ok⟩ .empty rfl read?_versionRegistry rfl rfl rfl rfl (by decide)
  exact ⟨isCode_version, givenIn_versionText, field.1.mpr ⟨kept, rfl⟩, field.2.mpr ⟨narrow, rfl⟩,
    item.mpr ⟨kept, rfl⟩, product⟩

/-- A zero at the end of a version is lost, an exponent is written out, and a code of twenty digits
leaves no model. -/
theorem spelling_lost :
    (IsCode "1.10" ∧ ((Model.read? "MaximumOSVersion: 1.10\n").bind (·.maximumOs)) = some "1.1") ∧
    (IsCode "12E4" ∧ ((Model.read? "SystemSerialNumber: 12E4\n").bind (·.serialNumber)) =
      some "120000.0") ∧
    (IsCode "20000000000000000000" ∧ Model.read? "BIOSVersion: 20000000000000000000\n" = none) :=
  ⟨⟨⟨rfl, by decide, by decide⟩, rfl⟩, ⟨⟨rfl, by decide, by decide⟩, rfl⟩,
    ⟨⟨rfl, by decide, by decide⟩, rfl⟩⟩

end ModelCatalog
