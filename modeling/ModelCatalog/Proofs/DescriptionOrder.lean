import ModelCatalog.Proofs.ByteOrder
import ModelCatalog.Proofs.Descriptions
import ModelCatalog.Proofs.RegistryOrder
import ModelCatalog.Proofs.TableRows

/-! The order of the descriptions. Sorting loses and repeats no product, and as no two products have
one code, every row comes strictly before the next: shorter codes first, and codes of one length in
the order of their bytes. -/
namespace ModelCatalog.SerialTable

/-- The code is shorter than the other in bytes, or as long and before it byte by byte. -/
def ComesBefore (code other : String) : Prop :=
  (bytesOf code).length < (bytesOf other).length ∨
    (bytesOf code).length = (bytesOf other).length ∧ bytesOf code < bytesOf other

instance (code other : String) : Decidable (ComesBefore code other) := by
  unfold ComesBefore
  infer_instance

section Order

variable {registry : Registry} {a b : String}

theorem length_bytesOf (s : String) : (bytesOf s).length = s.utf8ByteSize := by
  simp [bytesOf]

theorem comesBefore_iff : ComesBefore a b ↔ codeLe a b = true ∧ a ≠ b := by
  rw [ComesBefore, length_bytesOf, length_bytesOf, ← lt_iff_bytesOf_lt, codeLe_iff]
  constructor
  · rintro (shorter | ⟨size, before⟩)
    · refine ⟨.inl shorter, ?_⟩
      rintro rfl
      omega
    · refine ⟨.inr ⟨size, String.not_lt.mp (String.lt_asymm before)⟩, ?_⟩
      rintro rfl
      exact String.lt_irrefl _ before
  · rintro ⟨shorter | ⟨size, before⟩, apart⟩
    · exact .inl shorter
    · refine .inr ⟨size, ?_⟩
      rcases Decidable.em (b ≤ a) with after | less
      · exact absurd (String.le_antisymm before after) apart
      · exact String.not_le.mp less

theorem nodup_codes_described (registry : Registry) :
    ((described registry).map Prod.fst).Nodup := by
  rw [((described_perm registry).map Prod.fst).nodup_iff]
  exact registry.distinct.sublist (List.filter_sublist.map Prod.fst)

theorem increasing_described (registry : Registry) :
    (described registry).Pairwise fun row other => ComesBefore row.1 other.1 := by
  have distinct := List.pairwise_map.mp (nodup_codes_described registry)
  refine (sorted_described registry).imp₂ ?_ distinct
  intro row other sorted apart
  exact comesBefore_iff.mpr ⟨sorted, apart⟩

theorem eq_small_append_great {α : Type} {size : α → Nat} {items : List α}
    (sorted : items.Pairwise fun a b => size a ≤ size b) (n : Nat) :
    items = items.filter (fun a => decide (size a ≤ n)) ++
      items.filter fun a => decide (n < size a) := by
  induction items with
  | nil => rfl
  | cons a rest ih =>
    obtain ⟨least, sorted⟩ := List.pairwise_cons.mp sorted
    by_cases small : size a ≤ n
    · have notGreat : ¬ n < size a := by omega
      simpa [small, notGreat] using ih sorted
    · -- nothing small is left behind the first great element
      have great : ∀ b ∈ a :: rest, n < size b := by
        intro b member
        rcases List.mem_cons.mp member with rfl | behind
        · omega
        · have := least b behind
          omega
      have none : (a :: rest).filter (fun a => decide (size a ≤ n)) = [] := by
        apply List.filter_eq_nil_iff.mpr
        intro b member
        have := great b member
        simp
        omega
      have all : (a :: rest).filter (fun a => decide (n < size a)) = a :: rest := by
        apply List.filter_eq_self.mpr
        intro b member
        simpa using great b member
      rw [none, all, List.nil_append]

end Order

section Lines

variable {db : Database} {registry : Registry}

theorem text_eq_rows (complete : ∀ m ∈ db.models, Complete m) (registry : Registry) :
    ∃ before, text db registry = before ++ "static APPLE_MODEL_DESC AppleModelDesc[] = \x7b\n" ++
      String.join ((described registry).map fun row =>
        " \x7b\"" ++ row.1 ++ "\", \"" ++ Text.removeAccents row.2.name ++ "\"\x7d,\n") ++
      "\x7d;\n\n#endif // GENSERIAL_MODELINFO_AUTOGEN_H\n" := by
  have row (entry : String × Product) : descriptionRow entry.1 entry.2 = " \x7b\"" ++ entry.1 ++
      "\", \"" ++ Text.removeAccents entry.2.name ++ "\"\x7d,\n" := by
    rw [← String.toList_inj]
    simp [descriptionRow, quoted]
  refine ⟨ofLines (headingLines ++ Table.all.flatMap (Table.lines db)), ?_⟩
  rw [text_eq_lines complete, ofLines_append, ofLines_descriptionLines]
  simp [row, String.append_assoc]

def descriptionsIn (text : String) : List String :=
  between descriptionOpening "\x7d;" (linesOf text)

theorem isOpening_descriptionOpening : IsOpening descriptionOpening := by
  simp [IsOpening, descriptionOpening]

theorem newline_not_mem_descriptionLine {entry : String × Product}
    (flat : '\n' ∉ entry.1.toList ∧ '\n' ∉ (Text.removeAccents entry.2.name).toList) :
    '\n' ∉ (descriptionLine entry).toList := by
  simp [descriptionLine, quoted, flat]

/-- The descriptions are found again where no text goes over a line. -/
theorem descriptionsIn_text (complete : ∀ m ∈ db.models, Complete m)
    (flat : ∀ m ∈ db.models, ∀ s ∈ textsOf m, '\n' ∉ s.toList)
    (plain : ∀ entry ∈ described registry,
      '\n' ∉ entry.1.toList ∧ '\n' ∉ (Text.removeAccents entry.2.name).toList) :
    descriptionsIn (text db registry) = (described registry).map descriptionLine := by
  have lines : ∀ line ∈ descriptionLines registry, '\n' ∉ line.toList := by
    simp only [descriptionLines, List.forall_mem_cons, List.forall_mem_append, List.forall_mem_map]
    refine ⟨by simp [descriptionOpening], fun entry member => ?_, by simp⟩
    exact newline_not_mem_descriptionLine (plain entry member)
  have fresh : descriptionOpening ∉ headingLines ++ Table.all.flatMap (Table.lines db) := by
    simp only [List.mem_append, List.mem_flatMap, not_or, not_exists, not_and]
    refine ⟨by simp [descriptionOpening, headingLines], fun t _ => ?_⟩
    apply not_mem_lines isOpening_descriptionOpening
    rcases t with _ | _ | (_ | _) | _ | _ <;> simp [descriptionOpening, Table.opening]
  have within : "\x7d;" ∉ (described registry).map descriptionLine := by
    simp only [List.mem_map, not_exists, not_and]
    intro entry _ same
    have first := congrArg (fun line : String => line.toList.head?) same
    simp [descriptionLine] at first
  have whole : linesOf (ofLines (descriptionLines registry)) =
      descriptionLines registry ++ linesOf "" := by
    rw [← linesOf_ofLines lines "", String.append_empty]
  have order : linesOf (text db registry) =
      (headingLines ++ Table.all.flatMap (Table.lines db)) ++ descriptionOpening ::
        ((described registry).map descriptionLine ++ "\x7d;" ::
          ("" :: "#endif // GENSERIAL_MODELINFO_AUTOGEN_H" :: linesOf "")) := by
    rw [linesOf_text complete flat, whole]
    simp [descriptionLines]
  rw [descriptionsIn, order, between_append fresh within]

end Lines

/-- The descriptions are the valid products of the registry, each once, with codes that strictly
increase in length and then byte by byte, so that codes of up to a length come before all others. They
are the last table of the text, one row for each, with the code and the name without its accents. -/
theorem descriptions_in_order {db : Database} {registry : Registry} {header : String}
    (made : render db registry = .ok header) :
    ∃ rows : List (String × Product),
      (∃ before, header = before ++ "static APPLE_MODEL_DESC AppleModelDesc[] = \x7b\n" ++
        String.join (rows.map fun row =>
          " \x7b\"" ++ row.1 ++ "\", \"" ++ Text.removeAccents row.2.name ++ "\"\x7d,\n") ++
        "\x7d;\n\n#endif // GENSERIAL_MODELINFO_AUTOGEN_H\n") ∧
      rows.Perm (registry.entries.filter fun entry => entry.2.isValid) ∧
      rows.Pairwise (fun row other => ComesBefore row.1 other.1) ∧
      (∀ n, rows = rows.filter (fun row => decide ((bytesOf row.1).length ≤ n)) ++
        rows.filter fun row => decide (n < (bytesOf row.1).length)) ∧
      ((∀ m ∈ db.models, ∀ s ∈ textsOf m, '\n' ∉ s.toList) →
        (∀ row ∈ rows, '\n' ∉ row.1.toList ∧ '\n' ∉ (Text.removeAccents row.2.name).toList) →
        descriptionsIn header = rows.map descriptionLine) := by
  obtain ⟨complete, rfl⟩ := render_eq_ok_iff.mp made
  refine ⟨described registry, text_eq_rows complete registry, described_perm registry,
    increasing_described registry, fun n => ?_, fun flat plain => ?_⟩
  · apply eq_small_append_great
    apply (increasing_described registry).imp
    rintro row other (shorter | ⟨same, _⟩) <;> omega
  · exact descriptionsIn_text complete flat plain

/-- A long code comes first, one is no longer valid, and one is shorter in characters than in
bytes. -/
def unsortedRegistry : Registry := OrderedMap.ofList
  [("FGYYX", ⟨"iMac", .ok⟩), ("ÉÉ", ⟨"MacBook Été", .ok⟩), ("FH00", ⟨"MacBook", .ok⟩),
    ("X4I", ⟨"Xserve", .notOk⟩), ("X4H", ⟨"Xserve", .ok⟩)]

theorem unsorted_codes_described : ∃ header,
    render oneModelDatabase unsortedRegistry = .ok header ∧
    descriptionsIn header =
      [" \x7b\"X4H\", \"Xserve\"\x7d,", " \x7b\"FH00\", \"MacBook\"\x7d,",
        " \x7b\"ÉÉ\", \"MacBook Ete\"\x7d,", " \x7b\"FGYYX\", \"iMac\"\x7d,"] := by
  obtain ⟨rows, _, same, increasing, _, found⟩ :=
    descriptions_in_order (render_oneModelDatabase unsortedRegistry)
  obtain rfl : rows = [("X4H", ⟨"Xserve", .ok⟩), ("FH00", ⟨"MacBook", .ok⟩),
      ("ÉÉ", ⟨"MacBook Été", .ok⟩), ("FGYYX", ⟨"iMac", .ok⟩)] := by
    refine (same.trans (by decide)).eq_of_pairwise ?_ increasing (by decide)
    intro a b _ _ first second
    obtain ⟨before, apart⟩ := comesBefore_iff.mp first
    exact absurd (codeLe_antisymm before (comesBefore_iff.mp second).1) apart
  have stripped : Text.removeAccents "Xserve" = "Xserve" ∧
      Text.removeAccents "MacBook" = "MacBook" ∧ Text.removeAccents "MacBook Été" = "MacBook Ete" ∧
      Text.removeAccents "iMac" = "iMac" := by decide +kernel
  refine ⟨_, render_oneModelDatabase _, (found (by decide) ?_).trans ?_⟩
  · simp [stripped]
  · simp [descriptionLine, quoted, stripped]

end ModelCatalog.SerialTable
