import ModelCatalog.Codes
import ModelCatalog.Proofs.FirstOccurrences
import ModelCatalog.Proofs.Traversal

/-! What gathering codes amounts to. The first use that a fatal policy objects to ends it;
otherwise it yields every proper code of the database once, where the code first comes. -/
namespace ModelCatalog

/-- Neither empty nor a placeholder. -/
def isProper (code : String) : Bool := !code.isEmpty && !isPlaceholder code

@[simp] theorem isProper_empty : isProper "" = false := rfl

theorem isProper_iff {code : String} :
    isProper code = true ↔ code.isEmpty = false ∧ isPlaceholder code = false := by
  simp [isProper]

/-- Every code of the database, in the order of its models and their lists. -/
def Database.listedCodes (db : Database) (kind : CodeKind) : List String :=
  (db.codeUses kind).map (·.code)

theorem listedCodes_eq (db : Database) (kind : CodeKind) :
    db.listedCodes kind = db.models.flatMap (·.codes kind) := by
  simp [Database.listedCodes, Database.codeUses, Model.codeUses, List.map_flatMap,
    Function.comp_def]

/-- Every proper code once, at the place where it first comes. -/
def Database.distinctCodes (db : Database) (kind : CodeKind) : List String :=
  ((db.listedCodes kind).filter isProper).eraseDups

/-- What a policy has against a use, given the codes of the uses before it. -/
inductive Objection (kind : CodeKind) (policy : CodePolicy) (earlier : List String) :
    CodeUse → Fault → Prop
  | empty {model : String} (refused : policy.allowEmpty = false) :
      Objection kind policy earlier ⟨model, ""⟩ (.emptyCode model kind)
  | shared {model code : String} (refused : policy.allowShared = false)
      (proper : isProper code = true) (again : code ∈ earlier) :
      Objection kind policy earlier ⟨model, code⟩ (.sharedCode model kind code)

/-- The policy has nothing against any of the uses, the codes in `earlier` coming before them. -/
def Unopposed (kind : CodeKind) (policy : CodePolicy) (earlier : List String)
    (uses : List CodeUse) : Prop :=
  ∀ before use after, uses = before ++ use :: after →
    ∀ fault, ¬ Objection kind policy (earlier ++ before.map (·.code)) use fault

/-- The policy objects to one of the uses and to none before it. -/
def FirstObjection (kind : CodeKind) (policy : CodePolicy) (earlier : List String)
    (uses : List CodeUse) (fault : Fault) : Prop :=
  ∃ before use after, uses = before ++ use :: after ∧
    Unopposed kind policy earlier before ∧
    Objection kind policy (earlier ++ before.map (·.code)) use fault

section Objections

variable {kind : CodeKind} {policy : CodePolicy} {earlier : List String} {use : CodeUse}
  {rest : List CodeUse} {fault : Fault}

theorem unopposed_nil : Unopposed kind policy earlier [] := by
  intro before use after split
  simp at split

theorem unopposed_iff_not_exists {uses : List CodeUse} :
    Unopposed kind policy earlier uses ↔
      ¬ ∃ before use after, uses = before ++ use :: after ∧
        ∃ fault, Objection kind policy (earlier ++ before.map (·.code)) use fault := by
  simp only [Unopposed, not_exists, not_and]

theorem unopposed_cons :
    Unopposed kind policy earlier (use :: rest) ↔
      (∀ fault, ¬ Objection kind policy earlier use fault) ∧
      Unopposed kind policy (earlier ++ [use.code]) rest := by
  rw [unopposed_iff_not_exists, exists_place_cons, not_or, unopposed_iff_not_exists]
  simp

theorem firstObjection_cons :
    FirstObjection kind policy earlier (use :: rest) fault ↔
      Objection kind policy earlier use fault ∨
      (∀ fault, ¬ Objection kind policy earlier use fault) ∧
        FirstObjection kind policy (earlier ++ [use.code]) rest fault := by
  rw [FirstObjection, exists_first_cons unopposed_nil fun before => unopposed_cons, FirstObjection]
  simp

theorem unopposed_or_firstObjection (earlier : List String) (uses : List CodeUse) :
    Unopposed kind policy earlier uses ∨
      ∃ fault, FirstObjection kind policy earlier uses fault := by
  induction uses generalizing earlier with
  | nil => exact .inl unopposed_nil
  | cons use rest ih =>
    by_cases opposed : ∃ fault, Objection kind policy earlier use fault
    · obtain ⟨fault, objection⟩ := opposed
      exact .inr ⟨fault, firstObjection_cons.mpr (.inl objection)⟩
    · have unopposed := not_exists.mp opposed
      rcases ih (earlier ++ [use.code]) with clean | ⟨fault, first⟩
      · exact .inl (unopposed_cons.mpr ⟨unopposed, clean⟩)
      · exact .inr ⟨fault, firstObjection_cons.mpr (.inr ⟨unopposed, first⟩)⟩

theorem not_firstObjection_of_unopposed {uses : List CodeUse}
    (unopposed : Unopposed kind policy earlier uses) :
    ¬ FirstObjection kind policy earlier uses fault := by
  rintro ⟨before, use, after, split, _, objection⟩
  exact unopposed before use after split fault objection

end Objections

section Run

variable {kind : CodeKind} {policy : CodePolicy} {seen earlier : List String} {use : CodeUse}
  {rest : List CodeUse} {fault : Fault}

/-- Two lists hold the same proper codes. What is not proper is never looked up. -/
def SameProper (seen earlier : List String) : Prop :=
  ∀ code, isProper code = true → (code ∈ seen ↔ code ∈ earlier)

theorem SameProper.skip (same : SameProper seen earlier) {code : String}
    (known : isProper code = false ∨ code ∈ seen) : SameProper seen (earlier ++ [code]) := by
  intro other proper
  rw [List.mem_append, List.mem_singleton, ← same other proper]
  constructor
  · exact .inl
  · rintro (member | rfl)
    · exact member
    · exact known.resolve_left (by simp [proper])

theorem SameProper.take (same : SameProper seen earlier) (code : String) :
    SameProper (code :: seen) (earlier ++ [code]) := by
  intro other proper
  rw [List.mem_append, List.mem_singleton, List.mem_cons, ← same other proper, or_comm]

theorem gatherFrom_stop (same : SameProper seen earlier) (fatal : policy.fatal = true)
    (objection : Objection kind policy earlier use fault) :
    (gatherFrom kind policy seen (use :: rest)).result = .error fault := by
  cases objection with
  | empty refused => simp [gatherFrom, refused, CodePolicy.object, fatal]
  | @shared model code refused proper again =>
    obtain ⟨filled, genuine⟩ := isProper_iff.mp proper
    have member : code ∈ seen := (same code proper).mpr again
    simp [gatherFrom, filled, genuine, member, refused, CodePolicy.object, fatal]

theorem gatherFrom_skip (same : SameProper seen earlier)
    (passed : policy.fatal = true → ∀ fault, ¬ Objection kind policy earlier use fault)
    (known : isProper use.code = false ∨ use.code ∈ seen) :
    (gatherFrom kind policy seen (use :: rest)).result =
      (gatherFrom kind policy seen rest).result := by
  obtain ⟨model, code⟩ := use
  by_cases empty : code = ""
  · subst empty
    cases allowed : policy.allowEmpty with
    | true => simp [gatherFrom, allowed]
    | false =>
      have mild : policy.fatal = false :=
        Bool.eq_false_iff.mpr fun fatal => passed fatal _ (.empty allowed)
      simp [gatherFrom, allowed, CodePolicy.object, mild]
  have filled : code.isEmpty = false := by simpa using empty
  cases placeholder : isPlaceholder code with
  | true => simp [gatherFrom, filled, placeholder]
  | false =>
    have proper : isProper code = true := isProper_iff.mpr ⟨filled, placeholder⟩
    have member : code ∈ seen := known.resolve_left (by simp [proper])
    cases allowed : policy.allowShared with
    | true => simp [gatherFrom, filled, placeholder, member, allowed]
    | false =>
      have mild : policy.fatal = false := Bool.eq_false_iff.mpr fun fatal =>
        passed fatal _ (.shared allowed proper ((same code proper).mp member))
      simp [gatherFrom, filled, placeholder, member, allowed, CodePolicy.object, mild]

theorem gatherFrom_take (proper : isProper use.code = true) (fresh : use.code ∉ seen) :
    (gatherFrom kind policy seen (use :: rest)).result =
      (gatherFrom kind policy (use.code :: seen) rest).result.map (use.code :: ·) := by
  obtain ⟨filled, genuine⟩ := isProper_iff.mp proper
  simp [gatherFrom, filled, genuine, fresh]

/-- A run that nothing ends yields the proper codes that were not seen, each once. -/
theorem gatherFrom_of_passed (uses : List CodeUse) (same : SameProper seen earlier)
    (passed : policy.fatal = true → Unopposed kind policy earlier uses) :
    (gatherFrom kind policy seen uses).result =
      .ok ((uses.map (·.code)).filter fun code =>
        isProper code && !seen.contains code).eraseDups := by
  induction uses generalizing seen earlier with
  | nil => simp [gatherFrom]
  | cons use rest ih =>
    have first (fatal : policy.fatal = true) := (unopposed_cons.mp (passed fatal)).1
    have others (fatal : policy.fatal = true) := (unopposed_cons.mp (passed fatal)).2
    by_cases known : isProper use.code = false ∨ use.code ∈ seen
    · rw [gatherFrom_skip same first known, ih (same.skip known) others]
      rcases known with improper | member <;> simp [*]
    · obtain ⟨proper, fresh⟩ := not_or.mp known
      have proper : isProper use.code = true := by simpa using proper
      rw [gatherFrom_take proper fresh, ih (same.take use.code) others]
      have split (code : String) : (isProper code && !(use.code :: seen).contains code) =
          (!code == use.code && (isProper code && !seen.contains code)) := by
        rw [List.contains_cons, Bool.not_or, Bool.and_left_comm]
      have taken : (isProper use.code && !seen.contains use.code) = true := by simp [proper, fresh]
      rw [List.map_cons, List.filter_cons, if_pos taken, List.eraseDups_cons, List.filter_filter]
      simp only [split]
      rfl

theorem gatherFrom_of_firstObjection (uses : List CodeUse) (same : SameProper seen earlier)
    (fatal : policy.fatal = true) (first : FirstObjection kind policy earlier uses fault) :
    (gatherFrom kind policy seen uses).result = .error fault := by
  induction uses generalizing seen earlier with
  | nil =>
    obtain ⟨before, use, after, split, _⟩ := first
    simp at split
  | cons use rest ih =>
    rcases firstObjection_cons.mp first with objection | ⟨unopposed, later⟩
    · exact gatherFrom_stop same fatal objection
    · by_cases known : isProper use.code = false ∨ use.code ∈ seen
      · rw [gatherFrom_skip same (fun _ => unopposed) known, ih (same.skip known) later]
      · obtain ⟨proper, fresh⟩ := not_or.mp known
        rw [gatherFrom_take (by simpa using proper) fresh, ih (same.take use.code) later]
        rfl

end Run

section Gather

variable {kind : CodeKind} {policy : CodePolicy} {db : Database} {codes : List String}
  {fault : Fault}

theorem gather_of_passed
    (passed : policy.fatal = true → Unopposed kind policy [] (db.codeUses kind)) :
    (db.gather kind policy).result = .ok (db.distinctCodes kind) := by
  rw [Database.gather, gatherFrom_of_passed _ (fun _ _ => Iff.rfl) passed]
  simp [Database.distinctCodes, Database.listedCodes]

theorem gather_eq_ok_iff :
    (db.gather kind policy).result = .ok codes ↔
      (policy.fatal = true → Unopposed kind policy [] (db.codeUses kind)) ∧
      codes = db.distinctCodes kind := by
  constructor
  · intro gathered
    have passed : policy.fatal = true → Unopposed kind policy [] (db.codeUses kind) := by
      intro fatal
      refine (unopposed_or_firstObjection _ _).resolve_right ?_
      rintro ⟨fault, first⟩
      rw [Database.gather,
        gatherFrom_of_firstObjection _ (fun _ _ => Iff.rfl) fatal first] at gathered
      cases gathered
    rw [gather_of_passed passed] at gathered
    exact ⟨passed, (Except.ok.inj gathered).symm⟩
  · rintro ⟨passed, rfl⟩
    exact gather_of_passed passed

theorem gather_eq_error_iff :
    (db.gather kind policy).result = .error fault ↔
      policy.fatal = true ∧ FirstObjection kind policy [] (db.codeUses kind) fault := by
  have stop {fault : Fault} (fatal : policy.fatal = true)
      (first : FirstObjection kind policy [] (db.codeUses kind) fault) :
      (db.gather kind policy).result = .error fault :=
    gatherFrom_of_firstObjection _ (fun _ _ => Iff.rfl) fatal first
  constructor
  · intro failed
    by_cases passed : policy.fatal = true → Unopposed kind policy [] (db.codeUses kind)
    · rw [gather_of_passed passed] at failed
      cases failed
    · obtain ⟨fatal, opposed⟩ := Classical.not_imp.mp passed
      obtain ⟨other, first⟩ := (unopposed_or_firstObjection _ _).resolve_left opposed
      have same : other = fault := Except.error.inj ((stop fatal first).symm.trans failed)
      exact ⟨fatal, same ▸ first⟩
  · rintro ⟨fatal, first⟩
    exact stop fatal first

theorem gather_of_mild (db : Database) (kind : CodeKind) (mild : policy.fatal = false) :
    (db.gather kind policy).result = .ok (db.distinctCodes kind) :=
  gather_of_passed fun fatal => absurd fatal (by simp [mild])

theorem nodup_distinctCodes (db : Database) (kind : CodeKind) : (db.distinctCodes kind).Nodup :=
  nodup_eraseDups _

theorem unopposed_strict_iff {earlier : List String} (uses : List CodeUse) :
    Unopposed kind .strict earlier uses ↔
      (∀ use ∈ uses, use.code ≠ "") ∧
      ((uses.map (·.code)).filter isProper).Nodup ∧
      ∀ code ∈ (uses.map (·.code)).filter isProper, code ∉ earlier := by
  induction uses generalizing earlier with
  | nil => simp [unopposed_nil]
  | cons use rest ih =>
    have objections : (∀ fault, ¬ Objection kind .strict earlier use fault) ↔
        use.code ≠ "" ∧ (isProper use.code = true → use.code ∉ earlier) := by
      constructor
      · intro unopposed
        refine ⟨fun empty => ?_, fun proper again => ?_⟩
        · obtain ⟨model, code⟩ := use
          obtain rfl : code = "" := empty
          exact unopposed _ (.empty rfl)
        · exact unopposed _ (.shared rfl proper again)
      · rintro ⟨filled, fresh⟩ fault (_ | ⟨_, proper, again⟩)
        · exact filled rfl
        · exact fresh proper again
    have filled : (∀ next ∈ use :: rest, next.code ≠ "") ↔
        use.code ≠ "" ∧ ∀ next ∈ rest, next.code ≠ "" := List.forall_mem_cons
    rw [unopposed_cons, objections, ih, filled, List.map_cons]
    cases proper : isProper use.code with
    | false =>
      have absent : use.code ∉ (rest.map (·.code)).filter isProper := by
        rw [List.mem_filter, proper]
        simp
      rw [List.filter_cons_of_neg (by simp [proper])]
      grind
    | true =>
      rw [List.filter_cons_of_pos proper, List.nodup_cons, List.forall_mem_cons]
      grind

theorem filter_isProper {listed : List String} (filled : "" ∉ listed) :
    listed.filter isProper = listed.filter fun code => !isPlaceholder code := by
  refine List.filter_congr fun code member => ?_
  have named : code ≠ "" := fun empty => filled (empty ▸ member)
  simp [isProper, named]

theorem unopposed_codeUses_iff :
    Unopposed kind .strict [] (db.codeUses kind) ↔
      "" ∉ db.listedCodes kind ∧ ((db.listedCodes kind).filter isProper).Nodup := by
  have filled : (∀ use ∈ db.codeUses kind, use.code ≠ "") ↔ "" ∉ db.listedCodes kind := by
    simp [Database.listedCodes]
  rw [unopposed_strict_iff, filled]
  simp [Database.listedCodes]

theorem distinctCodes_of_unopposed (unopposed : Unopposed kind .strict [] (db.codeUses kind)) :
    db.distinctCodes kind = (db.listedCodes kind).filter isProper :=
  eraseDups_of_nodup (unopposed_codeUses_iff.mp unopposed).2

end Gather

/-- Whatever the policy, the codes that are gathered are those of all lists one behind the other,
less what is empty or a placeholder, each where it first comes. So policies that succeed agree, and
one that is not fatal succeeds. -/
theorem gathered_codes (db : Database) (kind : CodeKind) :
    (∀ policy codes, (db.gather kind policy).result = .ok codes →
      codes = ((db.models.flatMap fun m => (m.codes? kind).getD []).filter fun code =>
        code != "" && code != "000" && code != "0000").eraseDups) ∧
    (∀ policy other codes codes', (db.gather kind policy).result = .ok codes →
      (db.gather kind other).result = .ok codes' → codes = codes') ∧
    ∀ policy, policy.fatal = false → ∃ codes, (db.gather kind policy).result = .ok codes := by
  have proper (code : String) :
      isProper code = (code != "" && code != "000" && code != "0000") := by
    rw [Bool.eq_iff_iff]
    simp [isProper, isPlaceholder, and_assoc]
  have distinct : db.distinctCodes kind = ((db.models.flatMap fun m =>
      (m.codes? kind).getD []).filter fun code =>
        code != "" && code != "000" && code != "0000").eraseDups := by
    rw [Database.distinctCodes, listedCodes_eq, funext proper]
    rfl
  refine ⟨fun policy codes gathered => ?_, fun policy other codes codes' first second => ?_,
    fun policy mild => ?_⟩
  · rw [← distinct]
    exact (gather_eq_ok_iff.mp gathered).2
  · rw [(gather_eq_ok_iff.mp first).2, (gather_eq_ok_iff.mp second).2]
  · exact ⟨_, gather_of_mild db kind mild⟩

/-- Lists with an empty code, placeholders, and codes that come again in one list and in the next. -/
def mixedDatabase : Database :=
  ⟨[{ productName := some "MacPro6,1", boardCodes := some ["F5Q", "", "000", "F9H", "F5Q"] },
    { productName := some "MacPro7,1", boardCodes := none },
    { productName := some "iMac14,2", boardCodes := some ["F9H", "0000", "FX2", ""] }], by decide⟩

theorem mixed_codes_gathered :
    (mixedDatabase.gather .board .lenient).result = .ok ["F5Q", "F9H", "FX2"] ∧
    ["F5Q", "F9H", "FX2"] = ((mixedDatabase.models.flatMap fun m =>
      (m.codes? .board).getD []).filter fun code =>
        code != "" && code != "000" && code != "0000").eraseDups ∧
    ∃ codes, (mixedDatabase.gather .board ⟨false, false, false⟩).result = .ok codes ∧
      codes = ["F5Q", "F9H", "FX2"] := by
  obtain ⟨listed, agree, succeed⟩ := gathered_codes mixedDatabase .board
  have gathered : (mixedDatabase.gather .board .lenient).result = .ok ["F5Q", "F9H", "FX2"] := rfl
  obtain ⟨codes, mild⟩ := succeed ⟨false, false, false⟩ rfl
  exact ⟨gathered, listed _ _ gathered, codes, mild, agree _ _ _ _ mild gathered⟩

end ModelCatalog
