import ModelCatalog.Logged

/-! The first of the elements of a list at which something happens, and work that may fail, done for
them in turn. -/
namespace ModelCatalog

variable {ε α β : Type}

theorem exists_place_cons {a : α} {rest : List α} {found : List α → α → Prop} :
    (∃ before b after, a :: rest = before ++ b :: after ∧ found before b) ↔
      found [] a ∨ ∃ before b after, rest = before ++ b :: after ∧ found (a :: before) b := by
  constructor
  · rintro ⟨before, b, after, split, here⟩
    cases before with
    | nil =>
      obtain ⟨rfl, rfl⟩ := List.cons.inj split
      exact .inl here
    | cons head before =>
      obtain ⟨rfl, rfl⟩ := List.cons.inj split
      exact .inr ⟨before, b, after, rfl, here⟩
  · rintro (here | ⟨before, b, after, rfl, here⟩)
    · exact ⟨[], a, rest, rfl, here⟩
    · exact ⟨a :: before, b, after, rfl, here⟩

theorem exists_place_append {front rest : List α} {p : List α → α → Prop} :
    (∃ before b after, front ++ rest = before ++ b :: after ∧ p before b) ↔
      (∃ before b after, front = before ++ b :: after ∧ p before b) ∨
        ∃ before b after, rest = before ++ b :: after ∧ p (front ++ before) b := by
  induction front generalizing p with
  | nil => simp
  | cons a front ih =>
    rw [List.cons_append, exists_place_cons, ih (p := fun before b => p (a :: before) b),
      exists_place_cons, or_assoc]
    rfl

/-- A place among the parts of several elements is a place among those of one of them. -/
theorem exists_place_flatMap {items : List α} {parts : α → List β} {p : List β → β → Prop} :
    (∃ before b after, items.flatMap parts = before ++ b :: after ∧ p before b) ↔
      ∃ above a below, items = above ++ a :: below ∧
        ∃ before b after, parts a = before ++ b :: after ∧
          p (above.flatMap parts ++ before) b := by
  induction items generalizing p with
  | nil => simp
  | cons a rest ih =>
    rw [List.flatMap_cons, exists_place_append,
      ih (p := fun before b => p (parts a ++ before) b)]
    refine Iff.symm (exists_place_cons.trans ?_)
    simp only [List.flatMap_nil, List.nil_append, List.flatMap_cons, List.append_assoc]

/-- The first place is the head, or the head is clear and the first place lies behind it. -/
theorem exists_first_cons {a : α} {rest : List α} {clear others : List α → Prop} {head : Prop}
    {found : List α → α → Prop} (none : clear [])
    (some : ∀ before, clear (a :: before) ↔ head ∧ others before) :
    (∃ before b after, a :: rest = before ++ b :: after ∧ clear before ∧ found before b) ↔
      found [] a ∨ head ∧ ∃ before b after, rest = before ++ b :: after ∧ others before ∧
        found (a :: before) b := by
  refine exists_place_cons.trans ?_
  simp only [none, some, true_and]
  refine or_congr_right ⟨?_, ?_⟩
  · rintro ⟨before, b, after, split, ⟨first, clear⟩, here⟩
    exact ⟨first, before, b, after, split, clear, here⟩
  · rintro ⟨first, before, b, after, split, clear, here⟩
    exact ⟨before, b, after, split, ⟨first, clear⟩, here⟩

theorem bind_eq_ok_iff {first : Except ε α} {next : α → Except ε β} {value : β} :
    first >>= next = .ok value ↔ ∃ a, first = .ok a ∧ next a = .ok value := by
  cases first <;> simp [bind, Except.bind]

theorem bind_eq_error_iff {first : Except ε α} {next : α → Except ε β} {fault : ε} :
    first >>= next = .error fault ↔
      first = .error fault ∨ ∃ a, first = .ok a ∧ next a = .error fault := by
  cases first <;> simp [bind, Except.bind]

theorem exists_ok_iff {result : Except ε α} :
    (∃ value, result = .ok value) ↔ ∀ fault, result ≠ .error fault := by
  cases result <;> simp

theorem exists_ok_of_isOk {result : Except ε α} (passed : result.isOk = true) :
    ∃ value, result = .ok value := by
  cases result with
  | error fault => cases passed
  | ok value => exact ⟨value, rfl⟩

theorem Logged.result_mapM (work : α → Logged β) (items : List α) :
    (items.mapM work).result = items.mapM fun a => (work a).result := by
  have loop (done : List β) : (List.mapM.loop work items done).result =
      List.mapM.loop (fun a => (work a).result) items done := by
    induction items generalizing done with
    | nil => rfl
    | cons a rest ih =>
      rw [List.mapM.loop, Logged.result_bind, List.mapM.loop]
      simp only [ih]
  exact loop []

/-- The first element whose work fails decides. -/
theorem mapM_eq_error_iff {work : α → Except ε β} {items : List α} {fault : ε} :
    items.mapM work = .error fault ↔
      ∃ before a after, items = before ++ a :: after ∧
        (∀ b ∈ before, ∃ value, work b = .ok value) ∧ work a = .error fault := by
  induction items with
  | nil => simp [pure, Except.pure]
  | cons a rest ih =>
    rw [exists_first_cons (by simp) fun before => List.forall_mem_cons, ← ih, List.mapM_cons]
    cases work a <;> cases rest.mapM work <;> simp [bind, Except.bind, pure, Except.pure]

theorem mapM_eq_ok_iff {work : α → Except ε β} {items : List α} {values : List β} :
    items.mapM work = .ok values ↔ items.map work = values.map .ok := by
  induction items generalizing values with
  | nil => cases values <;> simp [pure, Except.pure]
  | cons a rest ih =>
    rw [List.mapM_cons, List.map_cons]
    cases values with
    | nil => cases work a <;> cases rest.mapM work <;> simp [bind, Except.bind, pure, Except.pure]
    | cons value others =>
      rw [List.map_cons, List.cons.injEq, ← ih]
      cases work a <;> cases rest.mapM work <;> simp [bind, Except.bind, pure, Except.pure]

theorem mapM_eq_some_iff {work : α → Option β} {items : List α} {values : List β} :
    items.mapM work = some values ↔ items.map work = values.map some := by
  induction items generalizing values with
  | nil => cases values <;> simp
  | cons item rest ih =>
    cases values with
    | nil => cases work item <;> simp [Option.bind_eq_some_iff]
    | cons value values =>
      simp only [List.mapM_cons, Option.bind_eq_bind, Option.bind_eq_some_iff, ih, List.map_cons,
        List.cons.injEq, Option.pure_def, Option.some.injEq]
      constructor
      · rintro ⟨_, first, _, others, rfl, rfl⟩
        exact ⟨first, others⟩
      · rintro ⟨first, others⟩
        exact ⟨value, first, values, others, rfl, rfl⟩

theorem isSome_mapM_iff {work : α → Option β} {items : List α} :
    (items.mapM work).isSome ↔ ∀ item ∈ items, (work item).isSome := by
  induction items with
  | nil => simp
  | cons item rest ih =>
    rw [List.forall_mem_cons, ← ih, List.mapM_cons]
    cases work item <;> cases rest.mapM work <;> simp

end ModelCatalog
