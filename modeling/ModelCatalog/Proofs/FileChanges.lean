import ModelCatalog.Files.Tree

/-! What becomes of a tree in which directories are made and files are written. Nothing is taken
away and no directory becomes a file, so a path that names something names the same ever after. -/
namespace ModelCatalog.Tree

theorem get?_set {t : Tree} {location : Location} (below : location ≠ []) (entry : Entry)
    (other : Location) :
    (t.set location entry).get? other = if other = location then some entry else t.get? other := by
  unfold get? set
  by_cases root : other = []
  · subst root
    rw [if_pos rfl, if_neg (Ne.symm below), if_pos rfl]
  · rw [if_neg root, if_neg root]
    exact OrderedMap.get?_set ..

@[simp] theorem get?_root (t : Tree) : t.get? [] = some .directory := if_pos rfl

theorem isDirectoryAt_iff {t : Tree} {location : Location} :
    t.isDirectoryAt location = true ↔ t.get? location = some .directory := decide_eq_true_iff

theorem ne_root_of_free {t : Tree} {location : Location} (free : t.get? location = none) :
    location ≠ [] := by
  rintro rfl
  simp at free

theorem ne_root_of_noDirectory {t : Tree} {location : Location}
    (noDirectory : t.isDirectoryAt location = false) : location ≠ [] := by
  rintro rfl
  simp [isDirectoryAt] at noDirectory

/-- One step of a way: from a directory to itself, to the one above it, or to what it lists. -/
inductive Enters (t : Tree) (location : Location) : String → Location → Prop
  | idle {segment : String} (directory : t.isDirectoryAt location = true)
      (idle : Path.isIdle segment = true) : Enters t location segment location
  | upper (directory : t.isDirectoryAt location = true) : Enters t location ".." location.dropLast
  | name {segment : String} (directory : t.isDirectoryAt location = true)
      (solid : Path.isIdle segment = false) (down : segment ≠ "..")
      (fits : segment.utf8ByteSize ≤ longestName)
      (found : (t.get? (location ++ [segment])).isSome = true) :
      Enters t location segment (location ++ [segment])

theorem Enters.isDirectoryAt {t : Tree} {location next : Location} {segment : String}
    (enters : Enters t location segment next) : t.isDirectoryAt location = true := by
  cases enters <;> assumption

theorem walk_cons_eq_ok {t : Tree} {location place : Location} {segment : String}
    {rest : List String} : t.walk location (segment :: rest) = .ok place ↔
      ∃ next, Enters t location segment next ∧ t.walk next rest = .ok place := by
  rw [walk]
  constructor
  · intro reached
    split at reached
    · cases reached
    · next directory =>
      simp only [Bool.not_eq_true', Bool.not_eq_false] at directory
      split at reached
      · next idle => exact ⟨location, .idle directory idle, reached⟩
      · next solid =>
        split at reached
        · next up => exact ⟨_, up ▸ .upper directory, reached⟩
        · next down =>
          split at reached
          · cases reached
          · next fits =>
            dsimp only at reached
            split at reached
            · next found =>
              exact ⟨_, .name directory (by simpa using solid) down (by omega) found, reached⟩
            · cases reached
  · rintro ⟨next, enters, reached⟩
    cases enters with
    | idle directory idle => simpa [directory, idle] using reached
    | upper directory =>
      have solid : Path.isIdle ".." = false := by decide
      simpa [directory, solid] using reached
    | name directory solid down fits found =>
      simpa [directory, solid, down, Nat.not_lt.mpr fits, found] using reached

theorem walk_append_eq_ok {t : Tree} {location place : Location} {segments more : List String} :
    t.walk location (segments ++ more) = .ok place ↔
      ∃ middle, t.walk location segments = .ok middle ∧ t.walk middle more = .ok place := by
  induction segments generalizing location with
  | nil => simp [walk]
  | cons segment rest ih =>
    simp only [List.cons_append, walk_cons_eq_ok, ih]
    constructor
    · rintro ⟨next, enters, middle, front, back⟩
      exact ⟨middle, ⟨next, enters, front⟩, back⟩
    · rintro ⟨middle, ⟨next, enters, front⟩, back⟩
      exact ⟨next, enters, middle, front, back⟩

/-- A tree that comes from another by steps of two kinds: a directory is made where nothing is, or
a file is written where no directory is, at one of the places that may be written. -/
inductive Changed (writable : Location → Prop) (t : Tree) : Tree → Prop
  | unchanged : Changed writable t t
  | directory {u : Tree} {location : Location} (before : Changed writable t u)
      (free : u.get? location = none) : Changed writable t (u.set location .directory)
  | file {u : Tree} {location : Location} (content : ByteArray) (before : Changed writable t u)
      (allowed : writable location) (noDirectory : u.isDirectoryAt location = false) :
      Changed writable t (u.set location (.file content))

namespace Changed

variable {writable : Location → Prop} {t u v : Tree} {location : Location}

theorem trans (first : Changed writable t u) (second : Changed writable u v) :
    Changed writable t v := by
  induction second with
  | unchanged => exact first
  | directory _ free ih => exact .directory ih free
  | file content _ allowed noDirectory ih => exact .file content ih allowed noDirectory

theorem mono {more : Location → Prop} (changed : Changed writable t u)
    (wider : ∀ location, writable location → more location) : Changed more t u := by
  induction changed with
  | unchanged => exact .unchanged
  | directory _ free ih => exact .directory ih free
  | file content _ allowed noDirectory ih => exact .file content ih (wider _ allowed) noDirectory

theorem workingDirectory (changed : Changed writable t u) :
    u.workingDirectory = t.workingDirectory := by
  induction changed with
  | unchanged => rfl
  | directory _ _ ih => exact ih
  | file _ _ _ _ ih => exact ih

theorem get?_of_not_writable (changed : Changed writable t u) (kept : ¬ writable location)
    {entry : Entry} (here : t.get? location = some entry) : u.get? location = some entry := by
  induction changed with
  | unchanged => exact here
  | @directory u place _ free ih =>
    rw [get?_set (ne_root_of_free free), if_neg, ih]
    rintro rfl
    rw [free] at ih
    cases ih
  | @file u place _ _ allowed noDirectory ih =>
    rw [get?_set (ne_root_of_noDirectory noDirectory), if_neg, ih]
    rintro rfl
    exact kept allowed

theorem get?_directory (changed : Changed writable t u)
    (here : t.get? location = some .directory) : u.get? location = some .directory := by
  induction changed with
  | unchanged => exact here
  | @directory u place _ free ih =>
    rw [get?_set (ne_root_of_free free)]
    split
    · rfl
    · exact ih
  | @file u place _ _ _ noDirectory ih =>
    rw [get?_set (ne_root_of_noDirectory noDirectory), if_neg, ih]
    rintro rfl
    simp [isDirectoryAt, ih] at noDirectory

theorem get?_file (changed : Changed writable t u)
    (here : ∃ content, t.get? location = some (.file content)) :
    ∃ content, u.get? location = some (.file content) := by
  induction changed with
  | unchanged => exact here
  | @directory u place _ free ih =>
    obtain ⟨content, found⟩ := ih
    refine ⟨content, ?_⟩
    rw [get?_set (ne_root_of_free free), if_neg, found]
    rintro rfl
    rw [free] at found
    cases found
  | @file u place content _ _ noDirectory ih =>
    rw [get?_set (ne_root_of_noDirectory noDirectory)]
    split
    · exact ⟨content, rfl⟩
    · exact ih

theorem isSome_get? (changed : Changed writable t u) (here : (t.get? location).isSome = true) :
    (u.get? location).isSome = true := by
  obtain ⟨entry, found⟩ := Option.isSome_iff_exists.mp here
  cases entry with
  | directory => rw [changed.get?_directory found]; rfl
  | file content =>
    obtain ⟨_, found⟩ := changed.get?_file ⟨content, found⟩
    rw [found]; rfl

theorem isDirectoryAt (changed : Changed writable t u)
    (here : t.isDirectoryAt location = true) : u.isDirectoryAt location = true :=
  isDirectoryAt_iff.mpr (changed.get?_directory (isDirectoryAt_iff.mp here))

theorem enters (changed : Changed writable t u) {segment : String} {next : Location}
    (step : Enters t location segment next) : Enters u location segment next := by
  cases step with
  | idle directory idle => exact .idle (changed.isDirectoryAt directory) idle
  | upper directory => exact .upper (changed.isDirectoryAt directory)
  | name directory solid down fits found =>
    exact .name (changed.isDirectoryAt directory) solid down fits (changed.isSome_get? found)

theorem walk (changed : Changed writable t u) {segments : List String} {place : Location}
    (reached : t.walk location segments = .ok place) : u.walk location segments = .ok place := by
  induction segments generalizing location with
  | nil => exact reached
  | cons segment rest ih =>
    obtain ⟨next, step, onward⟩ := walk_cons_eq_ok.mp reached
    exact walk_cons_eq_ok.mpr ⟨next, changed.enters step, ih onward⟩

end Changed

theorem locate_eq_ok {t : Tree} {p : Path} {location : Location} : t.locate p = .ok location ↔
    checkPath p = .ok () ∧ t.walk (t.base p) p.segments = .ok location := by
  rw [locate]
  cases checkPath p <;> simp [bind, Except.bind]

theorem isDirectory_iff {t : Tree} {p : Path} : t.isDirectory p = true ↔
    ∃ location, t.locate p = .ok location ∧ t.isDirectoryAt location = true := by
  rw [isDirectory]
  cases t.locate p <;> simp

section Endings

theorem segments_eq_ending {segments : List String} (nonempty : segments ≠ []) :
    ∃ slashes : List String, (∀ segment ∈ slashes, segment = "") ∧
      segments = (ending segments).upper ++ (ending segments).name :: slashes ∧
      ((ending segments).name ≠ "" → ((ending segments).slashed = false ↔ slashes = [])) := by
  let kept := (segments.reverse.dropWhile String.isEmpty).reverse
  let slashes := (segments.reverse.takeWhile String.isEmpty).reverse
  have split : segments = kept ++ slashes := by
    rw [← List.reverse_append, List.takeWhile_append_dropWhile, List.reverse_reverse]
  have empty : ∀ segment ∈ slashes, segment = "" := fun segment member => by
    simpa using List.all_eq_true.mp List.all_takeWhile segment (List.mem_reverse.mp member)
  have last : ending segments =
      ⟨kept.dropLast, kept.getLast?.getD "", kept.length < segments.length⟩ := rfl
  rw [last]
  rcases List.eq_nil_or_concat kept with none | ⟨upper, name, some⟩
  · rw [none, List.nil_append] at split
    obtain ⟨first, rest, cut⟩ := List.exists_cons_of_ne_nil (split ▸ nonempty)
    refine ⟨rest, fun segment member => empty segment (cut ▸ List.mem_cons_of_mem _ member), ?_⟩
    have blank : first = "" := empty first (cut ▸ List.mem_cons_self ..)
    simp [none, split, cut, blank]
  · refine ⟨slashes, empty, ?_, fun _ => ?_⟩
    · simpa [some] using split
    · rw [split, List.length_append]
      simp

theorem walk_slashes {t : Tree} {location : Location} {slashes : List String}
    (empty : ∀ segment ∈ slashes, segment = "") (directory : t.isDirectoryAt location = true) :
    t.walk location slashes = .ok location := by
  induction slashes with
  | nil => rfl
  | cons segment rest ih =>
    obtain ⟨blank, others⟩ := List.forall_mem_cons.mp empty
    subst blank
    exact walk_cons_eq_ok.mpr ⟨location, .idle directory (by decide), ih others⟩

theorem eq_of_walk_slashes {t : Tree} {location place : Location} {slashes : List String}
    (empty : ∀ segment ∈ slashes, segment = "") (reached : t.walk location slashes = .ok place) :
    location = place := by
  induction slashes generalizing location with
  | nil => exact Except.ok.inj reached
  | cons segment rest ih =>
    obtain ⟨blank, others⟩ := List.forall_mem_cons.mp empty
    obtain ⟨next, enters, onward⟩ := walk_cons_eq_ok.mp reached
    cases enters with
    | idle => exact ih others onward
    | upper => exact absurd blank (by decide)
    | name _ solid =>
      rw [blank] at solid
      exact absurd solid (by decide)

end Endings

section Making

variable {t u : Tree} {p : Path} {location : Location} {slashed : Bool}

theorem target_eq_ok_some : t.target p = .ok (some location, slashed) ↔
    checkPath p = .ok () ∧ ∃ upper,
      t.walk (t.base p) (ending p.segments).upper = .ok upper ∧
      t.isDirectoryAt upper = true ∧
      Path.isIdle (ending p.segments).name = false ∧ (ending p.segments).name ≠ ".." ∧
      (ending p.segments).name.utf8ByteSize ≤ longestName ∧
      location = upper ++ [(ending p.segments).name] ∧ slashed = (ending p.segments).slashed := by
  cases checked : checkPath p with
  | error fault => simp [target, checked, bind, Except.bind]
  | ok =>
    cases reached : t.walk (t.base p) (ending p.segments).upper with
    | error fault => simp [target, checked, reached, bind, Except.bind]
    | ok upper =>
      simp only [target, checked, reached, bind, Except.bind, true_and, Except.ok.injEq,
        exists_eq_left']
      cases directory : t.isDirectoryAt upper <;>
        cases idle : Path.isIdle (ending p.segments).name <;>
          by_cases up : (ending p.segments).name = ".." <;>
            by_cases fits : (ending p.segments).name.utf8ByteSize > longestName <;>
              simp [up, fits, Nat.not_le.mpr, Nat.not_lt.mp, eq_comm]

theorem Changed.base {writable : Location → Prop} (changed : Changed writable t u) (p : Path) :
    u.base p = t.base p := by
  rw [Tree.base, Tree.base, changed.workingDirectory]

theorem Changed.target {writable : Location → Prop} (changed : Changed writable t u)
    (named : t.target p = .ok (some location, slashed)) :
    u.target p = .ok (some location, slashed) := by
  obtain ⟨checked, upper, reached, directory, rest⟩ := target_eq_ok_some.mp named
  rw [← changed.base p] at reached
  exact target_eq_ok_some.mpr
    ⟨checked, upper, changed.walk reached, changed.isDirectoryAt directory, rest⟩

theorem Changed.locate {writable : Location → Prop} (changed : Changed writable t u)
    (found : t.locate p = .ok location) : u.locate p = .ok location := by
  obtain ⟨checked, reached⟩ := locate_eq_ok.mp found
  rw [← changed.base p] at reached
  exact locate_eq_ok.mpr ⟨checked, changed.walk reached⟩

theorem Changed.isDirectory {writable : Location → Prop} (changed : Changed writable t u)
    (there : t.isDirectory p = true) : u.isDirectory p = true := by
  obtain ⟨location, found, directory⟩ := isDirectory_iff.mp there
  exact isDirectory_iff.mpr ⟨location, changed.locate found, changed.isDirectoryAt directory⟩

/-- Once something is at the place that a path names, the path leads there; but to a file only
without a slash at its end. -/
theorem locate_of_target (named : t.target p = .ok (some location, slashed))
    (there : t.isDirectoryAt location = true ∨
      slashed = false ∧ (t.get? location).isSome = true) : t.locate p = .ok location := by
  obtain ⟨checked, upper, reached, directory, solid, down, fits, rfl, rfl⟩ :=
    target_eq_ok_some.mp named
  obtain ⟨slashes, empty, parts, single⟩ := segments_eq_ending p.segments_ne_nil
  have found : (t.get? (upper ++ [(ending p.segments).name])).isSome = true := by
    rcases there with directory | ⟨_, found⟩
    · rw [isDirectoryAt_iff.mp directory]
      rfl
    · exact found
  have last : t.walk (upper ++ [(ending p.segments).name]) slashes =
      .ok (upper ++ [(ending p.segments).name]) := by
    rcases there with directory | ⟨plain, _⟩
    · exact walk_slashes empty directory
    · have named : (ending p.segments).name ≠ "" := by
        intro blank
        rw [blank] at solid
        exact absurd solid (by decide)
      rw [(single named).mp plain, walk]
  have whole := walk_append_eq_ok.mpr ⟨upper, reached, walk_cons_eq_ok.mpr
    ⟨_, .name directory solid down fits found, last⟩⟩
  rw [← parts] at whole
  exact locate_eq_ok.mpr ⟨checked, whole⟩

theorem makeDirectory_of_isDirectory (there : t.isDirectory p = true) :
    t.makeDirectory p = .error .exists := by
  obtain ⟨location, found, _⟩ := isDirectory_iff.mp there
  obtain ⟨checked, reached⟩ := locate_eq_ok.mp found
  obtain ⟨slashes, _, parts, _⟩ := segments_eq_ending p.segments_ne_nil
  rw [parts] at reached
  obtain ⟨upper, front, back⟩ := walk_append_eq_ok.mp reached
  obtain ⟨next, enters, _⟩ := walk_cons_eq_ok.mp back
  have directory := enters.isDirectoryAt
  unfold makeDirectory target
  simp only [checked, front, directory, bind, Except.bind, Bool.not_true, Bool.false_eq_true,
    if_false]
  generalize (ending p.segments).name = name at enters
  cases enters with
  | idle _ idle => simp [idle]
  | upper => simp
  | name _ solid down fits present =>
    simp [solid, down, Nat.not_lt.mpr fits, present]

theorem makeDirectory_eq_ok {made : Tree} : t.makeDirectory p = .ok made ↔
    ∃ location slashed, t.target p = .ok (some location, slashed) ∧ t.get? location = none ∧
      made = t.set location .directory := by
  unfold makeDirectory
  split
  · next failed => simp [failed]
  · next named => simp [named]
  · next location slashed named =>
    rw [named]
    cases free : t.get? location <;> simp [free, eq_comm]

theorem changed_makeDirectory {made : Tree} (done : t.makeDirectory p = .ok made) :
    Changed (fun _ => False) t made := by
  obtain ⟨location, _, _, free, rfl⟩ := makeDirectory_eq_ok.mp done
  exact .directory .unchanged free

theorem isDirectory_of_makeDirectory {made : Tree} (done : t.makeDirectory p = .ok made) :
    made.isDirectory p = true := by
  have changed := changed_makeDirectory done
  obtain ⟨location, slashed, named, free, rfl⟩ := makeDirectory_eq_ok.mp done
  have directory : (t.set location .directory).isDirectoryAt location = true := by
    rw [isDirectoryAt_iff, get?_set (ne_root_of_free free), if_pos rfl]
  exact isDirectory_iff.mpr
    ⟨location, locate_of_target (changed.target named) (.inl directory), directory⟩

/-- What each directory that is made keeps, several keep, also when the last of them fails. -/
theorem makeDirectories_induction {motive : Tree → Prop}
    (step : ∀ {t made : Tree} {p : Path}, motive t → t.makeDirectory p = .ok made → motive made)
    (fuel : Nat) (p : Path) (start : motive t) : motive (makeDirectories fuel t p).1 := by
  induction fuel generalizing t p with
  | zero => exact start
  | succ fuel ih =>
    rw [makeDirectories]
    split
    · exact start
    · split
      · next made done => exact step start done
      · split
        · exact start
        · next upper _ =>
          have above := ih upper start
          split
          · next stopped => rwa [stopped] at above
          · next between _ passed =>
            rw [passed] at above
            split
            · next made done => exact step above done
            · split <;> exact above
      · split <;> exact start

/-- To make directories changes nothing but that, whether it succeeds or stops half-way. -/
theorem changed_makeDirectories (fuel : Nat) (t : Tree) (p : Path) :
    Changed (fun _ => False) t (makeDirectories fuel t p).1 :=
  makeDirectories_induction (motive := Changed (fun _ => False) t)
    (fun before done => before.trans (changed_makeDirectory done)) fuel p .unchanged

theorem isDirectory_of_makeDirectories {fuel : Nat}
    (done : (makeDirectories fuel t p).2 = .ok ()) :
    p.text.isEmpty = true ∨ (makeDirectories fuel t p).1.isDirectory p = true := by
  cases fuel with
  | zero => cases done
  | succ fuel =>
    rw [makeDirectories] at done ⊢
    split at done
    · next empty => exact .inl empty
    · next named =>
      right
      rw [if_neg named]
      split at done
      · next made first => exact isDirectory_of_makeDirectory first
      · split at done
        · cases done
        · split at done
          · cases done
          · split at done
            · next made last => exact isDirectory_of_makeDirectory last
            · split at done
              · next there => exact (if_pos there).symm ▸ there
              · cases done
      · split at done
        · next there => exact (if_pos there).symm ▸ there
        · cases done

theorem makeDirectories_of_isDirectory {fuel : Nat}
    (there : p.text.isEmpty = true ∨ t.isDirectory p = true) :
    makeDirectories (fuel + 1) t p = (t, .ok ()) := by
  rw [makeDirectories]
  split
  · rfl
  · next named =>
    have there := there.resolve_left named
    simp [makeDirectory_of_isDirectory there, there]

end Making

end ModelCatalog.Tree
