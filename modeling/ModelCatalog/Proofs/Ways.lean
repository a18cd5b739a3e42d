import ModelCatalog.Proofs.FileChanges

/-! The ways of paths. What is made on the way to a path is a directory, and the first segments of
the path lead there. -/
namespace ModelCatalog

namespace Path

theorem slash_not_mem_splitSlashes (cs : List Char) : ∀ piece ∈ splitSlashes cs, '/' ∉ piece := by
  induction cs with
  | nil => simp [splitSlashes]
  | cons c cs ih =>
    rw [splitSlashes]
    split
    · simpa using ih
    · next other =>
      obtain ⟨piece, rest, split⟩ := List.exists_cons_of_ne_nil (splitSlashes_ne_nil cs)
      rw [split] at ih ⊢
      obtain ⟨first, others⟩ := List.forall_mem_cons.mp ih
      refine List.forall_mem_cons.mpr ⟨?_, others⟩
      simp [Ne.symm other, first]

theorem slash_not_mem_segments (p : Path) : ∀ segment ∈ p.segments, '/' ∉ segment.toList := by
  intro segment member
  obtain ⟨piece, among, rfl⟩ := List.mem_map.mp member
  rw [String.toList_ofList]
  exact slash_not_mem_splitSlashes _ piece among

theorem segments_ofSegments {segments : List String} (nonempty : segments ≠ [])
    (plain : ∀ segment ∈ segments, '/' ∉ segment.toList) :
    (ofSegments segments).segments = segments := by
  induction segments with
  | nil => contradiction
  | cons segment rest ih =>
    obtain ⟨first, others⟩ := List.forall_mem_cons.mp plain
    have alone : (splitSlashes segment.toList).map String.ofList = [segment] := by
      simp [splitSlashes_of_no_slash first]
    cases rest with
    | nil => simpa [ofSegments, Path.segments] using alone
    | cons next rest =>
      have behind := ih (List.cons_ne_nil _ _) others
      have text : (ofSegments (segment :: next :: rest)).text.toList =
          segment.toList ++ '/' :: (ofSegments (next :: rest)).text.toList := by
        simp [ofSegments, String.intercalate_cons_cons]
      rw [Path.segments, text, splitSlashes_append, List.map_append, alone]
      exact congrArg (segment :: ·) behind

theorem isAbsolute_iff {p : Path} :
    p.isAbsolute = true ↔ ∃ segment rest, p.segments = "" :: segment :: rest := by
  unfold isAbsolute segments
  cases letters : p.text.toList with
  | nil => simp [splitSlashes]
  | cons c cs =>
    obtain ⟨piece, rest, split⟩ := List.exists_cons_of_ne_nil (splitSlashes_ne_nil cs)
    by_cases slash : c = '/'
    · subst slash
      simp [splitSlashes, split]
    · simp [splitSlashes, slash, split]

theorem trimIdle_cons (first : String) (rest : List String) :
    ∃ kept idle, trimIdle (first :: rest) = first :: kept ∧ rest = kept ++ idle ∧
      (∀ segment ∈ idle, isIdle segment = true) ∧
      ∀ segment, kept.getLast? = some segment → isIdle segment = false := by
  refine ⟨(rest.reverse.dropWhile isIdle).reverse, (rest.reverse.takeWhile isIdle).reverse,
    rfl, ?_, fun segment member => ?_, fun segment last => ?_⟩
  · rw [← List.reverse_append, List.takeWhile_append_dropWhile, List.reverse_reverse]
  · exact List.all_eq_true.mp List.all_takeWhile segment (List.mem_reverse.mp member)
  · rw [List.getLast?_reverse] at last
    have stop := List.head?_dropWhile_not isIdle rest.reverse
    rw [last] at stop
    simpa using stop

/-- A path above is the root, is empty, or has the first segments of the path, behind which more
than idle ones follow. -/
theorem segments_of_parent? {p upper : Path} (above : p.parent? = some upper)
    (written : upper.text ≠ "") (down : upper ≠ ⟨"/"⟩) :
    upper.isAbsolute = p.isAbsolute ∧
    ∃ back, p.segments = upper.segments ++ back ∧ ∃ segment ∈ back, isIdle segment = false := by
  obtain ⟨first, rest, parts⟩ := List.exists_cons_of_ne_nil p.segments_ne_nil
  obtain ⟨kept, idle, trimmed, split, _, solid⟩ := trimIdle_cons first rest
  unfold parent? at above
  rw [parts, trimmed] at above
  rcases List.eq_nil_or_concat kept with rfl | ⟨front, last, rfl⟩
  · -- above a single segment there is only the empty path
    exfalso
    split at above
    · cases above
    · cases above
    · simp only [List.dropLast_singleton, trimIdle, Option.some.injEq] at above
      subst above
      exact written rfl
  · rw [List.concat_eq_append] at trimmed split solid above
    have behind : isIdle last = false := solid last List.getLast?_concat
    obtain ⟨kept', idle', trimmed', split', _, _⟩ := trimIdle_cons first front
    split at above
    · contradiction
    · contradiction
    · rw [← List.cons_append, List.dropLast_concat, trimmed'] at above
      split at above
      · exfalso
        split at above
        · exact down (Option.some.inj above).symm
        · exact written (congrArg Path.text (Option.some.inj above)).symm
      · next other =>
        obtain rfl := Option.some.inj above
        have whole : p.segments = (first :: kept') ++ (idle' ++ last :: idle) := by
          rw [parts, split, split']
          simp
        have upper : (ofSegments (first :: kept')).segments = first :: kept' := by
          refine segments_ofSegments (List.cons_ne_nil _ _) fun segment member => ?_
          exact slash_not_mem_segments p segment (whole ▸ List.mem_append_left _ member)
        refine ⟨?_, idle' ++ last :: idle, by rw [upper, whole], last, by simp, behind⟩
        rw [Bool.eq_iff_iff, isAbsolute_iff, isAbsolute_iff, upper, whole]
        cases kept' with
        | nil =>
          have named : first ≠ "" := fun empty => other (empty ▸ rfl)
          simp [named]
        | cons => simp

end Path

namespace Tree

variable {t m u : Tree} {p upper : Path} {location : Location}

/-- Some of the first segments of the path, or all of them, lead to the location. -/
def LeadsOver (t : Tree) (p : Path) (location : Location) : Prop :=
  ∃ front back, p.segments = front ++ back ∧ t.walk (t.base p) front = .ok location

/-- The first segments of the path lead to the location, and more than idle ones follow: the
location is that of a proper part of the path. -/
def PassesThrough (t : Tree) (p : Path) (location : Location) : Prop :=
  ∃ front back, p.segments = front ++ back ∧ (∃ segment ∈ back, Path.isIdle segment = false) ∧
    t.walk (t.base p) front = .ok location

theorem PassesThrough.leadsOver (passes : t.PassesThrough p location) :
    t.LeadsOver p location := by
  obtain ⟨front, back, parts, _, reached⟩ := passes
  exact ⟨front, back, parts, reached⟩

theorem Changed.leadsOver {writable : Location → Prop} (changed : Changed writable t u)
    (leads : t.LeadsOver p location) : u.LeadsOver p location := by
  obtain ⟨front, back, parts, reached⟩ := leads
  rw [← changed.base p] at reached
  exact ⟨front, back, parts, changed.walk reached⟩

theorem Changed.passesThrough {writable : Location → Prop} (changed : Changed writable t u)
    (passes : t.PassesThrough p location) : u.PassesThrough p location := by
  obtain ⟨front, back, parts, solid, reached⟩ := passes
  rw [← changed.base p] at reached
  exact ⟨front, back, parts, solid, changed.walk reached⟩

theorem LeadsOver.passesThrough (leads : t.LeadsOver upper location)
    (above : p.parent? = some upper) (written : upper.text ≠ "") (down : location ≠ []) :
    t.PassesThrough p location := by
  obtain ⟨front, back, parts, reached⟩ := leads
  by_cases root : upper = ⟨"/"⟩
  · -- all that the root leads over is the root
    subst root
    have slashes : (⟨"/"⟩ : Path).segments = ["", ""] := by decide
    have empty : ∀ segment ∈ front, segment = "" := by
      intro segment member
      have among : segment ∈ ["", ""] := by
        rw [← slashes, parts]
        exact List.mem_append_left _ member
      simpa using among
    have base : t.base ⟨"/"⟩ = [] := if_pos (by decide)
    rw [base, walk_slashes empty (by simp [isDirectoryAt])] at reached
    exact absurd (Except.ok.inj reached).symm down
  · obtain ⟨absolute, more, whole, solid⟩ := Path.segments_of_parent? above written root
    have base : t.base p = t.base upper := by rw [Tree.base, Tree.base, absolute]
    refine ⟨front, back ++ more, by rw [whole, parts, List.append_assoc], ?_, base ▸ reached⟩
    obtain ⟨segment, member, busy⟩ := solid
    exact ⟨segment, List.mem_append_right _ member, busy⟩

/-- What is new in the second tree is a directory on the way to the path. -/
def MadeFor (t u : Tree) (p : Path) : Prop :=
  ∀ location entry, t.get? location = none → u.get? location = some entry →
    entry = .directory ∧ u.LeadsOver p location

theorem MadeFor.unchanged (t : Tree) (p : Path) : MadeFor t t p := by
  intro location entry free found
  rw [free] at found
  cases found

theorem MadeFor.trans {writable : Location → Prop} (first : MadeFor t m p)
    (second : MadeFor m u p) (changed : Changed writable m u) : MadeFor t u p := by
  intro location entry free found
  cases between : m.get? location with
  | none => exact second location entry between found
  | some earlier =>
    obtain ⟨rfl, leads⟩ := first location earlier free between
    rw [changed.get?_directory between] at found
    exact ⟨(Option.some.inj found).symm, changed.leadsOver leads⟩

theorem MadeFor.of_parent (made : MadeFor t u upper) (above : p.parent? = some upper)
    (written : upper.text ≠ "") : MadeFor t u p := by
  intro location entry free found
  obtain ⟨directory, leads⟩ := made location entry free found
  exact ⟨directory, (leads.passesThrough above written (ne_root_of_free free)).leadsOver⟩

theorem madeFor_makeDirectory {made : Tree} (done : t.makeDirectory p = .ok made) :
    MadeFor t made p := by
  have changed := changed_makeDirectory done
  obtain ⟨place, slashed, named, free, rfl⟩ := makeDirectory_eq_ok.mp done
  obtain ⟨_, upper, reached, directory, solid, down, fits, rfl, _⟩ := target_eq_ok_some.mp named
  obtain ⟨slashes, _, parts, _⟩ := segments_eq_ending p.segments_ne_nil
  intro location entry absent found
  rw [get?_set (ne_root_of_free free)] at found
  split at found
  · next same =>
    subst same
    refine ⟨(Option.some.inj found).symm, _ ++ [_], slashes,
      by rw [List.append_assoc]; exact parts, ?_⟩
    rw [changed.base p]
    refine walk_append_eq_ok.mpr ⟨upper, changed.walk reached, walk_cons_eq_ok.mpr
      ⟨_, .name (changed.isDirectoryAt directory) solid down fits ?_, rfl⟩⟩
    rw [get?_set (ne_root_of_free free), if_pos rfl]
    rfl
  · rw [absent] at found
    cases found

theorem makeDirectories_of_empty (fuel : Nat) (t : Tree) (written : p.text = "") :
    (makeDirectories fuel t p).1 = t := by
  cases fuel <;> simp [makeDirectories, written]

/-- The directories that are made for a path lie on its way, whether all of them can be made or
not. -/
theorem madeFor_makeDirectories (fuel : Nat) (t : Tree) (p : Path) :
    MadeFor t (makeDirectories fuel t p).1 p := by
  induction fuel generalizing t p with
  | zero => exact .unchanged t p
  | succ fuel ih =>
    rw [makeDirectories]
    split
    · exact .unchanged t p
    · split
      · next made done => exact madeFor_makeDirectory done
      · split
        · exact .unchanged t p
        · next upper above =>
          have first : MadeFor t (makeDirectories fuel t upper).1 p := by
            by_cases written : upper.text = ""
            · rw [makeDirectories_of_empty fuel t written]
              exact .unchanged t p
            · exact (ih t upper).of_parent above written
          split
          · next stopped => rwa [stopped] at first
          · next between _ passed =>
            rw [passed] at first
            split
            · next made done =>
              exact first.trans (madeFor_makeDirectory done) (changed_makeDirectory done)
            · split <;> exact first
      · split <;> exact .unchanged t p

end Tree

end ModelCatalog
