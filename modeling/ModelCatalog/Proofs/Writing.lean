import ModelCatalog.Generation
import ModelCatalog.Proofs.FileChanges

/-! Runs of writes. Each file comes to lie where its path leads, a later file replaces an earlier
one at the same place, and the same run on the tree that it leaves changes nothing. -/
namespace ModelCatalog.Tree

theorem writeFile_eq_ok {t written : Tree} {p : Path} {content : ByteArray} :
    t.writeFile p content = .ok written ↔
      ∃ location, t.target p = .ok (some location, false) ∧ t.isDirectoryAt location = false ∧
        written = t.set location (.file content) := by
  unfold writeFile
  split
  · next failed => simp [failed]
  · next location named =>
    simp only [named, Except.ok.injEq, Prod.mk.injEq, Option.some.injEq, and_true, exists_eq_left']
    cases t.isDirectoryAt location <;> simp [eq_comm]
  · next place slashed other named =>
    constructor
    · intro never
      cases never
    · rintro ⟨location, found, _⟩
      cases named.symm.trans found
      exact absurd rfl (other location rfl)

/-- The directory of an artifact is there, and there is a file where the artifact belongs. -/
structure Settled (t : Tree) (artifact : Artifact) (location : Location) : Prop where
  upper : (artifact.path.parent?.getD ⟨""⟩).text.isEmpty = true ∨
    t.isDirectory (artifact.path.parent?.getD ⟨""⟩) = true
  named : t.target artifact.path = .ok (some location, false)
  file : ∃ content, t.get? location = some (.file content)

section Steps

variable {t u written : Tree} {artifact : Artifact} {location : Location}

theorem Settled.noDirectory (settled : Settled t artifact location) :
    t.isDirectoryAt location = false := by
  obtain ⟨content, found⟩ := settled.file
  simp [isDirectoryAt, found]

theorem Settled.locate (settled : Settled t artifact location) :
    t.locate artifact.path = .ok location := by
  obtain ⟨content, found⟩ := settled.file
  exact locate_of_target settled.named (.inr ⟨rfl, found ▸ rfl⟩)

theorem Settled.unique {other : Location} (settled : Settled t artifact location)
    (again : Settled t artifact other) : location = other := by
  have same := settled.named.symm.trans again.named
  simpa using same

theorem Settled.changed {writable : Location → Prop} (settled : Settled t artifact location)
    (changed : Changed writable t u) : Settled u artifact location :=
  ⟨settled.upper.imp_right changed.isDirectory, changed.target settled.named,
    changed.get?_file settled.file⟩

theorem Settled.write (settled : Settled t artifact location) :
    t.write artifact = (t.set location (.file artifact.content.toUTF8), .ok ()) := by
  have made : t.writeFile artifact.path artifact.content.toUTF8 = .ok _ :=
    writeFile_eq_ok.mpr ⟨location, settled.named, settled.noDirectory, rfl⟩
  rw [Tree.write, makeDirectories_of_isDirectory settled.upper]
  dsimp only
  rw [made]

theorem settled_of_write (done : t.write artifact = (written, .ok ())) :
    ∃ location, Settled written artifact location ∧ Changed (· = location) t written ∧
      written.get? location = some (.file artifact.content.toUTF8) := by
  rw [Tree.write] at done
  split at done
  · cases done
  · next made _ passed =>
    have above := changed_makeDirectories
      ((artifact.path.parent?.getD ⟨""⟩).segments.length + 1) t (artifact.path.parent?.getD ⟨""⟩)
    have upper := isDirectory_of_makeDirectories (congrArg Prod.snd passed)
    rw [passed] at above upper
    split at done
    · cases done
    · next last =>
      cases done
      obtain ⟨location, named, noDirectory, rfl⟩ := writeFile_eq_ok.mp last
      have step : Changed (· = location) made
          (made.set location (.file artifact.content.toUTF8)) :=
        .file _ .unchanged rfl noDirectory
      have found : (made.set location (.file artifact.content.toUTF8)).get? location =
          some (.file artifact.content.toUTF8) := by
        rw [get?_set (ne_root_of_noDirectory noDirectory), if_pos rfl]
      exact ⟨location, ⟨upper.imp_right step.isDirectory, step.target named, _, found⟩,
        (above.mono fun _ never => never.elim).trans step, found⟩

end Steps

section Runs

variable {t u : Tree} {artifact : Artifact} {artifacts rest : List Artifact}

theorem writeAll_cons_eq_ok (done : (t.writeAll (artifact :: rest)).2.result = .ok ()) :
    ∃ written, t.write artifact = (written, .ok ()) ∧
      (written.writeAll rest).2.result = .ok () := by
  cases step : t.write artifact with
  | mk written outcome =>
    cases outcome with
    | error fault =>
      rw [writeAll_of_error step] at done
      cases done
    | ok _ =>
      rw [writeAll_of_ok step] at done
      exact ⟨written, rfl, done⟩

theorem settled_of_writeAll (done : (t.writeAll artifacts).2.result = .ok ()) :
    (∀ artifact ∈ artifacts, ∃ location, Settled (t.writeAll artifacts).1 artifact location) ∧
    Changed (fun location => ∃ artifact ∈ artifacts,
      Settled (t.writeAll artifacts).1 artifact location) t (t.writeAll artifacts).1 := by
  induction artifacts generalizing t with
  | nil => exact ⟨by simp, .unchanged⟩
  | cons artifact rest ih =>
    obtain ⟨written, step, others⟩ := writeAll_cons_eq_ok done
    obtain ⟨location, settled, first, _⟩ := settled_of_write step
    obtain ⟨behind, later⟩ := ih others
    rw [writeAll_of_ok step]
    have settled := settled.changed later
    refine ⟨List.forall_mem_cons.mpr ⟨⟨location, settled⟩, behind⟩,
      (first.mono ?_).trans (later.mono ?_)⟩
    · rintro _ rfl
      exact ⟨artifact, List.mem_cons_self .., settled⟩
    · rintro _ ⟨other, member, place⟩
      exact ⟨other, List.mem_cons_of_mem _ member, place⟩

theorem get?_eq_entries {location : Location} (below : location ≠ []) :
    t.get? location = t.entries.get? location := if_neg below

/-- Two trees that list the same places and hold the same there, but at some of them. -/
structure AgreeOutside (except : Location → Prop) (t u : Tree) : Prop where
  workingDirectory : t.workingDirectory = u.workingDirectory
  keys : t.entries.keys = u.entries.keys
  get? : ∀ location, ¬ except location → t.entries.get? location = u.entries.get? location

theorem AgreeOutside.set {except fewer : Location → Prop} {location : Location} {entry : Entry}
    (agree : AgreeOutside except t u) (here : (t.get? location).isSome = true)
    (below : location ≠ [])
    (cases : ∀ other, except other → other = location ∨ fewer other)
    (same : ¬ fewer location → u.get? location = some entry) :
    AgreeOutside fewer (t.set location entry) u where
  workingDirectory := agree.workingDirectory
  keys := by
    rw [get?_eq_entries below] at here
    obtain ⟨old, found⟩ := Option.isSome_iff_exists.mp here
    have listed : location ∈ t.entries.keys :=
      List.mem_map_of_mem ((t.entries.mem_entries_iff location old).mpr found)
    exact (OrderedMap.keys_set ..).trans ((if_pos listed).trans agree.keys)
  get? other kept := by
    refine (OrderedMap.get?_set ..).trans ?_
    split
    · next place =>
      subst place
      rw [← get?_eq_entries below, same kept]
    · next elsewhere =>
      exact agree.get? other fun excepted => (cases other excepted).elim elsewhere kept

theorem AgreeOutside.eq {except : Location → Prop} (agree : AgreeOutside except t u)
    (nowhere : ∀ location, ¬ except location) : t = u := by
  have entries : t.entries = u.entries := OrderedMap.ext_entries (by
    rw [t.entries.entries_eq_map_keys .directory, u.entries.entries_eq_map_keys .directory,
      agree.keys]
    exact List.map_congr_left fun location _ => by rw [agree.get? location (nowhere location)])
  cases t
  cases u
  cases entries
  cases agree.workingDirectory
  rfl

/-- A second run starts in a tree that may differ where the first has yet to write. It ends in the
same tree, since the last file for a place replaces what is there. -/
theorem writeAll_again (done : (t.writeAll artifacts).2.result = .ok ())
    (since : Changed (fun _ => True) (t.writeAll artifacts).1 u)
    (agree : AgreeOutside (fun location => ∃ artifact ∈ artifacts,
      Settled (t.writeAll artifacts).1 artifact location) u (t.writeAll artifacts).1) :
    u.writeAll artifacts = t.writeAll artifacts := by
  induction artifacts generalizing t u with
  | nil => rw [agree.eq (by simp)]; rfl
  | cons artifact rest ih =>
    obtain ⟨written, step, others⟩ := writeAll_cons_eq_ok done
    obtain ⟨location, settled, _, content⟩ := settled_of_write step
    have later := (settled_of_writeAll others).2
    rw [writeAll_of_ok step] at since agree
    have again := (settled.changed later).changed since
    -- from here on the place of this artifact agrees, unless a later one is for the same place
    rw [writeAll_of_ok step, writeAll_of_ok again.write, ih others]
    · exact since.trans (.file _ .unchanged trivial again.noDirectory)
    · have here : (u.get? location).isSome = true := by
        obtain ⟨old, found⟩ := again.file
        rw [found]
        rfl
      refine agree.set here (ne_root_of_noDirectory again.noDirectory) ?_ fun kept =>
        later.get?_of_not_writable kept content
      rintro other ⟨_, member, place⟩
      rcases List.mem_cons.mp member with rfl | member
      · exact .inl (place.unique (settled.changed later))
      · exact .inr ⟨_, member, place⟩

theorem writeAll_writeAll (done : (t.writeAll artifacts).2.result = .ok ()) :
    (t.writeAll artifacts).1.writeAll artifacts = t.writeAll artifacts :=
  writeAll_again done .unchanged ⟨rfl, rfl, fun _ _ => rfl⟩

end Runs

end ModelCatalog.Tree
