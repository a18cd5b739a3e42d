import ModelCatalog.Proofs.Preparation
import ModelCatalog.Proofs.Sources
import ModelCatalog.Proofs.Ways
import ModelCatalog.Proofs.Writing

/-! What a run of writes does to a tree, whether it comes to its end or not: the files that are
written are found where their paths lead, the last one for a place; directories are made on the way
to them; and nothing else changes. -/
namespace ModelCatalog

namespace Tree

/-- The second tree is the first with the files `done` written, the directories of those in `tried`
being made. Where a path leads is seen in the second tree. -/
structure Written (t u : Tree) (done tried : List Artifact) : Prop where
  /-- What is read at the path of a file is the last file for that place. -/
  content : ∀ artifact ∈ done, ∃ before last after location,
    done = before ++ last :: after ∧ u.locate artifact.path = .ok location ∧
    u.locate last.path = .ok location ∧ (∀ later ∈ after, u.locate later.path ≠ .ok location) ∧
    u.readText artifact.path = .ok last.content
  /-- Where no path leads, a file stays as it is. -/
  kept : ∀ location content, t.get? location = some (.file content) →
    (∀ artifact ∈ done, u.locate artifact.path ≠ .ok location) →
      u.get? location = some (.file content)
  files : ∀ location, (∃ content, t.get? location = some (.file content)) →
    ∃ content, u.get? location = some (.file content)
  directories : ∀ location, t.get? location = some .directory → u.get? location = some .directory
  /-- What is new is a directory on the way to a file, or a file that is written. -/
  fresh : ∀ location entry, t.get? location = none → u.get? location = some entry →
    entry = .directory ∧ (∃ artifact ∈ tried, u.PassesThrough artifact.path location) ∨
    (∃ content, entry = .file content) ∧ ∃ artifact ∈ done, u.locate artifact.path = .ok location

section Steps

variable {t m u : Tree} {artifact : Artifact} {location : Location}

theorem Changed.readText {path : Path} {text : String} (changed : Changed (fun _ => False) t u)
    (done : t.readText path = .ok text) : u.readText path = .ok text := by
  obtain ⟨content, read, valid⟩ := readText_eq_ok.mp done
  obtain ⟨location, found, here⟩ := read_eq_ok.mp read
  have here := changed.get?_of_not_writable not_false here
  exact readText_eq_ok.mpr ⟨content, read_eq_ok.mpr ⟨location, changed.locate found, here⟩, valid⟩

/-- The directories above a file are made, as far as that is possible. -/
def withUpper (t : Tree) (artifact : Artifact) : Tree :=
  (makeDirectories ((artifact.path.parent?.getD ⟨""⟩).segments.length + 1) t
    (artifact.path.parent?.getD ⟨""⟩)).1

theorem changed_withUpper (t : Tree) (artifact : Artifact) :
    Changed (fun _ => False) t (t.withUpper artifact) := changed_makeDirectories _ t _

theorem passesThrough_withUpper {entry : Entry} (free : t.get? location = none)
    (found : (t.withUpper artifact).get? location = some entry) :
    entry = .directory ∧ (t.withUpper artifact).PassesThrough artifact.path location := by
  unfold withUpper at found ⊢
  cases above : artifact.path.parent? with
  | none =>
    -- no directory is asked for
    simp only [above, Option.getD_none] at found
    rw [makeDirectories_of_empty _ t rfl, free] at found
    cases found
  | some upper =>
    simp only [above, Option.getD_some] at found ⊢
    by_cases written : upper.text = ""
    · rw [makeDirectories_of_empty _ t written, free] at found
      cases found
    · obtain ⟨directory, leads⟩ := madeFor_makeDirectories _ t upper location entry free found
      exact ⟨directory, leads.passesThrough above written (ne_root_of_free free)⟩

theorem withUpper_of_write_error {fault : Fault} (failed : t.write artifact = (u, .error fault)) :
    u = t.withUpper artifact := by
  rw [Tree.write] at failed
  unfold withUpper
  split at failed
  · next stopped =>
    rw [stopped]
    exact (congrArg Prod.fst failed).symm
  · next passed =>
    rw [passed]
    split at failed
    · exact (congrArg Prod.fst failed).symm
    · cases failed

theorem fresh_of_write {place : Location} {entry : Entry}
    (done : t.write artifact = (u, .ok ())) (settled : Settled u artifact place)
    (free : t.get? location = none) (found : u.get? location = some entry) :
    location = place ∨ entry = .directory ∧ u.PassesThrough artifact.path location := by
  have passed : ∃ made, t.withUpper artifact = made ∧
      made.writeFile artifact.path artifact.content.toUTF8 = .ok u := by
    rw [Tree.write] at done
    unfold withUpper
    split at done
    · cases done
    · next passed =>
      rw [passed]
      split at done
      · cases done
      · next last =>
        cases done
        exact ⟨_, rfl, last⟩
  obtain ⟨_, rfl, last⟩ := passed
  obtain ⟨location', named, noDirectory, rfl⟩ := writeFile_eq_ok.mp last
  have changed : Changed (fun _ => True) (t.withUpper artifact) _ :=
    .file artifact.content.toUTF8 .unchanged trivial noDirectory
  have same := (changed.target named).symm.trans settled.named
  obtain rfl : location' = place := by simpa using same
  by_cases there : location = location'
  · exact .inl there
  · rw [get?_set (ne_root_of_noDirectory noDirectory), if_neg there] at found
    obtain ⟨directory, passes⟩ := passesThrough_withUpper free found
    exact .inr ⟨directory, changed.passesThrough passes⟩

end Steps

section Runs

variable {t m u : Tree} {artifact : Artifact} {artifacts done : List Artifact}

/-- A run that fails has come to its end before one of its files. -/
theorem writeAll_before_error {fault : Fault}
    (failed : (t.writeAll artifacts).2.result = .error fault) :
    ∃ before artifact after, artifacts = before ++ artifact :: after ∧
      (t.writeAll before).2.result = .ok () ∧
      (t.writeAll before).1.write artifact = ((t.writeAll artifacts).1, .error fault) := by
  induction artifacts generalizing t with
  | nil => cases failed
  | cons first rest ih =>
    cases step : t.write first with
    | mk written outcome =>
      cases outcome with
      | error other =>
        rw [writeAll_of_error step] at failed ⊢
        obtain rfl : other = fault := Except.error.inj failed
        exact ⟨[], first, rest, rfl, rfl, step⟩
      | ok _ =>
        rw [writeAll_of_ok step] at failed ⊢
        obtain ⟨before, artifact, after, rfl, done, stopped⟩ := ih failed
        refine ⟨first :: before, artifact, after, rfl, ?_, ?_⟩
        · rw [writeAll_of_ok step]
          exact done
        · rw [writeAll_of_ok step]
          exact stopped

theorem last_of_writeAll (done : (t.writeAll artifacts).2.result = .ok ()) :
    ∀ artifact ∈ artifacts, ∃ before last after location,
      artifacts = before ++ last :: after ∧ Settled (t.writeAll artifacts).1 artifact location ∧
      Settled (t.writeAll artifacts).1 last location ∧
      (∀ later ∈ after, ¬ Settled (t.writeAll artifacts).1 later location) ∧
      (t.writeAll artifacts).1.get? location = some (.file last.content.toUTF8) := by
  induction artifacts generalizing t with
  | nil => simp
  | cons first rest ih =>
    obtain ⟨written, step, others⟩ := writeAll_cons_eq_ok done
    obtain ⟨place, settled, _, content⟩ := settled_of_write step
    have later := (settled_of_writeAll others).2
    have behind := ih others
    have settled := settled.changed later
    rw [writeAll_of_ok step]
    refine List.forall_mem_cons.mpr ⟨?_, fun artifact member => ?_⟩
    · by_cases again : ∃ other ∈ rest, Settled (written.writeAll rest).1 other place
      · obtain ⟨other, member, same⟩ := again
        obtain ⟨before, last, after, location, split, there, rest⟩ := behind other member
        cases same.unique there
        exact ⟨first :: before, last, after, place, congrArg (first :: ·) split, settled, rest⟩
      · refine ⟨[], first, rest, place, rfl, settled, settled, fun other member same => ?_, ?_⟩
        · exact again ⟨other, member, same⟩
        · exact later.get?_of_not_writable again content
    · obtain ⟨before, last, after, location, split, found⟩ := behind artifact member
      exact ⟨first :: before, last, after, location, congrArg (first :: ·) split, found⟩

theorem fresh_of_writeAll (done : (t.writeAll artifacts).2.result = .ok ()) {location : Location}
    {entry : Entry} (free : t.get? location = none)
    (found : (t.writeAll artifacts).1.get? location = some entry) :
    entry = .directory ∧ (∃ artifact ∈ artifacts,
      (t.writeAll artifacts).1.PassesThrough artifact.path location) ∨
    (∃ content, entry = .file content) ∧ ∃ artifact ∈ artifacts,
      Settled (t.writeAll artifacts).1 artifact location := by
  induction artifacts generalizing t with
  | nil =>
    rw [writeAll, free] at found
    cases found
  | cons first rest ih =>
    obtain ⟨written, step, others⟩ := writeAll_cons_eq_ok done
    obtain ⟨place, settled, _, content⟩ := settled_of_write step
    have later := (settled_of_writeAll others).2
    rw [writeAll_of_ok step] at found ⊢
    cases between : written.get? location with
    | none =>
      rcases ih others between found with ⟨directory, artifact, member, passes⟩ |
        ⟨file, artifact, member, there⟩
      · exact .inl ⟨directory, artifact, List.mem_cons_of_mem _ member, passes⟩
      · exact .inr ⟨file, artifact, List.mem_cons_of_mem _ member, there⟩
    | some earlier =>
      rcases fresh_of_write step settled free between with rfl | ⟨rfl, passes⟩
      · obtain ⟨last, file⟩ := later.get?_file ⟨_, content⟩
        rw [file] at found
        exact .inr ⟨⟨last, (Option.some.inj found).symm⟩, first, List.mem_cons_self ..,
          settled.changed later⟩
      · rw [later.get?_directory between] at found
        exact .inl ⟨(Option.some.inj found).symm, first, List.mem_cons_self ..,
          later.passesThrough passes⟩

theorem written_of_writeAll (done : (t.writeAll artifacts).2.result = .ok ()) :
    Written t (t.writeAll artifacts).1 artifacts artifacts := by
  obtain ⟨placed, changed⟩ := settled_of_writeAll done
  -- the place of a file is where its path leads
  have located {artifact : Artifact} (member : artifact ∈ artifacts) {location : Location} :
      Settled (t.writeAll artifacts).1 artifact location ↔
        (t.writeAll artifacts).1.locate artifact.path = .ok location := by
    refine ⟨Settled.locate, fun found => ?_⟩
    obtain ⟨place, settled⟩ := placed artifact member
    cases settled.locate.symm.trans found
    exact settled
  refine ⟨fun artifact member => ?_, fun location content here away => ?_, fun location here => ?_,
    fun location here => changed.get?_directory here, fun location entry free found => ?_⟩
  · obtain ⟨before, last, after, location, split, settled, lastSettled, behind, here⟩ :=
      last_of_writeAll done artifact member
    refine ⟨before, last, after, location, split, settled.locate, lastSettled.locate, ?_, ?_⟩
    · intro later among there
      have member : later ∈ artifacts := by simp [split, among]
      exact behind later among ((located member).mpr there)
    · exact readText_of_get? settled.locate here
  · refine changed.get?_of_not_writable ?_ here
    rintro ⟨artifact, member, settled⟩
    exact away artifact member settled.locate
  · exact changed.get?_file here
  · rcases fresh_of_writeAll done free found with directory | ⟨file, artifact, member, settled⟩
    · exact .inl directory
    · exact .inr ⟨file, artifact, member, settled.locate⟩

theorem Written.withUpper (written : Written t m done done) (artifact : Artifact) :
    Written t (m.withUpper artifact) done (done ++ [artifact]) := by
  have changed := changed_withUpper m artifact
  refine ⟨fun first member => ?_, fun location content here away => ?_, fun location here => ?_,
    fun location here => ?_, fun location entry free found => ?_⟩
  · obtain ⟨before, last, after, location, split, found, lastFound, behind, text⟩ :=
      written.content first member
    refine ⟨before, last, after, location, split, changed.locate found, changed.locate lastFound,
      fun later among there => ?_, ?_⟩
    · have among' : later ∈ done := by simp [split, among]
      obtain ⟨_, _, _, place, _, placed, _⟩ := written.content later among'
      cases (changed.locate placed).symm.trans there
      exact behind later among placed
    · exact changed.readText text
  · refine changed.get?_of_not_writable not_false (written.kept location content here ?_)
    intro first member there
    exact away first member (changed.locate there)
  · exact changed.get?_file (written.files location here)
  · exact changed.get?_directory (written.directories location here)
  · cases between : m.get? location with
    | none =>
      obtain ⟨directory, passes⟩ := passesThrough_withUpper between found
      exact .inl ⟨directory, artifact, by simp, passes⟩
    | some earlier =>
      rcases written.fresh location earlier free between with
        ⟨rfl, first, member, passes⟩ | ⟨file, first, member, there⟩
      · rw [changed.get?_directory between] at found
        exact .inl ⟨(Option.some.inj found).symm, first, List.mem_append_left _ member,
          changed.passesThrough passes⟩
      · obtain ⟨content, rfl⟩ := file
        rw [changed.get?_of_not_writable not_false between] at found
        exact .inr ⟨⟨content, (Option.some.inj found).symm⟩, first, member,
          changed.locate there⟩

end Runs

end Tree

/-- What is prepared is written, file by file. A generation that comes to its end has written all
three files; one that does not stops at one of them, and has written those before it and made
directories for no others than these and the one it stops at. -/
theorem generation_writes_in_order {t : Tree} {layout : Layout} {summary : Summary}
    (prepared : (prepare t layout).result = .ok summary) (writing : layout.checkOnly = false) :
    summary.artifacts.map Artifact.path =
      [layout.infoTablePath, layout.serialTablePath, layout.boardMapPath] ∧
    ((generate t layout).2.result = .ok summary ∧
        Tree.Written t (generate t layout).1 summary.artifacts summary.artifacts ∨
      ∃ before artifact after path cause, summary.artifacts = before ++ artifact :: after ∧
        (generate t layout).2.result = .error (.unwritable path cause) ∧
        Tree.Written t (generate t layout).1 before (before ++ [artifact])) := by
  obtain ⟨db, registry, _, _, _, made, _⟩ := prepare_eq_ok_iff.mp prepared
  obtain ⟨table, header, _, _, artifacts⟩ := render_eq_ok_iff.mp made
  obtain ⟨tree, result⟩ := generate_of_written prepared writing
  refine ⟨by rw [artifacts]; rfl, ?_⟩
  rw [tree, result]
  cases outcome : (t.writeAll summary.artifacts).2.result with
  | ok _ => exact .inl ⟨rfl, Tree.written_of_writeAll outcome⟩
  | error fault =>
    obtain ⟨path, cause, rfl⟩ := writeAll_eq_error outcome
    obtain ⟨before, artifact, after, split, done, stopped⟩ := Tree.writeAll_before_error outcome
    refine .inr ⟨before, artifact, after, path, cause, split, rfl, ?_⟩
    rw [Tree.withUpper_of_write_error stopped]
    exact (Tree.written_of_writeAll done).withUpper artifact

/-- The two tables are to lie at one place, the way to which begins with a directory that is yet to
be made, and the map is to lie below a file. -/
def haltingLayout : Layout where
  database := some ⟨"/db"⟩
  products := some ⟨"/r.json"⟩
  infoTable := some ⟨"/new/../a.c"⟩
  serialTable := some ⟨"/a.c"⟩
  boardMap := some ⟨"/r.json/c"⟩
  minYear := 2011

theorem isOk_prepare_halting : (prepare plainTree haltingLayout).result.isOk = true ∧
    (generate plainTree haltingLayout).2.result.isOk = false ∧
    ((generate plainTree haltingLayout).1.locate ⟨"/a.c"⟩).isOk = true := by
  decide +kernel

theorem halting_stops_half_way : ∃ summary before artifact after path cause,
    (prepare plainTree haltingLayout).result = .ok summary ∧ haltingLayout.checkOnly = false ∧
    summary.artifacts = before ++ artifact :: after ∧
    (generate plainTree haltingLayout).2.result = .error (.unwritable path cause) ∧
    Tree.Written plainTree (generate plainTree haltingLayout).1 before (before ++ [artifact]) ∧
    ((generate plainTree haltingLayout).1.locate ⟨"/a.c"⟩).isOk = true := by
  obtain ⟨passed, stopped, found⟩ := isOk_prepare_halting
  obtain ⟨summary, prepared⟩ := exists_ok_of_isOk passed
  obtain ⟨_, ⟨ended, _⟩ | ⟨before, artifact, after, path, cause, split, failed, written⟩⟩ :=
    generation_writes_in_order prepared rfl
  · rw [ended] at stopped
    cases stopped
  · exact ⟨summary, before, artifact, after, path, cause, prepared, rfl, split, failed, written,
      found⟩

end ModelCatalog
