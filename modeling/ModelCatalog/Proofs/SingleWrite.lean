import ModelCatalog.Proofs.WrittenFiles

/-! What one write does to a tree. It puts one file in its place and makes the directories on the way
to it; if it fails, it has made no more than some of these. Written once more, the file leaves the
tree as it is. -/
namespace ModelCatalog.Tree

/-- What was there is there still, but for files at the places that are written; what is new lies at
these places, or is a directory on the way to the path. -/
structure Extends (t u : Tree) (path : Path) (written : Location → Prop) : Prop where
  workingDirectory : u.workingDirectory = t.workingDirectory
  kept : ∀ location entry, t.get? location = some entry → ¬ written location →
    u.get? location = some entry
  fresh : ∀ location entry, t.get? location = none → u.get? location = some entry →
    written location ∨ entry = .directory ∧ u.PassesThrough path location

section Effect

variable {t u : Tree} {artifact : Artifact} {location : Location} {entry : Entry} {fault : Fault}

theorem set_of_get? (below : location ≠ []) (here : t.get? location = some entry) :
    t.set location entry = t := by
  have same : AgreeOutside (fun _ => False) t t := ⟨rfl, rfl, fun _ _ => rfl⟩
  have again : AgreeOutside (fun _ => False) (t.set location entry) t := by
    apply same.set (Option.isSome_of_eq_some here) below
    · exact fun _ never => never.elim
    · exact fun _ => here
  exact again.eq fun _ => not_false

theorem extends_of_write (done : t.write artifact = (u, .ok ())) :
    ∃ place, u.locate artifact.path = .ok place ∧ t.isDirectoryAt place = false ∧
      u.get? place = some (.file artifact.content.toUTF8) ∧
      Extends t u artifact.path (· = place) := by
  obtain ⟨place, settled, changed, content⟩ := settled_of_write done
  have noDirectory : t.isDirectoryAt place = false := by
    apply Bool.eq_false_iff.mpr
    intro directory
    exact absurd (changed.isDirectoryAt directory) (by simp [settled.noDirectory])
  refine ⟨place, settled.locate, noDirectory, content, changed.workingDirectory, ?_, ?_⟩
  · intro location entry here elsewhere
    exact changed.get?_of_not_writable elsewhere here
  · intro location entry free found
    exact fresh_of_write done settled free found

theorem extends_of_failed_write (failed : t.write artifact = (u, .error fault)) :
    Extends t u artifact.path fun _ => False := by
  obtain rfl := withUpper_of_write_error failed
  have changed := changed_withUpper t artifact
  refine ⟨changed.workingDirectory, ?_, ?_⟩
  · intro location entry here kept
    exact changed.get?_of_not_writable kept here
  · intro location entry free found
    exact .inr (passesThrough_withUpper free found)

theorem write_again (done : t.write artifact = (u, .ok ())) : u.write artifact = (u, .ok ()) := by
  obtain ⟨place, settled, _, content⟩ := settled_of_write done
  rw [settled.write, set_of_get? (ne_root_of_noDirectory settled.noDirectory) content]

end Effect

/-- A write that succeeds puts the text where the path leads, in place of a file or of nothing; all
else stays, and what is new beside the file are directories on the way to it. A write that fails
leaves everything and adds at most such directories. Once it has succeeded, it succeeds again and
changes nothing. -/
theorem effect_of_write (t u : Tree) (artifact : Artifact) :
    (t.write artifact = (u, .ok ()) →
      u.readText artifact.path = .ok artifact.content ∧
      (∃ place, u.locate artifact.path = .ok place ∧ t.isDirectoryAt place = false ∧
        Extends t u artifact.path (· = place)) ∧
      u.write artifact = (u, .ok ())) ∧
    ∀ fault, t.write artifact = (u, .error fault) →
      (∃ path cause, fault = .unwritable path cause) ∧
      Extends t u artifact.path fun _ => False := by
  constructor
  · intro done
    obtain ⟨place, found, noDirectory, content, effect⟩ := extends_of_write done
    exact ⟨readText_of_get? found content, ⟨place, found, noDirectory, effect⟩, write_again done⟩
  · intro fault failed
    exact ⟨write_eq_error (congrArg Prod.snd failed), extends_of_failed_write failed⟩

/-- A working directory with one file. -/
def deskTree : Tree where
  entries := OrderedMap.ofList [(["desk"], .directory), (["desk", "note"], .file "old".toUTF8)]
  workingDirectory := ["desk"]

/-- Its way leads through one directory and back before it goes down another. -/
def filedPage : Artifact := ⟨⟨"draft/../box/page"⟩, "new"⟩

/-- Its way leads over a file. -/
def strayPage : Artifact := ⟨⟨"draft/../note/page"⟩, "new"⟩

theorem write_pages : (deskTree.write filedPage).2 = .ok () ∧
    (deskTree.write filedPage).1.locate filedPage.path = .ok ["desk", "box", "page"] ∧
    (deskTree.write filedPage).1.get? ["desk", "draft"] = some .directory ∧
    (deskTree.write strayPage).2 = .error (.unwritable ⟨"draft/../note"⟩ .exists) ∧
    (deskTree.write strayPage).1.get? ["desk", "draft"] = some .directory := by
  decide +kernel

theorem filed_and_stray_page :
    ∃ filed stray, deskTree.write filedPage = (filed, .ok ()) ∧
      filed.readText filedPage.path = .ok "new" ∧ filed.write filedPage = (filed, .ok ()) ∧
      filed.get? ["desk", "note"] = some (.file "old".toUTF8) ∧
      filed.PassesThrough filedPage.path ["desk", "draft"] ∧
      deskTree.write strayPage = (stray, .error (.unwritable ⟨"draft/../note"⟩ .exists)) ∧
      stray.get? ["desk", "note"] = some (.file "old".toUTF8) ∧
      stray.PassesThrough strayPage.path ["desk", "draft"] := by
  obtain ⟨done, leads, made, failed, left⟩ := write_pages
  have note : deskTree.get? ["desk", "note"] = some (.file "old".toUTF8) := by decide +kernel
  have free : deskTree.get? ["desk", "draft"] = none := by decide +kernel
  have filed : deskTree.write filedPage = ((deskTree.write filedPage).1, .ok ()) :=
    Prod.ext rfl done
  have stray : deskTree.write strayPage = ((deskTree.write strayPage).1, _) := Prod.ext rfl failed
  obtain ⟨effect, _⟩ := effect_of_write deskTree (deskTree.write filedPage).1 filedPage
  obtain ⟨_, failure⟩ := effect_of_write deskTree (deskTree.write strayPage).1 strayPage
  obtain ⟨text, ⟨place, found, _, grown⟩, again⟩ := effect filed
  obtain ⟨_, rest⟩ := failure _ stray
  obtain rfl : ["desk", "box", "page"] = place := Except.ok.inj (leads.symm.trans found)
  refine ⟨_, _, filed, text, again, grown.kept _ _ note (by decide), ?_, stray,
    rest.kept _ _ note not_false, ?_⟩
  · rcases grown.fresh _ _ free made with here | ⟨_, passes⟩
    · exact absurd here (by decide)
    · exact passes
  · rcases rest.fresh _ _ free left with never | ⟨_, passes⟩
    · exact never.elim
    · exact passes

end ModelCatalog.Tree
