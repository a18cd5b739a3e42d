import ModelCatalog.Proofs.Descent
import ModelCatalog.Proofs.Preparation
import ModelCatalog.Proofs.Ways
import ModelCatalog.Proofs.Writing

/-! A generation leaves a tree of files and directories behind: all that it makes has a name, and
comes to lie in a directory. -/
namespace ModelCatalog

theorem Path.mem_of_mem_splitSlashes {cs piece : List Char} {c : Char}
    (among : piece ∈ splitSlashes cs) (member : c ∈ piece) : c ∈ cs := by
  induction cs generalizing piece with
  | nil =>
    rw [splitSlashes, List.mem_singleton] at among
    exact among ▸ member
  | cons d cs ih =>
    rw [splitSlashes] at among
    split at among
    · rcases List.mem_cons.mp among with rfl | among
      · cases member
      · exact List.mem_cons_of_mem d (ih among member)
    · obtain ⟨first, rest, split⟩ := List.exists_cons_of_ne_nil (splitSlashes_ne_nil cs)
      rw [split] at among ih
      rcases List.mem_cons.mp among with rfl | among
      · rcases List.mem_cons.mp member with rfl | member
        · exact List.mem_cons_self ..
        · exact List.mem_cons_of_mem d (ih (List.mem_cons_self ..) member)
      · exact List.mem_cons_of_mem d (ih (List.mem_cons_of_mem first among) member)

theorem Path.mem_of_mem_segments {p : Path} {segment : String} {c : Char}
    (among : segment ∈ p.segments) (member : c ∈ segment.toList) : c ∈ p.text.toList := by
  obtain ⟨piece, inside, rfl⟩ := List.mem_map.mp among
  rw [String.toList_ofList] at member
  exact mem_of_mem_splitSlashes inside member

namespace Tree

variable {t u made : Tree} {p : Path} {upper location : Location} {name : String} {entry : Entry}
  {slashed : Bool}

theorem isEntryName_of_target (named : t.target p = .ok (some location, slashed)) :
    ∃ upper name, location = upper ++ [name] ∧ t.isDirectoryAt upper = true ∧
      isEntryName name = true := by
  obtain ⟨checked, upper, _, directory, solid, down, fits, place, _⟩ :=
    target_eq_ok_some.mp named
  obtain ⟨slashes, _, parts, _⟩ := segments_eq_ending p.segments_ne_nil
  have among : (ending p.segments).name ∈ p.segments := by
    have behind : (ending p.segments).name ∈ (ending p.segments).name :: slashes := by simp
    have whole := List.mem_append_right (ending p.segments).upper behind
    rwa [← parts] at whole
  have plain := Path.slash_not_mem_segments p _ among
  have clean : '\x00' ∉ (ending p.segments).name.toList := fun member =>
    (checkPath_eq_ok.mp checked).1 (Path.mem_of_mem_segments among member)
  exact ⟨upper, _, place, directory,
    isEntryName_iff.mpr ⟨isFileName_iff.mpr ⟨solid, down, plain⟩, clean, fits⟩⟩

theorem mem_keys_set : location ∈ (t.set upper entry).entries.keys ↔
    location = upper ∨ location ∈ t.entries.keys := by
  change location ∈ (t.entries.set upper entry).keys ↔ _
  rw [OrderedMap.keys_set]
  split
  · next present => exact ⟨.inr, fun given => given.elim (· ▸ present) id⟩
  · rw [List.mem_append, List.mem_singleton, or_comm]

/-- An entry may be put into a directory, but no file where a directory is. -/
theorem Sound.set (sound : t.Sound) (directory : t.isDirectoryAt upper = true)
    (listed : isEntryName name = true)
    (kept : entry = .directory ∨ t.isDirectoryAt (upper ++ [name]) = false) :
    (t.set (upper ++ [name]) entry).Sound where
  named location key other member := by
    rcases mem_keys_set.mp key with rfl | key
    · rcases List.mem_append.mp member with above | last
      · exact sound.nameOf (isDirectoryAt_iff.mp directory) above
      · exact List.mem_singleton.mp last ▸ listed
    · exact sound.named location key other member
  closed location key := by
    rw [isDirectoryAt_iff, get?_set (by simp)]
    rcases mem_keys_set.mp key with rfl | key
    · rw [List.dropLast_concat, if_neg (by simp)]
      exact isDirectoryAt_iff.mp directory
    · have above := sound.closed location key
      split
      · next same =>
        rw [same] at above
        rw [kept.resolve_right (by simp [above])]
      · exact isDirectoryAt_iff.mp above

theorem Sound.makeDirectory (sound : t.Sound) (done : t.makeDirectory p = .ok made) :
    made.Sound := by
  obtain ⟨_, _, named, _, rfl⟩ := makeDirectory_eq_ok.mp done
  obtain ⟨upper, name, rfl, directory, listed⟩ := isEntryName_of_target named
  exact sound.set directory listed (.inl rfl)

theorem Sound.makeDirectories (sound : t.Sound) (fuel : Nat) (p : Path) :
    (makeDirectories fuel t p).1.Sound :=
  makeDirectories_induction (fun sound done => sound.makeDirectory done) fuel p sound

theorem Sound.writeFile {content : ByteArray} (sound : t.Sound)
    (done : t.writeFile p content = .ok made) : made.Sound := by
  obtain ⟨_, named, noDirectory, rfl⟩ := writeFile_eq_ok.mp done
  obtain ⟨upper, name, rfl, directory, listed⟩ := isEntryName_of_target named
  exact sound.set directory listed (.inr noDirectory)

theorem Sound.write (sound : t.Sound) (artifact : Artifact) : (t.write artifact).1.Sound := by
  have above := sound.makeDirectories
    ((artifact.path.parent?.getD ⟨""⟩).segments.length + 1) (artifact.path.parent?.getD ⟨""⟩)
  rw [Tree.write]
  split
  · next stopped => rwa [stopped] at above
  · next passed =>
    rw [passed] at above
    split
    · exact above
    · next done => exact above.writeFile done

theorem Sound.writeAll (sound : t.Sound) (artifacts : List Artifact) :
    (t.writeAll artifacts).1.Sound := by
  induction artifacts generalizing t with
  | nil => exact sound
  | cons artifact rest ih =>
    have first := sound.write artifact
    rw [Tree.writeAll]
    split
    · next stopped => rwa [stopped] at first
    · next done =>
      rw [done] at first
      exact ih first

end Tree

theorem sound_generate {t : Tree} (sound : t.Sound) (layout : Layout) :
    (generate t layout).1.Sound := by
  cases prepared : (prepare t layout).result with
  | error fault => exact generate_of_failed prepared ▸ sound
  | ok summary =>
    cases checking : layout.checkOnly with
    | true => exact generate_of_checking t checking ▸ sound
    | false => exact generate_of_writing prepared checking ▸ sound.writeAll summary.artifacts

end ModelCatalog
