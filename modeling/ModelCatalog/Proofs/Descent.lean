import Mathlib.Data.List.Induction
import ModelCatalog.Loading
import ModelCatalog.Proofs.FileChanges

/-! A path that goes down from a directory by the names of files leads where those names say. -/
namespace ModelCatalog

/-- Whether a directory can list the name: it is one segment of a path, and neither a dot nor
two. -/
def isFileName (name : String) : Bool :=
  !Path.isIdle name && name != ".." && !name.toList.contains '/'

variable {t : Tree} {p : Path} {name : String} {location : Location}

theorem isFileName_iff : isFileName name = true ↔
    Path.isIdle name = false ∧ name ≠ ".." ∧ '/' ∉ name.toList := by
  simp [isFileName, and_assoc]

namespace Path

theorem isAbsolute_of_isFileName (plain : '/' ∉ name.toList) :
    (⟨name⟩ : Path).isAbsolute = false := by
  unfold isAbsolute
  cases letters : name.toList with
  | nil => rfl
  | cons c cs =>
    rw [letters, List.mem_cons, not_or] at plain
    simpa using Ne.symm plain.1

theorem segments_join (written : p.text ≠ "") (plain : '/' ∉ name.toList) :
    ∃ front slashes, (∀ segment ∈ slashes, segment = "") ∧ p.segments = front ++ slashes ∧
      (p.join ⟨name⟩).segments = front ++ [name] := by
  have here : p.text.isEmpty = false := by simpa using written
  have last : (splitSlashes name.toList).map String.ofList = [name] := by
    rw [splitSlashes_of_no_slash plain]
    simp
  rw [join, isAbsolute_of_isFileName plain, here]
  split
  · contradiction
  · split
    · next slash =>
      obtain ⟨letters, ends⟩ := List.getLast?_eq_some_iff.mp (beq_iff_eq.mp slash)
      refine ⟨(splitSlashes letters).map String.ofList, [""], by simp, ?_, ?_⟩
      · rw [segments, ends, splitSlashes_append, List.map_append]
        rfl
      · rw [segments, String.toList_append, ends, List.append_assoc, List.singleton_append,
          splitSlashes_append, List.map_append, last]
    · refine ⟨p.segments, [], by simp, (List.append_nil _).symm, ?_⟩
      have text : (p.text ++ "/" ++ name).toList = p.text.toList ++ '/' :: name.toList := by simp
      rw [segments, text, splitSlashes_append, List.map_append, last]
      rfl

theorem text_join_cases (written : p.text ≠ "") (plain : '/' ∉ name.toList) :
    (p.join ⟨name⟩).text = p.text ++ name ∨ (p.join ⟨name⟩).text = p.text ++ ("/" ++ name) := by
  have here : p.text.isEmpty = false := by simpa using written
  rw [join, isAbsolute_of_isFileName plain, here]
  split
  · contradiction
  · split
    · exact .inl rfl
    · exact .inr (String.append_assoc ..)

theorem utf8ByteSize_join (written : p.text ≠ "") (plain : '/' ∉ name.toList) :
    p.text.utf8ByteSize + name.utf8ByteSize ≤ (p.join ⟨name⟩).text.utf8ByteSize ∧
      (p.join ⟨name⟩).text.utf8ByteSize ≤ p.text.utf8ByteSize + 1 + name.utf8ByteSize := by
  have slash : "/".utf8ByteSize = 1 := by decide
  rcases text_join_cases written plain with text | text <;>
    simp only [text, String.utf8ByteSize_append, slash] <;> omega

theorem text_join (written : p.text ≠ "") (plain : '/' ∉ name.toList) :
    ∃ rest, (p.join ⟨name⟩).text = p.text ++ rest := by
  rcases text_join_cases written plain with text | text
  · exact ⟨name, text⟩
  · exact ⟨"/" ++ name, text⟩

theorem isAbsolute_join (written : p.text ≠ "") (plain : '/' ∉ name.toList) :
    (p.join ⟨name⟩).isAbsolute = p.isAbsolute := by
  obtain ⟨rest, text⟩ := text_join written plain
  have nonempty : p.text.toList ≠ [] := by simpa using written
  obtain ⟨c, cs, letters⟩ := List.exists_cons_of_ne_nil nonempty
  rw [isAbsolute, isAbsolute, text, String.toList_append, letters]
  rfl

end Path

namespace Tree

theorem checkPath_eq_ok : checkPath p = .ok () ↔
    '\x00' ∉ p.text.toList ∧ p.text ≠ "" ∧ p.text.utf8ByteSize ≤ longestPath := by
  unfold checkPath
  by_cases nul : '\x00' ∈ p.text.toList
  · simp [nul]
  · by_cases empty : p.text = ""
    · simp [empty]
    · by_cases long : p.text.utf8ByteSize > longestPath
      · simp [nul, empty, long]
      · simp [nul, empty, long, Nat.not_lt.mp long]

theorem written_of_locate (found : t.locate p = .ok location) : p.text ≠ "" :=
  (checkPath_eq_ok.mp (locate_eq_ok.mp found).1).2.1

end Tree

theorem Path.descend_append (directory : Path) (place : Location) (name : String) :
    directory.descend (place ++ [name]) = (directory.descend place).join ⟨name⟩ := by
  simp [Path.descend]

theorem Path.descend_singleton (directory : Path) (name : String) :
    directory.descend [name] = directory.join ⟨name⟩ := rfl

variable {directory : Path} {start place : Location}

/-- Whether a directory can hold the name: it is no more than its length allows and has no NUL. -/
def isEntryName (name : String) : Bool :=
  isFileName name && !name.toList.contains '\x00' && decide (name.utf8ByteSize ≤ Tree.longestName)

/-- The tree is one of files and directories: what is listed has names, and lies in directories that
are listed too. -/
structure Tree.Sound (t : Tree) : Prop where
  named : ∀ location ∈ t.entries.keys, ∀ name ∈ location, isEntryName name = true
  closed : ∀ location ∈ t.entries.keys, t.isDirectoryAt location.dropLast = true

instance (t : Tree) : Decidable t.Sound :=
  decidable_of_iff ((∀ location ∈ t.entries.keys, ∀ name ∈ location, isEntryName name = true) ∧
      ∀ location ∈ t.entries.keys, t.isDirectoryAt location.dropLast = true)
    ⟨fun ⟨named, closed⟩ => ⟨named, closed⟩, fun sound => ⟨sound.named, sound.closed⟩⟩

theorem isEntryName_iff : isEntryName name = true ↔
    isFileName name = true ∧ '\x00' ∉ name.toList ∧ name.utf8ByteSize ≤ Tree.longestName := by
  simp [isEntryName, and_assoc]

namespace Tree

theorem mem_keys_of_get? {entry : Entry} (below : location ≠ [])
    (found : t.get? location = some entry) : location ∈ t.entries.keys := by
  rw [get?, if_neg below] at found
  exact List.mem_map_of_mem ((t.entries.mem_entries_iff location entry).mpr found)

theorem Sound.isDirectoryAt {entry : Entry} (sound : t.Sound)
    (found : t.get? (location ++ [name]) = some entry) : t.isDirectoryAt location = true := by
  have key := mem_keys_of_get? (by simp) found
  simpa using sound.closed _ key

theorem Sound.nameOf {entry : Entry} (sound : t.Sound)
    (found : t.get? location = some entry) (member : name ∈ location) :
    isEntryName name = true :=
  sound.named _ (mem_keys_of_get? (List.ne_nil_of_mem member) found) name member

theorem clean_descend (clean : checkPath directory = .ok ())
    (listed : ∀ name ∈ place, isEntryName name = true) :
    '\x00' ∉ (directory.descend place).text.toList ∧ (directory.descend place).text ≠ "" := by
  obtain ⟨plain, written, _⟩ := checkPath_eq_ok.mp clean
  induction place using List.reverseRecOn with
  | nil => exact ⟨plain, written⟩
  | append_singleton above name ih =>
    obtain ⟨above_listed, name_listed⟩ := List.forall_mem_append.mp listed
    obtain ⟨file, noNul, _⟩ := isEntryName_iff.mp (name_listed name (List.mem_singleton_self name))
    obtain ⟨_, _, noSlash⟩ := isFileName_iff.mp file
    obtain ⟨clean, written⟩ := ih above_listed
    rw [Path.descend_append]
    rcases Path.text_join_cases written noSlash with text | text <;> rw [text] <;>
      simp [clean, written, noNul]

theorem locate_join {upper : Location} (found : t.locate p = .ok upper)
    (directory : t.isDirectoryAt upper = true) (listed : isEntryName name = true)
    (there : (t.get? (upper ++ [name])).isSome = true)
    (checked : checkPath (p.join ⟨name⟩) = .ok ()) :
    t.locate (p.join ⟨name⟩) = .ok (upper ++ [name]) := by
  obtain ⟨file, _, fits⟩ := isEntryName_iff.mp listed
  obtain ⟨solid, down, plain⟩ := isFileName_iff.mp file
  have written := written_of_locate found
  obtain ⟨_, reached⟩ := locate_eq_ok.mp found
  obtain ⟨front, slashes, empty, parts, joined⟩ := Path.segments_join written plain
  have base : t.base (p.join ⟨name⟩) = t.base p := by
    rw [Tree.base, Tree.base, Path.isAbsolute_join written plain]
  rw [parts] at reached
  obtain ⟨middle, above, last⟩ := walk_append_eq_ok.mp reached
  obtain rfl : middle = upper := eq_of_walk_slashes empty last
  refine locate_eq_ok.mpr ⟨checked, ?_⟩
  rw [base, joined]
  exact walk_append_eq_ok.mpr ⟨middle, above, walk_cons_eq_ok.mpr
    ⟨_, .name directory solid down fits there, rfl⟩⟩

/-- In a sound tree the path of what lies below a directory leads there, unless it is too long. -/
theorem Sound.locate_descend (sound : t.Sound) (origin : t.locate directory = .ok start)
    (there : (t.get? (start ++ place)).isSome = true)
    (fits : (directory.descend place).text.utf8ByteSize ≤ longestPath) :
    t.locate (directory.descend place) = .ok (start ++ place) := by
  induction place using List.reverseRecOn with
  | nil => rw [List.append_nil]; exact origin
  | append_singleton above name ih =>
    rw [← List.append_assoc] at there ⊢
    obtain ⟨entry, found⟩ := Option.isSome_iff_exists.mp there
    have directory_above := sound.isDirectoryAt found
    have listed : ∀ other ∈ above ++ [name], isEntryName other = true := fun other member =>
      sound.nameOf found (by rw [List.append_assoc]; exact List.mem_append_right _ member)
    obtain ⟨above_listed, name_listed⟩ := List.forall_mem_append.mp listed
    have checked := (locate_eq_ok.mp origin).1
    obtain ⟨clean, written⟩ := clean_descend checked listed
    obtain ⟨_, above_written⟩ := clean_descend checked above_listed
    have shorter : (directory.descend above).text.utf8ByteSize ≤ longestPath := by
      obtain ⟨file, _, _⟩ := isEntryName_iff.mp (name_listed name (List.mem_singleton_self name))
      obtain ⟨rest, text⟩ := Path.text_join above_written (isFileName_iff.mp file).2.2
      rw [Path.descend_append, text, String.utf8ByteSize_append] at fits
      omega
    have reached := ih (by rw [isDirectoryAt_iff.mp directory_above]; rfl) shorter
    rw [Path.descend_append] at fits clean written ⊢
    exact locate_join reached directory_above (name_listed name (List.mem_singleton_self name))
      there (checkPath_eq_ok.mpr ⟨clean, written, fits⟩)

end Tree

end ModelCatalog
