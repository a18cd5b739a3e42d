import Mathlib.Data.Finset.Card
import Mathlib.Data.List.Induction
import ModelCatalog.OrderedMap
import ModelCatalog.Proofs.FirstOccurrences
import ModelCatalog.Proofs.Traversal

/-! Looking up in rows of pairs, and maps that are made of pairs: each key stands where it first
comes among the pairs, with the value that it last comes with. -/
namespace ModelCatalog

variable {α κ β : Type} [DecidableEq κ]

theorem pairValue?_flatMap (items : List α) (row : α → List (κ × β)) (key : κ) :
    pairValue? (items.flatMap row) key = items.findSome? fun a => pairValue? (row a) key := by
  induction items with
  | nil => rfl
  | cons a rest ih =>
    rw [List.flatMap_cons, pairValue?_append, ih, List.findSome?_cons]
    cases pairValue? (row a) key <;> rfl

theorem pairValue?_map_const (keys : List κ) (value : β) (key : κ) :
    pairValue? (keys.map fun k => (k, value)) key = if key ∈ keys then some value else none := by
  induction keys with
  | nil => rfl
  | cons first rest ih =>
    by_cases same : first = key
    · simp [pairValue?, same]
    · simp [pairValue?, same, Ne.symm same, ih]

theorem OrderedMap.keys_ofList (pairs : List (κ × β)) :
    (ofList pairs).keys = (pairs.map Prod.fst).eraseDups := by
  induction pairs using List.reverseRecOn with
  | nil => rfl
  | append_singleton pairs pair ih =>
    have added : ofList (pairs ++ [pair]) = (ofList pairs).set pair.1 pair.2 := by simp [ofList]
    rw [added, keys_set, ih, List.map_append, List.map_singleton, eraseDups_concat]
    simp only [List.mem_eraseDups]

section Collected

variable {pairs : List (κ × β)} {key : κ} {value : β} {m : OrderedMap κ β}

theorem pairValue?_eq_some_iff : pairValue? pairs key = some value ↔
    ∃ before pair after, pairs = before ++ pair :: after ∧ (∀ other ∈ before, other.1 ≠ key) ∧
      pair = (key, value) := by
  induction pairs with
  | nil => simp [pairValue?]
  | cons pair rest ih =>
    rw [exists_first_cons (by simp) fun before => List.forall_mem_cons, ← ih, pairValue?]
    by_cases same : pair.1 = key
    · simp [same, Prod.ext_iff]
    · have other : pair ≠ (key, value) := fun equal => same (equal ▸ rfl)
      simp [same, other]

theorem OrderedMap.get?_ofList_eq_some_iff : (ofList pairs).get? key = some value ↔
    ∃ before after, pairs = before ++ (key, value) :: after ∧ key ∉ after.map Prod.fst := by
  rw [get?_ofList, pairValue?_eq_some_iff]
  constructor
  · rintro ⟨after, _, before, split, apart, rfl⟩
    refine ⟨before.reverse, after.reverse, ?_, fun again => ?_⟩
    · rw [← List.reverse_reverse pairs, split]
      simp
    · obtain ⟨pair, member, same⟩ := List.mem_map.mp again
      exact apart pair (List.mem_reverse.mp member) same
  · rintro ⟨before, after, rfl, absent⟩
    refine ⟨after.reverse, _, before.reverse, by simp, fun other member same => absent ?_, rfl⟩
    exact List.mem_map.mpr ⟨other, List.mem_reverse.mp member, same⟩

/-- The map has each key of the pairs once, at the place where it first comes, and with the value
that it last comes with. -/
structure OrderedMap.Collects (pairs : List (κ × β)) (m : OrderedMap κ β) : Prop where
  once : m.keys.Nodup
  mem_keys : ∀ key, key ∈ m.keys ↔ key ∈ pairs.map Prod.fst
  first : m.keys.Pairwise fun a b => (pairs.map Prod.fst).idxOf a < (pairs.map Prod.fst).idxOf b
  last : ∀ key value, (key, value) ∈ m.entries ↔
    ∃ before after, pairs = before ++ (key, value) :: after ∧ key ∉ after.map Prod.fst
  size : m.size = (pairs.map Prod.fst).toFinset.card
  isEmpty : m.isEmpty = true ↔ pairs = []
  get? : ∀ key value, m.get? key = some value ↔ (key, value) ∈ m.entries

namespace OrderedMap

theorem size_ofList (pairs : List (κ × β)) :
    (ofList pairs).size = (pairs.map Prod.fst).toFinset.card := by
  have same : (ofList pairs).keys.toFinset = (pairs.map Prod.fst).toFinset := by
    ext key
    rw [List.mem_toFinset, List.mem_toFinset, mem_keys_ofList]
  calc (ofList pairs).size
    _ = (ofList pairs).keys.length := (List.length_map ..).symm
    _ = (ofList pairs).keys.toFinset.card :=
      (List.toFinset_card_of_nodup (ofList pairs).distinct).symm
    _ = (pairs.map Prod.fst).toFinset.card := by rw [same]

theorem isEmpty_ofList (pairs : List (κ × β)) : (ofList pairs).isEmpty = true ↔ pairs = [] := by
  have same : (ofList pairs).entries = [] ↔ (pairs.map Prod.fst).toFinset.card = 0 := by
    rw [← size_ofList, size, List.length_eq_zero_iff]
  rw [isEmpty, List.isEmpty_iff, same]
  simp

theorem collects_ofList (pairs : List (κ × β)) : Collects pairs (ofList pairs) where
  once := (ofList pairs).distinct
  mem_keys _ := mem_keys_ofList
  first := by
    rw [keys_ofList]
    exact pairwise_idxOf_eraseDups _
  last key value := by rw [mem_entries_iff, get?_ofList_eq_some_iff]
  size := size_ofList pairs
  isEmpty := isEmpty_ofList pairs
  get? key value := (mem_entries_iff _ key value).symm

/-- Nothing else is a collection of the pairs: the places order the entries, and the last pairs say
which ones there are. -/
theorem collects_iff : Collects pairs m ↔ m = ofList pairs := by
  constructor
  · intro collected
    have made := collects_ofList pairs
    have same : m.entries.Perm (ofList pairs).entries := by
      refine (List.perm_ext_iff_of_nodup (.of_map _ m.distinct) (.of_map _ made.once)).mpr ?_
      rintro ⟨key, value⟩
      rw [collected.last, made.last]
    let place (pair : κ × β) := (pairs.map Prod.fst).idxOf pair.1
    have ordered {m : OrderedMap κ β} (collected : Collects pairs m) :
        m.entries.Pairwise fun a b => place a < place b := by
      have first := collected.first
      rwa [keys, List.pairwise_map] at first
    refine ext_entries (same.eq_of_pairwise ?_ (ordered collected) (ordered made))
    exact fun _ _ _ _ less greater => absurd less (Nat.lt_asymm greater)
  · rintro rfl
    exact collects_ofList pairs

end OrderedMap

end Collected

end ModelCatalog
