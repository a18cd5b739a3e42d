/-! Maps that list their keys in the order in which each first came. Setting a key that is present
replaces its value and leaves its place. -/
namespace ModelCatalog

variable {κ β : Type}

structure OrderedMap (κ β : Type) where
  entries : List (κ × β)
  distinct : (entries.map Prod.fst).Nodup

namespace OrderedMap

@[ext] theorem ext_entries {a b : OrderedMap κ β} (same : a.entries = b.entries) : a = b := by
  cases a; cases b; cases same; rfl

def empty : OrderedMap κ β := ⟨[], List.nodup_nil⟩

instance : Inhabited (OrderedMap κ β) := ⟨empty⟩

@[simp] theorem entries_empty : (empty : OrderedMap κ β).entries = [] := rfl

def keys (m : OrderedMap κ β) : List κ := m.entries.map Prod.fst

def size (m : OrderedMap κ β) : Nat := m.entries.length

def isEmpty (m : OrderedMap κ β) : Bool := m.entries.isEmpty

/-- The entries whose key passes the test, in the same order. -/
def filterKeys (m : OrderedMap κ β) (keep : κ → Bool) : OrderedMap κ β :=
  ⟨m.entries.filter fun pair => keep pair.1,
    m.distinct.sublist (List.filter_sublist.map Prod.fst)⟩

end OrderedMap

theorem ne_of_nodup_map {α : Type} {image : α → κ} {before after : List α} {a : α}
    (distinct : ((before ++ a :: after).map image).Nodup) :
    (∀ b ∈ before, image b ≠ image a) ∧ ∀ b ∈ after, image b ≠ image a := by
  rw [List.map_append, List.map_cons, List.nodup_append, List.nodup_cons] at distinct
  obtain ⟨_, ⟨absent, _⟩, apart⟩ := distinct
  refine ⟨fun b member => ?_, fun b member same => ?_⟩
  · exact apart _ (List.mem_map_of_mem member) _ (List.mem_cons_self ..)
  · exact absent (List.mem_map.mpr ⟨b, member, same⟩)

variable [DecidableEq κ]

theorem filter_eq_singleton {α : Type} {image : α → κ} {items : List α} {a : α}
    (distinct : (items.map image).Nodup) (member : a ∈ items) :
    items.filter (fun b => decide (image b = image a)) = [a] := by
  obtain ⟨before, after, rfl⟩ := List.append_of_mem member
  obtain ⟨first, last⟩ := ne_of_nodup_map distinct
  have dropped (others : List α) (apart : ∀ b ∈ others, image b ≠ image a) :
      others.filter (fun b => decide (image b = image a)) = [] :=
    List.filter_eq_nil_iff.mpr fun b member => by simpa using apart b member
  rw [List.filter_append, List.filter_cons_of_pos (by simp), dropped before first,
    dropped after last, List.nil_append]

/-- The value of the first pair with the key. -/
def pairValue? : List (κ × β) → κ → Option β
  | [], _ => none
  | pair :: rest, key => if pair.1 = key then some pair.2 else pairValue? rest key

/-- Replaces the value of `key`, or adds the pair at the end. -/
def setPair : List (κ × β) → κ → β → List (κ × β)
  | [], key, value => [(key, value)]
  | pair :: rest, key, value =>
    if pair.1 = key then (key, value) :: rest else pair :: setPair rest key value

theorem keys_setPair (pairs : List (κ × β)) (key : κ) (value : β) :
    (setPair pairs key value).map Prod.fst =
      if key ∈ pairs.map Prod.fst then pairs.map Prod.fst else pairs.map Prod.fst ++ [key] := by
  induction pairs with
  | nil => simp [setPair]
  | cons pair rest ih =>
    by_cases same : pair.1 = key
    · simp [setPair, same]
    · have other : ¬ key = pair.1 := fun h => same h.symm
      simp only [setPair, same, if_false, List.map_cons, ih, List.mem_cons, other, false_or]
      split <;> simp

theorem nodup_setPair (pairs : List (κ × β)) (key : κ) (value : β)
    (distinct : (pairs.map Prod.fst).Nodup) :
    ((setPair pairs key value).map Prod.fst).Nodup := by
  rw [keys_setPair]
  split
  · exact distinct
  · next absent =>
    rw [List.nodup_append]
    exact ⟨distinct, by simp, fun a ha b hb same =>
      absent (List.mem_singleton.mp hb ▸ same ▸ ha)⟩

theorem pairValue?_setPair (pairs : List (κ × β)) (key other : κ) (value : β) :
    pairValue? (setPair pairs key value) other =
      if other = key then some value else pairValue? pairs other := by
  induction pairs with
  | nil => simp [setPair, pairValue?, eq_comm]
  | cons pair rest ih =>
    by_cases same : pair.1 = key
    · by_cases h : key = other
      · simp [setPair, pairValue?, same, h]
      · simp [setPair, pairValue?, same, h, Ne.symm h]
    · by_cases h : pair.1 = other
      · have : ¬ other = key := fun e => same (h.trans e)
        simp [setPair, pairValue?, h, this]
      · simp [setPair, pairValue?, same, h, ih]

theorem pairValue?_append (pairs others : List (κ × β)) (key : κ) :
    pairValue? (pairs ++ others) key = (pairValue? pairs key).or (pairValue? others key) := by
  induction pairs with
  | nil => rfl
  | cons pair rest ih =>
    by_cases same : pair.1 = key <;> simp [pairValue?, same, ih]

theorem pairValue?_eq_none {pairs : List (κ × β)} {key : κ} (absent : key ∉ pairs.map Prod.fst) :
    pairValue? pairs key = none := by
  induction pairs with
  | nil => rfl
  | cons pair rest ih =>
    rw [List.map_cons, List.mem_cons, not_or] at absent
    rw [pairValue?, if_neg (Ne.symm absent.1), ih absent.2]

theorem pairValue?_eq_head? (pairs : List (κ × β)) (key : κ) :
    pairValue? pairs key = ((pairs.filter fun pair => pair.1 = key).head?).map Prod.snd := by
  induction pairs with
  | nil => rfl
  | cons pair rest ih =>
    by_cases same : pair.1 = key <;> simp [pairValue?, same, ih]

theorem pairValue?_of_perm {pairs pairs' : List (κ × β)} {key : κ} (same : pairs.Perm pairs')
    (once : (pairs.map Prod.fst).count key ≤ 1) : pairValue? pairs key = pairValue? pairs' key := by
  have few : (pairs.filter fun pair => pair.1 = key).length ≤ 1 := by
    rwa [List.count_eq_length_filter, List.filter_map, List.length_map] at once
  have hits := same.filter fun pair => decide (pair.1 = key)
  rw [pairValue?_eq_head?, pairValue?_eq_head?]
  generalize pairs.filter (fun pair => decide (pair.1 = key)) = found at few hits
  match found with
  | [] => rw [hits.nil_eq]
  | [pair] => rw [List.singleton_perm.mp hits]
  | _ :: _ :: _ => simp at few

theorem pairValue?_of_mem {pairs : List (κ × β)} {key : κ} {value : β}
    (member : (key, value) ∈ pairs) (once : (pairs.map Prod.fst).count key ≤ 1) :
    pairValue? pairs key = some value := by
  obtain ⟨before, after, rfl⟩ := List.append_of_mem member
  have first : key ∉ before.map Prod.fst := fun again => by
    have more := List.count_pos_iff.mpr again
    simp only [List.map_append, List.map_cons, List.count_append, List.count_cons_self] at once
    omega
  rw [pairValue?_append, pairValue?_eq_none first, Option.none_or, pairValue?, if_pos rfl]

theorem setPair_of_absent {pairs : List (κ × β)} {key : κ} (absent : key ∉ pairs.map Prod.fst)
    (value : β) : setPair pairs key value = pairs ++ [(key, value)] := by
  induction pairs with
  | nil => rfl
  | cons pair rest ih =>
    rw [List.map_cons, List.mem_cons, not_or] at absent
    rw [setPair, if_neg (Ne.symm absent.1), ih absent.2, List.cons_append]

theorem mem_iff_pairValue? {pairs : List (κ × β)} (distinct : (pairs.map Prod.fst).Nodup)
    (key : κ) (value : β) : (key, value) ∈ pairs ↔ pairValue? pairs key = some value := by
  induction pairs with
  | nil => simp [pairValue?]
  | cons pair rest ih =>
    obtain ⟨fresh, distinct⟩ := List.nodup_cons.mp distinct
    by_cases same : pair.1 = key
    · have absent : (key, value) ∉ rest := fun member =>
        fresh (List.mem_map.mpr ⟨(key, value), member, same.symm⟩)
      simp [pairValue?, same, absent, Prod.ext_iff, eq_comm]
    · have other : ¬ (key, value) = pair := fun h => same (h ▸ rfl)
      simp [pairValue?, same, other, ih distinct]

namespace OrderedMap

instance [DecidableEq β] : DecidableEq (OrderedMap κ β) := fun a b =>
  decidable_of_iff (a.entries = b.entries) ⟨ext_entries, fun h => h ▸ rfl⟩

def set (m : OrderedMap κ β) (key : κ) (value : β) : OrderedMap κ β :=
  ⟨setPair m.entries key value, nodup_setPair _ _ _ m.distinct⟩

def get? (m : OrderedMap κ β) (key : κ) : Option β := pairValue? m.entries key

def ofList (pairs : List (κ × β)) : OrderedMap κ β :=
  pairs.foldl (fun m pair => m.set pair.1 pair.2) empty

@[simp] theorem entries_set (m : OrderedMap κ β) (key : κ) (value : β) :
    (m.set key value).entries = setPair m.entries key value := rfl

theorem keys_set (m : OrderedMap κ β) (key : κ) (value : β) :
    (m.set key value).keys = if key ∈ m.keys then m.keys else m.keys ++ [key] :=
  keys_setPair m.entries key value

theorem get?_set (m : OrderedMap κ β) (key other : κ) (value : β) :
    (m.set key value).get? other = if other = key then some value else m.get? other :=
  pairValue?_setPair m.entries key other value

@[simp] theorem get?_empty (key : κ) : (empty : OrderedMap κ β).get? key = none := rfl

theorem mem_entries_iff (m : OrderedMap κ β) (key : κ) (value : β) :
    (key, value) ∈ m.entries ↔ m.get? key = some value :=
  mem_iff_pairValue? m.distinct key value

theorem filter_entries_ne (m : OrderedMap κ β) {before after : List (κ × β)} {key : κ} {value : β}
    (place : m.entries = before ++ (key, value) :: after) :
    m.entries.filter (fun pair => !decide (pair.1 = key)) = before ++ after := by
  have distinct := m.distinct
  rw [place] at distinct
  obtain ⟨first, last⟩ := ne_of_nodup_map distinct
  have kept (pairs : List (κ × β)) (others : ∀ pair ∈ pairs, pair.1 ≠ key) :
      pairs.filter (fun pair => !decide (pair.1 = key)) = pairs :=
    List.filter_eq_self.mpr fun pair member => by simpa using others pair member
  rw [place, List.filter_append, List.filter_cons_of_neg (by simp), kept before first,
    kept after last]

theorem filter_entries_eq {m : OrderedMap κ β} {key : κ} {value : β}
    (present : m.get? key = some value) :
    m.entries.filter (fun pair => decide (pair.1 = key)) = [(key, value)] := by
  have member := (m.mem_entries_iff key value).mpr present
  exact filter_eq_singleton m.distinct member

theorem entries_foldl_set (m : OrderedMap κ β) (pairs : List (κ × β))
    (distinct : ((m.entries ++ pairs).map Prod.fst).Nodup) :
    (pairs.foldl (fun m pair => m.set pair.1 pair.2) m).entries = m.entries ++ pairs := by
  induction pairs generalizing m with
  | nil => exact (List.append_nil _).symm
  | cons pair rest ih =>
    have absent : pair.1 ∉ m.entries.map Prod.fst := fun member => by
      rw [List.map_append, List.nodup_append] at distinct
      exact distinct.2.2 _ member _ (List.mem_cons_self ..) rfl
    have added : (m.set pair.1 pair.2).entries = m.entries ++ [pair] := setPair_of_absent absent _
    rw [List.append_cons, ← added] at distinct
    rw [List.foldl_cons, ih _ distinct, added, List.append_assoc, List.singleton_append]

theorem mem_keys_foldl_set {m : OrderedMap κ β} {pairs : List (κ × β)} {key : κ} :
    key ∈ (pairs.foldl (fun m pair => m.set pair.1 pair.2) m).keys ↔
      key ∈ m.keys ∨ key ∈ pairs.map Prod.fst := by
  induction pairs generalizing m with
  | nil => simp
  | cons pair rest ih =>
    rw [List.foldl_cons, ih, keys_set, List.map_cons, List.mem_cons, ← or_assoc]
    refine or_congr_left ?_
    split
    · next present => exact ⟨.inl, fun given => given.elim id fun same => same ▸ present⟩
    · rw [List.mem_append, List.mem_singleton]

theorem mem_keys_ofList {pairs : List (κ × β)} {key : κ} :
    key ∈ (ofList pairs).keys ↔ key ∈ pairs.map Prod.fst := by
  rw [ofList, mem_keys_foldl_set]
  simp [keys]

theorem get?_foldl_set (m : OrderedMap κ β) (pairs : List (κ × β)) (key : κ) :
    (pairs.foldl (fun m pair => m.set pair.1 pair.2) m).get? key =
      (pairValue? pairs.reverse key).or (m.get? key) := by
  induction pairs generalizing m with
  | nil => rfl
  | cons pair rest ih =>
    rw [List.foldl_cons, ih, get?_set, List.reverse_cons, pairValue?_append, Option.or_assoc]
    by_cases same : key = pair.1
    · simp [pairValue?, same]
    · simp [pairValue?, same, Ne.symm same]

theorem get?_ofList (pairs : List (κ × β)) (key : κ) :
    (ofList pairs).get? key = pairValue? pairs.reverse key := by
  rw [ofList, get?_foldl_set, get?_empty, Option.or_none]

theorem ofList_entries (m : OrderedMap κ β) : ofList m.entries = m :=
  ext_entries (entries_foldl_set empty m.entries m.distinct)

theorem entries_eq_map_keys (m : OrderedMap κ β) (missing : β) :
    m.entries = m.keys.map fun key => (key, (m.get? key).getD missing) := by
  rw [keys, List.map_map]
  refine (List.map_id _).symm.trans (List.map_congr_left fun pair member => ?_)
  have found : m.get? pair.1 = some pair.2 := (m.mem_entries_iff pair.1 pair.2).mp member
  simp [found]

end OrderedMap

end ModelCatalog
