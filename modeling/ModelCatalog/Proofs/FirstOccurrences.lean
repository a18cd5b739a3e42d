import Mathlib.Data.List.Basic
import Mathlib.Data.List.Induction

/-! The elements of a list in the order in which each first comes. -/
namespace ModelCatalog

variable {α : Type} [BEq α] [LawfulBEq α]

theorem nodup_eraseDups (items : List α) : items.eraseDups.Nodup := by
  match items with
  | [] => exact List.nodup_nil
  | a :: rest =>
    rw [List.eraseDups_cons, List.nodup_cons, List.mem_eraseDups]
    exact ⟨by simp, nodup_eraseDups (rest.filter fun b => !b == a)⟩
termination_by items.length
decreasing_by exact Nat.lt_succ_of_le (List.length_filter_le ..)

theorem eraseDups_of_nodup {items : List α} (distinct : items.Nodup) :
    items.eraseDups = items := by
  induction items with
  | nil => rfl
  | cons a rest ih =>
    obtain ⟨fresh, distinct⟩ := List.nodup_cons.mp distinct
    have kept : rest.filter (fun b => !b == a) = rest := by
      refine List.filter_eq_self.mpr fun b member => ?_
      simp only [Bool.not_eq_true', beq_eq_false_iff_ne]
      rintro rfl
      exact fresh member
    rw [List.eraseDups_cons, kept, ih distinct]

theorem eraseDups_filter (keep : α → Bool) (items : List α) :
    (items.filter keep).eraseDups = items.eraseDups.filter keep := by
  match items with
  | [] => rfl
  | a :: rest =>
    have ih := eraseDups_filter keep (rest.filter fun b => !b == a)
    rw [List.eraseDups_cons]
    cases kept : keep a with
    | true =>
      rw [List.filter_cons_of_pos kept, List.filter_cons_of_pos kept, List.eraseDups_cons, ← ih]
      simp only [List.filter_filter, Bool.and_comm]
    | false =>
      have passed : rest.filter keep = (rest.filter fun b => !b == a).filter keep := by
        rw [List.filter_filter]
        refine List.filter_congr fun b _ => ?_
        by_cases same : b = a <;> simp [same, kept]
      have dropped : ¬ keep a = true := by simp [kept]
      rw [List.filter_cons_of_neg dropped, List.filter_cons_of_neg dropped, passed, ih]
termination_by items.length
decreasing_by exact Nat.lt_succ_of_le (List.length_filter_le ..)

theorem eraseDups_concat (items : List α) (a : α) [Decidable (a ∈ items)] :
    (items ++ [a]).eraseDups =
      if a ∈ items then items.eraseDups else items.eraseDups ++ [a] := by
  rw [List.eraseDups_append]
  split
  · next member => simp [List.removeAll, member]
  · next fresh => simp [List.removeAll, fresh, List.eraseDups_cons]

theorem pairwise_idxOf_eraseDups {α : Type} [DecidableEq α] (items : List α) :
    items.eraseDups.Pairwise fun a b => items.idxOf a < items.idxOf b := by
  induction items using List.reverseRecOn with
  | nil => exact List.Pairwise.nil
  | append_singleton items last ih =>
    have kept {a : α} (member : a ∈ items.eraseDups) :
        (items ++ [last]).idxOf a = items.idxOf a :=
      List.idxOf_append_of_mem (List.mem_eraseDups.mp member)
    have before : items.eraseDups.Pairwise fun a b =>
        (items ++ [last]).idxOf a < (items ++ [last]).idxOf b := by
      refine ih.imp_of_mem fun first second less => ?_
      rwa [kept first, kept second]
    rw [eraseDups_concat]
    split
    · exact before
    · next fresh =>
      refine List.pairwise_append.mpr ⟨before, List.pairwise_singleton .., ?_⟩
      intro a member b last
      obtain rfl := List.mem_singleton.mp last
      rw [kept member, List.idxOf_append_of_notMem fresh]
      exact Nat.lt_add_right _ (List.idxOf_lt_length_of_mem (List.mem_eraseDups.mp member))

end ModelCatalog
