import Mathlib.Data.List.Count

/-! # `Counter(items)`

Two counters are equal when the items are permutations of each other, and the
difference of two counters is the multiset difference of the items.
-/

namespace Python

variable {α κ : Type} [BEq α] [LawfulBEq α]

theorem diff_append_perm (xs ys : List α) : (xs.diff ys ++ ys).Perm (ys.diff xs ++ xs) := by
  -- Both sides count each item as often as the list that has it more often.
  rw [List.perm_iff_count]
  intro a
  rw [List.count_append, List.count_append, List.count_diff, List.count_diff]
  omega

theorem diff_eq_nil (xs ys : List α) : xs.diff ys = [] ↔ ∀ a, xs.count a ≤ ys.count a := by
  rw [List.eq_nil_iff_forall_not_mem]
  refine forall_congr' fun a => ?_
  rw [← List.count_eq_zero, List.count_diff]
  omega

theorem perm_iff_diff (xs ys : List α) : xs.Perm ys ↔ xs.diff ys = [] ∧ ys.diff xs = [] := by
  rw [List.perm_iff_count, diff_eq_nil, diff_eq_nil, ← forall_and]
  refine forall_congr' fun a => ?_
  omega

theorem perm_of_groups [DecidableEq κ] (key : α → κ) (xs ys : List α) (hkeys : (xs.map key).Perm (ys.map key))
    (h : ∀ k, k ∈ xs.map key → k ∈ ys.map key →
      (ys.filter fun a => key a = k).Perm (xs.filter fun a => key a = k)) : xs.Perm ys := by
  rw [List.perm_iff_count]
  intro a
  by_cases ha : key a ∈ xs.map key
  · have hcount := (h (key a) ha (hkeys.mem_iff.mp ha)).count_eq a
    have hown : ∀ zs : List α, (zs.filter fun b => key b = key a).count a = zs.count a :=
      fun zs => List.count_filter (decide_eq_true rfl)
    rw [hown, hown] at hcount
    exact hcount.symm
  · have hx : a ∉ xs := fun hmem => ha (List.mem_map_of_mem hmem)
    have hy : a ∉ ys := fun hmem => ha (hkeys.mem_iff.mpr (List.mem_map_of_mem hmem))
    rw [List.count_eq_zero_of_not_mem hx, List.count_eq_zero_of_not_mem hy]

end Python
