import Mathlib.Data.List.Sort

/-! # `sorted(items, key=...)`

Python's sort is stable. So is `insertionSort`: an item goes in front of the
items that tie with it and came later.
-/

namespace Python

variable {α κ : Type} [LinearOrder κ]

def sortedBy (key : α → κ) (items : List α) : List α :=
  items.insertionSort fun a b => key a ≤ key b

theorem sortedBy_perm (key : α → κ) (items : List α) : (sortedBy key items).Perm items :=
  List.perm_insertionSort _ _

@[simp]
theorem mem_sortedBy (key : α → κ) (items : List α) (a : α) : a ∈ sortedBy key items ↔ a ∈ items :=
  (sortedBy_perm key items).mem_iff

@[simp]
theorem sortedBy_length (key : α → κ) (items : List α) : (sortedBy key items).length = items.length :=
  (sortedBy_perm key items).length_eq

theorem sortedBy_sorted (key : α → κ) (items : List α) :
    (sortedBy key items).Pairwise fun a b => key a ≤ key b := by
  have : Std.Total fun a b => key a ≤ key b := ⟨fun a b => le_total (key a) (key b)⟩
  have : IsTrans α fun a b => key a ≤ key b := ⟨fun _ _ _ => le_trans⟩
  exact List.pairwise_insertionSort _ items

theorem sortedBy_map {β : Type} (f : β → α) (key : α → κ) (items : List β) :
    sortedBy key (items.map f) = (sortedBy (fun b => key (f b)) items).map f :=
  (List.map_insertionSort _ _ f items fun _ _ _ _ => Iff.rfl).symm

/-- Two sorted lists of the same items agree when items that tie are equal. -/
theorem eq_of_sorted (key : α → κ) (l₁ l₂ : List α) (hp : l₁.Perm l₂)
    (h₁ : l₁.Pairwise fun a b => key a ≤ key b) (h₂ : l₂.Pairwise fun a b => key a ≤ key b)
    (htie : ∀ a ∈ l₁, ∀ b ∈ l₁, key a = key b → a = b) : l₁ = l₂ := by
  refine List.Perm.eq_of_pairwise ?_ h₁ h₂ hp
  intro a b ha hb hab hba
  exact htie a ha b (hp.mem_iff.mpr hb) (le_antisymm hab hba)

theorem sortedBy_congr (key : α → κ) (l₁ l₂ : List α) (hp : l₁.Perm l₂)
    (htie : ∀ a ∈ l₁, ∀ b ∈ l₁, key a = key b → a = b) : sortedBy key l₁ = sortedBy key l₂ := by
  apply eq_of_sorted key
  · exact (sortedBy_perm key l₁).trans (hp.trans (sortedBy_perm key l₂).symm)
  · exact sortedBy_sorted key l₁
  · exact sortedBy_sorted key l₂
  · intro a ha b hb
    exact htie a (by simpa using ha) b (by simpa using hb)

theorem sortedBy_strict (key : α → κ) (items : List α) (h : (items.map key).Nodup) :
    (sortedBy key items).Pairwise fun a b => key a < key b := by
  have hn : ((sortedBy key items).map key).Nodup := ((sortedBy_perm key items).map key).nodup_iff.mpr h
  rw [List.Nodup, List.pairwise_map] at hn
  exact (sortedBy_sorted key items).imp₂ (fun a b hle hne => lt_of_le_of_ne hle hne) hn

theorem eq_of_strict (key : α → κ) (l₁ l₂ : List α) (h₁ : l₁.Pairwise fun a b => key a < key b)
    (h₂ : l₂.Pairwise fun a b => key a < key b) (hmem : ∀ a, a ∈ l₁ ↔ a ∈ l₂) : l₁ = l₂ := by
  have : Std.Irrefl fun a b => key a < key b := ⟨fun a => lt_irrefl (key a)⟩
  have : Std.Antisymm fun a b => key a < key b := ⟨fun _ _ hab hba => absurd hab (lt_asymm hba)⟩
  exact h₁.eq_of_mem_iff h₂ hmem

end Python
