import NetworkMapper.Python.Dict
import NetworkMapper.Python.Sorted
import Mathlib.Data.List.Induction
import Mathlib.Data.Finset.Card

/-!
# Grouping into an insertion-ordered `dict`

`groups.setdefault(key(item), []).append(item)` for each item, in order.
-/

namespace Python

variable {α β γ κ : Type} [DecidableEq κ]

/-- `groups.setdefault(k, []).append(a)`. A new key goes to the end. -/
def appendTo : List (κ × List α) → κ → α → List (κ × List α)
  | [], k, a => [(k, [a])]
  | (k', as) :: rest, k, a =>
    if k' = k then (k', as ++ [a]) :: rest else (k', as) :: appendTo rest k a

def groupBy (key : α → κ) (items : List α) : List (κ × List α) :=
  items.foldl (fun groups a => appendTo groups (key a) a) []

/-- What the groups hold once all of `items` are in. -/
structure Groups (key : α → κ) (items : List α) (groups : List (κ × List α)) : Prop where
  keys_nodup : (groups.map Prod.fst).Nodup
  mem_keys : ∀ k, k ∈ groups.map Prod.fst ↔ ∃ a ∈ items, key a = k
  members : ∀ g ∈ groups, g.2 = items.filter fun a => key a = g.1

/-! ## One item -/

theorem appendTo_keys (groups : List (κ × List α)) (k : κ) (a : α) :
    (appendTo groups k a).map Prod.fst =
      groups.map Prod.fst ++ (if k ∈ groups.map Prod.fst then [] else [k]) := by
  induction groups with
  | nil => simp [appendTo]
  | cons g rest ih =>
    obtain ⟨k', as⟩ := g
    unfold appendTo
    split
    · rename_i h
      simp [h]
    · rename_i h
      simp only [List.map_cons, ih, List.cons_append, List.mem_cons, Ne.symm h, false_or]

theorem mem_appendTo (groups : List (κ × List α)) (k : κ) (a : α) (g : κ × List α)
    (hn : (groups.map Prod.fst).Nodup) (hg : g ∈ appendTo groups k a) :
    (g.1 ≠ k ∧ g ∈ groups) ∨ (∃ as, (k, as) ∈ groups ∧ g = (k, as ++ [a])) ∨
      (k ∉ groups.map Prod.fst ∧ g = (k, [a])) := by
  induction groups with
  | nil =>
    right; right
    simpa [appendTo] using hg
  | cons g' rest ih =>
    obtain ⟨k', as⟩ := g'
    simp only [List.map_cons, List.nodup_cons] at hn
    unfold appendTo at hg
    split at hg
    · rename_i h
      subst h
      rcases List.mem_cons.mp hg with rfl | hg
      · right; left
        exact ⟨as, List.mem_cons_self, rfl⟩
      · left
        refine ⟨?_, List.mem_cons_of_mem _ hg⟩
        intro hk
        exact hn.1 (hk ▸ List.mem_map_of_mem hg)
    · rename_i h
      rcases List.mem_cons.mp hg with rfl | hg
      · left
        exact ⟨h, List.mem_cons_self⟩
      · rcases ih hn.2 hg with ⟨hne, hmem⟩ | ⟨bs, hmem, rfl⟩ | ⟨hnew, rfl⟩
        · exact Or.inl ⟨hne, List.mem_cons_of_mem _ hmem⟩
        · exact Or.inr (Or.inl ⟨bs, List.mem_cons_of_mem _ hmem, rfl⟩)
        · refine Or.inr (Or.inr ⟨?_, rfl⟩)
          simpa [Ne.symm h] using hnew

theorem Groups.append {key : α → κ} {items : List α} {groups : List (κ × List α)}
    (h : Groups key items groups) (a : α) :
    Groups key (items ++ [a]) (appendTo groups (key a) a) := by
  refine ⟨?_, ?_, ?_⟩
  · rw [appendTo_keys]
    split
    · simpa using h.keys_nodup
    · rename_i hnew
      rw [List.nodup_append]
      refine ⟨h.keys_nodup, by simp, ?_⟩
      rintro k hk _ (_ | ⟨_, ⟨⟩⟩) rfl
      exact hnew hk
  · intro k
    rw [appendTo_keys, List.mem_append, h.mem_keys]
    constructor
    · rintro (⟨b, hb, rfl⟩ | hk)
      · exact ⟨b, List.mem_append_left _ hb, rfl⟩
      · refine ⟨a, by simp, ?_⟩
        split at hk <;> simp_all
    · rintro ⟨b, hb, rfl⟩
      rcases List.mem_append.mp hb with hb | hb
      · exact Or.inl ⟨b, hb, rfl⟩
      · rw [List.mem_singleton.mp hb]
        by_cases hk : key a ∈ groups.map Prod.fst
        · exact Or.inl ((h.mem_keys _).mp hk)
        · right; simp [hk]
  · intro g hg
    rw [List.filter_append]
    rcases mem_appendTo groups (key a) a g h.keys_nodup hg with ⟨hne, hmem⟩ | ⟨as, hmem, rfl⟩ | ⟨hnew, rfl⟩
    · simp [← h.members g hmem, Ne.symm hne]
    · simp [← h.members _ hmem]
    · -- No earlier item has this key.
      have hnone : items.filter (fun b => key b = key a) = [] := by
        rw [List.filter_eq_nil_iff]
        intro b hb hk
        exact hnew ((h.mem_keys _).mpr ⟨b, hb, by simpa using hk⟩)
      simp [hnone]

/-! ## All items -/

theorem groupBy_groups (key : α → κ) (items : List α) : Groups key items (groupBy key items) := by
  induction items using List.reverseRecOn with
  | nil => exact ⟨by simp [groupBy], by simp [groupBy], by simp [groupBy]⟩
  | append_singleton items a ih =>
    unfold groupBy
    rw [List.foldl_append]
    exact ih.append a

theorem mem_groupBy (key : α → κ) (items : List α) (g : κ × List α) :
    g ∈ groupBy key items ↔ (∃ a ∈ items, key a = g.1) ∧ g.2 = items.filter fun a => key a = g.1 := by
  have h := groupBy_groups key items
  constructor
  · intro hg
    exact ⟨(h.mem_keys g.1).mp (List.mem_map_of_mem hg), h.members g hg⟩
  · rintro ⟨hk, hm⟩
    obtain ⟨g', hg', hfst⟩ := List.mem_map.mp ((h.mem_keys g.1).mpr hk)
    have : g' = g := by
      apply Prod.ext hfst
      rw [h.members g' hg', hm, hfst]
    rwa [← this]

theorem groupBy_ne_nil (key : α → κ) (items : List α) (g : κ × List α) (hg : g ∈ groupBy key items) :
    g.2 ≠ [] := by
  obtain ⟨⟨a, ha, hk⟩, hm⟩ := (mem_groupBy key items g).mp hg
  rw [hm]
  exact List.ne_nil_of_mem (List.mem_filter.mpr ⟨ha, by simpa using hk⟩)

theorem groupBy_length (key : α → κ) (items : List α) :
    (groupBy key items).length = (items.map key).toFinset.card := by
  have h := groupBy_groups key items
  rw [← List.length_map Prod.fst, ← List.toFinset_card_of_nodup h.keys_nodup]
  congr 1
  ext k
  simp only [List.mem_toFinset, h.mem_keys, List.mem_map]

theorem lookup_groupBy [BEq κ] [LawfulBEq κ] (key : α → κ) (items : List α) (k : κ) :
    ((groupBy key items).lookup k).getD [] = items.filter fun a => key a = k := by
  cases h : (groupBy key items).lookup k with
  | some members => exact ((mem_groupBy key items _).mp (mem_of_lookup _ _ _ h)).2
  | none =>
    -- No item has this key.
    rw [List.lookup_eq_none_iff] at h
    rw [Option.getD_none, eq_comm, List.filter_eq_nil_iff]
    intro a ha hk
    obtain ⟨g, hg, hfst⟩ := List.mem_map.mp (((groupBy_groups key items).mem_keys k).mpr ⟨a, ha, by simpa using hk⟩)
    simpa [hfst] using h g hg

theorem appendTo_perm (groups : List (κ × List α)) (k : κ) (a : α) :
    ((appendTo groups k a).flatMap Prod.snd).Perm (groups.flatMap Prod.snd ++ [a]) := by
  induction groups with
  | nil => exact List.Perm.refl _
  | cons g rest ih =>
    unfold appendTo
    split
    · -- The item lands between the members of this group and those of the later ones.
      simp only [List.flatMap_cons, List.append_assoc]
      exact List.perm_append_comm.append_left _
    · simp only [List.flatMap_cons, List.append_assoc]
      exact ih.append_left _

/-- Every item is in one group, as often as it is in the list. -/
theorem groupBy_perm (key : α → κ) (items : List α) : ((groupBy key items).flatMap Prod.snd).Perm items := by
  induction items using List.reverseRecOn with
  | nil => exact List.Perm.refl _
  | append_singleton items a ih =>
    unfold groupBy
    rw [List.foldl_append]
    exact (appendTo_perm _ (key a) a).trans (ih.append_right [a])

/-! ## Groups of a sorted list -/

section Contiguous

variable [LinearOrder β] (rank : κ → β)

theorem appendTo_increasing (hrank : Function.Injective rank) (groups : List (κ × List α)) (k : κ) (a : α)
    (hinc : groups.Pairwise fun g h => rank g.1 < rank h.1) (hle : ∀ g ∈ groups, rank g.1 ≤ rank k) :
    (appendTo groups k a).Pairwise (fun g h => rank g.1 < rank h.1) ∧
      (appendTo groups k a).flatMap Prod.snd = groups.flatMap Prod.snd ++ [a] := by
  induction groups with
  | nil => simp [appendTo]
  | cons g rest ih =>
    obtain ⟨k', as⟩ := g
    rw [List.pairwise_cons] at hinc
    rw [List.forall_mem_cons] at hle
    unfold appendTo
    split
    · -- A group with this key is the last one.
      rename_i hk
      have hrest : rest = [] := by
        rw [List.eq_nil_iff_forall_not_mem]
        intro g hg
        have := hinc.1 g hg
        rw [hk] at this
        exact absurd (hle.2 g hg) (not_le_of_gt this)
      simp [hrest]
    · rename_i hk
      obtain ⟨hpair, hflat⟩ := ih hinc.2 hle.2
      refine ⟨List.pairwise_cons.mpr ⟨?_, hpair⟩, by simp [hflat]⟩
      intro g hg
      have hkeys : g.1 ∈ (appendTo rest k a).map Prod.fst := List.mem_map_of_mem hg
      rw [appendTo_keys, List.mem_append] at hkeys
      rcases hkeys with hkeys | hkeys
      · obtain ⟨g', hg', hfst⟩ := List.mem_map.mp hkeys
        rw [← hfst]
        exact hinc.1 g' hg'
      · split at hkeys
        · simp at hkeys
        · rw [List.mem_singleton.mp hkeys]
          exact lt_of_le_of_ne hle.1 fun heq => hk (hrank heq)

theorem groupBy_flatMap (hrank : Function.Injective rank) (key : α → κ) (items : List α)
    (h : items.Pairwise fun a b => rank (key a) ≤ rank (key b)) : (groupBy key items).flatMap Prod.snd = items := by
  have hboth : (groupBy key items).Pairwise (fun g h => rank g.1 < rank h.1) ∧
      (groupBy key items).flatMap Prod.snd = items := by
    induction items using List.reverseRecOn with
    | nil => simp [groupBy]
    | append_singleton items a ih =>
      rw [List.pairwise_append] at h
      obtain ⟨hitems, -, hlast⟩ := h
      obtain ⟨hinc, hflat⟩ := ih hitems
      have hle : ∀ g ∈ groupBy key items, rank g.1 ≤ rank (key a) := by
        intro g hg
        obtain ⟨⟨b, hb, hk⟩, -⟩ := (mem_groupBy key items g).mp hg
        rw [← hk]
        exact hlast b hb a (List.mem_singleton_self a)
      have hadd := appendTo_increasing rank hrank (groupBy key items) (key a) a hinc hle
      rw [hflat] at hadd
      unfold groupBy
      rw [List.foldl_append]
      exact hadd
  exact hboth.2

end Contiguous

/-! ## One sorted record for each group -/

section SortedGroups

variable [LinearOrder β] (key : α → κ) (resolve : κ × List α → γ) (out : γ → β) (items : List α)

theorem mem_sortedGroups (r : γ) :
    r ∈ sortedBy out ((groupBy key items).map resolve) ↔
      ∃ a ∈ items, r = resolve (key a, items.filter fun x => key x = key a) := by
  rw [mem_sortedBy, List.mem_map]
  constructor
  · rintro ⟨⟨k, members⟩, hg, rfl⟩
    obtain ⟨⟨a, ha, rfl⟩, hm⟩ := (mem_groupBy key items _).mp hg
    exact ⟨a, ha, congrArg (fun m => resolve (key a, m)) hm⟩
  · rintro ⟨a, ha, rfl⟩
    exact ⟨_, (mem_groupBy key items _).mpr ⟨⟨a, ha, rfl⟩, rfl⟩, rfl⟩

theorem sortedGroups_strict (rank : κ → β) (hrank : Function.Injective rank)
    (hout : ∀ g, out (resolve g) = rank g.1) :
    (sortedBy out ((groupBy key items).map resolve)).Pairwise fun a b => out a < out b := by
  apply sortedBy_strict
  have hkeys : out ∘ resolve = rank ∘ Prod.fst := funext hout
  rw [List.map_map, hkeys, ← List.map_map]
  exact (groupBy_groups key items).keys_nodup.map hrank

end SortedGroups

/-! ## Different values -/

/-- At least two different values of `f`. -/
def Differ (f : α → κ) (items : List α) : Prop := ∃ a ∈ items, ∃ b ∈ items, f a ≠ f b

theorem one_lt_card_iff (f : α → κ) (items : List α) :
    1 < (items.map f).toFinset.card ↔ Differ f items := by
  rw [Finset.one_lt_card]
  simp only [List.mem_toFinset, List.mem_map, Differ]
  constructor
  · rintro ⟨_, ⟨a, ha, rfl⟩, _, ⟨b, hb, rfl⟩, hne⟩
    exact ⟨a, ha, b, hb, hne⟩
  · rintro ⟨a, ha, b, hb, hne⟩
    exact ⟨f a, ⟨a, ha, rfl⟩, f b, ⟨b, hb, rfl⟩, hne⟩

omit [DecidableEq κ] in
theorem Differ.mono {f : α → κ} {items items' : List α} (h : Differ f items)
    (hsub : ∀ a ∈ items, a ∈ items') : Differ f items' := by
  obtain ⟨a, ha, b, hb, hne⟩ := h
  exact ⟨a, hsub a ha, b, hsub b hb, hne⟩

theorem mem_of_count {β γ : Type} [BEq β] [LawfulBEq β] [BEq γ] [LawfulBEq γ] {items : List β} {out : List γ} {b : β}
    {c : γ} {P : Prop} [Decidable P] (hcount : out.count c = if P then items.count b else 0) (hc : c ∈ out) :
    b ∈ items ∧ P := by
  have hpos := List.count_pos_iff.mpr hc
  rw [hcount] at hpos
  split at hpos
  · rename_i hp
    exact ⟨List.count_pos_iff.mp hpos, hp⟩
  · omega

end Python
