import NetworkMapper.Python.CountTable

/-! # `Counter(items)`, and the loop over `d[k] = d.get(k, 0) + 1` -/

namespace Python

variable {κ : Type} [DecidableEq κ]

def tally (items : List κ) : Dict κ Nat :=
  items.foldl (fun counts k => counts.set k (CountTable.count counts k + 1)) .empty

/-- The table has counted these items, and has a key only where there is an item. -/
structure Tallies (items : List κ) (counts : Dict κ Nat) : Prop where
  keys : ∀ k, k ∈ counts.keys ↔ k ∈ items
  get : ∀ k n, (k, n) ∈ counts.entries ↔ k ∈ items ∧ n = items.count k

theorem tally_tallies (items : List κ) : Tallies items (tally items) := by
  have hcounted : (∀ k, k ∈ (tally items).keys ↔ k ∈ items) ∧
      ∀ k, CountTable.count (tally items) k = items.count k := by
    unfold tally
    induction items using List.reverseRecOn with
    | nil => exact ⟨fun _ => Iff.rfl, fun _ => rfl⟩
    | append_singleton items k ih =>
      rw [List.foldl_append]
      refine ⟨fun k' => ?_, fun k' => ?_⟩
      · rw [List.foldl_cons, List.foldl_nil, Dict.mem_keys_set, ih.1]
        simp
      · rw [List.foldl_cons, List.foldl_nil, CountTable.count_set, List.count_append, List.count_singleton, ih.2, ih.2]
        by_cases hk : k = k'
        · simp [hk]
        · simp [hk]
  refine ⟨hcounted.1, fun k n => ?_⟩
  rw [← Dict.get?_eq_some, ← hcounted.1, Dict.mem_keys, ← hcounted.2]
  unfold CountTable.count
  constructor
  · intro hget
    exact ⟨⟨n, hget⟩, by rw [hget]; rfl⟩
  · rintro ⟨⟨m, hget⟩, rfl⟩
    rw [hget]
    rfl

theorem Tallies.sum {items : List κ} {counts : Dict κ Nat} (h : Tallies items counts) :
    (counts.entries.map Prod.snd).sum = items.length := by
  have hvalues : counts.entries.map Prod.snd = counts.keys.map fun k => items.countP fun a => True ∧ a = k := by
    unfold Dict.keys
    rw [List.map_map]
    apply List.map_congr_left
    intro e he
    rw [((h.get e.1 e.2).mp he).2]
    simp only [Function.comp_apply, true_and]
    exact List.countP_congr fun a _ => by simp
  rw [hvalues, sum_countP (fun _ => True) (fun a => a) counts.keys counts.keys_nodup]
  exact List.countP_eq_length.mpr fun a ha => decide_eq_true ⟨trivial, (h.keys a).mpr ha⟩

theorem Tallies.of_map {ι : Type} {f : ι → κ} {items : List ι} {counts : Dict κ Nat} (h : Tallies (items.map f) counts)
    (k : κ) (n : Nat) : (k, n) ∈ counts.entries ↔ 0 < n ∧ n = items.countP fun a => f a = k := by
  have hcount : (items.map f).count k = items.countP fun a => f a = k := by
    rw [List.count_eq_countP, List.countP_map]
    exact List.countP_congr fun a _ => by simp
  rw [h.get, ← List.count_pos_iff, ← hcount]
  constructor
  · rintro ⟨hpos, rfl⟩
    exact ⟨hpos, rfl⟩
  · rintro ⟨hpos, rfl⟩
    exact ⟨hpos, rfl⟩

end Python
