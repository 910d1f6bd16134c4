import NetworkMapper.Python.Dict
import NetworkMapper.Python.Sorted
import Mathlib.Algebra.BigOperators.Ring.Finset
import Mathlib.Data.Finset.Sort

/-!
# Tables of counts

A table is a `dict` of rows, and a row is a `dict` of counts. A loop counts the pairs
that it meets.
-/

namespace Python

/-! ## Sums of counts -/

section Sums

variable {α κ : Type}

theorem countP_either (p q r : α → Prop) [DecidablePred p] [DecidablePred q] [DecidablePred r] (items : List α)
    (h : ∀ a ∈ items, (r a ↔ p a ∨ q a) ∧ ¬ (p a ∧ q a)) :
    items.countP (fun a => r a) = items.countP (fun a => p a) + items.countP fun a => q a := by
  induction items with
  | nil => rfl
  | cons a items ih =>
    rw [List.forall_mem_cons] at h
    rw [List.countP_cons, List.countP_cons, List.countP_cons, ih h.2]
    obtain ⟨heither, hboth⟩ := h.1
    by_cases hp : p a <;> by_cases hq : q a <;> simp_all <;> omega

/-- The counts under different keys add up to the count under any of them. -/
theorem sum_countP [DecidableEq κ] (p : α → Prop) [DecidablePred p] (f : α → κ) (keys : List κ) (hn : keys.Nodup)
    (items : List α) :
    (keys.map fun k => items.countP fun a => p a ∧ f a = k).sum = items.countP fun a => p a ∧ f a ∈ keys := by
  induction keys with
  | nil => simp
  | cons k keys ih =>
    obtain ⟨hk, hn⟩ := List.nodup_cons.mp hn
    rw [List.map_cons, List.sum_cons, ih hn]
    refine (countP_either _ _ _ items fun a _ => ⟨?_, ?_⟩).symm
    · rw [List.mem_cons, and_or_left]
    · rintro ⟨⟨-, rfl⟩, -, hmem⟩
      exact hk hmem

end Sums

/-! ## Tables -/

section Tables

variable {κ ν : Type} [DecidableEq κ] [DecidableEq ν]

abbrev CountTable (κ ν : Type) := Dict κ (Dict ν Nat)

namespace CountTable

/-- `table.get(r, {})` -/
def row (table : CountTable κ ν) (r : κ) : Dict ν Nat := (table.get? r).getD Dict.empty

/-- `row.get(c, 0)` -/
def count (row : Dict ν Nat) (c : ν) : Nat := (row.get? c).getD 0

/-- `row = table.setdefault(r, {})`, and then `row[c] = row.get(c, 0) + 1`. -/
def bump (table : CountTable κ ν) (r : κ) (c : ν) : CountTable κ ν :=
  table.set r ((table.row r).set c (count (table.row r) c + 1))

/-- The table has counted these pairs, and it has a row and a column only where there is a pair. -/
structure Counts (pairs : List (κ × ν)) (table : CountTable κ ν) : Prop where
  keys : ∀ r, r ∈ table.keys ↔ r ∈ pairs.map Prod.fst
  columns : ∀ r c, c ∈ (table.row r).keys ↔ (r, c) ∈ pairs
  cells : ∀ r c, count (table.row r) c = pairs.count (r, c)

theorem counts_empty : Counts [] (Dict.empty : CountTable κ ν) :=
  ⟨fun _ => Iff.rfl, fun _ _ => by simp [row, Dict.get?, Dict.empty, Dict.keys], fun _ _ => rfl⟩

omit [DecidableEq κ] in
theorem count_set (row : Dict ν Nat) (c : ν) (n : Nat) (c' : ν) :
    count (row.set c n) c' = if c = c' then n else count row c' := by
  unfold count
  rw [Dict.get?_set]
  split <;> rfl

theorem row_bump (table : CountTable κ ν) (r r' : κ) (c : ν) :
    (table.bump r c).row r' =
      if r = r' then (table.row r).set c (count (table.row r) c + 1) else table.row r' := by
  unfold bump row
  rw [Dict.get?_set]
  split <;> rfl

theorem Counts.bump {pairs : List (κ × ν)} {table : CountTable κ ν} (h : Counts pairs table) (r : κ) (c : ν) :
    Counts (pairs ++ [(r, c)]) (table.bump r c) := by
  refine ⟨fun r' => ?_, fun r' c' => ?_, fun r' c' => ?_⟩
  · simp [CountTable.bump, h.keys]
  · rw [row_bump, List.mem_append, List.mem_singleton, Prod.mk.injEq]
    split
    · rename_i hr
      rw [Dict.mem_keys_set, h.columns, hr]
      simp
    · rename_i hr
      rw [h.columns]
      simp [Ne.symm hr]
  · rw [row_bump, List.count_append, List.count_singleton]
    split
    · rename_i hr
      subst hr
      rw [count_set, h.cells, h.cells]
      by_cases hc : c = c' <;> simp [hc]
    · rename_i hr
      simp [h.cells, hr]

omit [DecidableEq ν] in
theorem row_of_entry {table : CountTable κ ν} {r : κ} {columns : Dict ν Nat} (h : table.get? r = some columns) :
    table.row r = columns := by
  unfold row
  rw [h, Option.getD_some]

omit [DecidableEq κ] in
theorem values_eq (row : Dict ν Nat) : row.values = row.keys.map (count row) := by
  rw [← List.map_id row.values]
  refine row.map_values id (count row) fun c n h => ?_
  unfold count
  rw [h]
  rfl

theorem count_pair (pairs : List (κ × ν)) (r : κ) (c : ν) :
    pairs.count (r, c) = pairs.countP fun pair => pair.1 = r ∧ pair.2 = c := by
  rw [List.count_eq_countP]
  refine List.countP_congr fun pair _ => ?_
  simp [Prod.ext_iff]

theorem Counts.row_sum {pairs : List (κ × ν)} {table : CountTable κ ν} (h : Counts pairs table) (r : κ) :
    (table.row r).values.sum = pairs.countP fun pair => pair.1 = r := by
  have hn : (table.row r).keys.Nodup := (table.row r).keys_nodup
  have hcells : (table.row r).keys.map (count (table.row r)) =
      (table.row r).keys.map fun c => pairs.countP fun pair => pair.1 = r ∧ pair.2 = c := by
    refine List.map_congr_left fun c _ => ?_
    rw [h.cells, count_pair]
  rw [values_eq, hcells, sum_countP (fun pair : κ × ν => pair.1 = r) Prod.snd _ hn]
  refine List.countP_congr fun pair hpair => ?_
  simp only [decide_eq_true_eq, and_iff_left_iff_imp]
  rintro rfl
  exact (h.columns _ _).mpr hpair

/-- The sum of all counts. -/
def total (table : CountTable κ ν) : Nat := (table.values.map fun row => row.values.sum).sum

theorem Counts.total_eq {pairs : List (κ × ν)} {table : CountTable κ ν} (h : Counts pairs table) :
    total table = pairs.length := by
  have hrows := table.map_values (fun row => row.values.sum) (fun r => pairs.countP fun pair => True ∧ pair.1 = r)
    fun r row hrow => by
      rw [← row_of_entry hrow, h.row_sum]
      simp only [true_and]
  have hn : table.keys.Nodup := table.keys_nodup
  unfold total
  rw [hrows, sum_countP (fun _ : κ × ν => True) Prod.fst _ hn, List.countP_eq_length]
  intro pair hpair
  rw [decide_eq_true_eq, h.keys]
  exact ⟨trivial, List.mem_map_of_mem hpair⟩

/-! ## Cells -/

section Cells

variable (table : CountTable κ ν)

/-- The counts of all rows under pairs of keys, in order. -/
def cellEntries : List ((κ × ν) × Nat) :=
  table.entries.flatMap fun e => e.2.entries.map fun cell => ((e.1, cell.1), cell.2)

omit [DecidableEq κ] [DecidableEq ν] in
theorem cellEntries_nodup : ((cellEntries table).map Prod.fst).Nodup := by
  unfold cellEntries
  rw [List.map_flatMap, List.nodup_flatMap]
  constructor
  · intro e _
    rw [List.map_map]
    refine List.Nodup.of_map Prod.snd ?_
    rw [List.map_map]
    exact e.2.keys_nodup
  · have hrows : table.entries.Pairwise fun e e' => e.1 ≠ e'.1 := List.pairwise_map.mp table.keys_nodup
    refine hrows.imp fun {e e'} hne => ?_
    intro cell hcell hcell'
    simp only [List.map_map, List.mem_map] at hcell hcell'
    obtain ⟨_, _, rfl⟩ := hcell
    obtain ⟨_, _, heq⟩ := hcell'
    exact hne (Prod.mk.inj heq).1.symm

theorem mem_cellEntries (r : κ) (c : ν) (n : Nat) :
    ((r, c), n) ∈ cellEntries table ↔ ∃ columns, table.get? r = some columns ∧ columns.get? c = some n := by
  simp only [cellEntries, List.mem_flatMap, List.mem_map, Prod.mk.injEq, Dict.get?_eq_some]
  constructor
  · rintro ⟨e, he, cell, hcell, ⟨rfl, rfl⟩, rfl⟩
    exact ⟨e.2, he, hcell⟩
  · rintro ⟨columns, he, hcell⟩
    exact ⟨(r, columns), he, (c, n), hcell, ⟨rfl, rfl⟩, rfl⟩

/-- `table.get(r, {}).get(c, 0)` -/
def countAt (cell : κ × ν) : Nat := count (table.row cell.1) cell.2

theorem countAt_of_mem {cell : κ × ν} {n : Nat} (h : (cell, n) ∈ cellEntries table) : countAt table cell = n := by
  obtain ⟨columns, hrow, hcell⟩ := (mem_cellEntries table _ _ _).mp h
  unfold countAt count
  rw [row_of_entry hrow, hcell, Option.getD_some]

def cells : Finset (κ × ν) := ((cellEntries table).map Prod.fst).toFinset

theorem row_of_cell {cell : κ × ν} (h : cell ∈ cells table) : cell.1 ∈ table.keys := by
  obtain ⟨e, he, rfl⟩ := List.mem_map.mp (List.mem_toFinset.mp h)
  obtain ⟨columns, hrow, -⟩ := (mem_cellEntries table _ _ _).mp he
  exact (Dict.mem_keys table _).mpr ⟨columns, hrow⟩

theorem countAt_of_not_mem {cell : κ × ν} (h : cell ∉ cells table) : countAt table cell = 0 := by
  unfold countAt count
  cases hcount : (table.row cell.1).get? cell.2 with
  | none => rfl
  | some n =>
    have hmem : (cell, n) ∈ cellEntries table := by
      rw [mem_cellEntries]
      unfold row at hcount
      cases hrow : table.get? cell.1 with
      | none =>
        rw [hrow] at hcount
        cases hcount
      | some columns =>
        rw [hrow] at hcount
        exact ⟨columns, rfl, hcount⟩
    exact absurd (List.mem_toFinset.mpr (List.mem_map_of_mem hmem)) h

theorem sum_cellEntries (f : κ × ν → Nat → Int) :
    ((cellEntries table).map fun e => f e.1 e.2).sum = ∑ cell ∈ cells table, f cell (countAt table cell) := by
  unfold cells
  rw [List.sum_toFinset _ (cellEntries_nodup table), List.map_map]
  refine congrArg List.sum (List.map_congr_left fun e he => ?_)
  rw [Function.comp_apply, countAt_of_mem table he]

end Cells

/-! ## Laid out -/

/-- `{r: {c: table.get(r, {}).get(c, 0) for c in columns} for r in rows}` -/
def layout (rows : List κ) (columns : List ν) (table : CountTable κ ν) : CountTable κ ν :=
  Dict.ofPairs (rows.map fun r => (r, Dict.ofPairs (columns.map fun c => (c, count (table.row r) c))))

theorem entries_of_keys {β : Type} (keys : List κ) (hn : keys.Nodup) (f : κ → β) :
    (Dict.ofPairs (keys.map fun k => (k, f k))).entries = keys.map fun k => (k, f k) := by
  refine Dict.ofPairs_entries _ ?_
  rw [List.map_map]
  exact (List.map_id keys).symm ▸ hn

theorem keys_layout (rows : List κ) (columns : List ν) (table : CountTable κ ν) (hn : rows.Nodup) :
    (layout rows columns table).keys = rows := by
  unfold Dict.keys layout
  rw [entries_of_keys rows hn, List.map_map]
  exact List.map_id rows

theorem get?_layout (rows : List κ) (columns : List ν) (table : CountTable κ ν) (hn : rows.Nodup) {r : κ}
    (hr : r ∈ rows) :
    (layout rows columns table).get? r =
      some (Dict.ofPairs (columns.map fun c => (c, count (table.row r) c))) := by
  rw [Dict.get?_eq_some, layout, entries_of_keys rows hn]
  exact List.mem_map_of_mem hr

/-- The sum of the counts of a row that are not in the column of that name. -/
def offDiagonalRow (r : κ) (columns : Dict κ Nat) : Nat := ((columns.entries.filter fun e => r ≠ e.1).map Prod.snd).sum

def diagonal (table : CountTable κ κ) : Nat := (table.entries.map fun e => count e.2 e.1).sum

def offDiagonal (table : CountTable κ κ) : Nat := (table.entries.map fun e => offDiagonalRow e.1 e.2).sum

section Layout

variable {pairs : List (κ × ν)} {table : CountTable κ ν} {rows : List κ} {columns : List ν}

theorem Counts.cell_eq (h : Counts pairs table) (r : κ) (c : ν) :
    count (table.row r) c = pairs.countP fun pair => pair.1 = r ∧ pair.2 = c := by
  rw [h.cells, count_pair]

theorem Counts.layout_row (h : Counts pairs table) (hn : columns.Nodup) (hcolumns : ∀ pair ∈ pairs, pair.2 ∈ columns)
    (r : κ) :
    (Dict.ofPairs (columns.map fun c => (c, count (table.row r) c))).values.sum =
      pairs.countP fun pair => pair.1 = r := by
  unfold Dict.values
  rw [entries_of_keys columns hn, List.map_map]
  simp only [Function.comp_def, h.cell_eq]
  rw [sum_countP (fun pair : κ × ν => pair.1 = r) Prod.snd columns hn]
  refine List.countP_congr fun pair hpair => ?_
  simp only [decide_eq_true_eq, and_iff_left_iff_imp]
  exact fun _ => hcolumns pair hpair

end Layout

section Diagonal

variable {pairs : List (κ × κ)} {table : CountTable κ κ} {rows columns : List κ}

theorem Counts.layout_diagonal (h : Counts pairs table) (hn : rows.Nodup) (hn' : columns.Nodup)
    (hrows : ∀ pair ∈ pairs, pair.1 ∈ rows) (hsub : ∀ r ∈ rows, r ∈ columns) :
    diagonal (layout rows columns table) = pairs.countP fun pair => pair.1 = pair.2 := by
  have hcell : ∀ r ∈ rows, count (Dict.ofPairs (columns.map fun c => (c, count (table.row r) c))) r =
      pairs.countP fun pair => pair.1 = pair.2 ∧ pair.1 = r := by
    intro r hr
    have hget : (Dict.ofPairs (columns.map fun c => (c, count (table.row r) c))).get? r =
        some (count (table.row r) r) := by
      rw [Dict.get?_eq_some, entries_of_keys columns hn']
      exact List.mem_map_of_mem (hsub r hr)
    have hcount : count (Dict.ofPairs (columns.map fun c => (c, count (table.row r) c))) r = count (table.row r) r := by
      rw [count, hget, Option.getD_some]
    rw [hcount, h.cell_eq]
    refine List.countP_congr fun pair _ => ?_
    simp only [decide_eq_true_eq]
    constructor
    · rintro ⟨hfst, hsnd⟩
      exact ⟨hfst.trans hsnd.symm, hfst⟩
    · rintro ⟨heq, hfst⟩
      exact ⟨hfst, heq.symm.trans hfst⟩
  unfold diagonal layout
  rw [entries_of_keys rows hn, List.map_map]
  simp only [Function.comp_def]
  rw [List.map_congr_left hcell,
    sum_countP (fun pair : κ × κ => pair.1 = pair.2) Prod.fst rows hn]
  refine List.countP_congr fun pair hpair => ?_
  simp only [decide_eq_true_eq, and_iff_left_iff_imp]
  exact fun _ => hrows pair hpair

theorem Counts.layout_offDiagonal (h : Counts pairs table) (hn : rows.Nodup) (hn' : columns.Nodup)
    (hrows : ∀ pair ∈ pairs, pair.1 ∈ rows) (hcolumns : ∀ pair ∈ pairs, pair.2 ∈ columns) :
    offDiagonal (layout rows columns table) = pairs.countP fun pair => pair.1 ≠ pair.2 := by
  have hrow : ∀ r, offDiagonalRow r (Dict.ofPairs (columns.map fun c => (c, count (table.row r) c))) =
      pairs.countP fun pair => pair.1 ≠ pair.2 ∧ pair.1 = r := by
    intro r
    unfold offDiagonalRow
    rw [entries_of_keys columns hn', List.filter_map, List.map_map]
    simp only [Function.comp_def, h.cell_eq]
    rw [sum_countP (fun pair : κ × κ => pair.1 = r) Prod.snd _ (hn'.filter _)]
    refine List.countP_congr fun pair hpair => ?_
    simp only [List.mem_filter, hcolumns pair hpair, decide_not, Bool.not_eq_true', decide_eq_false_iff_not, true_and,
      decide_eq_true_eq]
    constructor
    · rintro ⟨rfl, hne⟩
      exact ⟨hne, rfl⟩
    · rintro ⟨hne, rfl⟩
      exact ⟨rfl, hne⟩
  unfold offDiagonal layout
  rw [entries_of_keys rows hn, List.map_map]
  simp only [Function.comp_def, hrow]
  rw [sum_countP (fun pair : κ × κ => pair.1 ≠ pair.2) Prod.fst rows hn]
  refine List.countP_congr fun pair hpair => ?_
  simp only [decide_eq_true_eq, and_iff_left_iff_imp]
  exact fun _ => hrows pair hpair

end Diagonal

end CountTable

end Tables

/-! ## In order -/

section Sorted

variable {κ ν : Type} [LinearOrder κ] [DecidableEq κ]

/-- `sorted(items)` of a `set`. -/
def sortedSet (items : Finset κ) : List κ := items.sort (· ≤ ·)

omit [DecidableEq κ] in
theorem mem_sortedSet (items : Finset κ) (k : κ) : k ∈ sortedSet items ↔ k ∈ items := Finset.mem_sort (· ≤ ·)

omit [DecidableEq κ] in
theorem sortedSet_nodup (items : Finset κ) : (sortedSet items).Nodup := Finset.sort_nodup items (· ≤ ·)

theorem sortedSet_toFinset (items : Finset κ) : (sortedSet items).toFinset = items := Finset.sort_toFinset items (· ≤ ·)

/-- `sorted(d.items())`. The keys are different, so no values are compared. -/
def sortedItems (d : Dict κ ν) : List (κ × ν) := sortedBy Prod.fst d.entries

omit [DecidableEq κ] in
theorem sortedItems_nodup (d : Dict κ ν) : ((sortedItems d).map Prod.fst).Nodup :=
  ((sortedBy_perm Prod.fst d.entries).map Prod.fst).nodup_iff.mpr d.keys_nodup

theorem mem_sortedItems (d : Dict κ ν) (k : κ) (v : ν) : (k, v) ∈ sortedItems d ↔ d.get? k = some v := by
  unfold sortedItems
  rw [mem_sortedBy, Dict.get?_eq_some]

/-- `{k: f(v) for k, v in sorted(d.items())}` -/
def mapSorted {β : Type} (f : ν → β) (d : Dict κ ν) : Dict κ β :=
  Dict.ofPairs ((sortedItems d).map fun e => (e.1, f e.2))

theorem mapSorted_entries {β : Type} (f : ν → β) (d : Dict κ ν) :
    (mapSorted f d).entries = (sortedItems d).map fun e => (e.1, f e.2) := by
  refine Dict.ofPairs_entries _ ?_
  rw [List.map_map]
  exact sortedItems_nodup d

theorem get?_mapSorted {β : Type} (f : ν → β) (d : Dict κ ν) (k : κ) : (mapSorted f d).get? k = (d.get? k).map f := by
  ext b
  rw [Dict.get?_eq_some, mapSorted_entries, List.mem_map, Option.map_eq_some_iff]
  constructor
  · rintro ⟨⟨k', v⟩, hmem, heq⟩
    obtain ⟨rfl, rfl⟩ := Prod.mk.inj heq
    exact ⟨v, (mem_sortedItems d _ v).mp hmem, rfl⟩
  · rintro ⟨v, hv, rfl⟩
    exact ⟨(k, v), (mem_sortedItems d k v).mpr hv, rfl⟩

theorem mem_keys_mapSorted {β : Type} (f : ν → β) (d : Dict κ ν) (k : κ) : k ∈ (mapSorted f d).keys ↔ k ∈ d.keys := by
  rw [Dict.mem_keys, Dict.mem_keys, get?_mapSorted]
  cases d.get? k <;> simp

variable [LinearOrder ν] [DecidableEq ν]

theorem CountTable.Counts.sorted {pairs : List (κ × ν)} {table : CountTable κ ν} (h : Counts pairs table) :
    Counts pairs (mapSorted (mapSorted id) table) := by
  have hrow : ∀ r, row (mapSorted (mapSorted id) table) r = mapSorted id (table.row r) := by
    intro r
    unfold row
    rw [get?_mapSorted]
    cases table.get? r <;> rfl
  refine ⟨fun r => ?_, fun r c => ?_, fun r c => ?_⟩
  · rw [mem_keys_mapSorted, h.keys]
  · rw [hrow, mem_keys_mapSorted, h.columns]
  · rw [hrow, ← h.cells]
    unfold count
    rw [get?_mapSorted, Option.map_id_fun, id]

end Sorted

end Python
