import NetworkMapper.Developer.ReportBalance
import NetworkMapper.Devtools.Compare

/-!
# The comparison adds up

No row is named with a blank in it, so the text keys of the cells are as good as the
cells.
-/

open Python

namespace NetworkMapper

namespace Compare

open CountTable (cellEntries countAt)

/-! ## Keys -/

theorem find_arrow (s rest : Str) (h : ch ' ' ∉ s) : find arrow (s ++ (arrow ++ rest)) = some s.length := by
  have harrow : arrow = ch ' ' :: str "-> " := rfl
  unfold find
  induction s with
  | nil =>
    have hprefix : arrow.isPrefixOf (arrow ++ rest) = true := List.isPrefixOf_iff_prefix.mpr (List.prefix_append _ _)
    rw [List.nil_append, harrow, List.cons_append, List.tails_cons, List.findIdx?_cons, ← List.cons_append, ← harrow,
      hprefix]
    rfl
  | cons c s ih =>
    rw [List.mem_cons, not_or] at h
    have hprefix : arrow.isPrefixOf (c :: (s ++ (arrow ++ rest))) = false := by
      rw [harrow, List.isPrefixOf_cons_cons]
      simp [h.1]
    rw [List.cons_append, List.tails_cons, List.findIdx?_cons, hprefix, ih h.2]
    rfl

theorem splitKey_cellKey (e a : Str) (h : ch ' ' ∉ e) : splitKey (cellKey e a) = some (e, a) := by
  have hdrop : (e ++ arrow ++ a).drop (e.length + arrow.length) = a := List.drop_left' List.length_append
  have htake : (e ++ arrow ++ a).take e.length = e := by rw [List.append_assoc, List.take_left]
  have hfind : find arrow (e ++ arrow ++ a) = some e.length := by rw [List.append_assoc, find_arrow e a h]
  unfold splitKey cellKey
  rw [hfind, Option.map_some, htake, hdrop]

/-- The cell under a key. -/
def cellOf (key : Str) : Str × Str := (splitKey key).getD ([], [])

/-- The key of a cell. -/
def keyOf (cell : Str × Str) : Str := cellKey cell.1 cell.2

/-- No row has a name with a blank in it. -/
def Plain (table : CountTable Str Str) : Prop := ∀ cell ∈ table.cells, ch ' ' ∉ cell.1

theorem cellOf_keyOf {cell : Str × Str} (h : ch ' ' ∉ cell.1) : cellOf (keyOf cell) = cell := by
  unfold cellOf keyOf
  rw [splitKey_cellKey _ _ h]
  rfl

/-! ## The loops over a table -/

section Table

variable (py : Interpreter) (decimal : CodePoint → Option (Fin 10)) (fl : Floats) (table : CountTable Str Str)

theorem foldCells_tableDict {σ : Type} (step : σ → Str → Str → Json → Except Error σ) (next : σ → Str → Str → Nat → σ)
    (h : ∀ state expectedType actualType n, step state expectedType actualType (.int (n : Nat)) =
      pure (next state expectedType actualType n)) (start : σ) :
    foldCells step start (BenchmarkRunner.tableDict table) =
      .ok ((cellEntries table).foldl (fun state e => next state e.1.1 e.1.2 e.2) start) := by
  unfold foldCells BenchmarkRunner.tableDict cellEntries
  simp only [List.foldlM_map, h, List.foldlM_pure, List.foldl_flatMap, List.foldl_map]
  rfl

/-- The table under text keys. -/
def flat : Dict Str Int := Dict.ofPairs ((cellEntries table).map fun e => (keyOf e.1, (e.2 : Int)))

theorem flatten_table (field : Str) (payload : List (Str × Json))
    (h : payload.lookup field = some (BenchmarkRunner.tableDict table)) :
    flatten py decimal fl field payload = .ok (flat table) := by
  have hstep : ∀ (flattened : Dict Str Int) e a (n : Nat),
      flattenStep py decimal fl flattened e a (.int n) = pure (flattened.set (cellKey e a) n) := fun _ _ _ _ => rfl
  unfold flatten flat Dict.ofPairs
  rw [h, Option.getD_some, foldCells_tableDict table _ _ hstep, List.foldl_map]
  rfl

theorem flat_entries (h : Plain table) :
    (flat table).entries = (cellEntries table).map fun e => (keyOf e.1, (e.2 : Int)) := by
  refine Dict.ofPairs_entries _ ?_
  rw [List.map_map]
  refine List.Nodup.of_map cellOf ?_
  have hcells : ((cellEntries table).map (Prod.fst ∘ fun e => (keyOf e.1, (e.2 : Int)))).map cellOf =
      (cellEntries table).map Prod.fst := by
    rw [List.map_map]
    refine List.map_congr_left fun e he => cellOf_keyOf (h e.1 ?_)
    exact List.mem_toFinset.mpr (List.mem_map_of_mem he)
  rw [hcells]
  exact CountTable.cellEntries_nodup table

theorem flat_keys (h : Plain table) : (flat table).keys.toFinset = table.cells.image keyOf := by
  unfold Dict.keys CountTable.cells
  rw [flat_entries table h, List.map_map]
  ext key
  simp

theorem flat_count (h : Plain table) {cell : Str × Str} (hcell : ch ' ' ∉ cell.1) :
    ((flat table).get? (keyOf cell)).getD 0 = countAt table cell := by
  cases hget : (flat table).get? (keyOf cell) with
  | some n =>
    rw [Dict.get?_eq_some, flat_entries table h] at hget
    obtain ⟨e, he, heq⟩ := List.mem_map.mp hget
    have hplain := h e.1 (List.mem_toFinset.mpr (List.mem_map_of_mem he))
    have hcells : e.1 = cell := by rw [← cellOf_keyOf hplain, (Prod.mk.inj heq).1, cellOf_keyOf hcell]
    rw [Option.getD_some, ← (Prod.mk.inj heq).2, ← hcells, CountTable.countAt_of_mem table he]
  | none =>
    rw [CountTable.countAt_of_not_mem table]
    · rfl
    · intro hmem
      have hkey : keyOf cell ∈ (flat table).keys := by
        rw [← List.mem_toFinset, flat_keys table h]
        exact Finset.mem_image_of_mem keyOf hmem
      obtain ⟨n, hn⟩ := (Dict.mem_keys _ _).mp hkey
      rw [hget] at hn
      cases hn

/-- `_off_diagonal_total` of a matrix. -/
def offDiagonalSum : Int := ∑ cell ∈ table.cells with cell.1 ≠ cell.2, (countAt table cell : Int)

theorem offDiagonalSum_eq {cells : Finset (Str × Str)} (h : table.cells ⊆ cells) :
    offDiagonalSum table = ∑ cell ∈ cells with cell.1 ≠ cell.2, (countAt table cell : Int) := by
  -- A cell that the table does not have adds nothing.
  refine Finset.sum_subset (Finset.filter_subset_filter _ h) fun cell hmem hnot => ?_
  rw [Finset.mem_filter] at hmem hnot
  have hcell : cell ∉ table.cells := fun hcell => hnot ⟨hcell, hmem.2⟩
  rw [CountTable.countAt_of_not_mem table hcell, Nat.cast_zero]

theorem offDiagonalTotal_table (payload : List (Str × Json))
    (h : payload.lookup (str "confusion_matrix") = some (BenchmarkRunner.tableDict table)) :
    offDiagonalTotal py decimal fl payload = .ok (offDiagonalSum table) := by
  have hstep : ∀ (total : Int) e a (n : Nat), offDiagonalStep py decimal fl total e a (.int n) =
      pure (if e ≠ a then total + (n : Int) else total) := by
    intro total e a n
    unfold offDiagonalStep
    split <;> rfl
  have hfold : ∀ (entries : List ((Str × Str) × Nat)) (total : Int),
      entries.foldl (fun total e => if e.1.1 ≠ e.1.2 then total + (e.2 : Int) else total) total =
        total + (entries.map fun e => if e.1.1 ≠ e.1.2 then (e.2 : Int) else 0).sum := by
    intro entries
    induction entries with
    | nil => exact fun total => (add_zero total).symm
    | cons e entries ih =>
      intro total
      rw [List.foldl_cons, ih, List.map_cons, List.sum_cons]
      split <;> omega
  unfold offDiagonalTotal offDiagonalSum
  rw [h, Option.getD_some, foldCells_tableDict table _ _ hstep, hfold, zero_add,
    table.sum_cellEntries fun cell n => if cell.1 ≠ cell.2 then (n : Int) else 0, Finset.sum_filter]

end Table

/-! ## The loop over the cells -/

/-- More on the diagonal, or less beside it. -/
def Improves (cell : Str × Str) (delta : Int) : Prop := if cell.1 = cell.2 then delta > 0 else delta < 0

/-- Less on the diagonal, or more beside it. -/
def Regresses (cell : Str × Str) (delta : Int) : Prop := if cell.1 = cell.2 then delta < 0 else delta > 0

instance (cell : Str × Str) (delta : Int) : Decidable (Improves cell delta) :=
  inferInstanceAs (Decidable (if cell.1 = cell.2 then delta > 0 else delta < 0))

instance (cell : Str × Str) (delta : Int) : Decidable (Regresses cell delta) :=
  inferInstanceAs (Decidable (if cell.1 = cell.2 then delta < 0 else delta > 0))

theorem improves_neg (cell : Str × Str) (delta : Int) : Improves cell (-delta) ↔ Regresses cell delta := by
  unfold Improves Regresses
  split <;> omega

theorem changed_either (cell : Str × Str) (delta : Int) :
    (delta ≠ 0 ↔ Improves cell delta ∨ Regresses cell delta) ∧ ¬ (Improves cell delta ∧ Regresses cell delta) := by
  unfold Improves Regresses
  split <;> omega

section Loop

variable (baseline candidate : Dict Str Int)

/-- What the loop has counted after these keys. -/
def cellCounts (keys : List Str) : CellCounts where
  improved := keys.countP fun key => Improves (cellOf key) (deltaOf baseline candidate key)
  regressed := keys.countP fun key => Regresses (cellOf key) (deltaOf baseline candidate key)
  unchanged := keys.countP fun key => deltaOf baseline candidate key = 0
  changed := keys.countP fun key => deltaOf baseline candidate key ≠ 0

theorem step_spec (counts : CellCounts) (key : Str) (h : (splitKey key).isSome) :
    counts.step baseline candidate key = .ok {
      improved := counts.improved + if Improves (cellOf key) (deltaOf baseline candidate key) then 1 else 0
      regressed := counts.regressed + if Regresses (cellOf key) (deltaOf baseline candidate key) then 1 else 0
      unchanged := counts.unchanged + if deltaOf baseline candidate key = 0 then 1 else 0
      changed := counts.changed + if deltaOf baseline candidate key ≠ 0 then 1 else 0 } := by
  obtain ⟨cell, hcell⟩ := Option.isSome_iff_exists.mp h
  have hof : cellOf key = cell := by
    unfold cellOf
    rw [hcell, Option.getD_some]
  unfold CellCounts.step Improves Regresses
  simp only [hcell, hof]
  generalize deltaOf baseline candidate key = delta
  rcases lt_trichotomy delta 0 with hneg | rfl | hpos
  · by_cases hdiagonal : cell.1 = cell.2 <;> simp [hdiagonal, hneg, hneg.ne, not_lt.mpr hneg.le]
  · simp
  · by_cases hdiagonal : cell.1 = cell.2 <;> simp [hdiagonal, hpos, hpos.ne', not_lt.mpr hpos.le]

theorem step_counts (keys : List Str) (key : Str) (h : (splitKey key).isSome) :
    (cellCounts baseline candidate keys).step baseline candidate key =
      .ok (cellCounts baseline candidate (keys ++ [key])) := by
  rw [step_spec baseline candidate _ key h]
  unfold cellCounts
  simp only [List.countP_append, List.countP_singleton, decide_eq_true_eq]

theorem loop_counts (keys : List Str) (h : ∀ key ∈ keys, (splitKey key).isSome) :
    keys.foldlM (CellCounts.step baseline candidate) {} = .ok (cellCounts baseline candidate keys) := by
  induction keys using List.reverseRecOn with
  | nil => rfl
  | append_singleton keys key ih =>
    rw [List.foldlM_append, ih fun k hk => h k (List.mem_append_left _ hk)]
    have hstep := step_counts baseline candidate keys key (h key (List.mem_append_right _ List.mem_cons_self))
    exact (congrArg (· >>= pure) hstep).trans (bind_pure _)

theorem improved_add_regressed (keys : List Str) :
    (cellCounts baseline candidate keys).improved + (cellCounts baseline candidate keys).regressed =
      (cellCounts baseline candidate keys).changed :=
  (countP_either _ _ _ keys fun key _ => changed_either (cellOf key) (deltaOf baseline candidate key)).symm

theorem changed_add_unchanged (keys : List Str) :
    (cellCounts baseline candidate keys).changed + (cellCounts baseline candidate keys).unchanged = keys.length := by
  rw [List.length_eq_countP_add_countP fun key => deltaOf baseline candidate key = 0, add_comm]
  simp [cellCounts]

theorem deltaOf_swap (key : Str) : deltaOf candidate baseline key = -deltaOf baseline candidate key := by
  unfold deltaOf
  omega

theorem improved_swap (keys : List Str) :
    (cellCounts candidate baseline keys).improved = (cellCounts baseline candidate keys).regressed := by
  unfold cellCounts
  simp only [deltaOf_swap baseline candidate, improves_neg]

theorem changed_self (keys : List Str) : (cellCounts baseline baseline keys).changed = 0 := by
  simp [cellCounts, deltaOf]

theorem allKeys_comm (keys keys' : List Str) : allKeys keys keys' = allKeys keys' keys := by
  unfold allKeys
  rw [Finset.union_comm]

end Loop

/-! ## Two tables -/

section Tables

variable {baseline candidate : CountTable Str Str} (hb : Plain baseline) (hc : Plain candidate)

/-- The cells of either table. -/
def bothCells (baseline candidate : CountTable Str Str) : Finset (Str × Str) := baseline.cells ∪ candidate.cells

/-- Candidate minus baseline, where a cell that is missing counts as zero. -/
def cellDelta (baseline candidate : CountTable Str Str) (cell : Str × Str) : Int :=
  (countAt candidate cell : Int) - countAt baseline cell

omit hb hc in
theorem offDiagonal_delta :
    offDiagonalSum candidate - offDiagonalSum baseline =
      ∑ cell ∈ bothCells baseline candidate with cell.1 ≠ cell.2, cellDelta baseline candidate cell := by
  have hbaseline : baseline.cells ⊆ bothCells baseline candidate := Finset.subset_union_left
  have hcandidate : candidate.cells ⊆ bothCells baseline candidate := Finset.subset_union_right
  rw [offDiagonalSum_eq candidate hcandidate, offDiagonalSum_eq baseline hbaseline, ← Finset.sum_sub_distrib]
  rfl

include hb hc

theorem bothCells_plain {cell : Str × Str} (h : cell ∈ bothCells baseline candidate) : ch ' ' ∉ cell.1 :=
  (Finset.mem_union.mp h).elim (hb cell) (hc cell)

theorem allKeys_flat :
    allKeys (flat baseline).keys (flat candidate).keys = sortedSet ((bothCells baseline candidate).image keyOf) := by
  unfold allKeys bothCells
  rw [flat_keys _ hb, flat_keys _ hc, Finset.image_union]

theorem splitKey_allKeys (key : Str) (h : key ∈ allKeys (flat baseline).keys (flat candidate).keys) :
    (splitKey key).isSome := by
  rw [allKeys_flat hb hc, mem_sortedSet] at h
  obtain ⟨cell, hcell, rfl⟩ := Finset.mem_image.mp h
  rw [keyOf, splitKey_cellKey _ _ (bothCells_plain hb hc hcell)]
  rfl

theorem countP_allKeys (p : Str × Str → Int → Prop) [∀ cell delta, Decidable (p cell delta)] :
    (allKeys (flat baseline).keys (flat candidate).keys).countP
        (fun key => p (cellOf key) (deltaOf (flat baseline) (flat candidate) key)) =
      {cell ∈ bothCells baseline candidate | p cell (cellDelta baseline candidate cell)}.card := by
  have hinjective : Set.InjOn keyOf (bothCells baseline candidate) := by
    intro cell hcell cell' hcell' heq
    rw [← cellOf_keyOf (bothCells_plain hb hc hcell), heq, cellOf_keyOf (bothCells_plain hb hc hcell')]
  have hnodup := sortedSet_nodup ((bothCells baseline candidate).image keyOf)
  rw [allKeys_flat hb hc, List.countP_eq_length_filter, ← List.toFinset_card_of_nodup (hnodup.filter _),
    List.toFinset_filter, sortedSet_toFinset, Finset.filter_image,
    Finset.card_image_of_injOn (hinjective.mono (Finset.filter_subset _ _))]
  refine congrArg Finset.card (Finset.filter_congr fun cell hcell => ?_)
  have hplain := bothCells_plain hb hc hcell
  rw [decide_eq_true_eq, cellOf_keyOf hplain, deltaOf, flat_count _ hb hplain, flat_count _ hc hplain]
  rfl

end Tables

/-! ## Reports -/

/-- A benchmark, and the file that its report is in. -/
structure Benchmark where
  classifier : DeviceClassifier
  devices : List Device
  expectedByIp : Dict Str DeviceType
  datasetName : Str
  generatedAt : Str
  path : Str
  name : Str

section Reports

variable (py : Interpreter) (u : Unicode) (decimal : CodePoint → Option (Fin 10)) (fl : Floats) (strOf : Json → Str)

def Benchmark.report (b : Benchmark) : BenchmarkReport :=
  BenchmarkRunner.report u fl b.classifier b.devices b.expectedByIp b.datasetName

/-- The file that a benchmark writes. -/
def Benchmark.file (b : Benchmark) : ReportFile :=
  ⟨b.path, b.name, BenchmarkRunner.benchmarkReportToDict (b.report u fl) b.generatedAt⟩

theorem name_plain (deviceType : DeviceType) : ch ' ' ∉ deviceType.name := by
  cases deviceType <;> decide

theorem matrix_plain (b : Benchmark) : Plain (b.report u fl).confusionMatrix := by
  intro cell hcell
  have h := BenchmarkRunner.tally_tallied u b.expectedByIp b.classifier b.devices
  have hrow := CountTable.row_of_cell _ hcell
  unfold Benchmark.report BenchmarkRunner.report at hrow
  rw [CountTable.keys_layout _ _ _ (sortedSet_nodup _), mem_sortedSet, h.expectedTypes] at hrow
  obtain ⟨⟨expected, actual⟩, hmem, heq⟩ := List.mem_map.mp hrow
  obtain ⟨s, -, hs⟩ := List.mem_filterMap.mp hmem
  obtain ⟨deviceType, -, hname⟩ := Option.map_eq_some_iff.mp hs
  rw [← heq, ← (Prod.mk.inj hname).1]
  exact name_plain deviceType

theorem summary_plain (b : Benchmark) : Plain (b.report u fl).misclassificationSummary := by
  intro cell hcell
  have h := BenchmarkRunner.tally_tallied u b.expectedByIp b.classifier b.devices
  have hrow := (h.missed.sorted.keys cell.1).mp (CountTable.row_of_cell _ hcell)
  obtain ⟨_, hmiss, hkey⟩ := List.mem_map.mp hrow
  obtain ⟨⟨expected, actual⟩, -, rfl⟩ := List.mem_map.mp hmiss
  have hmissing : ch ' ' ∉ BenchmarkRunner.missing := by decide
  rw [← hkey]
  cases expected with
  | none => exact hmissing
  | some deviceType => exact name_plain deviceType

/-- What the comparison of two reports holds. -/
structure Sums (baseline candidate : BenchmarkReport) (result : CompareResult) : Prop where
  misclassification : result.misclassification =
    (allKeys (flat baseline.misclassificationSummary).keys (flat candidate.misclassificationSummary).keys).map
      (countDeltaRow (flat baseline.misclassificationSummary) (flat candidate.misclassificationSummary))
  offDiagonal : result.confusionOffDiagonalDelta =
    offDiagonalSum candidate.confusionMatrix - offDiagonalSum baseline.confusionMatrix
  cells : CellCounts.mk result.confusionImprovedCells result.confusionRegressedCells result.confusionUnchangedCells
      result.confusionChangedCells =
    cellCounts (flat baseline.confusionMatrix) (flat candidate.confusionMatrix)
      (allKeys (flat baseline.confusionMatrix).keys (flat candidate.confusionMatrix).keys)

def summaryDicts (summaries : List (Str × TypeSummary)) : List (Str × Json) :=
  summaries.map fun e => (e.1, BenchmarkRunner.typeSummaryDict e.2)

/-- What the comparison reads of the file of a report. -/
structure Holds (payload : List (Str × Json)) (report : BenchmarkReport) : Prop where
  accuracy : payload.lookup (str "accuracy_percentage") = some (.float report.accuracyPercentage)
  types : payload.lookup (str "device_type_summary") = some (.obj (summaryDicts report.deviceTypeSummary.entries))
  matrix : payload.lookup (str "confusion_matrix") = some (BenchmarkRunner.tableDict report.confusionMatrix)
  misclassification : payload.lookup (str "misclassification_summary") =
    some (BenchmarkRunner.tableDict report.misclassificationSummary)

theorem loadReport_file (b : Benchmark) :
    ∃ payload, loadReport (b.file u fl) = .ok payload ∧ Holds payload (b.report u fl) :=
  ⟨_, rfl, rfl, rfl, rfl, rfl⟩

section Payload

variable {payload : List (Str × Json)} {report : BenchmarkReport} (h : Holds payload report)

include h

theorem accuracyOf_ok : accuracyOf py fl payload = .ok (py.floatRepr report.accuracyPercentage) := by
  unfold accuracyOf
  rw [h.accuracy]
  rfl

theorem typesOf_ok : typesOf payload = .ok (summaryDicts report.deviceTypeSummary.entries) := by
  unfold typesOf
  rw [h.types]
  rfl

end Payload

theorem typeAccuracy_summaries (summaries : List (Str × TypeSummary)) (deviceType : Str) :
    ∃ accuracy, typeAccuracy py fl (summaryDicts summaries) deviceType = .ok accuracy := by
  unfold typeAccuracy summaryDicts
  induction summaries with
  | nil => exact ⟨_, rfl⟩
  | cons e summaries ih =>
    rw [List.map_cons, List.lookup_cons]
    cases deviceType == e.1 with
    | true => exact ⟨_, rfl⟩
    | false => exact ih

theorem perDeviceType_ok (baseline candidate : List (Str × TypeSummary)) (deviceTypes : List Str) :
    ∃ rows, (deviceTypes.mapM fun deviceType => do
      return deltaRow fl deviceType (← typeAccuracy py fl (summaryDicts baseline) deviceType)
        (← typeAccuracy py fl (summaryDicts candidate) deviceType)) = .ok rows := by
  have hrow : ∀ deviceType ∈ deviceTypes, ∃ row, (do
      return deltaRow fl deviceType (← typeAccuracy py fl (summaryDicts baseline) deviceType)
        (← typeAccuracy py fl (summaryDicts candidate) deviceType)) = Except.ok row ∧ True := by
    intro deviceType _
    obtain ⟨x, hx⟩ := typeAccuracy_summaries py fl baseline deviceType
    obtain ⟨y, hy⟩ := typeAccuracy_summaries py fl candidate deviceType
    rw [hx, hy]
    exact ⟨_, rfl, trivial⟩
  obtain ⟨rows, hrows, -⟩ := mapM_ok _ (fun _ _ => True) deviceTypes hrow
  exact ⟨rows, hrows⟩

theorem compareReports_sums (baseline candidate : Benchmark) :
    ∃ result, compareReports py decimal fl strOf (baseline.file u fl) (candidate.file u fl) = .ok result ∧
      Sums (baseline.report u fl) (candidate.report u fl) result := by
  obtain ⟨baselinePayload, hbaseline, hb⟩ := loadReport_file u fl baseline
  obtain ⟨candidatePayload, hcandidate, hc⟩ := loadReport_file u fl candidate
  obtain ⟨rows, hrows⟩ := perDeviceType_ok py fl (baseline.report u fl).deviceTypeSummary.entries
    (candidate.report u fl).deviceTypeSummary.entries
    (allKeys ((summaryDicts (baseline.report u fl).deviceTypeSummary.entries).map Prod.fst)
      ((summaryDicts (candidate.report u fl).deviceTypeSummary.entries).map Prod.fst))
  have hloop := loop_counts (flat (baseline.report u fl).confusionMatrix)
    (flat (candidate.report u fl).confusionMatrix) _
    (splitKey_allKeys (matrix_plain u fl baseline) (matrix_plain u fl candidate))
  unfold compareReports flattenMisclassifications flattenConfusionMatrix
  rw [hbaseline, hcandidate]
  simp only [ok_bind, accuracyOf_ok py fl hb, accuracyOf_ok py fl hc, typesOf_ok hb,
    typesOf_ok hc, hrows, flatten_table _ _ _ _ _ _ hb.misclassification, flatten_table _ _ _ _ _ _ hc.misclassification,
    flatten_table _ _ _ _ _ _ hb.matrix, flatten_table _ _ _ _ _ _ hc.matrix, offDiagonalTotal_table _ _ _ _ _ hb.matrix,
    offDiagonalTotal_table _ _ _ _ _ hc.matrix, hloop]
  exact ⟨_, rfl, rfl, rfl, rfl⟩

/-- A comparison adds up, over the cells of both matrices. -/
structure Balances (baseline candidate : CountTable Str Str) (result : CompareResult) : Prop where
  improved : result.confusionImprovedCells =
    {cell ∈ bothCells baseline candidate | Improves cell (cellDelta baseline candidate cell)}.card
  regressed : result.confusionRegressedCells =
    {cell ∈ bothCells baseline candidate | Regresses cell (cellDelta baseline candidate cell)}.card
  changed : result.confusionImprovedCells + result.confusionRegressedCells = result.confusionChangedCells
  cells : result.confusionChangedCells + result.confusionUnchangedCells = (bothCells baseline candidate).card
  offDiagonal : result.confusionOffDiagonalDelta =
    ∑ cell ∈ bothCells baseline candidate with cell.1 ≠ cell.2, cellDelta baseline candidate cell

/-- A comparison, and the one of the swapped reports. It has a row for each cell of the two tables of
misclassifications. -/
structure Mirrors (baseline candidate : CountTable Str Str) (result swapped : CompareResult) : Prop where
  keys : result.misclassification.map (·.key) = sortedSet ((bothCells baseline candidate).image keyOf)
  deltas : ∀ cell ∈ bothCells baseline candidate, ∀ row ∈ result.misclassification, row.key = keyOf cell →
    row.delta = cellDelta baseline candidate cell
  misclassification : swapped.misclassification.map (fun row => (row.key, row.delta)) =
    result.misclassification.map fun row => (row.key, -row.delta)
  offDiagonal : swapped.confusionOffDiagonalDelta = -result.confusionOffDiagonalDelta
  improved : swapped.confusionImprovedCells = result.confusionRegressedCells
  regressed : swapped.confusionRegressedCells = result.confusionImprovedCells

section Sums

variable {baseline candidate : BenchmarkReport} {result swapped : CompareResult}

theorem Sums.balances (h : Sums baseline candidate result) (hb : Plain baseline.confusionMatrix)
    (hc : Plain candidate.confusionMatrix) :
    Balances baseline.confusionMatrix candidate.confusionMatrix result := by
  obtain ⟨himproved, hregressed, hunchanged, hchanged⟩ := CellCounts.mk.inj h.cells
  refine ⟨?_, ?_, ?_, ?_, ?_⟩
  · exact himproved.trans (countP_allKeys hb hc Improves)
  · exact hregressed.trans (countP_allKeys hb hc Regresses)
  · rw [himproved, hregressed, hchanged]
    exact improved_add_regressed _ _ _
  · have hlength := countP_allKeys hb hc fun _ _ => True
    rw [hchanged, hunchanged]
    refine (changed_add_unchanged _ _ _).trans ?_
    simpa using hlength
  · exact h.offDiagonal.trans offDiagonal_delta

theorem Sums.mirrors (h : Sums baseline candidate result) (h' : Sums candidate baseline swapped)
    (hb : Plain baseline.misclassificationSummary) (hc : Plain candidate.misclassificationSummary) :
    Mirrors baseline.misclassificationSummary candidate.misclassificationSummary result swapped := by
  obtain ⟨himproved, hregressed, -, -⟩ := CellCounts.mk.inj h.cells
  obtain ⟨himproved', hregressed', -, -⟩ := CellCounts.mk.inj h'.cells
  refine ⟨?_, ?_, ?_, ?_, ?_, ?_⟩
  · rw [h.misclassification, List.map_map, ← allKeys_flat hb hc]
    exact List.map_id _
  · intro cell hcell row hrow hkey
    rw [h.misclassification] at hrow
    obtain ⟨key, -, rfl⟩ := List.mem_map.mp hrow
    obtain rfl : key = keyOf cell := hkey
    have hplain := bothCells_plain hb hc hcell
    change deltaOf _ _ _ = _
    rw [deltaOf, flat_count _ hb hplain, flat_count _ hc hplain]
    rfl
  · rw [h.misclassification, h'.misclassification, allKeys_comm, List.map_map, List.map_map]
    refine List.map_congr_left fun key _ => ?_
    exact congrArg (key, ·) (deltaOf_swap _ _ key)
  · rw [h.offDiagonal, h'.offDiagonal, neg_sub]
  · rw [himproved', hregressed, allKeys_comm]
    exact improved_swap _ _ _
  · rw [hregressed', himproved, allKeys_comm]
    exact (improved_swap _ _ _).symm

theorem Sums.unchanged (h : Sums baseline baseline result) : result.confusionChangedCells = 0 :=
  (CellCounts.mk.inj h.cells).2.2.2.trans (changed_self _ _)

end Sums

theorem comparison_balances (baseline candidate : Benchmark) :
    ∃ result swapped itself,
      compareReports py decimal fl strOf (baseline.file u fl) (candidate.file u fl) = .ok result ∧
      compareReports py decimal fl strOf (candidate.file u fl) (baseline.file u fl) = .ok swapped ∧
      compareReports py decimal fl strOf (baseline.file u fl) (baseline.file u fl) = .ok itself ∧
      Balances (baseline.report u fl).confusionMatrix (candidate.report u fl).confusionMatrix result ∧
      Mirrors (baseline.report u fl).misclassificationSummary (candidate.report u fl).misclassificationSummary result
        swapped ∧ itself.confusionChangedCells = 0 := by
  obtain ⟨result, hresult, hsums⟩ := compareReports_sums py u decimal fl strOf baseline candidate
  obtain ⟨swapped, hswapped, hsums'⟩ := compareReports_sums py u decimal fl strOf candidate baseline
  obtain ⟨itself, hitself, hself⟩ := compareReports_sums py u decimal fl strOf baseline baseline
  exact ⟨result, swapped, itself, hresult, hswapped, hitself,
    hsums.balances (matrix_plain u fl baseline) (matrix_plain u fl candidate),
    hsums.mirrors hsums' (summary_plain u fl baseline) (summary_plain u fl candidate), hself.unchanged⟩

end Reports

end Compare

end NetworkMapper
