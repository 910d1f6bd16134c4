import NetworkMapper.Developer.BenchmarkReport

/-!
# The report adds up

Every counter of the loop is a count of the devices so far, so the numbers of the
report agree with each other.
-/

open Python

namespace NetworkMapper

namespace BenchmarkRunner

/-! ## What the loop counts -/

/-- A device, as far as its counts go. -/
structure Scored where
  expected : Option DeviceType
  actual : DeviceType

namespace Scored

/-- The device has the type that is expected of it. -/
def correct (s : Scored) : Prop := s.expected = some s.actual

instance (s : Scored) : Decidable s.correct := inferInstanceAs (Decidable (_ = _))

/-- The cell of the confusion matrix. -/
def cell (s : Scored) : Option (Str × Str) := s.expected.map fun expected => (expected.name, s.actual.name)

/-- The cell of the misclassifications. -/
def bucket (s : Scored) : Str × Str := ((s.expected.map DeviceType.name).getD missing, s.actual.name)

end Scored

/-- A device without a matching rule counts as `UNKNOWN`. -/
def score (u : Unicode) (expectedByIp : Dict Str DeviceType) (device : Device) : Scored :=
  ⟨expectedByIp.get? device.ipAddress, (outcome u device).2.getD .unknown⟩

/-- The pairs that the confusion matrix counts. -/
def cells (scores : List Scored) : List (Str × Str) := scores.filterMap Scored.cell

/-- The pairs that the misclassifications count. -/
def misses (scores : List Scored) : List (Str × Str) := (scores.filter fun s => ¬ s.correct).map Scored.bucket

/-- What the summary has for a type. -/
def expectedCounts (cells : List (Str × Str)) (n : Str) : TypeCounts where
  total := cells.countP fun cell => cell.1 = n
  correct := cells.countP fun cell => cell.1 = n ∧ cell.1 = cell.2
  incorrect := cells.countP fun cell => cell.1 = n ∧ cell.1 ≠ cell.2

/-- The counters of the loop are counts of these scores. -/
structure Tallied (scores : List Scored) (t : Tally) : Prop where
  correct : t.correctClassifications = scores.countP fun s => s.correct
  matrix : CountTable.Counts (cells scores) t.confusionMatrixCounts
  missed : CountTable.Counts (misses scores) t.misclassificationSummary
  mismatches : t.mismatches.map (fun m => (m.expectedDeviceType, m.actualDeviceType)) = misses scores
  expectedTypes : ∀ n, n ∈ t.expectedDeviceTypes ↔ n ∈ (cells scores).map Prod.fst
  actualTypes : ∀ n, n ∈ t.actualDeviceTypes ↔ n ∈ (cells scores).map Prod.snd
  summaryTypes : ∀ n, n ∈ t.deviceTypeSummaryCounts.keys ↔ n ∈ (cells scores).map Prod.fst
  summary : ∀ n, countsOf t.deviceTypeSummaryCounts n = expectedCounts (cells scores) n

theorem tallied_nil (classifier : DeviceClassifier) : Tallied [] { classifier := classifier } where
  correct := rfl
  matrix := CountTable.counts_empty
  missed := CountTable.counts_empty
  mismatches := rfl
  expectedTypes _ := by simp [cells]
  actualTypes _ := by simp [cells]
  summaryTypes _ := Iff.rfl
  summary _ := rfl

theorem cells_append (scores : List Scored) (s : Scored) : cells (scores ++ [s]) = cells scores ++ s.cell.toList := by
  unfold cells
  rw [List.filterMap_append]
  cases h : s.cell <;> simp [h]

theorem misses_append (scores : List Scored) (s : Scored) :
    misses (scores ++ [s]) = misses scores ++ if s.correct then [] else [s.bucket] := by
  unfold misses
  by_cases h : s.correct <;> simp [h]

theorem expectedCounts_append (cells : List (Str × Str)) (e a n : Str) :
    expectedCounts (cells ++ [(e, a)]) n =
      if e = n then
        let counts := expectedCounts cells n
        { total := counts.total + 1
          correct := counts.correct + if e = a then 1 else 0
          incorrect := counts.incorrect + if e = a then 0 else 1 }
      else expectedCounts cells n := by
  unfold expectedCounts
  simp only [List.countP_append, List.countP_singleton]
  by_cases hn : e = n
  · subst hn
    by_cases ha : e = a <;> simp [ha]
  · simp [hn]

theorem countsOf_set (counts : Dict Str TypeCounts) (n : Str) (c : TypeCounts) (n' : Str) :
    countsOf (counts.set n c) n' = if n = n' then c else countsOf counts n' := by
  unfold countsOf
  rw [Dict.get?_set]
  split <;> rfl

section Loop

variable (u : Unicode) (expectedByIp : Dict Str DeviceType)

theorem recordMismatch_missing {scores : List Scored} {t : Tally} (h : Tallied scores t) (device : Device)
    (actual : DeviceType) :
    Tallied (scores ++ [⟨none, actual⟩]) (t.recordMismatch device missing actual.name) := by
  have hcells : cells (scores ++ [⟨none, actual⟩]) = cells scores := by simp [cells_append, Scored.cell]
  have hmisses : misses (scores ++ [⟨none, actual⟩]) = misses scores ++ [(missing, actual.name)] := by
    simp [misses_append, Scored.correct, Scored.bucket]
  refine ⟨?_, ?_, ?_, ?_, ?_, ?_, ?_, ?_⟩
  · rw [List.countP_append, ← h.correct]
    simp [Tally.recordMismatch, Scored.correct]
  · exact hcells ▸ h.matrix
  · exact hmisses ▸ h.missed.bump missing actual.name
  · rw [hmisses, ← h.mismatches]
    simp [Tally.recordMismatch]
  · exact hcells ▸ h.expectedTypes
  · exact hcells ▸ h.actualTypes
  · exact hcells ▸ h.summaryTypes
  · exact hcells ▸ h.summary

theorem recordExpected_tables {scores : List Scored} {t : Tally} (h : Tallied scores t) (e a : Str) :
    CountTable.Counts (cells scores ++ [(e, a)]) (t.recordExpected e a).confusionMatrixCounts ∧
      (∀ n, n ∈ (t.recordExpected e a).expectedDeviceTypes ↔ n ∈ (cells scores ++ [(e, a)]).map Prod.fst) ∧
      ∀ n, n ∈ (t.recordExpected e a).actualDeviceTypes ↔ n ∈ (cells scores ++ [(e, a)]).map Prod.snd := by
  refine ⟨h.matrix.bump e a, fun n => ?_, fun n => ?_⟩
  · simp only [Tally.recordExpected, Finset.mem_insert, h.expectedTypes, List.map_append, List.mem_append,
      List.map_singleton, List.mem_singleton, or_comm]
  · simp only [Tally.recordExpected, Finset.mem_insert, h.actualTypes, List.map_append, List.mem_append,
      List.map_singleton, List.mem_singleton, or_comm]

theorem recordCorrect_tallied {scores : List Scored} {t : Tally} (h : Tallied scores t) (actual : DeviceType) :
    Tallied (scores ++ [⟨some actual, actual⟩])
      ((t.recordExpected actual.name actual.name).recordCorrect actual.name) := by
  have hcells : cells (scores ++ [⟨some actual, actual⟩]) = cells scores ++ [(actual.name, actual.name)] := by
    simp [cells_append, Scored.cell]
  have hmisses : misses (scores ++ [⟨some actual, actual⟩]) = misses scores := by simp [misses_append, Scored.correct]
  obtain ⟨hmatrix, hexpected, hactual⟩ := recordExpected_tables h actual.name actual.name
  refine ⟨?_, hcells ▸ hmatrix, hmisses ▸ h.missed, hmisses ▸ h.mismatches, hcells ▸ hexpected, hcells ▸ hactual,
    ?_, ?_⟩
  · rw [List.countP_append, ← h.correct]
    simp [Tally.recordCorrect, Tally.recordExpected, Scored.correct]
  · intro n
    simp [Tally.recordCorrect, Tally.recordExpected, hcells, h.summaryTypes]
  · intro n
    simp only [Tally.recordCorrect, Tally.recordExpected, countsOf_set, h.summary, hcells, expectedCounts_append]
    split <;> simp_all

theorem recordIncorrect_tallied {scores : List Scored} {t : Tally} (h : Tallied scores t) (device : Device)
    (expected actual : DeviceType) (hne : actual ≠ expected) :
    Tallied (scores ++ [⟨some expected, actual⟩])
      (((t.recordExpected expected.name actual.name).recordIncorrect expected.name).recordMismatch device expected.name
        actual.name) := by
  have hcells : cells (scores ++ [⟨some expected, actual⟩]) = cells scores ++ [(expected.name, actual.name)] := by
    simp [cells_append, Scored.cell]
  have hmisses : misses (scores ++ [⟨some expected, actual⟩]) = misses scores ++ [(expected.name, actual.name)] := by
    simp [misses_append, Scored.correct, Scored.bucket, hne.symm]
  have hnames : expected.name ≠ actual.name := fun heq => hne (DeviceType.name_injective _ _ heq).symm
  obtain ⟨hmatrix, hexpected, hactual⟩ := recordExpected_tables h expected.name actual.name
  refine ⟨?_, hcells ▸ hmatrix, hmisses ▸ h.missed.bump _ _, ?_, hcells ▸ hexpected, hcells ▸ hactual, ?_, ?_⟩
  · rw [List.countP_append, ← h.correct]
    simp [Tally.recordMismatch, Tally.recordIncorrect, Tally.recordExpected, Scored.correct, hne.symm]
  · rw [hmisses, ← h.mismatches]
    simp [Tally.recordMismatch, Tally.recordIncorrect, Tally.recordExpected]
  · intro n
    simp [Tally.recordMismatch, Tally.recordIncorrect, Tally.recordExpected, hcells, h.summaryTypes]
  · intro n
    simp only [Tally.recordMismatch, Tally.recordIncorrect, Tally.recordExpected, countsOf_set, h.summary, hcells,
      expectedCounts_append]
    split <;> simp_all

theorem step_tallied {scores : List Scored} {t : Tally} (h : Tallied scores t) (device : Device) :
    Tallied (scores ++ [score u expectedByIp device]) (t.step u expectedByIp device) := by
  have hstart : Tallied scores { t with classifier := (t.classifier.classify u device).1 } :=
    ⟨h.correct, h.matrix, h.missed, h.mismatches, h.expectedTypes, h.actualTypes, h.summaryTypes, h.summary⟩
  have hactual : (t.classifier.classify u device).2.deviceType = (outcome u device).2.getD .unknown := rfl
  unfold Tally.step score
  simp only [hactual]
  cases expectedByIp.get? device.ipAddress with
  | none => exact recordMismatch_missing hstart device _
  | some expected =>
    simp only
    split
    · rename_i heq
      rw [heq]
      exact recordCorrect_tallied hstart expected
    · rename_i hne
      exact recordIncorrect_tallied hstart device expected _ hne

theorem tally_tallied (classifier : DeviceClassifier) (devices : List Device) :
    Tallied (devices.map (score u expectedByIp)) (tally u expectedByIp classifier devices) := by
  unfold tally
  induction devices using List.reverseRecOn with
  | nil => exact tallied_nil classifier
  | append_singleton devices device ih =>
    rw [List.map_append, List.map_singleton, List.foldl_append, List.foldl_cons, List.foldl_nil]
    exact step_tallied u expectedByIp ih device

end Loop

/-! ## The report -/

/-- The numbers of a report agree, and it is about all devices of the inventory. -/
structure Balances (devices : List Device) (r : BenchmarkReport) : Prop where
  devices : r.totalDevices = devices.length
  total : r.totalDevices = r.correctClassifications + r.incorrectClassifications
  misclassified : r.misclassificationSummary.total = r.mismatches.length
  incorrect : r.mismatches.length = r.incorrectClassifications
  types : ∀ n summary, r.deviceTypeSummary.get? n = some summary →
    summary.total = summary.correct + summary.incorrect ∧
      ∃ row, r.confusionMatrix.get? n = some row ∧ row.values.sum = summary.total
  rows : ∀ n, n ∈ r.confusionMatrix.keys ↔ n ∈ r.deviceTypeSummary.keys
  diagonal : r.confusionMatrix.diagonal = r.correctClassifications
  offDiagonal : r.confusionMatrix.offDiagonal + (r.misclassificationSummary.row missing).values.sum =
    r.incorrectClassifications

section Report

variable (u : Unicode) (fl : Floats) (classifier : DeviceClassifier) (devices : List Device)
  (expectedByIp : Dict Str DeviceType) (datasetName : Str)

theorem misses_length (scores : List Scored) :
    (misses scores).length = scores.countP fun s => ¬ s.correct := by
  unfold misses
  rw [List.length_map, List.countP_eq_length_filter]

theorem scores_balance (scores : List Scored) :
    scores.length = (scores.countP fun s => s.correct) + (misses scores).length := by
  rw [misses_length, List.length_eq_countP_add_countP (fun s : Scored => decide s.correct)]
  simp

theorem name_ne_missing (deviceType : DeviceType) : deviceType.name ≠ missing := by
  cases deviceType <;> decide

theorem names_eq_iff (type type' : DeviceType) : type.name = type'.name ↔ type = type' :=
  ⟨DeviceType.name_injective type type', fun h => h ▸ rfl⟩

theorem cells_correct (scores : List Scored) :
    (cells scores).countP (fun cell => cell.1 = cell.2) = scores.countP fun s => s.correct := by
  unfold cells
  rw [List.countP_filterMap]
  refine List.countP_congr fun s _ => ?_
  obtain ⟨expected, actual⟩ := s
  cases expected <;> simp [Scored.cell, Scored.correct, names_eq_iff]

theorem cells_missed (scores : List Scored) :
    ((cells scores).countP fun cell => cell.1 ≠ cell.2) + ((misses scores).countP fun cell => cell.1 = missing) =
      (misses scores).length := by
  -- A miss is off the diagonal, or its type is missing.
  have hcells : ((cells scores).countP fun cell => cell.1 ≠ cell.2) =
      scores.countP fun s => s.expected ≠ none ∧ ¬ s.correct := by
    unfold cells
    rw [List.countP_filterMap]
    refine List.countP_congr fun s _ => ?_
    obtain ⟨expected, actual⟩ := s
    cases expected <;> simp [Scored.cell, Scored.correct, names_eq_iff]
  have hmissing : ((misses scores).countP fun cell => cell.1 = missing) = scores.countP fun s => s.expected = none := by
    unfold misses
    rw [List.countP_map, List.countP_filter]
    refine List.countP_congr fun s _ => ?_
    obtain ⟨expected, actual⟩ := s
    cases expected <;> simp [Scored.bucket, Scored.correct, name_ne_missing]
  rw [hcells, hmissing, misses_length]
  refine (countP_either _ _ _ scores fun s _ => ?_).symm
  obtain ⟨expected, actual⟩ := s
  cases expected <;> simp [Scored.correct]

theorem expectedCounts_balance (cells : List (Str × Str)) (n : Str) :
    (expectedCounts cells n).total = (expectedCounts cells n).correct + (expectedCounts cells n).incorrect := by
  refine countP_either _ _ _ cells fun cell _ => ⟨?_, ?_⟩
  · rw [← and_or_left, ne_eq, and_iff_left (em _)]
  · rintro ⟨⟨-, heq⟩, -, hne⟩
    exact hne heq

theorem countsOf_eq {counts : Dict Str TypeCounts} {n : Str} {c : TypeCounts} (h : counts.get? n = some c) :
    countsOf counts n = c := by
  unfold countsOf
  rw [h, Option.getD_some]

section Layout

variable {scores : List Scored} {t : Tally} (h : Tallied scores t)

include h

theorem mem_rows (n : Str) : n ∈ sortedSet t.expectedDeviceTypes ↔ n ∈ t.deviceTypeSummaryCounts.keys := by
  rw [mem_sortedSet, h.expectedTypes, h.summaryTypes]

theorem rows_cover (cell : Str × Str) (hcell : cell ∈ cells scores) : cell.1 ∈ sortedSet t.expectedDeviceTypes := by
  rw [mem_sortedSet, h.expectedTypes]
  exact List.mem_map_of_mem hcell

theorem columns_cover (cell : Str × Str) (hcell : cell ∈ cells scores) :
    cell.2 ∈ sortedSet (t.expectedDeviceTypes ∪ t.actualDeviceTypes) := by
  rw [mem_sortedSet, Finset.mem_union, h.actualTypes]
  exact Or.inr (List.mem_map_of_mem hcell)

end Layout

theorem rows_columns (t : Tally) (n : Str) (hn : n ∈ sortedSet t.expectedDeviceTypes) :
    n ∈ sortedSet (t.expectedDeviceTypes ∪ t.actualDeviceTypes) := by
  rw [mem_sortedSet] at *
  exact Finset.mem_union_left _ hn

theorem report_balances : Balances devices (report u fl classifier devices expectedByIp datasetName) := by
  have h := tally_tallied u expectedByIp classifier devices
  have hbalance := scores_balance (devices.map (score u expectedByIp))
  rw [List.length_map] at hbalance
  generalize devices.map (score u expectedByIp) = scores at h hbalance
  unfold report
  generalize tally u expectedByIp classifier devices = t at h
  have hcorrect := h.correct
  have hmismatches := congrArg List.length h.mismatches
  rw [List.length_map] at hmismatches
  have hmissed := h.missed.sorted
  have hrows := rows_cover h
  have hcolumns := columns_cover h
  have hrowsNodup := sortedSet_nodup t.expectedDeviceTypes
  have hcolumnsNodup := sortedSet_nodup (t.expectedDeviceTypes ∪ t.actualDeviceTypes)
  refine ⟨rfl, ?_, ?_, ?_, ?_, ?_, ?_, ?_⟩
  · simp only
    omega
  · exact hmissed.total_eq.trans hmismatches.symm
  · simp only
    omega
  · intro n summary hsummary
    rw [get?_mapSorted] at hsummary
    obtain ⟨counts, hcounts, rfl⟩ := Option.map_eq_some_iff.mp hsummary
    have hn : n ∈ sortedSet t.expectedDeviceTypes := (mem_rows h n).mpr ((Dict.mem_keys _ _).mpr ⟨counts, hcounts⟩)
    obtain rfl : expectedCounts (cells scores) n = counts := (h.summary n).symm.trans (countsOf_eq hcounts)
    exact ⟨expectedCounts_balance _ n, _, CountTable.get?_layout _ _ _ hrowsNodup hn,
      h.matrix.layout_row hcolumnsNodup hcolumns n⟩
  · intro n
    simp only [CountTable.keys_layout _ _ _ hrowsNodup]
    rw [mem_keys_mapSorted, mem_rows h]
  · simp only
    rw [h.matrix.layout_diagonal hrowsNodup hcolumnsNodup hrows (rows_columns t), cells_correct, hcorrect]
  · simp only
    rw [h.matrix.layout_offDiagonal hrowsNodup hcolumnsNodup hrows hcolumns, hmissed.row_sum, cells_missed]
    omega

end Report

end BenchmarkRunner

end NetworkMapper
