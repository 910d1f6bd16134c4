import NetworkMapper.Devtools.ReplayObservations
import NetworkMapper.Python.Counter

/-! # What the comparison reports

The counters are about edges and the differing list is about the rows of one
edge. Rows that agree on every edge, and under every edge, are permuted.
-/

open Python

namespace NetworkMapper

namespace ReplayObservations

variable (replayedRows csvRows : List RelationshipRow)

/-- The rows of one edge, in their order. -/
def rowsOf (rows : List RelationshipRow) (edge : List Str) : List RelationshipRow := rows.filter (·.edge = edge)

/-! ## Each category -/

theorem mem_differing (d : DifferingEdge) :
    d ∈ (compareRows replayedRows csvRows).differing ↔
      d.edge ∈ replayedRows.map (·.edge) ∧ d.edge ∈ csvRows.map (·.edge) ∧
        ¬ (rowsOf csvRows d.edge).Perm (rowsOf replayedRows d.edge) ∧
        d.csvRows = rowsOf csvRows d.edge ∧ d.replayedRows = rowsOf replayedRows d.edge := by
  unfold compareRows
  simp only [List.mem_filterMap, mem_sortedBy, List.mem_filter, List.mem_dedup, decide_eq_true_eq,
    Option.ite_none_left_eq_some, Option.some.injEq]
  constructor
  · rintro ⟨edge, ⟨hreplayed, hcsv⟩, hdiffer, rfl⟩
    exact ⟨hreplayed, hcsv, hdiffer, rfl, rfl⟩
  · rintro ⟨hreplayed, hcsv, hdiffer, hc, hr⟩
    refine ⟨d.edge, ⟨hreplayed, hcsv⟩, hdiffer, ?_⟩
    cases d
    rw [DifferingEdge.mk.injEq]
    exact ⟨rfl, hc.symm, hr.symm⟩

theorem differing_edge (edge : List Str) :
    edge ∈ (compareRows replayedRows csvRows).differing.map (·.edge) ↔
      edge ∈ replayedRows.map (·.edge) ∧ edge ∈ csvRows.map (·.edge) ∧
        ¬ (rowsOf csvRows edge).Perm (rowsOf replayedRows edge) := by
  simp only [List.mem_map (l := (compareRows replayedRows csvRows).differing), mem_differing]
  constructor
  · rintro ⟨d, ⟨hreplayed, hcsv, hdiffer, -⟩, rfl⟩
    exact ⟨hreplayed, hcsv, hdiffer⟩
  · rintro ⟨hreplayed, hcsv, hdiffer⟩
    exact ⟨⟨edge, rowsOf csvRows edge, rowsOf replayedRows edge⟩, ⟨hreplayed, hcsv, hdiffer, rfl, rfl⟩, rfl⟩

theorem orderDiffers_iff :
    (compareRows replayedRows csvRows).orderDiffers = true ↔ replayedRows ≠ csvRows ∧ replayedRows.Perm csvRows := by
  unfold RelationshipComparison.orderDiffers RelationshipComparison.matches compareRows
  simp

/-! ## All of them together -/

/-- Nothing in the counters and nothing listed. -/
def Silent (c : RelationshipComparison) : Prop := c.missingFromReplay = 0 ∧ c.notInCsv = 0 ∧ c.differing = []

theorem silent_iff_perm : Silent (compareRows replayedRows csvRows) ↔ replayedRows.Perm csvRows := by
  constructor
  · rintro ⟨hmissing, hnot, hdiffering⟩
    have hedges : (replayedRows.map (·.edge)).Perm (csvRows.map (·.edge)) :=
      (perm_iff_diff _ _).mpr ⟨List.eq_nil_of_length_eq_zero hnot, List.eq_nil_of_length_eq_zero hmissing⟩
    apply perm_of_groups (·.edge) replayedRows csvRows hedges
    intro edge hreplayed hcsv
    by_contra hdiffer
    have hlisted := (differing_edge replayedRows csvRows edge).mpr ⟨hreplayed, hcsv, hdiffer⟩
    rw [hdiffering] at hlisted
    cases hlisted
  · intro hperm
    obtain ⟨hnot, hmissing⟩ := (perm_iff_diff _ _).mp (hperm.map (·.edge))
    refine ⟨congrArg List.length hmissing, congrArg List.length hnot, ?_⟩
    apply List.eq_nil_iff_forall_not_mem.mpr
    intro d hd
    exact ((mem_differing replayedRows csvRows d).mp hd).2.2.1 (hperm.symm.filter _)

/-- What a comparison of two lists of rows says about them. -/
structure Explains (c : RelationshipComparison) : Prop where
  equal : replayedRows = csvRows → Silent c ∧ c.orderDiffers = false
  unequal : replayedRows ≠ csvRows →
    0 < c.missingFromReplay ∨ 0 < c.notInCsv ∨ c.differing ≠ [] ∨ c.orderDiffers = true
  order : c.orderDiffers = true ↔ replayedRows ≠ csvRows ∧ replayedRows.Perm csvRows
  order_only : c.orderDiffers = true → Silent c
  differing : ∀ edge, edge ∈ c.differing.map (·.edge) ↔
    edge ∈ replayedRows.map (·.edge) ∧ edge ∈ csvRows.map (·.edge) ∧
      ¬ (rowsOf csvRows edge).Perm (rowsOf replayedRows edge)
  balance : (c.missingFromReplay : Int) - c.notInCsv = csvRows.length - replayedRows.length

theorem compareRows_explains : Explains replayedRows csvRows (compareRows replayedRows csvRows) := by
  have hsilent := silent_iff_perm replayedRows csvRows
  have horder := orderDiffers_iff replayedRows csvRows
  refine ⟨?_, ?_, horder, ?_, differing_edge replayedRows csvRows, ?_⟩
  · intro heq
    refine ⟨hsilent.mpr (List.Perm.of_eq heq), ?_⟩
    rw [Bool.eq_false_iff]
    exact fun h => (horder.mp h).1 heq
  · intro hne
    -- Rows that agree on every category are permuted, and then their order differs.
    by_contra hnone
    push Not at hnone
    obtain ⟨hmissing, hnot, hdiffering, hordered⟩ := hnone
    apply hordered
    exact horder.mpr ⟨hne, hsilent.mp ⟨by omega, by omega, hdiffering⟩⟩
  · intro h
    exact hsilent.mpr (horder.mp h).2
  · have hlengths := (diff_append_perm (csvRows.map (·.edge)) (replayedRows.map (·.edge))).length_eq
    simp only [List.length_append, List.length_map] at hlengths
    unfold compareRows
    simp only
    omega

end ReplayObservations

end NetworkMapper
