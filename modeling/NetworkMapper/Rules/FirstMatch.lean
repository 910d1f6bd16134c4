import Mathlib.Data.List.Basic

/-!
# Rules in order, up to the first that decides

A rule looks at a subject and has a result. Some results carry a verdict.
-/

namespace FirstMatch

variable {α ρ β : Type} (verdict : ρ → Option β)

/-- The results up to the first with a verdict, and the verdict. -/
def run (a : α) : List (α → ρ) → List ρ × Option β
  | [] => ([], none)
  | rule :: rules =>
    match verdict (rule a) with
    | some v => ([rule a], some v)
    | none => (rule a :: (run a rules).1, (run a rules).2)

/-- The place of the first rule that decides, or the number of rules. -/
def position (a : α) (rules : List (α → ρ)) : Nat := rules.findIdx fun rule => (verdict (rule a)).isSome

theorem run_results (a : α) (rules : List (α → ρ)) :
    (run verdict a rules).1 = (rules.take (position verdict a rules + 1)).map fun rule => rule a := by
  induction rules with
  | nil => rfl
  | cons rule rules ih =>
    unfold run position
    rw [List.findIdx_cons]
    cases h : verdict (rule a) with
    | some v => simp
    | none => simp [ih, position]

theorem run_congr (a b : α) (rules : List (α → ρ)) (h : ∀ rule ∈ rules, rule a = rule b) :
    run verdict a rules = run verdict b rules := by
  induction rules with
  | nil => rfl
  | cons rule rules ih =>
    rw [List.forall_mem_cons] at h
    unfold run
    rw [h.1, ih h.2]

theorem run_undecided (a : α) (rules : List (α → ρ)) : ∀ r ∈ (run verdict a rules).1.dropLast, verdict r = none := by
  induction rules with
  | nil => simp [run]
  | cons rule rules ih =>
    unfold run
    cases h : verdict (rule a) with
    | some v => simp
    | none =>
      cases hrest : (run verdict a rules).1 with
      | nil => simp
      | cons r results =>
        rw [hrest] at ih
        simp only [List.dropLast_cons_cons, List.forall_mem_cons]
        exact ⟨h, ih⟩

theorem run_verdict_none (a : α) (rules : List (α → ρ)) :
    (run verdict a rules).2 = none ↔ ∀ rule ∈ rules, verdict (rule a) = none := by
  induction rules with
  | nil => simp [run]
  | cons rule rules ih =>
    unfold run
    cases h : verdict (rule a) with
    | some v => simp [h]
    | none => simp [h, ih]

theorem run_all (a : α) (rules : List (α → ρ)) (h : (run verdict a rules).2 = none) :
    (run verdict a rules).1 = rules.map fun rule => rule a := by
  induction rules with
  | nil => rfl
  | cons rule rules ih =>
    have hall := (run_verdict_none verdict a (rule :: rules)).mp h
    rw [List.forall_mem_cons] at hall
    unfold run
    rw [hall.1, ih ((run_verdict_none verdict a rules).mpr hall.2)]
    rfl

theorem run_verdict_some (a : α) (rules : List (α → ρ)) (v : β) (h : (run verdict a rules).2 = some v) :
    ∃ r, (run verdict a rules).1.getLast? = some r ∧ verdict r = some v := by
  induction rules with
  | nil => simp [run] at h
  | cons rule rules ih =>
    unfold run at h ⊢
    cases hrule : verdict (rule a) with
    | some w =>
      rw [hrule] at h
      exact ⟨rule a, rfl, hrule.trans h⟩
    | none =>
      rw [hrule] at h
      obtain ⟨r, hr, hv⟩ := ih h
      refine ⟨r, ?_, hv⟩
      rw [List.getLast?_cons, hr]
      rfl

/-- The verdict is that of the rule at `position`. -/
theorem run_verdict (a : α) (rules : List (α → ρ)) :
    (run verdict a rules).2 = rules[position verdict a rules]?.bind fun rule => verdict (rule a) := by
  induction rules with
  | nil => rfl
  | cons rule rules ih =>
    unfold run position
    rw [List.findIdx_cons]
    cases h : verdict (rule a) with
    | some v => simp [h]
    | none =>
      rw [position] at ih
      simp [ih]

end FirstMatch
