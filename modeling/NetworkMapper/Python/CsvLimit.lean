import NetworkMapper.Python.Csv

/-!
# Where `csv.reader` meets its field limit

Lines come with their terminators, so the reader raises nothing else. It raises on the
files in which some field is longer than the limit, read without one.
-/

namespace Python

def Interpreter.withFieldLimit (py : Interpreter) (limit : Nat) : Interpreter := { py with csvFieldLimit := limit }

namespace Csv

/-- Every field so far, the open one among them. -/
def State.texts (σ : State) : List Str := σ.field :: σ.fields ++ σ.rows.flatten

def State.Fits (σ : State) (limit : Nat) : Prop := ∀ field ∈ σ.texts, field.length ≤ limit

/-- What holds of a state that `rest` is still to be read from. -/
structure State.Ready (σ : State) (rest : Str) : Prop where
  blank : σ.scan = .startRecord ∨ σ.scan = .eatCrnl → σ.field = []
  crlf : σ.scan = .eatCrnl → ∃ t, rest = ch '\n' :: t
  ended : rest = [] → σ.scan = .inQuotedField ∨ σ.fields = [] ∧ σ.field = []

/-- What holds between a character and the check for the end of its line. -/
structure State.Read (σ : State) (c : CodePoint) : Prop where
  scan_ne : σ.scan ≠ .startRecord
  newline : σ.scan = .eatCrnl → isNewline c = true ∧ σ.field = []

/-- The step is to one state whatever the limit, or adds to the open field. -/
def Moves (σ : State) (c : CodePoint) (step : Interpreter → Except Error State) : Prop :=
  (∃ τ : State, (∀ py, step py = .ok τ) ∧ (∀ limit, τ.Fits limit ↔ σ.Fits limit) ∧
    τ.field.length ≤ σ.field.length ∧ τ.Read c) ∨
  ∃ scan, (scan = .inField ∨ scan = .inQuotedField) ∧ ∀ py, step py = σ.add py scan c

section Limit

variable {σ τ : State} {c : CodePoint} {rest : Str}

theorem fits_iff (σ : State) (limit : Nat) :
    σ.Fits limit ↔ σ.field.length ≤ limit ∧ (∀ field ∈ σ.fields, field.length ≤ limit) ∧
      ∀ field ∈ σ.rows.flatten, field.length ≤ limit := by
  unfold State.Fits State.texts
  rw [List.cons_append, List.forall_mem_cons, List.forall_mem_append]

theorem fits_save (scan : Scan) (limit : Nat) : (σ.save scan).Fits limit ↔ σ.Fits limit := by
  simp only [fits_iff, State.save, List.length_nil, Nat.zero_le, true_and, List.forall_mem_append,
    List.forall_mem_singleton]
  tauto

theorem fits_add (scan : Scan) (limit : Nat) :
    State.Fits ⟨scan, σ.field ++ [c], σ.fields, σ.rows⟩ limit ↔ σ.Fits limit ∧ σ.field.length < limit := by
  simp only [fits_iff, List.length_append, List.length_singleton]
  constructor
  · rintro ⟨hlen, hrest⟩
    exact ⟨⟨by omega, hrest⟩, by omega⟩
  · rintro ⟨⟨-, hrest⟩, hlt⟩
    exact ⟨by omega, hrest⟩

theorem fits_endLine (hblank : σ.scan = .startRecord ∨ σ.scan = .eatCrnl → σ.field = []) (limit : Nat) :
    σ.endLine.Fits limit ↔ σ.Fits limit := by
  unfold State.endLine
  split
  · exact Iff.rfl
  all_goals
    rename_i hscan
    simp only [fits_iff, start, List.length_nil, Nat.zero_le, List.not_mem_nil, false_implies, implies_true,
      true_and, List.flatten_append, List.flatten_singleton, List.forall_mem_append, List.forall_mem_singleton]
  -- The field that a finished record drops is empty.
  · have hfield := hblank (Or.inl hscan)
    simp only [hfield, List.length_nil, Nat.zero_le, true_and]
    tauto
  · have hfield := hblank (Or.inr hscan)
    simp only [hfield, List.length_nil, Nat.zero_le, true_and]
    tauto
  all_goals tauto

/-! ## One character -/

theorem moves_ok (h : ∀ limit, τ.Fits limit ↔ σ.Fits limit) (hlen : τ.field.length ≤ σ.field.length)
    (hread : τ.Read c) : Moves σ c fun _ => .ok τ :=
  Or.inl ⟨τ, fun _ => rfl, h, hlen, hread⟩

theorem moves_save (scan : Scan) (hne : scan ≠ .startRecord) (hnew : scan = .eatCrnl → isNewline c = true) :
    Moves σ c fun _ => .ok (σ.save scan) :=
  moves_ok (fits_save scan) (Nat.zero_le _) ⟨hne, fun h => ⟨hnew h, rfl⟩⟩

theorem moves_scan (scan : Scan) (hne : scan ≠ .startRecord)
    (hnew : scan = .eatCrnl → isNewline c = true ∧ σ.field = []) : Moves σ c fun _ => .ok { σ with scan := scan } :=
  moves_ok (fun _ => Iff.rfl) le_rfl ⟨hne, hnew⟩

theorem moves_add (scan : Scan) (h : scan = .inField ∨ scan = .inQuotedField) : Moves σ c fun py => σ.add py scan c :=
  Or.inr ⟨scan, h, fun _ => rfl⟩

theorem startField_moves (σ : State) (c : CodePoint) : Moves σ c fun py => startField py σ c := by
  unfold startField
  by_cases hnew : isNewline c = true
  · simp only [hnew, if_true]
    exact moves_save .eatCrnl (by simp) fun _ => hnew
  by_cases hquote : c = ch '"'
  · simp only [hquote, if_true]
    exact moves_scan .inQuotedField (by simp) (by simp)
  by_cases hcomma : c = ch ','
  · simp only [hcomma, if_true]
    exact moves_save .startField (by simp) (by simp)
  simp only [hnew, hquote, hcomma, if_false]
  exact moves_add .inField (Or.inl rfl)

theorem step_moves (h : σ.Ready (c :: rest)) : Moves σ c fun py => σ.step py c := by
  obtain ⟨scan, field, fields, rows⟩ := σ
  cases scan with
  | startRecord =>
    by_cases hnew : isNewline c = true
    · simp only [State.step, hnew, if_true]
      exact moves_scan .eatCrnl (by simp) fun _ => ⟨hnew, h.blank (Or.inl rfl)⟩
    · simp only [State.step, hnew]
      exact startField_moves _ c
  | startField => exact startField_moves _ c
  | inField =>
    by_cases hnew : isNewline c = true
    · simp only [State.step, hnew, if_true]
      exact moves_save .eatCrnl (by simp) fun _ => hnew
    by_cases hcomma : c = ch ','
    · simp only [State.step, hcomma, if_true]
      exact moves_save .startField (by simp) (by simp)
    simp only [State.step, hnew, hcomma, if_false]
    exact moves_add .inField (Or.inl rfl)
  | inQuotedField =>
    by_cases hquote : c = ch '"'
    · simp only [State.step, hquote, if_true]
      exact moves_scan .quoteInQuotedField (by simp) (by simp)
    · simp only [State.step, hquote, if_false]
      exact moves_add .inQuotedField (Or.inr rfl)
  | quoteInQuotedField =>
    by_cases hquote : c = ch '"'
    · simp only [State.step, hquote, if_true]
      exact moves_add .inQuotedField (Or.inr rfl)
    by_cases hcomma : c = ch ','
    · simp only [State.step, hcomma, if_true]
      exact moves_save .startField (by simp) (by simp)
    by_cases hnew : isNewline c = true
    · simp only [State.step, hquote, hcomma, hnew, if_true, if_false]
      exact moves_save .eatCrnl (by simp) fun _ => hnew
    simp only [State.step, hquote, hcomma, hnew, if_false]
    exact moves_add .inField (Or.inl rfl)
  | eatCrnl =>
    -- A line goes on after `\r` with `\n` only.
    obtain ⟨t, ht⟩ := h.crlf rfl
    have hnew : isNewline c = true := by
      rw [List.cons.injEq] at ht
      rw [ht.1]
      decide
    simp only [State.step, hnew, if_true]
    exact moves_scan .eatCrnl (by simp) fun _ => ⟨hnew, h.blank (Or.inr rfl)⟩

/-- The state after a character, the end of its line included. -/
def State.close (σ : State) (c : CodePoint) (rest : Str) : State := if endsLine c rest then σ.endLine else σ

theorem State.Read.ready (h : σ.Read c) : (σ.close c rest).Ready rest := by
  unfold State.close
  split
  · unfold State.endLine start
    split
    · rename_i hscan
      exact ⟨by simp [hscan], by simp [hscan], fun _ => Or.inl hscan⟩
    all_goals exact ⟨fun _ => rfl, by simp, fun _ => Or.inr ⟨rfl, rfl⟩⟩
  · rename_i hends
    simp only [endsLine, decide_eq_true_eq, not_or, not_and, not_not] at hends
    refine ⟨?_, ?_, fun hrest => absurd hrest hends.2.2⟩
    · rintro (hscan | hscan)
      · exact absurd hscan h.scan_ne
      · exact (h.newline hscan).2
    · intro hscan
      have hnew := (h.newline hscan).1
      unfold isNewline at hnew
      rcases of_decide_eq_true hnew with hcr | hlf
      · exact List.head?_eq_some_iff.mp (hends.2.1 hcr)
      · exact absurd hlf hends.1

theorem State.Read.fits_close (h : σ.Read c) (limit : Nat) : (σ.close c rest).Fits limit ↔ σ.Fits limit := by
  unfold State.close
  split
  · apply fits_endLine
    rintro (hscan | hscan)
    · exact absurd hscan h.scan_ne
    · exact (h.newline hscan).2
  · exact Iff.rfl

theorem close_field_length (σ : State) : (σ.close c rest).field.length ≤ σ.field.length := by
  unfold State.close State.endLine start
  repeat' split
  all_goals simp

theorem step_limit (py : Interpreter) (n : Nat) (h : σ.Ready (c :: rest)) (hn : σ.field.length < n) :
    ∃ τ : State, σ.step (py.withFieldLimit n) c = .ok τ ∧ τ.Read c ∧ τ.field.length ≤ σ.field.length + 1 ∧
      (τ.Fits py.csvFieldLimit → σ.Fits py.csvFieldLimit ∧ σ.step py c = .ok τ) ∧
      (σ.Fits py.csvFieldLimit → ¬ τ.Fits py.csvFieldLimit → σ.step py c = .error .fieldLimit) := by
  rcases step_moves h with ⟨τ, hstep, hfits, hlen, hread⟩ | ⟨scan, hscan, hstep⟩
  · exact ⟨τ, hstep _, hread, by omega, fun hτ => ⟨(hfits _).mp hτ, hstep py⟩,
      fun hσ hτ => absurd ((hfits _).mpr hσ) hτ⟩
  · refine ⟨⟨scan, σ.field ++ [c], σ.fields, σ.rows⟩, (hstep _).trans (add_ok _ σ scan c hn), ?_, by simp, ?_, ?_⟩
    · rcases hscan with rfl | rfl <;> exact ⟨by simp, by simp⟩
    · intro hτ
      obtain ⟨hσ, hlt⟩ := (fits_add scan _).mp hτ
      exact ⟨hσ, (hstep py).trans (add_ok py σ scan c hlt)⟩
    · intro hσ hτ
      have hle : py.csvFieldLimit ≤ σ.field.length := by
        by_contra hlt
        exact hτ ((fits_add scan _).mpr ⟨hσ, by omega⟩)
      exact (hstep py).trans (if_pos hle)

/-! ## The whole text -/

theorem run_limit (py : Interpreter) (n : Nat) (text : Str) (h : σ.Ready text) (hn : σ.field.length + text.length ≤ n) :
    ∃ τ : State, σ.run (py.withFieldLimit n) text = .ok τ ∧ τ.Ready [] ∧
      (τ.Fits py.csvFieldLimit → σ.Fits py.csvFieldLimit ∧ σ.run py text = .ok τ) ∧
      (σ.Fits py.csvFieldLimit → ¬ τ.Fits py.csvFieldLimit → σ.run py text = .error .fieldLimit) := by
  induction text generalizing σ with
  | nil => exact ⟨σ, rfl, h, fun hσ => ⟨hσ, rfl⟩, fun hσ hτ => absurd hσ hτ⟩
  | cons c rest ih =>
    rw [List.length_cons] at hn
    obtain ⟨μ, hstep, hread, hlen, hkeep, hraise⟩ := step_limit py n h (by omega)
    have hclose : (μ.close c rest).field.length ≤ μ.field.length := close_field_length μ
    have hfits : (μ.close c rest).Fits py.csvFieldLimit ↔ μ.Fits py.csvFieldLimit := hread.fits_close _
    obtain ⟨τ, hrun, hτ, hok, herror⟩ := ih hread.ready (by omega)
    refine ⟨τ, ?_, hτ, ?_, ?_⟩
    · rw [run_cons, hstep, ok_bind]
      exact hrun
    · intro hfit
      obtain ⟨hμ, hrun⟩ := hok hfit
      obtain ⟨hσ, hstep⟩ := hkeep (hfits.mp hμ)
      rw [run_cons, hstep, ok_bind]
      exact ⟨hσ, hrun⟩
    · intro hσ hfit
      rw [run_cons]
      by_cases hμ : μ.Fits py.csvFieldLimit
      · rw [(hkeep hμ).2, ok_bind]
        exact herror (hfits.mpr hμ) hfit
      · rw [hraise hσ hμ, error_bind]

/-- Every field of the text, read with no limit that matters, is within the limit. -/
def FieldsFit (py : Interpreter) (text : Str) : Prop :=
  ∀ rows, readRows (py.withFieldLimit text.length) text = .ok rows → ∀ row ∈ rows, ∀ field ∈ row,
    field.length ≤ py.csvFieldLimit

theorem readRows_limit (py : Interpreter) (text : Str) :
    (∃ rows, readRows py text = .ok rows) ↔ FieldsFit py text := by
  have hready : (start []).Ready text := ⟨fun _ => rfl, by simp [start], fun _ => Or.inr ⟨rfl, rfl⟩⟩
  have hfits : (start []).Fits py.csvFieldLimit := by simp [State.Fits, State.texts, start]
  obtain ⟨τ, hrun, hτ, hok, herror⟩ := run_limit py text.length text hready (by simp [start])
  have hrows : FieldsFit py text ↔ τ.Fits py.csvFieldLimit := by
    unfold FieldsFit readRows
    simp only [hrun, ok_bind, pure_ok, Except.ok.injEq, forall_eq', fits_iff, List.forall_mem_flatten]
    split
    · simp only [List.forall_mem_append, List.forall_mem_singleton]
      tauto
    · -- A record that is not inside quotes is finished.
      rename_i hscan
      obtain ⟨hfields, hfield⟩ := (hτ.ended rfl).resolve_left hscan
      simp [hfields, hfield]
  rw [hrows]
  unfold readRows
  constructor
  · rintro ⟨rows, hrows⟩
    by_contra hτ
    rw [herror hfits hτ] at hrows
    simp at hrows
  · intro hτ
    rw [(hok hτ).2]
    exact ⟨_, rfl⟩

end Limit

end Csv

end Python
