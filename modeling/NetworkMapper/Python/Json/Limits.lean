import NetworkMapper.Python.Json.Loads

/-!
# Where `json.loads` meets a limit

The errors that are not a `JSONDecodeError` come from an integer literal with too many
digits and from arrays and objects that are open too deep. Both show in the state
before the character that raises them.
-/

namespace Python

/-- The digits of the longest match of a number, or 0 when that has a fraction or an exponent. -/
def integerDigits (literal : Str) : Nat :=
  match matchInteger (matchSign literal).2 with
  | none => 0
  | some (integer, s) => if (matchFraction s).1 ++ (matchExponent (matchFraction s).2).1 = [] then integer.length else 0

/-- How many arrays and objects are open where a value may start. -/
def LoadState.openAtValue (σ : LoadState) : Option Nat :=
  match σ.scan with
  | .value => some σ.stack.length
  | .firstItem => some (σ.stack.length + 1)
  | _ => none

/-- The rest of the text opens an array or an object too many, or ends a literal with too many digits. -/
inductive LoadState.Exceeds (py : Interpreter) (σ : LoadState) : Str → Prop where
  | nesting (n : Nat) (c : CodePoint) (rest : Str) (hopen : σ.openAtValue = some n) (hc : c = ch '{' ∨ c = ch '[')
    (hn : py.nesting ≤ n) : Exceeds py σ (c :: rest)
  | digits (literal rest : Str) (hscan : σ.scan = .number literal)
    (hrest : ∀ c ∈ rest.head?, isNumberChar c = false) (hpos : py.intMaxStrDigits ≠ 0)
    (hlt : py.intMaxStrDigits < integerDigits literal) : Exceeds py σ rest

def MeetsLimit {ε α : Type} (r : Except (LoadError ε) α) : Prop := r = .error .valueError ∨ r = .error .recursionError

section Limits

variable {ε α β : Type} (py : Interpreter) (hook : List (Str × Json) → Except ε Json)

@[simp]
theorem meetsLimit_ok (a : α) : ¬ MeetsLimit (.ok a : Except (LoadError ε) α) := by
  simp [MeetsLimit]

@[simp]
theorem meetsLimit_decode : ¬ MeetsLimit (.error .jsonDecodeError : Except (LoadError ε) α) := by
  simp [MeetsLimit]

@[simp]
theorem meetsLimit_hook (e : ε) : ¬ MeetsLimit (.error (.hook e) : Except (LoadError ε) α) := by
  simp [MeetsLimit]

theorem meetsLimit_bind (r : Except (LoadError ε) α) (f : α → Except (LoadError ε) β) :
    MeetsLimit (r >>= f) ↔ MeetsLimit r ∨ ∃ a, r = .ok a ∧ MeetsLimit (f a) := by
  cases r <;> simp [MeetsLimit]

/-! ## Each kind of step -/

theorem finishNumber_limit (literal : Str) :
    MeetsLimit (finishNumber (ε := ε) py literal) ↔
      py.intMaxStrDigits ≠ 0 ∧ py.intMaxStrDigits < integerDigits literal := by
  unfold finishNumber integerDigits
  cases hinteger : matchInteger (matchSign literal).2 with
  | none => simp [hinteger]
  | some m =>
    obtain ⟨integer, s⟩ := m
    simp only [hinteger]
    split
    · split
      · rename_i h
        simp [MeetsLimit, h.1, h.2]
      · rename_i h
        simp only [h, iff_false]
        split <;> simp
    · split <;> simp

theorem openContainer_limit (stack : List Frame) (next : LoadState) :
    MeetsLimit (openContainer (ε := ε) py stack next) ↔ py.nesting ≤ stack.length := by
  unfold openContainer
  split
  · simp only [meetsLimit_ok, false_iff]
    omega
  · simp only [MeetsLimit, or_true, true_iff]
    omega

theorem startValue_limit (stack : List Frame) (c : CodePoint) :
    MeetsLimit (startValue (ε := ε) py stack c) ↔ (c = ch '{' ∨ c = ch '[') ∧ py.nesting ≤ stack.length := by
  unfold startValue
  split
  · rename_i hc
    simp [openContainer_limit, hc]
  · split
    · rename_i hc
      simp [openContainer_limit, hc]
    · rename_i hbrace hbracket
      simp only [hbrace, hbracket, or_self, false_and, iff_false]
      split <;> simp

theorem closeObject_limit (stack : List Frame) (members : List (Str × Json)) :
    ¬ MeetsLimit (closeObject hook stack members) := by
  unfold closeObject
  split <;> simp

theorem stepDone_limit (stack : List Frame) (v : Json) (c : CodePoint) : ¬ MeetsLimit (stepDone hook stack v c) := by
  unfold stepDone
  repeat' split
  all_goals simp [closeObject_limit]

theorem startKey_limit (stack : List Frame) (members : List (Str × Json)) (c : CodePoint) :
    ¬ MeetsLimit (startKey (ε := ε) stack members c) := by
  unfold startKey
  split <;> simp

theorem stepString_limit (stack : List Frame) (members : Option (List (Str × Json))) (chars : Str) (escape : Escape)
    (c : CodePoint) : ¬ MeetsLimit (stepString (ε := ε) stack members chars escape c) := by
  unfold stepString
  repeat' split
  all_goals simp

theorem stepLiteral_limit (stack : List Frame) (rest : Str) (v : Json) (c : CodePoint) :
    ¬ MeetsLimit (stepLiteral (ε := ε) stack rest v c) := by
  unfold stepLiteral
  repeat' split
  all_goals simp

theorem stepNumber_limit (stack : List Frame) (literal : Str) (c : CodePoint) :
    MeetsLimit (stepNumber py hook stack literal c) ↔
      isNumberChar c = false ∧ py.intMaxStrDigits ≠ 0 ∧ py.intMaxStrDigits < integerDigits literal := by
  -- A literal ends before the first character that cannot be in a number.
  unfold stepNumber
  split
  · rename_i hc
    simp [hc]
  · rename_i hc
    rw [Bool.not_eq_true] at hc
    split
    · -- The sign of `-Infinity` alone has no digits.
      rename_i hsign
      simp [hsign.1, show integerDigits [ch '-'] = 0 by decide]
    · rw [meetsLimit_bind, finishNumber_limit]
      simp [stepDone_limit, hc]

/-! ## The whole text -/

theorem exceeds_cons (σ : LoadState) (c : CodePoint) (rest : Str) :
    σ.Exceeds py (c :: rest) ↔
      (∃ n, σ.openAtValue = some n ∧ (c = ch '{' ∨ c = ch '[') ∧ py.nesting ≤ n) ∨
      ∃ literal, σ.scan = .number literal ∧ isNumberChar c = false ∧ py.intMaxStrDigits ≠ 0 ∧
        py.intMaxStrDigits < integerDigits literal := by
  constructor
  · rintro (⟨n, _, _, hopen, hc, hn⟩ | ⟨literal, _, hscan, hrest, hpos, hlt⟩)
    · exact Or.inl ⟨n, hopen, hc, hn⟩
    · exact Or.inr ⟨literal, hscan, hrest c rfl, hpos, hlt⟩
  · rintro (⟨n, hopen, hc, hn⟩ | ⟨literal, hscan, hc, hpos, hlt⟩)
    · exact .nesting n c rest hopen hc hn
    · exact .digits literal _ hscan (by simpa using hc) hpos hlt

theorem step_limit (σ : LoadState) (c : CodePoint) (rest : Str) :
    MeetsLimit (LoadState.step py hook σ c) ↔ σ.Exceeds py (c :: rest) := by
  obtain ⟨stack, scan⟩ := σ
  have hblank : isWhitespace c = true → ¬ (c = ch '{' ∨ c = ch '[') := by
    rintro h (rfl | rfl) <;> exact absurd h (by decide)
  rw [exceeds_cons]
  cases scan with
  | value =>
    simp only [LoadState.step, LoadState.openAtValue]
    split
    · rename_i hc
      simp [hblank hc]
    · simp [startValue_limit]
  | firstItem =>
    simp only [LoadState.step, LoadState.openAtValue]
    split
    · rename_i hc
      simp [hblank hc]
    · split
      · rename_i hc
        simp [hc, show ch ']' ≠ ch '{' by decide, show ch ']' ≠ ch '[' by decide]
      · simp [startValue_limit]
  | number literal => simp [LoadState.step, LoadState.openAtValue, stepNumber_limit]
  | firstKey =>
    simp only [LoadState.step, LoadState.openAtValue]
    repeat' split
    all_goals simp [closeObject_limit, startKey_limit]
  | key members =>
    simp only [LoadState.step, LoadState.openAtValue]
    split <;> simp [startKey_limit]
  | colon members key =>
    simp only [LoadState.step, LoadState.openAtValue]
    repeat' split
    all_goals simp
  | string members chars escape => simp [LoadState.step, LoadState.openAtValue, stepString_limit]
  | literal rest v => simp [LoadState.step, LoadState.openAtValue, stepLiteral_limit]
  | done v => simp [LoadState.step, LoadState.openAtValue, stepDone_limit]

theorem exceeds_nil (σ : LoadState) :
    σ.Exceeds py [] ↔
      ∃ literal, σ.scan = .number literal ∧ py.intMaxStrDigits ≠ 0 ∧ py.intMaxStrDigits < integerDigits literal := by
  constructor
  · rintro (_ | ⟨literal, _, hscan, _, hpos, hlt⟩)
    exact ⟨literal, hscan, hpos, hlt⟩
  · rintro ⟨literal, hscan, hpos, hlt⟩
    exact .digits literal [] hscan (by simp) hpos hlt

theorem finish_limit (σ : LoadState) : MeetsLimit (σ.finish (ε := ε) py) ↔ σ.Exceeds py [] := by
  obtain ⟨stack, scan⟩ := σ
  rw [exceeds_nil]
  cases scan with
  | number literal =>
    cases stack <;> simp [LoadState.finish, meetsLimit_bind, finishNumber_limit]
  | _ => cases stack <;> simp [LoadState.finish]

theorem run_limit (σ : LoadState) (text : Str) :
    MeetsLimit (LoadState.run py hook σ text >>= fun τ => τ.finish py) ↔
      ∃ s t τ, text = s ++ t ∧ LoadState.run py hook σ s = .ok τ ∧ τ.Exceeds py t := by
  induction text generalizing σ with
  | nil =>
    rw [run_nil, ok_bind, finish_limit]
    constructor
    · intro h
      exact ⟨[], [], σ, rfl, rfl, h⟩
    · rintro ⟨s, t, τ, hst, hrun, h⟩
      obtain ⟨rfl, rfl⟩ := List.append_eq_nil_iff.mp hst.symm
      rw [run_nil, Except.ok.injEq] at hrun
      exact hrun ▸ h
  | cons c text ih =>
    rw [run_cons, bind_assoc, meetsLimit_bind, step_limit py hook σ c text]
    constructor
    · rintro (h | ⟨ρ, hstep, h⟩)
      · exact ⟨[], c :: text, σ, rfl, rfl, h⟩
      · obtain ⟨s, t, τ, rfl, hrun, hτ⟩ := (ih ρ).mp h
        exact ⟨c :: s, t, τ, rfl, by rw [run_cons, hstep, ok_bind, hrun], hτ⟩
    · rintro ⟨s, t, τ, hst, hrun, h⟩
      cases s with
      | nil =>
        rw [run_nil, Except.ok.injEq] at hrun
        rw [List.nil_append] at hst
        exact Or.inl (hrun ▸ hst ▸ h)
      | cons d s =>
        rw [List.cons_append, List.cons.injEq] at hst
        obtain ⟨rfl, hst⟩ := hst
        rw [run_cons, bind_eq_ok] at hrun
        obtain ⟨ρ, hstep, hrun⟩ := hrun
        exact Or.inr ⟨ρ, hstep, (ih ρ).mpr ⟨s, t, τ, hst, hrun, h⟩⟩

/-- The decoder gets through some of the text, and what follows there exceeds a limit. -/
theorem loads_limit (text : Str) :
    MeetsLimit (loads py hook text) ↔
      ∃ s t σ, text = s ++ t ∧ LoadState.run py hook ⟨[], .value⟩ s = .ok σ ∧ σ.Exceeds py t :=
  run_limit py hook ⟨[], .value⟩ text

end Limits

end Python
