import NetworkMapper.Python.Json.Loads

/-!
# An object that is cut short

Only its last brace closes an object. What comes before it is not read, so a text of
one object that ends too early is read as that object or not at all.
-/

namespace Python

variable {ε : Type} (py : Interpreter) (hook : List (Str × Json) → Except ε Json)

/-- What is scanned between the braces of an object, or after them. -/
def Scan.ofObject : Scan → Bool
  | .firstKey | .key _ | .colon _ _ | .string (some _) _ _ | .done _ => true
  | _ => false

/-- The first value is an object that is open, or one that has been closed. -/
def LoadState.InObject (σ : LoadState) : Prop := σ.stack = [] → σ.scan.ofObject = true

/-! ## One code point -/

theorem startValue_stack {stack : List Frame} {c : CodePoint} {τ : LoadState}
    (h : startValue (ε := ε) py stack c = .ok τ) : τ.stack = stack := by
  unfold startValue openContainer at h
  split_ifs at h
  · cases h
    rfl
  · cases h
    rfl
  · split at h
    · cases h
      rfl
    · cases h

theorem startKey_inObject {stack : List Frame} {members : List (Str × Json)} {c : CodePoint} {τ : LoadState}
    (h : startKey (ε := ε) stack members c = .ok τ) : τ.InObject := by
  unfold startKey at h
  split at h
  · exact ok_keeps h (fun _ => rfl)
  · cases h

theorem closeObject_inObject {stack : List Frame} {members : List (Str × Json)} {τ : LoadState}
    (h : closeObject hook stack members = .ok τ) : τ.InObject := by
  unfold closeObject at h
  split at h
  · exact ok_keeps h (fun _ => rfl)
  · cases h

theorem stepString_inObject {stack : List Frame} {members : Option (List (Str × Json))} {chars : Str} {escape : Escape}
    {c : CodePoint} {τ : LoadState} (hmembers : stack = [] → members.isSome)
    (h : stepString (ε := ε) stack members chars escape c = .ok τ) : τ.InObject := by
  have hstring : ∀ chars escape, LoadState.InObject ⟨stack, .string members chars escape⟩ := by
    intro chars escape hstack
    obtain ⟨members, rfl⟩ := Option.isSome_iff_exists.mp (hmembers hstack)
    rfl
  have hfinish : ∀ s, (finishString stack members s).InObject := by
    intro s
    cases members <;> exact fun _ => rfl
  unfold stepString at h
  split at h
  · split_ifs at h <;> cases h
    · exact hstring _ _
    · exact hfinish _
    · exact hstring _ _
  · split_ifs at h
    · cases h
      exact hstring _ _
    · split at h <;> cases h
      exact hstring _ _
  · split at h
    · cases h
    · split_ifs at h <;> cases h
      · exact hstring _ _
      · exact hstring _ _

theorem stepDone_inObject {stack : List Frame} {v : Json} {c : CodePoint} {τ : LoadState}
    (h : stepDone hook stack v c = .ok τ) : τ.InObject := by
  unfold stepDone at h
  split at h
  · exact ok_keeps h (fun _ => rfl)
  · split at h
    · cases h
    · split_ifs at h <;> cases h
      · exact fun hstack => absurd hstack (List.cons_ne_nil _ _)
      · exact fun _ => rfl
    · split_ifs at h
      · exact ok_keeps h (fun _ => rfl)
      · exact closeObject_inObject hook h

theorem stepNumber_inObject {stack : List Frame} {text : Str} {c : CodePoint} {τ : LoadState} (hstack : stack ≠ [])
    (h : stepNumber py hook stack text c = .ok τ) : τ.InObject := by
  unfold stepNumber at h
  split_ifs at h
  · exact ok_keeps h (fun hnil => absurd hnil hstack)
  · exact ok_keeps h (fun hnil => absurd hnil hstack)
  · obtain ⟨v, -, h⟩ := (bind_eq_ok _ _ _).mp h
    exact stepDone_inObject hook h

theorem stepLiteral_inObject {stack : List Frame} {rest : Str} {v : Json} {c : CodePoint} {τ : LoadState}
    (hstack : stack ≠ []) (h : stepLiteral (ε := ε) stack rest v c = .ok τ) : τ.InObject := by
  unfold stepLiteral at h
  split_ifs at h <;> cases h
  · exact fun _ => rfl
  · exact fun hnil => absurd hnil hstack

theorem step_inObject {σ τ : LoadState} {c : CodePoint} (hσ : σ.InObject) (h : LoadState.step py hook σ c = .ok τ) :
    τ.InObject := by
  -- An open object stays open until its brace, whatever is in it.
  obtain ⟨stack, scan⟩ := σ
  have hstack : scan.ofObject = false → stack ≠ [] := by
    rintro hscan rfl
    rw [hσ rfl] at hscan
    cases hscan
  have hvalue : ∀ {stack' : List Frame} {τ : LoadState}, stack' ≠ [] → startValue (ε := ε) py stack' c = .ok τ →
      τ.InObject := by
    intro stack' τ hne hstart hnil
    rw [startValue_stack py hstart] at hnil
    exact absurd hnil hne
  cases scan with
  | value =>
    simp only [LoadState.step] at h
    split at h
    · exact ok_keeps h hσ
    · exact hvalue (hstack rfl) h
  | firstItem =>
    simp only [LoadState.step] at h
    split_ifs at h
    · exact ok_keeps h hσ
    · exact ok_keeps h (fun _ => rfl)
    · exact hvalue (List.cons_ne_nil _ _) h
  | firstKey =>
    simp only [LoadState.step] at h
    split_ifs at h
    · exact ok_keeps h hσ
    · exact closeObject_inObject hook h
    · exact startKey_inObject h
  | key members =>
    simp only [LoadState.step] at h
    split at h
    · exact ok_keeps h hσ
    · exact startKey_inObject h
  | colon members key =>
    simp only [LoadState.step] at h
    split_ifs at h <;> cases h
    · exact hσ
    · exact fun hnil => absurd hnil (List.cons_ne_nil _ _)
  | string members chars escape =>
    refine stepString_inObject ?_ h
    intro hnil
    cases members with
    | none => exact absurd hnil (hstack rfl)
    | some members => rfl
  | number text => exact stepNumber_inObject py hook (hstack rfl) h
  | literal rest v => exact stepLiteral_inObject (hstack rfl) h
  | done v => exact stepDone_inObject hook h

theorem run_inObject {σ τ : LoadState} {text : Str} (hσ : σ.InObject) (h : LoadState.run py hook σ text = .ok τ) :
    τ.InObject :=
  foldlM_keeps (fun _ _ _ _ => step_inObject py hook) hσ h

/-! ## The whole text -/

theorem run_done {v : Json} {text : Str} {τ : LoadState} (h : LoadState.run py hook ⟨[], .done v⟩ text = .ok τ) :
    τ = ⟨[], .done v⟩ := by
  -- Nothing follows the document but blanks.
  refine foldlM_keeps (P := (· = ⟨[], .done v⟩)) ?_ rfl h
  rintro _ c _ τ rfl hstep
  simp only [LoadState.step, stepDone] at hstep
  split at hstep <;> cases hstep
  rfl

theorem finish_inObject {σ : LoadState} {v : Json} (hσ : σ.InObject) (h : σ.finish (ε := ε) py = .ok v) :
    σ = ⟨[], .done v⟩ := by
  obtain ⟨stack, scan⟩ := σ
  cases stack with
  | nil =>
    have hscan : scan.ofObject = true := hσ rfl
    cases scan with
    | done w =>
      simp only [LoadState.finish, Except.ok.injEq] at h
      rw [h]
    | number text => cases hscan
    | _ => cases h
  | cons frame stack =>
    cases scan with
    | number text =>
      simp only [LoadState.finish] at h
      obtain ⟨w, -, h⟩ := (bind_eq_ok _ _ _).mp h
      cases h
    | _ => cases h

/-- A text of one object that ends too early is read as that object or not at all. -/
theorem loads_take {text : Str} {v : Json} (h : loads py hook (ch '{' :: text) = .ok v) (n : Nat) :
    (∃ e, loads py hook ((ch '{' :: text).take n) = .error e) ∨ loads py hook ((ch '{' :: text).take n) = .ok v := by
  cases hcut : loads py hook ((ch '{' :: text).take n) with
  | error e => exact Or.inl ⟨e, rfl⟩
  | ok w =>
    refine Or.inr ?_
    unfold loads at h hcut
    obtain ⟨τ, hrun, hfinish⟩ := (bind_eq_ok _ _ _).mp h
    obtain ⟨σ, hrunCut, hfinishCut⟩ := (bind_eq_ok _ _ _).mp hcut
    have hopen : ∀ {σ : LoadState} {text : Str}, LoadState.run py hook ⟨[], .value⟩ (ch '{' :: text) = .ok σ → σ.InObject := by
      intro σ text hrun
      rw [run_cons, bind_eq_ok] at hrun
      obtain ⟨σ', hstep, hrest⟩ := hrun
      refine run_inObject py hook ?_ hrest
      have hbrace : LoadState.step py hook ⟨[], .value⟩ (ch '{') =
          openContainer py [] ⟨[], .firstKey⟩ := rfl
      rw [hbrace, openContainer] at hstep
      split at hstep <;> cases hstep
      exact fun _ => rfl
    cases n with
    | zero =>
      rw [List.take_zero, run_nil, Except.ok.injEq] at hrunCut
      rw [← hrunCut] at hfinishCut
      cases hfinishCut
    | succ n =>
      rw [List.take_succ_cons] at hrunCut
      have hσ := finish_inObject py (hopen hrunCut) hfinishCut
      have hsplit : ch '{' :: text = ch '{' :: text.take n ++ text.drop n := by
        rw [List.cons_append, List.take_append_drop]
      rw [hsplit, run_append, hrunCut, ok_bind, hσ] at hrun
      rw [run_done py hook hrun] at hfinish
      rw [← hfinish]
      rfl

theorem dumps_obj (layout : Layout) (members : List (Str × Json)) :
    ∃ text, dumps py layout (.obj members) = ch '{' :: text := by
  cases members with
  | nil => exact ⟨_, rfl⟩
  | cons member members =>
    rw [dumps, dumpsAt]
    exact ⟨_, rfl⟩

end Python
