import NetworkMapper.Python.Json.Loads

/-!
# `object_pairs_hook`

Loading with a hook is loading without one and then calling the hook on each
object, innermost first and from left to right.
-/

namespace Python

section Hook

variable {ε : Type} (py : Interpreter) (hook : List (Str × Json) → Except ε Json)

mutual

def applyHook : Json → Except ε Json
  | .arr items => do return .arr (← applyHookItems items)
  | .obj members => do hook (← applyHookMembers members)
  | v => .ok v

def applyHookItems : List Json → Except ε (List Json)
  | [] => .ok []
  | v :: items => do return (← applyHook v) :: (← applyHookItems items)

def applyHookMembers : List (Str × Json) → Except ε (List (Str × Json))
  | [] => .ok []
  | (k, v) :: members => do return (k, ← applyHook v) :: (← applyHookMembers members)

end

/-! ## The same on the states of the reader -/

def applyFrame : Frame → Except ε Frame
  | .array items => do return .array (← applyHookItems hook items)
  | .member members key => do return .member (← applyHookMembers hook members) key

/-- The outermost frame was read first. -/
def applyStack : List Frame → Except ε (List Frame)
  | [] => .ok []
  | f :: stack => do
    let stack ← applyStack stack
    return (← applyFrame hook f) :: stack

def applyScan : Scan → Except ε Scan
  | .key members => do return .key (← applyHookMembers hook members)
  | .colon members key => do return .colon (← applyHookMembers hook members) key
  | .string (some members) chars escape => do
    return .string (some (← applyHookMembers hook members)) chars escape
  | .literal rest v => do return .literal rest (← applyHook hook v)
  | .done v => do return .done (← applyHook hook v)
  | scan => .ok scan

def applyState (σ : LoadState) : Except ε LoadState := do
  let stack ← applyStack hook σ.stack
  return ⟨stack, ← applyScan hook σ.scan⟩

def throughLoads {α : Type} (r : Except ε α) : Except (LoadError ε) α := r.mapError LoadError.hook

@[simp]
theorem throughLoads_ok {α : Type} (a : α) : throughLoads (.ok a : Except ε α) = .ok a := rfl

@[simp]
theorem throughLoads_error {α : Type} (e : ε) : throughLoads (.error e : Except ε α) = .error (.hook e) := rfl

@[simp]
theorem throughLoads_bind {α β : Type} (r : Except ε α) (f : α → Except ε β) :
    throughLoads (r >>= f) = throughLoads r >>= fun a => throughLoads (f a) := by
  cases r <;> rfl

theorem applyHookItems_snoc (items : List Json) (v : Json) :
    applyHookItems hook (items ++ [v]) = do return (← applyHookItems hook items) ++ [← applyHook hook v] := by
  induction items with
  | nil =>
    simp only [List.nil_append, applyHookItems]
    cases applyHook hook v <;> rfl
  | cons w items ih =>
    simp only [List.cons_append, applyHookItems, ih]
    cases applyHook hook w <;> cases applyHookItems hook items <;> cases applyHook hook v <;> rfl

theorem applyHookMembers_snoc (members : List (Str × Json)) (k : Str) (v : Json) :
    applyHookMembers hook (members ++ [(k, v)]) = do
      return (← applyHookMembers hook members) ++ [(k, ← applyHook hook v)] := by
  induction members with
  | nil =>
    simp only [List.nil_append, applyHookMembers]
    cases applyHook hook v <;> rfl
  | cons m members ih =>
    obtain ⟨k', w⟩ := m
    simp only [List.cons_append, applyHookMembers, ih]
    cases applyHook hook w <;> cases applyHookMembers hook members <;> cases applyHook hook v <;> rfl

theorem applyStack_length (stack stack' : List Frame) (h : applyStack hook stack = .ok stack') :
    stack'.length = stack.length := by
  induction stack generalizing stack' with
  | nil =>
    unfold applyStack at h
    rw [Except.ok.injEq] at h
    rw [← h]
  | cons f stack ih =>
    unfold applyStack at h
    cases hs : applyStack hook stack with
    | error e => simp [hs] at h
    | ok s =>
      cases hf : applyFrame hook f with
      | error e => simp [hs, hf] at h
      | ok g =>
        simp only [hs, hf, ok_bind, pure_ok, Except.ok.injEq] at h
        rw [← h, List.length_cons, List.length_cons, ih s hs]

/-! ## One step -/

theorem finishNumber_hook (text : Str) (v : Json) (h : finishNumber (ε := Empty) py text = .ok v) :
    finishNumber (ε := ε) py text = .ok v ∧ applyHook hook v = .ok v := by
  unfold finishNumber at h ⊢
  cases hm : matchInteger (matchSign text).2 with
  | none => simp [hm] at h
  | some m =>
    simp only [hm] at h ⊢
    split_ifs at h ⊢ <;> simp only [Except.ok.injEq] at h <;> subst h <;> exact ⟨rfl, by rw [applyHook] <;> simp⟩

theorem startScalar_hook (c : CodePoint) (scan : Scan) (h : startScalar c = some scan) :
    applyScan hook scan = .ok scan := by
  unfold startScalar at h
  split_ifs at h <;> rw [Option.some.injEq] at h <;> subst h <;> simp [applyScan, applyHook]

theorem openContainer_hook (stack : List Frame) (scan : Scan) (hscan : applyScan hook scan = .ok scan)
    (σ : LoadState) (h : openContainer (ε := Empty) py stack ⟨stack, scan⟩ = .ok σ) :
    throughLoads (applyState hook σ) =
      throughLoads (applyStack hook stack) >>= fun stack' => openContainer py stack' ⟨stack', scan⟩ := by
  unfold openContainer at h
  split_ifs at h with hlt
  rw [Except.ok.injEq] at h
  subst h
  cases hs : applyStack hook stack with
  | error e => simp [applyState, hs]
  | ok stack' =>
    have hlen := applyStack_length hook stack stack' hs
    simp [applyState, hs, hscan, openContainer, hlen, hlt]

theorem startValue_hook (stack : List Frame) (c : CodePoint) (σ : LoadState)
    (h : startValue (ε := Empty) py stack c = .ok σ) :
    throughLoads (applyState hook σ) =
      throughLoads (applyStack hook stack) >>= fun stack' => startValue py stack' c := by
  unfold startValue at h ⊢
  split_ifs at h ⊢
  · exact openContainer_hook py hook stack .firstKey rfl σ h
  · exact openContainer_hook py hook stack .firstItem rfl σ h
  · cases hc : startScalar c with
    | none => simp [hc] at h
    | some scan =>
      simp only [hc, Except.ok.injEq] at h ⊢
      subst h
      cases hs : applyStack hook stack <;> simp [applyState, hs, startScalar_hook hook c scan hc]

theorem startKey_hook (stack : List Frame) (members : List (Str × Json)) (c : CodePoint) (σ : LoadState)
    (h : startKey (ε := Empty) stack members c = .ok σ) :
    throughLoads (applyState hook σ) =
      throughLoads (applyState hook ⟨stack, .key members⟩) >>= fun τ => LoadState.step py hook τ c := by
  unfold startKey at h
  split_ifs at h with hc
  rw [Except.ok.injEq] at h
  subst h
  have hw : isWhitespace (ch '"') = false := by decide
  cases hs : applyStack hook stack <;> cases hm : applyHookMembers hook members <;>
    simp [applyState, applyScan, hs, hm, LoadState.step, hw, startKey, hc]

theorem closeObject_hook (stack : List Frame) (members : List (Str × Json)) :
    closeObject hook stack members = throughLoads (hook members) >>= fun v => .ok ⟨stack, .done v⟩ := by
  unfold closeObject
  cases hook members <;> rfl

theorem stepDone_hook (stack : List Frame) (v : Json) (c : CodePoint) (σ : LoadState)
    (h : stepDone keepPairs stack v c = .ok σ) :
    throughLoads (applyState hook σ) =
      throughLoads (applyState hook ⟨stack, .done v⟩) >>= fun τ => LoadState.step py hook τ c := by
  have hstep : ∀ stack v, LoadState.step py hook ⟨stack, .done v⟩ c = stepDone hook stack v c := fun _ _ => rfl
  by_cases hw : isWhitespace c = true
  · rw [stepDone.eq_def, if_pos hw, Except.ok.injEq] at h
    subst h
    cases hs : applyStack hook stack <;> cases hv : applyHook hook v <;>
      simp [applyState, applyScan, hs, hv, hstep, stepDone, hw]
  · rw [stepDone.eq_def, if_neg hw] at h
    rcases stack with _ | ⟨items | ⟨members, key⟩, stack⟩
    · simp at h
    · simp only at h
      split_ifs at h with hcomma hclose <;> rw [Except.ok.injEq] at h <;> subst h <;>
        cases hs : applyStack hook stack <;> cases hi : applyHookItems hook items <;>
        cases hv : applyHook hook v <;>
        simp_all [applyState, applyScan, applyStack, applyFrame, applyHook, applyHookItems_snoc, stepDone]
    · unfold closeObject keepPairs at h
      split_ifs at h with hcomma hclose <;> rw [Except.ok.injEq] at h <;> subst h <;>
        cases hs : applyStack hook stack <;> cases hm : applyHookMembers hook members <;>
        cases hv : applyHook hook v <;>
        simp_all [applyState, applyScan, applyStack, applyFrame, applyHook, applyHookMembers_snoc, stepDone,
          closeObject_hook]

theorem stepString_cases (ε : Type) (stack : List Frame) (members : Option (List (Str × Json))) (chars : Str)
    (escape : Escape) (c : CodePoint) (σ : LoadState)
    (h : stepString (ε := Empty) stack members chars escape c = .ok σ) :
    (∃ chars' escape', σ = ⟨stack, .string members chars' escape'⟩ ∧ ∀ stack members,
      stepString (ε := ε) stack members chars escape c = .ok ⟨stack, .string members chars' escape'⟩) ∨
    ∃ s, σ = finishString stack members s ∧ ∀ stack members,
      stepString (ε := ε) stack members chars escape c = .ok (finishString stack members s) := by
  cases escape with
  | plain high =>
    simp only [stepString] at h ⊢
    split_ifs at h ⊢ <;> rw [Except.ok.injEq] at h
    · exact Or.inl ⟨_, _, h.symm, fun _ _ => rfl⟩
    · exact Or.inr ⟨_, h.symm, fun _ _ => rfl⟩
    · exact Or.inl ⟨_, _, h.symm, fun _ _ => rfl⟩
  | backslash high =>
    simp only [stepString] at h ⊢
    split_ifs at h ⊢
    · rw [Except.ok.injEq] at h
      exact Or.inl ⟨_, _, h.symm, fun _ _ => rfl⟩
    · cases he : unescape c with
      | none => simp [he] at h
      | some e =>
        simp only [he, Except.ok.injEq] at h ⊢
        exact Or.inl ⟨_, _, h.symm, fun _ _ => rfl⟩
  | hex high digits value =>
    simp only [stepString] at h ⊢
    cases hd : hexValue c with
    | none => simp [hd] at h
    | some d =>
      simp only [hd] at h ⊢
      split_ifs at h ⊢ <;> rw [Except.ok.injEq] at h <;> exact Or.inl ⟨_, _, h.symm, fun _ _ => rfl⟩

theorem stepString_hook (stack : List Frame) (members : Option (List (Str × Json))) (chars : Str) (escape : Escape)
    (c : CodePoint) (σ : LoadState) (h : stepString (ε := Empty) stack members chars escape c = .ok σ) :
    throughLoads (applyState hook σ) =
      throughLoads (applyState hook ⟨stack, .string members chars escape⟩) >>= fun τ =>
        LoadState.step py hook τ c := by
  rcases stepString_cases ε stack members chars escape c σ h with ⟨chars', escape', rfl, hstep⟩ | ⟨s, rfl, hstep⟩ <;>
    cases hs : applyStack hook stack <;> rcases members with _ | members <;>
    try cases hm : applyHookMembers hook members
  all_goals simp_all [applyState, applyScan, LoadState.step, finishString, applyHook]

theorem stepLiteral_hook (stack : List Frame) (rest : Str) (v : Json) (c : CodePoint) (σ : LoadState)
    (h : stepLiteral (ε := Empty) stack rest v c = .ok σ) :
    throughLoads (applyState hook σ) =
      throughLoads (applyState hook ⟨stack, .literal rest v⟩) >>= fun τ => LoadState.step py hook τ c := by
  unfold stepLiteral at h
  split_ifs at h <;> rw [Except.ok.injEq] at h <;> subst h <;> cases hs : applyStack hook stack <;>
    cases hv : applyHook hook v <;> simp_all [applyState, applyScan, LoadState.step, stepLiteral]

theorem stepNumber_hook (stack : List Frame) (text : Str) (c : CodePoint) (σ : LoadState)
    (h : stepNumber py keepPairs stack text c = .ok σ) :
    throughLoads (applyState hook σ) =
      throughLoads (applyState hook ⟨stack, .number text⟩) >>= fun τ => LoadState.step py hook τ c := by
  unfold stepNumber at h
  split_ifs at h with hc hinf
  · rw [Except.ok.injEq] at h
    subst h
    cases hs : applyStack hook stack <;> simp_all [applyState, applyScan, LoadState.step, stepNumber]
  · rw [Except.ok.injEq] at h
    subst h
    cases hs : applyStack hook stack <;> simp_all [applyState, applyScan, applyHook, LoadState.step, stepNumber]
  · cases hv : finishNumber (ε := Empty) py text with
    | error e => simp [hv] at h
    | ok v =>
      obtain ⟨hread, hsame⟩ := finishNumber_hook py hook text v hv
      rw [hv, ok_bind] at h
      rw [stepDone_hook py hook stack v c σ h]
      cases hs : applyStack hook stack <;>
        simp_all [applyState, applyScan, LoadState.step, stepNumber]

theorem step_hook (σ τ : LoadState) (c : CodePoint) (h : LoadState.step py keepPairs σ c = .ok τ) :
    throughLoads (applyState hook τ) =
      throughLoads (applyState hook σ) >>= fun σ' => LoadState.step py hook σ' c := by
  -- The two readers stay in step.
  obtain ⟨stack, scan⟩ := σ
  cases scan with
  | value =>
    simp only [LoadState.step] at h
    split_ifs at h with hw
    · rw [Except.ok.injEq] at h
      subst h
      cases hs : applyStack hook stack <;> simp [applyState, applyScan, hs, hw, LoadState.step]
    · rw [startValue_hook py hook stack c τ h]
      cases hs : applyStack hook stack <;> simp [applyState, applyScan, hs, hw, LoadState.step]
  | firstItem =>
    simp only [LoadState.step] at h
    split_ifs at h with hw hclose
    · rw [Except.ok.injEq] at h
      subst h
      cases hs : applyStack hook stack <;> simp [applyState, applyScan, hs, hw, LoadState.step]
    · rw [Except.ok.injEq] at h
      subst h
      cases hs : applyStack hook stack <;>
        simp_all [applyState, applyScan, applyHook, applyHookItems, LoadState.step]
    · rw [startValue_hook py hook _ c τ h]
      cases hs : applyStack hook stack <;>
        simp [applyState, applyStack, applyFrame, applyHookItems, applyScan, hs, hw, hclose, LoadState.step]
  | firstKey =>
    simp only [LoadState.step] at h
    split_ifs at h with hw hclose
    · rw [Except.ok.injEq] at h
      subst h
      cases hs : applyStack hook stack <;> simp [applyState, applyScan, hs, hw, LoadState.step]
    · simp only [closeObject, keepPairs, Except.ok.injEq] at h
      subst h
      cases hs : applyStack hook stack <;>
        simp_all [applyState, applyScan, applyHook, applyHookMembers, LoadState.step, closeObject_hook]
    · rw [startKey_hook py hook stack [] c τ h]
      cases hs : applyStack hook stack <;>
        simp [applyState, applyScan, applyHookMembers, hs, hw, hclose, LoadState.step]
  | key members =>
    simp only [LoadState.step] at h
    split_ifs at h with hw
    · rw [Except.ok.injEq] at h
      subst h
      cases hs : applyStack hook stack <;> cases hm : applyHookMembers hook members <;>
        simp [applyState, applyScan, hs, hm, hw, LoadState.step]
    · exact startKey_hook py hook stack members c τ h
  | colon members key =>
    simp only [LoadState.step] at h
    split_ifs at h with hw hcolon <;> rw [Except.ok.injEq] at h <;> subst h <;>
      cases hs : applyStack hook stack <;> cases hm : applyHookMembers hook members <;>
      simp_all [applyState, applyStack, applyFrame, applyScan, LoadState.step]
  | string members chars escape => exact stepString_hook py hook stack members chars escape c τ h
  | number text => exact stepNumber_hook py hook stack text c τ h
  | literal rest v => exact stepLiteral_hook py hook stack rest v c τ h
  | done v => exact stepDone_hook py hook stack v c τ h

/-! ## The whole text -/

theorem run_hook (σ τ : LoadState) (text : Str) (h : LoadState.run py keepPairs σ text = .ok τ) :
    throughLoads (applyState hook τ) =
      throughLoads (applyState hook σ) >>= fun σ' => LoadState.run py hook σ' text := by
  induction text generalizing σ with
  | nil =>
    rw [run_nil, Except.ok.injEq] at h
    subst h
    cases throughLoads (applyState hook σ) <;> rfl
  | cons c text ih =>
    rw [run_cons] at h
    cases hstep : LoadState.step py keepPairs σ c with
    | error e => simp [hstep] at h
    | ok ρ =>
      rw [hstep, ok_bind] at h
      rw [ih ρ h, step_hook py hook σ ρ c hstep]
      cases throughLoads (applyState hook σ) <;> rfl

theorem finish_hook (σ : LoadState) (document : Json) (h : σ.finish (ε := Empty) py = .ok document) :
    throughLoads (applyHook hook document) =
      throughLoads (applyState hook σ) >>= fun σ' => σ'.finish py := by
  obtain ⟨stack, scan⟩ := σ
  cases stack with
  | cons f stack => cases scan <;> simp [LoadState.finish, bind_eq_ok] at h
  | nil =>
    cases scan with
    | number text =>
      obtain ⟨hread, hsame⟩ := finishNumber_hook py hook text document h
      simp [applyState, applyStack, applyScan, LoadState.finish, hread, hsame]
    | done v =>
      unfold LoadState.finish at h
      simp only [Except.ok.injEq] at h
      subst h
      cases hv : applyHook hook v <;> simp [applyState, applyStack, applyScan, LoadState.finish, hv]
    | _ => simp [LoadState.finish] at h

/-- `json.loads` with a hook, by way of the document without one. -/
theorem loads_hook (text : Str) (document : Json) (h : readDocument py text = .ok document) :
    loads py hook text = throughLoads (applyHook hook document) := by
  unfold readDocument loads at h
  cases hrun : LoadState.run py keepPairs ⟨[], .value⟩ text with
  | error e => simp [hrun] at h
  | ok τ =>
    rw [hrun, ok_bind] at h
    have hsim := run_hook py hook ⟨[], .value⟩ τ text hrun
    rw [finish_hook py hook τ document h, hsim]
    rfl

end Hook

end Python
