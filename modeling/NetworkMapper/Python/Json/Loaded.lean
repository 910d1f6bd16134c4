import NetworkMapper.Python.Json.Objects
import NetworkMapper.Python.Numerals

/-!
# What a text can be read as

The reader joins the two halves of every surrogate pair, and it converts no integer that
could not be written again.
-/

namespace Python

/-- The strings have no surrogate pair in two halves, and the integers are within the limit. -/
inductive Loaded (py : Interpreter) : Json → Prop
  | null : Loaded py .null
  | bool (b : Bool) : Loaded py (.bool b)
  | int (n : Int) (h : py.reads n) : Loaded py (.int n)
  | float (literal : Str) : Loaded py (.float literal)
  | str (s : Str) (h : hasSurrogatePair s = false) : Loaded py (.str s)
  | arr (items : List Json) (h : ∀ v ∈ items, Loaded py v) : Loaded py (.arr items)
  | obj (members : List (Str × Json)) (h : ∀ m ∈ members, Loaded py m.2) : Loaded py (.obj members)

/-! ## Strings -/

theorem hasSurrogatePair_concat (s : Str) (c : CodePoint) :
    hasSurrogatePair (s ++ [c]) = false ↔
      hasSurrogatePair s = false ∧ ∀ h ∈ s.getLast?, isHighSurrogate h = true → isLowSurrogate c = false := by
  induction s with
  | nil => simp [hasSurrogatePair]
  | cons d s ih =>
    cases s with
    | nil => cases hd : isHighSurrogate d <;> simp [hasSurrogatePair, hd]
    | cons e s =>
      rw [List.cons_append, List.cons_append, hasSurrogatePair_cons, hasSurrogatePair_cons, Bool.or_eq_false_iff,
        Bool.or_eq_false_iff, ← List.cons_append, ih, List.getLast?_cons_cons, and_assoc]

/-- What has been read of a string: its code points, and an escaped high surrogate after them. -/
structure StringSoFar (chars : Str) (high : Option CodePoint) : Prop where
  joined : hasSurrogatePair (chars ++ high.toList) = false
  pending : ∀ h ∈ high, isHighSurrogate h = true
  settled : high = none → ∀ h ∈ chars.getLast?, isHighSurrogate h = false

theorem StringSoFar.empty : StringSoFar [] none := ⟨rfl, by simp, by simp⟩

theorem StringSoFar.append {chars : Str} {high : Option CodePoint} (h : StringSoFar chars high) {c : CodePoint}
    (hhigh : isHighSurrogate c = false) (hlow : isLowSurrogate c = false) :
    StringSoFar (chars ++ high.toList ++ [c]) none := by
  refine ⟨?_, by simp, fun _ => by simp [hhigh]⟩
  rw [Option.toList_none, List.append_nil, hasSurrogatePair_concat]
  exact ⟨h.joined, fun _ _ _ => hlow⟩

theorem joinPair_not_surrogate {high low : CodePoint} (hhigh : isHighSurrogate high = true)
    (hlow : isLowSurrogate low = true) :
    isHighSurrogate (joinPair high low) = false ∧ isLowSurrogate (joinPair high low) = false := by
  unfold isHighSurrogate at hhigh
  unfold isLowSurrogate at hlow
  rw [decide_eq_true_eq] at hhigh hlow
  have hval : (joinPair high low).val = 0x10000 + (high.val - 0xD800) * 1024 + (low.val - 0xDC00) :=
    codePoint_val _ (by omega)
  unfold isHighSurrogate isLowSurrogate
  rw [hval, decide_eq_false_iff_not, decide_eq_false_iff_not]
  omega

theorem StringSoFar.afterEscape {chars : Str} {high : Option CodePoint} (h : StringSoFar chars high) (c : CodePoint) :
    StringSoFar (Python.afterEscape chars high c).1 (Python.afterEscape chars high c).2 := by
  have hbefore : hasSurrogatePair chars = false := by
    cases high with
    | none => simpa using h.joined
    | some d => exact ((hasSurrogatePair_concat chars d).mp h.joined).1
  cases high with
  | none =>
    by_cases hc : isHighSurrogate c = true
    · simp only [Python.afterEscape, hc, if_true]
      refine ⟨(hasSurrogatePair_concat chars c).mpr ⟨hbefore, fun _ _ _ => high_not_low c hc⟩, by simpa using hc, by simp⟩
    · -- The last code point is not a high surrogate, so nothing is joined with a low one.
      simp only [Python.afterEscape, hc]
      refine ⟨?_, by simp, by simpa using hc⟩
      simp only [Bool.false_eq_true, if_false, Option.toList_none, List.append_nil]
      refine (hasSurrogatePair_concat chars c).mpr ⟨hbefore, fun d hd hhigh => ?_⟩
      rw [h.settled rfl d hd] at hhigh
      cases hhigh
  | some d =>
    have hd := h.pending d rfl
    by_cases hlow : isLowSurrogate c = true
    · simp only [Python.afterEscape, hlow, if_true]
      obtain ⟨hhigh', hlow'⟩ := joinPair_not_surrogate hd hlow
      refine ⟨?_, by simp, by simp [hhigh']⟩
      rw [Option.toList_none, List.append_nil, hasSurrogatePair_concat]
      exact ⟨hbefore, fun _ _ _ => hlow'⟩
    · rw [Bool.not_eq_true] at hlow
      have hboth : hasSurrogatePair (chars ++ [d] ++ [c]) = false :=
        (hasSurrogatePair_concat _ c).mpr ⟨h.joined, fun _ _ _ => hlow⟩
      by_cases hc : isHighSurrogate c = true
      · simp only [Python.afterEscape, hlow, hc, if_true, Bool.false_eq_true, if_false]
        exact ⟨hboth, by simpa using hc, by simp⟩
      · simp only [Python.afterEscape, hlow, hc, Bool.false_eq_true, if_false]
        refine ⟨?_, by simp, by simpa using hc⟩
        simpa using hboth

/-! ## Numbers -/

theorem digitsValue_lt (s : Str) (h : ∀ c ∈ s, isDigit c = true) : digitsValue s < 10 ^ s.length := by
  induction s using List.reverseRecOn with
  | nil => simp [digitsValue]
  | append_singleton s c ih =>
    have hs := ih fun d hd => h d (List.mem_append_left _ hd)
    have hc := h c (List.mem_append_right _ (List.mem_singleton_self c))
    simp only [isDigit, decide_eq_true_eq] at hc
    unfold digitsValue at hs ⊢
    rw [List.foldl_append, List.length_append, List.length_singleton, pow_succ, List.foldl_cons, List.foldl_nil]
    omega

theorem matchInteger_digits {s integer rest : Str} (h : matchInteger s = some (integer, rest)) :
    integer ≠ [] ∧ ∀ c ∈ integer, isDigit c = true := by
  cases s with
  | nil => cases h
  | cons c s =>
    unfold matchInteger at h
    simp only at h
    split_ifs at h with hzero hdigit
    · cases h
      refine ⟨by simp, ?_⟩
      rw [List.forall_mem_singleton, hzero]
      decide
    · cases h
      refine ⟨by simp, ?_⟩
      rw [List.forall_mem_cons]
      exact ⟨hdigit, fun d hd => List.mem_takeWhile_imp hd⟩

theorem reads_digitsValue (py : Interpreter) {integer : Str} (hne : integer ≠ [])
    (hdigits : ∀ c ∈ integer, isDigit c = true)
    (hlimit : ¬ (py.intMaxStrDigits ≠ 0 ∧ py.intMaxStrDigits < integer.length)) :
    (natRepr (digitsValue integer)).length ≤ integer.length ∧ py.reads (digitsValue integer) := by
  have hlength : (natRepr (digitsValue integer)).length ≤ integer.length := by
    obtain ⟨k, hk⟩ := Nat.exists_eq_succ_of_ne_zero fun h => hne (List.eq_nil_of_length_eq_zero h)
    have hlt := digitsValue_lt integer hdigits
    rw [hk] at hlt ⊢
    exact natRepr_length hlt
  refine ⟨hlength, ?_⟩
  unfold Interpreter.reads
  rw [Int.natAbs_natCast]
  omega

theorem finishNumber_loaded {ε : Type} (py : Interpreter) {text : Str} {v : Json}
    (h : finishNumber (ε := ε) py text = .ok v) : Loaded py v := by
  unfold finishNumber at h
  cases hmatch : matchInteger (matchSign text).2 with
  | none => simp [hmatch] at h
  | some m =>
    obtain ⟨integer, rest⟩ := m
    obtain ⟨hne, hdigits⟩ := matchInteger_digits hmatch
    simp only [hmatch] at h
    split_ifs at h with hplain hlimit hrest hsign hrest <;> cases h
    · exact .int _ (reads_digitsValue py hne hdigits hlimit).2
    · refine .int _ ?_
      have hreads := (reads_digitsValue py hne hdigits hlimit).2
      unfold Interpreter.reads at hreads ⊢
      rwa [Int.natAbs_neg]
    · exact .float _

/-! ## The states of the reader -/

def Escape.high : Escape → Option CodePoint
  | .plain high | .backslash high | .hex high _ _ => high

section States

variable (py : Interpreter)

def LoadedMembers (members : List (Str × Json)) : Prop := ∀ m ∈ members, Loaded py m.2

def Frame.Loaded : Frame → Prop
  | .array items => ∀ v ∈ items, Python.Loaded py v
  | .member members _ => LoadedMembers py members

def Scan.Loaded : Scan → Prop
  | .value | .firstItem | .firstKey | .number _ => True
  | .key members | .colon members _ => LoadedMembers py members
  | .string members chars escape => (∀ ms ∈ members, LoadedMembers py ms) ∧ StringSoFar chars escape.high
  | .literal _ v | .done v => Python.Loaded py v

structure LoadState.Loaded (σ : LoadState) : Prop where
  stack : ∀ frame ∈ σ.stack, frame.Loaded py
  scan : σ.scan.Loaded py

variable {py} {ε : Type} {hook : List (Str × Json) → Except ε Json} {stack : List Frame}

theorem LoadedMembers.concat {members : List (Str × Json)} (h : LoadedMembers py members) {key : Str} {v : Json}
    (hv : Loaded py v) : LoadedMembers py (members ++ [(key, v)]) :=
  List.forall_mem_append.mpr ⟨h, List.forall_mem_singleton.mpr hv⟩

theorem openContainer_loaded (hstack : ∀ frame ∈ stack, frame.Loaded py) {scan : Scan} (hscan : scan.Loaded py)
    {τ : LoadState} (h : openContainer (ε := ε) py stack ⟨stack, scan⟩ = .ok τ) : τ.Loaded py := by
  unfold openContainer at h
  split at h <;> cases h
  exact ⟨hstack, hscan⟩

theorem startScalar_loaded {c : CodePoint} {scan : Scan} (h : startScalar c = some scan) : scan.Loaded py := by
  unfold startScalar at h
  split_ifs at h <;> cases h
  · exact ⟨by simp, .empty⟩
  · exact .null
  · exact .bool true
  · exact .bool false
  · exact .float _
  · exact .float _
  · trivial

theorem startValue_loaded (hstack : ∀ frame ∈ stack, frame.Loaded py) {c : CodePoint} {τ : LoadState}
    (h : startValue (ε := ε) py stack c = .ok τ) : τ.Loaded py := by
  unfold startValue at h
  split_ifs at h
  · refine openContainer_loaded hstack ?_ h
    trivial
  · refine openContainer_loaded hstack ?_ h
    trivial
  · cases hscalar : startScalar c with
    | none => simp [hscalar] at h
    | some scan =>
      simp only [hscalar, Except.ok.injEq] at h
      exact h ▸ ⟨hstack, startScalar_loaded hscalar⟩

theorem startKey_loaded (hstack : ∀ frame ∈ stack, frame.Loaded py) {members : List (Str × Json)}
    (hmembers : LoadedMembers py members) {c : CodePoint} {τ : LoadState}
    (h : startKey (ε := ε) stack members c = .ok τ) : τ.Loaded py := by
  unfold startKey at h
  split at h <;> cases h
  refine ⟨hstack, ?_, .empty⟩
  rintro _ ⟨⟩
  exact hmembers

theorem finishString_loaded (hstack : ∀ frame ∈ stack, frame.Loaded py) {members : Option (List (Str × Json))}
    (hmembers : ∀ ms ∈ members, LoadedMembers py ms) {s : Str} (hs : hasSurrogatePair s = false) :
    (finishString stack members s).Loaded py := by
  cases members with
  | none => exact ⟨hstack, .str s hs⟩
  | some members => exact ⟨hstack, hmembers members rfl⟩

theorem unescape_plain {c e : CodePoint} (h : unescape c = some e) :
    isHighSurrogate e = false ∧ isLowSurrogate e = false := by
  unfold unescape at h
  split_ifs at h with hself <;> cases h
  · rcases hself with rfl | rfl | rfl <;> decide
  all_goals decide

theorem stepString_loaded (hstack : ∀ frame ∈ stack, frame.Loaded py) {members : Option (List (Str × Json))}
    (hmembers : ∀ ms ∈ members, LoadedMembers py ms) {chars : Str} {escape : Escape}
    (hchars : StringSoFar chars escape.high) {c : CodePoint} (hc : isSurrogate c = false) {τ : LoadState}
    (h : stepString (ε := ε) stack members chars escape c = .ok τ) : τ.Loaded py := by
  have hraw : isHighSurrogate c = false ∧ isLowSurrogate c = false := by
    simp only [isSurrogate, isHighSurrogate, isLowSurrogate, decide_eq_false_iff_not] at hc ⊢
    omega
  cases escape with
  | plain high =>
    simp only [stepString] at h
    split_ifs at h <;> cases h
    · exact ⟨hstack, hmembers, hchars⟩
    · exact finishString_loaded hstack hmembers hchars.joined
    · exact ⟨hstack, hmembers, hchars.append hraw.1 hraw.2⟩
  | backslash high =>
    simp only [stepString] at h
    split_ifs at h
    · exact ok_keeps h ⟨hstack, hmembers, hchars⟩
    · cases he : unescape c with
      | none => simp [he] at h
      | some e =>
        simp only [he, Except.ok.injEq] at h
        exact h ▸ ⟨hstack, hmembers, hchars.append (unescape_plain he).1 (unescape_plain he).2⟩
  | hex high digits value =>
    simp only [stepString] at h
    cases hd : hexValue c with
    | none => simp [hd] at h
    | some d =>
      simp only [hd] at h
      split_ifs at h <;> cases h
      · exact ⟨hstack, hmembers, hchars.afterEscape _⟩
      · exact ⟨hstack, hmembers, hchars⟩

/-- What the hook makes of members that were read. -/
def HookLoaded (py : Interpreter) (hook : List (Str × Json) → Except ε Json) : Prop :=
  ∀ members v, LoadedMembers py members → hook members = .ok v → Loaded py v

theorem closeObject_loaded (hhook : HookLoaded py hook) (hstack : ∀ frame ∈ stack, frame.Loaded py)
    {members : List (Str × Json)} (hmembers : LoadedMembers py members) {τ : LoadState}
    (h : closeObject hook stack members = .ok τ) : τ.Loaded py := by
  unfold closeObject at h
  cases hv : hook members with
  | error e => simp [hv] at h
  | ok v =>
    simp only [hv, Except.ok.injEq] at h
    exact h ▸ ⟨hstack, hhook members v hmembers hv⟩

theorem stepDone_loaded (hhook : HookLoaded py hook) (hstack : ∀ frame ∈ stack, frame.Loaded py) {v : Json}
    (hv : Loaded py v) {c : CodePoint} {τ : LoadState} (h : stepDone hook stack v c = .ok τ) : τ.Loaded py := by
  unfold stepDone at h
  split at h
  · exact ok_keeps h ⟨hstack, hv⟩
  · cases stack with
    | nil => cases h
    | cons frame stack =>
      obtain ⟨hframe, hrest⟩ := List.forall_mem_cons.mp hstack
      cases frame with
      | array items =>
        have hitems : ∀ w ∈ items ++ [v], Loaded py w :=
          List.forall_mem_append.mpr ⟨hframe, List.forall_mem_singleton.mpr hv⟩
        simp only at h
        split_ifs at h <;> cases h
        · exact ⟨List.forall_mem_cons.mpr ⟨hitems, hrest⟩, trivial⟩
        · exact ⟨hrest, .arr _ hitems⟩
      | member members key =>
        have hmembers : LoadedMembers py (members ++ [(key, v)]) := LoadedMembers.concat hframe hv
        simp only at h
        split_ifs at h
        · cases h
          exact ⟨hrest, hmembers⟩
        · exact closeObject_loaded hhook hrest hmembers h

theorem stepLiteral_loaded (hstack : ∀ frame ∈ stack, frame.Loaded py) {rest : Str} {v : Json} (hv : Loaded py v)
    {c : CodePoint} {τ : LoadState} (h : stepLiteral (ε := ε) stack rest v c = .ok τ) : τ.Loaded py := by
  unfold stepLiteral at h
  split_ifs at h <;> cases h <;> exact ⟨hstack, hv⟩

theorem stepNumber_loaded (hhook : HookLoaded py hook) (hstack : ∀ frame ∈ stack, frame.Loaded py) {text : Str}
    {c : CodePoint} {τ : LoadState} (h : stepNumber py hook stack text c = .ok τ) : τ.Loaded py := by
  unfold stepNumber at h
  split_ifs at h
  · exact ok_keeps h ⟨hstack, trivial⟩
  · exact ok_keeps h ⟨hstack, .float _⟩
  · obtain ⟨v, hv, h⟩ := (bind_eq_ok _ _ _).mp h
    exact stepDone_loaded hhook hstack (finishNumber_loaded py hv) h

theorem step_loaded (hhook : HookLoaded py hook) {σ τ : LoadState} (hσ : σ.Loaded py) {c : CodePoint}
    (hc : isSurrogate c = false) (h : LoadState.step py hook σ c = .ok τ) : τ.Loaded py := by
  obtain ⟨stack, scan⟩ := σ
  obtain ⟨hstack, hscan⟩ := hσ
  simp only at hstack hscan
  cases scan with
  | value =>
    simp only [LoadState.step] at h
    split at h
    · exact ok_keeps h ⟨hstack, hscan⟩
    · exact startValue_loaded hstack h
  | firstItem =>
    have hopen : ∀ frame ∈ Frame.array [] :: stack, frame.Loaded py :=
      List.forall_mem_cons.mpr ⟨List.forall_mem_nil _, hstack⟩
    simp only [LoadState.step] at h
    split_ifs at h
    · exact ok_keeps h ⟨hstack, hscan⟩
    · exact ok_keeps h ⟨hstack, .arr [] (List.forall_mem_nil _)⟩
    · exact startValue_loaded hopen h
  | firstKey =>
    simp only [LoadState.step] at h
    split_ifs at h
    · exact ok_keeps h ⟨hstack, hscan⟩
    · exact closeObject_loaded hhook hstack (List.forall_mem_nil _) h
    · exact startKey_loaded hstack (List.forall_mem_nil _) h
  | key members =>
    simp only [LoadState.step] at h
    split at h
    · exact ok_keeps h ⟨hstack, hscan⟩
    · exact startKey_loaded hstack hscan h
  | colon members key =>
    simp only [LoadState.step] at h
    split_ifs at h <;> cases h
    · exact ⟨hstack, hscan⟩
    · exact ⟨List.forall_mem_cons.mpr ⟨hscan, hstack⟩, trivial⟩
  | string members chars escape => exact stepString_loaded hstack hscan.1 hscan.2 hc h
  | number text => exact stepNumber_loaded hhook hstack h
  | literal rest v => exact stepLiteral_loaded hstack hscan h
  | done v => exact stepDone_loaded hhook hstack hscan h

theorem run_loaded (hhook : HookLoaded py hook) {σ τ : LoadState} (hσ : σ.Loaded py) {text : Str}
    (htext : scalarText text) (h : LoadState.run py hook σ text = .ok τ) : τ.Loaded py :=
  foldlM_keeps (fun _ c hc _ hσ => step_loaded hhook hσ (htext c hc)) hσ h

theorem finish_loaded {σ : LoadState} (hσ : σ.Loaded py) {v : Json} (h : σ.finish (ε := ε) py = .ok v) :
    Loaded py v := by
  obtain ⟨stack, scan⟩ := σ
  have hscan : scan.Loaded py := hσ.scan
  cases stack with
  | nil =>
    cases scan with
    | number text => exact finishNumber_loaded py h
    | done w =>
      simp only [LoadState.finish, Except.ok.injEq] at h
      exact h ▸ hscan
    | _ => cases h
  | cons frame stack =>
    cases scan with
    | number text =>
      simp only [LoadState.finish] at h
      obtain ⟨w, -, h⟩ := (bind_eq_ok _ _ _).mp h
      cases h
    | _ => cases h

theorem loads_loaded (hhook : HookLoaded py hook) {text : Str} (htext : scalarText text) {v : Json}
    (h : loads py hook text = .ok v) : Loaded py v := by
  unfold loads at h
  obtain ⟨σ, hrun, hfinish⟩ := (bind_eq_ok _ _ _).mp h
  have hstart : LoadState.Loaded py ⟨[], .value⟩ := ⟨List.forall_mem_nil _, trivial⟩
  exact finish_loaded (run_loaded hhook hstart htext hrun) hfinish

theorem asDict_loaded : HookLoaded py asDict := by
  intro members v hmembers h
  cases h
  refine .obj _ fun m hm => hmembers m ?_
  exact Dict.lastWith_mem ((Dict.mem_setAll_values Prod.fst members m).mp hm)

end States

/-! ## Taking a document apart -/

namespace Loaded

variable {py : Interpreter} {value v : Json} {key : Str}

theorem of_lookup {members : List (Str × Json)} (h : Loaded py (.obj members)) (hv : members.lookup key = some v) :
    Loaded py v := by
  cases h with
  | obj _ hmembers => exact hmembers _ (mem_of_lookup members key v hv)

theorem item (h : Loaded py value) (hv : value.item key = .ok v) : Loaded py v := by
  cases value with
  | obj members =>
    simp only [Json.item] at hv
    cases hlookup : members.lookup key with
    | none => simp [hlookup] at hv
    | some w =>
      simp only [hlookup, Except.ok.injEq] at hv
      exact hv ▸ h.of_lookup hlookup
  | _ => cases hv

theorem get (h : Loaded py value) {default : Json} (hdefault : Loaded py default)
    (hv : value.get key default = .ok v) : Loaded py v := by
  cases value with
  | obj members =>
    simp only [Json.get, Except.ok.injEq] at hv
    subst hv
    cases hlookup : members.lookup key with
    | none => exact hdefault
    | some w => exact h.of_lookup hlookup
  | _ => cases hv

theorem text (h : Loaded py value) {s : Str} (hs : value.text = .ok s) : hasSurrogatePair s = false := by
  cases h with
  | str t ht =>
    cases hs
    exact ht
  | _ => cases hs

theorem number (h : Loaded py value) {n : Int} (hn : value.number = .ok n) : py.reads n := by
  cases h with
  | int m hm =>
    cases hn
    exact hm
  | _ => cases hn

theorem optionalText (h : Loaded py value) {s : Option Str} (hs : value.optionalText = .ok s) :
    ∀ t ∈ s, hasSurrogatePair t = false := by
  cases h with
  | null =>
    cases hs
    simp
  | str t ht =>
    cases hs
    simpa using ht
  | _ => cases hs

theorem list (h : Loaded py value) {items : List Json} (hitems : value.list = .ok items) :
    ∀ w ∈ items, Loaded py w := by
  cases h with
  | arr items' hall =>
    cases hitems
    exact hall
  | _ => cases hitems

theorem textItem (h : Loaded py value) {s : Str} (hs : value.textItem key = .ok s) : hasSurrogatePair s = false := by
  obtain ⟨w, hw, hs⟩ := (bind_eq_ok _ _ _).mp hs
  exact (h.item hw).text hs

theorem optionalItem (h : Loaded py value) {s : Option Str} (hs : value.optionalItem key = .ok s) :
    ∀ t ∈ s, hasSurrogatePair t = false := by
  obtain ⟨w, hw, hs⟩ := (bind_eq_ok _ _ _).mp hs
  exact (h.get .null hw).optionalText hs

theorem items {α ε : Type} {items : List Json} (h : ∀ w ∈ items, Loaded py w) {read : Json → Except ε α} {out : List α}
    (hout : items.mapM read = .ok out) : ∀ a ∈ out, ∃ w, Loaded py w ∧ read w = .ok a := by
  rw [mapM_eq_ok] at hout
  intro a ha
  obtain ⟨w, hw, hread⟩ := forall₂_mem_right hout a ha
  exact ⟨w, h w hw, hread⟩

end Loaded

end Python
