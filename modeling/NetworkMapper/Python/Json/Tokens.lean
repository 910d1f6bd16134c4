import NetworkMapper.Python.Json.Loads
import NetworkMapper.Python.DateTime
import Mathlib.Data.List.TakeWhile

/-!
# Reading back strings and numbers

A string comes back as it was, except that an escaped high surrogate joins with the
escaped low surrogate that directly follows it.
-/

namespace Python

/-! ## Surrogate pairs -/

/-- A high surrogate directly followed by a low one. -/
def hasSurrogatePair : Str → Bool
  | h :: l :: s => (isHighSurrogate h && isLowSurrogate l) || hasSurrogatePair (l :: s)
  | _ => false

def readText (chars : Str) (high : Option CodePoint) (s : Str) : Str × Option CodePoint :=
  s.foldl (fun p c => afterEscape p.1 p.2 c) (chars, high)

/-- What reading the quoted text gives. -/
def joinSurrogates (s : Str) : Str := (readText [] none s).1 ++ (readText [] none s).2.toList

theorem high_not_low (c : CodePoint) (h : isHighSurrogate c = true) : isLowSurrogate c = false := by
  simp only [isHighSurrogate, isLowSurrogate, decide_eq_true_eq, decide_eq_false_iff_not] at *
  omega

theorem afterEscape_cases (chars : Str) (high : Option CodePoint) (c : CodePoint) :
    (∃ h, high = some h ∧ isLowSurrogate c = true ∧ afterEscape chars high c = (chars ++ [joinPair h c], none)) ∨
      ((high = none ∨ isLowSurrogate c = false) ∧
        (afterEscape chars high c).1 ++ (afterEscape chars high c).2.toList = chars ++ high.toList ++ [c] ∧
        (afterEscape chars high c).2 = if isHighSurrogate c then some c else none) := by
  cases high with
  | none =>
    right
    simp only [afterEscape]
    split <;> simp_all
  | some h =>
    simp only [afterEscape]
    split
    · rename_i hl
      left
      exact ⟨h, rfl, hl, rfl⟩
    · rename_i hl
      right
      split <;> simp_all

theorem hasSurrogatePair_cons (h c : CodePoint) (s : Str) :
    hasSurrogatePair (h :: c :: s) =
      ((isHighSurrogate h && isLowSurrogate c) || hasSurrogatePair (c :: s)) := rfl

theorem hasSurrogatePair_of_not_high (c : CodePoint) (s : Str) (h : isHighSurrogate c = false) :
    hasSurrogatePair (c :: s) = hasSurrogatePair s := by
  cases s with
  | nil => rfl
  | cons d s => simp [hasSurrogatePair_cons, h]

theorem readText_spec (s : Str) (chars : Str) (high : Option CodePoint)
    (hhigh : ∀ h ∈ high, isHighSurrogate h = true) :
    (hasSurrogatePair (high.toList ++ s) = false →
      (readText chars high s).1 ++ (readText chars high s).2.toList = chars ++ high.toList ++ s) ∧
    ((readText chars high s).1 ++ (readText chars high s).2.toList).length ≤ (chars ++ high.toList ++ s).length ∧
    (hasSurrogatePair (high.toList ++ s) = true →
      ((readText chars high s).1 ++ (readText chars high s).2.toList).length <
        (chars ++ high.toList ++ s).length) := by
  induction s generalizing chars high with
  | nil => cases high <;> simp [readText, hasSurrogatePair]
  | cons c s ih =>
    have hstep : readText chars high (c :: s) =
        readText (afterEscape chars high c).1 (afterEscape chars high c).2 s := rfl
    rw [hstep]
    rcases afterEscape_cases chars high c with ⟨h, rfl, hlow, hafter⟩ | ⟨hkeep, htext, hnext⟩
    · -- The pair is one code point from here on.
      have hpair : hasSurrogatePair ((some h).toList ++ c :: s) = true := by
        simp [hasSurrogatePair, hhigh h rfl, hlow]
      obtain ⟨-, hle, -⟩ := ih (chars ++ [joinPair h c]) none (by simp)
      rw [hafter, hpair]
      simp only [Option.toList_none, List.append_nil, List.length_append, List.length_cons,
        List.length_nil] at hle ⊢
      refine ⟨by simp, ?_, fun _ => ?_⟩ <;> simp <;> omega
    · have hopen : ∀ h ∈ (afterEscape chars high c).2, isHighSurrogate h = true := by
        rw [hnext]
        intro h hh
        split at hh <;> simp_all
      have hrest : hasSurrogatePair (high.toList ++ c :: s) =
          hasSurrogatePair ((afterEscape chars high c).2.toList ++ s) := by
        have hc : hasSurrogatePair (c :: s) = hasSurrogatePair ((afterEscape chars high c).2.toList ++ s) := by
          rw [hnext]
          split
          · rfl
          · rename_i hc
            exact hasSurrogatePair_of_not_high c s (by simpa using hc)
        rw [← hc]
        cases high with
        | none => rfl
        | some h =>
          have hl : isLowSurrogate c = false := by simpa using hkeep
          simp [hasSurrogatePair_cons, hl]
      have hsame : (afterEscape chars high c).1 ++ (afterEscape chars high c).2.toList ++ s =
          chars ++ high.toList ++ c :: s := by
        rw [htext]
        simp
      have := ih (afterEscape chars high c).1 (afterEscape chars high c).2 hopen
      rwa [hsame, ← hrest] at this

theorem joinSurrogates_length (s : Str) : (joinSurrogates s).length ≤ s.length := by
  simpa [joinSurrogates] using (readText_spec s [] none (by simp)).2.1

theorem joinSurrogates_lt (s : Str) (h : hasSurrogatePair s = true) : (joinSurrogates s).length < s.length := by
  simpa [joinSurrogates] using (readText_spec s [] none (by simp)).2.2 (by simpa using h)

theorem joinSurrogates_eq (s : Str) (h : hasSurrogatePair s = false) : joinSurrogates s = s := by
  simpa [joinSurrogates] using (readText_spec s [] none (by simp)).1 (by simpa using h)

theorem no_pair_of_scalar (s : Str) (h : scalarText s) : hasSurrogatePair s = false := by
  induction s with
  | nil => rfl
  | cons c s ih =>
    have hc : isHighSurrogate c = false := by
      by_contra hx
      have := surrogate_of_high c (by simpa using hx)
      rw [h c List.mem_cons_self] at this
      exact absurd this (by decide)
    rw [hasSurrogatePair_of_not_high c s hc]
    exact ih fun x hx => h x (List.mem_cons_of_mem _ hx)

theorem no_pair_of_ascii (s : Str) (h : asciiText s) : hasSurrogatePair s = false :=
  no_pair_of_scalar s (scalar_of_ascii s h)

/-! ## Strings -/

section Strings

variable {ε : Type} (py : Interpreter) (hook : List (Str × Json) → Except ε Json) (stack : List Frame)
  (members : Option (List (Str × Json)))

theorem hexValue_hexDigit : ∀ n < 16, hexValue (hexDigit n) = some n := by decide

theorem run_unicodeEscape (chars : Str) (high : Option CodePoint) (n : Nat) (h : n < 0x10000) :
    LoadState.run py hook ⟨stack, .string members chars (.plain high)⟩ (unicodeEscape n) =
      .ok ⟨stack, .string members (afterEscape chars high (codePoint n)).1
        (.plain (afterEscape chars high (codePoint n)).2)⟩ := by
  have h₁ := hexValue_hexDigit (n / 4096) (by omega)
  have h₂ := hexValue_hexDigit (n / 256 % 16) (by omega)
  have h₃ := hexValue_hexDigit (n / 16 % 16) (by omega)
  have h₄ := hexValue_hexDigit (n % 16) (by omega)
  have hn : 16 * (16 * (16 * (16 * 0 + n / 4096) + n / 256 % 16) + n / 16 % 16) + n % 16 = n := by omega
  simp only [unicodeEscape, run_cons, run_nil, LoadState.step, stepString, ok_bind, if_true, h₁, h₂, h₃, h₄,
    Nat.reduceEqDiff, Nat.reduceSub, if_false, hn]

theorem afterEscape_plain (chars : Str) (high : Option CodePoint) (c : CodePoint) (h : isSurrogate c = false) :
    afterEscape chars high c = (chars ++ high.toList ++ [c], none) := by
  have hhigh : isHighSurrogate c = false := by
    simp only [isHighSurrogate, isSurrogate, decide_eq_false_iff_not] at *
    omega
  have hlow : isLowSurrogate c = false := by
    simp only [isLowSurrogate, isSurrogate, decide_eq_false_iff_not] at *
    omega
  cases high <;> simp [afterEscape, hhigh, hlow]

theorem afterEscape_pair (chars : Str) (high : Option CodePoint) (h l : CodePoint)
    (hh : isHighSurrogate h = true) (hl : isLowSurrogate l = true) :
    afterEscape (afterEscape chars high h).1 (afterEscape chars high h).2 l =
      (chars ++ high.toList ++ [joinPair h l], none) := by
  cases high <;> simp [afterEscape, hh, high_not_low h hh, hl]

theorem shortEscape_spec (c e : CodePoint) (h : shortEscape c = some e) :
    unescape e = some c ∧ e ≠ ch 'u' ∧ isSurrogate c = false := by
  unfold shortEscape at h
  split_ifs at h with h₁ h₂ h₃ h₄ h₅ h₆ h₇ <;> simp only [Option.some.injEq] at h <;> subst h
  · subst h₁; decide
  · subst h₂; decide
  · rw [Fin.ext (a := c) (b := codePoint 8) h₃]; decide
  · rw [Fin.ext (a := c) (b := codePoint 12) h₄]; decide
  · rw [Fin.ext (a := c) (b := codePoint 10) h₅]; decide
  · rw [Fin.ext (a := c) (b := codePoint 13) h₆]; decide
  · rw [Fin.ext (a := c) (b := codePoint 9) h₇]; decide

theorem joinPair_split (c : CodePoint) (h : 0x10000 ≤ c.val) :
    joinPair (codePoint (0xD800 + (c.val - 0x10000) / 1024)) (codePoint (0xDC00 + (c.val - 0x10000) % 1024)) =
      c := by
  have hh := codePoint_val (0xD800 + (c.val - 0x10000) / 1024) (by omega)
  have hl := codePoint_val (0xDC00 + (c.val - 0x10000) % 1024) (by omega)
  apply Fin.ext
  unfold joinPair
  rw [hh, hl, codePoint_val _ (by omega)]
  omega

theorem run_shortEscape (chars : Str) (high : Option CodePoint) (c e : CodePoint) (h : shortEscape c = some e) :
    LoadState.run py hook ⟨stack, .string members chars (.plain high)⟩ [ch '\\', e] =
      .ok ⟨stack, .string members (afterEscape chars high c).1 (.plain (afterEscape chars high c).2)⟩ := by
  obtain ⟨hun, hu, hs⟩ := shortEscape_spec c e h
  simp [LoadState.step, stepString, ok_bind, hu, hun, afterEscape_plain chars high c hs]

theorem run_printable (chars : Str) (high : Option CodePoint) (c : CodePoint) (h : shortEscape c = none)
    (hc : 32 ≤ c.val ∧ c.val < 127) :
    LoadState.run py hook ⟨stack, .string members chars (.plain high)⟩ [c] =
      .ok ⟨stack, .string members (afterEscape chars high c).1 (.plain (afterEscape chars high c).2)⟩ := by
  have hs : isSurrogate c = false := not_surrogate c (by omega)
  have hb : c ≠ ch '\\' := by
    rintro rfl
    exact absurd h (by decide)
  have hq : c ≠ ch '"' := by
    rintro rfl
    exact absurd h (by decide)
  have hlt : ¬ c.val < 32 := by omega
  simp only [run_cons, run_nil, LoadState.step, stepString, hb, hq, hlt, if_false, ok_bind,
    afterEscape_plain chars high c hs]

theorem run_surrogates (chars : Str) (high : Option CodePoint) (m n : Nat) (hm : 0xD800 ≤ m ∧ m ≤ 0xDBFF)
    (hn : 0xDC00 ≤ n ∧ n ≤ 0xDFFF) :
    LoadState.run py hook ⟨stack, .string members chars (.plain high)⟩ (unicodeEscape m ++ unicodeEscape n) =
      .ok ⟨stack, .string members (chars ++ high.toList ++ [joinPair (codePoint m) (codePoint n)])
        (.plain none)⟩ := by
  have hh : isHighSurrogate (codePoint m) = true := by
    unfold isHighSurrogate
    rw [codePoint_val m (by omega), decide_eq_true_eq]
    exact hm
  have hl : isLowSurrogate (codePoint n) = true := by
    unfold isLowSurrogate
    rw [codePoint_val n (by omega), decide_eq_true_eq]
    exact hn
  rw [run_append, run_unicodeEscape py hook stack members chars high m (by omega)]
  simp only [ok_bind]
  rw [run_unicodeEscape py hook stack members _ _ n (by omega), afterEscape_pair chars high _ _ hh hl]

theorem run_escapeAscii (chars : Str) (high : Option CodePoint) (c : CodePoint) :
    LoadState.run py hook ⟨stack, .string members chars (.plain high)⟩ (escapeAscii c) =
      .ok ⟨stack, .string members (afterEscape chars high c).1 (.plain (afterEscape chars high c).2)⟩ := by
  unfold escapeAscii
  split
  · rename_i e he
    exact run_shortEscape py hook stack members chars high c e he
  · rename_i he
    split
    · rename_i hc
      exact run_printable py hook stack members chars high c he hc
    · split
      · rename_i hc
        rw [run_unicodeEscape py hook stack members chars high c.val hc, codePoint_self]
      · rename_i hc
        have hs : isSurrogate c = false := not_surrogate c (by omega)
        rw [run_surrogates py hook stack members chars high _ _ (by omega) (by omega),
          joinPair_split c (by omega), afterEscape_plain chars high c hs]

theorem run_escaped (s chars : Str) (high : Option CodePoint) :
    LoadState.run py hook ⟨stack, .string members chars (.plain high)⟩ (s.flatMap escapeAscii) =
      .ok ⟨stack, .string members (readText chars high s).1 (.plain (readText chars high s).2)⟩ := by
  induction s generalizing chars high with
  | nil => rfl
  | cons c s ih =>
    rw [List.flatMap_cons, run_append, run_escapeAscii]
    exact ih _ _

theorem run_quoted (s : Str) :
    LoadState.run py hook ⟨stack, .string members [] (.plain none)⟩ (s.flatMap escapeAscii ++ [ch '"']) =
      .ok (finishString stack members (joinSurrogates s)) := by
  have hq : ch '"' ≠ ch '\\' := by decide
  rw [run_append, run_escaped]
  simp [ok_bind, LoadState.step, stepString, hq, joinSurrogates]

end Strings

/-! ## Numbers -/

theorem ch_digitChar : ∀ d < 10, ch (Nat.digitChar d) = digit d := by decide

theorem natRepr_eq (n : Nat) : natRepr n = (if n < 10 then [] else natRepr (n / 10)) ++ [digit (n % 10)] := by
  unfold natRepr
  rw [Nat.toDigits_eq_if (by omega)]
  split
  · rename_i h
    rw [List.map_singleton, ch_digitChar n h, Nat.mod_eq_of_lt h]
    rfl
  · rw [List.map_append, List.map_singleton, ch_digitChar _ (Nat.mod_lt n (by omega))]

theorem digit_val (d : Nat) (h : d < 10) : (digit d).val = 48 + d := codePoint_val _ (by omega)

theorem isDigit_digit (d : Nat) (h : d < 10) : isDigit (digit d) = true := by
  unfold isDigit
  rw [digit_val d h, decide_eq_true_eq]
  omega

theorem natRepr_digits (n : Nat) : ∀ c ∈ natRepr n, isDigit c = true := by
  induction n using Nat.strong_induction_on with
  | _ n ih =>
    rw [natRepr_eq]
    intro c hc
    rcases List.mem_append.mp hc with hc | hc
    · split at hc
      · simp at hc
      · exact ih (n / 10) (by omega) c hc
    · rw [List.mem_singleton.mp hc]
      exact isDigit_digit _ (Nat.mod_lt n (by omega))

theorem digitsValue_natRepr (n : Nat) : digitsValue (natRepr n) = n := by
  induction n using Nat.strong_induction_on with
  | _ n ih =>
    have hlast := digit_val (n % 10) (Nat.mod_lt n (by omega))
    rw [natRepr_eq, digitsValue, List.foldl_append]
    split
    · simp only [List.foldl_nil, List.foldl_cons, hlast]
      omega
    · have := ih (n / 10) (by omega)
      unfold digitsValue at this
      simp only [this, List.foldl_cons, List.foldl_nil, hlast]
      omega

theorem natRepr_head (n : Nat) : natRepr n = [ch '0'] ∨ ∃ c s, natRepr n = c :: s ∧ c ≠ ch '0' := by
  -- No leading zero: `0` is alone.
  induction n using Nat.strong_induction_on with
  | _ n ih =>
    rw [natRepr_eq]
    split
    · rename_i h
      rcases Nat.eq_zero_or_pos n with rfl | hpos
      · left; decide
      · right
        refine ⟨_, [], rfl, ?_⟩
        intro heq
        have := congrArg Fin.val heq
        rw [digit_val _ (by omega)] at this
        have hz : (ch '0').val = 48 := by decide
        omega
    · rename_i h
      right
      rcases ih (n / 10) (by omega) with hz | ⟨c, s, hs, hc⟩
      · have := digitsValue_natRepr (n / 10)
        rw [hz] at this
        have : digitsValue [ch '0'] = 0 := by decide
        omega
      · exact ⟨c, s ++ [digit (n % 10)], by rw [hs]; rfl, hc⟩

theorem matchInteger_natRepr (n : Nat) : matchInteger (natRepr n) = some (natRepr n, []) := by
  rcases natRepr_head n with h | ⟨c, s, h, hc⟩
  · rw [h]; decide
  · have hall := natRepr_digits n
    rw [h] at hall ⊢
    have hrest : ∀ x ∈ s, isDigit x = true := fun x hx => hall x (List.mem_cons_of_mem _ hx)
    have htake := List.takeWhile_eq_self_iff.mpr hrest
    have hdrop := List.dropWhile_eq_nil_iff.mpr hrest
    simp [matchInteger, hc, hall c List.mem_cons_self, htake, hdrop]

theorem matchSign_natRepr (n : Nat) : matchSign (natRepr n) = ([], natRepr n) := by
  cases h : natRepr n with
  | nil => rfl
  | cons c s =>
    have hd := natRepr_digits n c (by rw [h]; exact List.mem_cons_self)
    have hc : c ≠ ch '-' := by
      rintro rfl
      exact absurd hd (by decide)
    simp [matchSign, hc]

def Interpreter.reads (py : Interpreter) (n : Int) : Prop :=
  py.intMaxStrDigits = 0 ∨ (natRepr n.natAbs).length ≤ py.intMaxStrDigits

theorem finishNumber_intRepr {ε : Type} (py : Interpreter) (n : Int) (h : py.reads n) :
    finishNumber (ε := ε) py (intRepr n) = .ok (.int n) := by
  cases n with
  | ofNat n =>
    have hlimit : ¬ (py.intMaxStrDigits ≠ 0 ∧ py.intMaxStrDigits < (natRepr n).length) := by
      rcases h with h | h
      · exact fun hx => hx.1 h
      · have : (Int.ofNat n).natAbs = n := rfl
        rw [this] at h
        omega
    simp [finishNumber, intRepr, matchSign_natRepr, matchInteger_natRepr, matchFraction, matchExponent, hlimit,
      digitsValue_natRepr]
  | negSucc n =>
    have hlimit : ¬ (py.intMaxStrDigits ≠ 0 ∧ py.intMaxStrDigits < (natRepr (n + 1)).length) := by
      rcases h with h | h
      · exact fun hx => hx.1 h
      · have : (Int.negSucc n).natAbs = n + 1 := rfl
        rw [this] at h
        omega
    simp [finishNumber, intRepr, matchSign, matchInteger_natRepr, matchFraction, matchExponent, hlimit,
      digitsValue_natRepr, Int.negSucc_eq]

end Python
