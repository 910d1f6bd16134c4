import NetworkMapper.Python.Json.Tokens
import NetworkMapper.Python.StrMethods

/-!
# Numbers as text

`int(text)`, and numbers with a separator between them.
-/

namespace Python

/-- `int(text)` of ASCII text, `none` for a `ValueError`. An underscore may stand between two digits. -/
def intOf (py : Interpreter) (text : Str) : Option Int :=
  let (sign, unsigned) := match strip text with
    | [] => (1, [])
    | c :: rest => if c = ch '-' then (-1, rest) else if c = ch '+' then (1, rest) else (1, c :: rest)
  let groups := unsigned.splitOn (ch '_')
  if groups.any fun group => group = [] ∨ ¬ group.all isDigit then none
  else if py.intMaxStrDigits ≠ 0 ∧ py.intMaxStrDigits < groups.flatten.length then none
  else some (sign * digitsValue groups.flatten)

example : (intOf cpython (str " -1_000\n"), intOf cpython (str "1__0"), intOf cpython (str "")) =
    (some (-1000), none, none) := by decide

/-- `int(text)`. The decimal digits of other scripts count, by their value. -/
def intOfText (py : Interpreter) (decimal : CodePoint → Option (Fin 10)) (text : Str) : Option Int :=
  intOf py (text.map fun c => if c.val < 128 then c else ((decimal c).map fun d => digit d.val).getD c)

/-- `separator.join(str(n) for n in numbers)` -/
def joinNumbers (separator : CodePoint) (numbers : List Int) : Str := [separator].intercalate (numbers.map intRepr)

/-! ## Reading what was written -/

theorem natRepr_ne_nil (n : Nat) : natRepr n ≠ [] := by
  rcases natRepr_head n with h | ⟨c, s, h, -⟩ <;> simp [h]

theorem natRepr_length {n e : Nat} (h : n < 10 ^ (e + 1)) : (natRepr n).length ≤ e + 1 := by
  induction e generalizing n with
  | zero =>
    rw [natRepr_eq, if_pos (by simpa using h)]
    simp
  | succ e ih =>
    rw [natRepr_eq]
    split
    · simp
    · have := ih (n := n / 10) (by rw [Nat.div_lt_iff_lt_mul (by omega)]; exact lt_of_lt_of_eq h (pow_succ 10 (e + 1)))
      rw [List.length_append, List.length_singleton]
      omega

theorem natRepr_injective (m n : Nat) (h : natRepr m = natRepr n) : m = n := by
  rw [← digitsValue_natRepr m, h, digitsValue_natRepr]

theorem digit_cases (c : CodePoint) (h : isDigit c = true) :
    isSpace c = false ∧ c ≠ ch '-' ∧ c ≠ ch '+' ∧ c ≠ ch '_' ∧ c ≠ ch '.' := by
  have hne : ∀ d, isDigit d = false → c ≠ d := by
    rintro d hd rfl
    simp [h] at hd
  refine ⟨?_, hne _ (by decide), hne _ (by decide), hne _ (by decide), hne _ (by decide)⟩
  unfold isDigit at h
  unfold isSpace
  simp only [decide_eq_true_eq] at h
  simp only [decide_eq_false_iff_not, not_or, not_and]
  omega

theorem strip_digits (s : Str) (h : ∀ c ∈ s, isDigit c = true) : strip s = s := by
  have hspace : ∀ c ∈ s, isSpace c = false := fun c hc => (digit_cases c (h c hc)).1
  have hleft : s.dropWhile isSpace = s := by
    cases s with
    | nil => rfl
    | cons c s => exact List.dropWhile_cons_of_neg (by simp [hspace c List.mem_cons_self])
  unfold strip
  rw [hleft, List.rdropWhile_eq_self_iff]
  intro hne
  simp [hspace _ (List.getLast_mem hne)]

theorem intOf_digits (py : Interpreter) (s : Str) (hne : s ≠ []) (h : ∀ c ∈ s, isDigit c = true) :
    intOf py s =
      if py.intMaxStrDigits ≠ 0 ∧ py.intMaxStrDigits < s.length then none else some (digitsValue s : Int) := by
  obtain ⟨c, rest, rfl⟩ := List.exists_cons_of_ne_nil hne
  obtain ⟨-, hminus, hplus, -⟩ := digit_cases c (h c List.mem_cons_self)
  have hsplit : (c :: rest).splitOn (ch '_') = [c :: rest] :=
    List.splitOn_eq_singleton fun hmem => (digit_cases _ (h _ hmem)).2.2.2.1 rfl
  have hall : (c :: rest).all isDigit = true := List.all_eq_true.mpr h
  unfold intOf
  rw [strip_digits _ h]
  simp only [hminus, hplus, if_false, hsplit, List.any_cons, List.any_nil, hall, reduceCtorEq, not_true_eq_false,
    or_self, decide_false, Bool.or_self, Bool.false_eq_true, List.flatten_singleton, one_mul]

theorem intOf_natRepr (py : Interpreter) (n : Nat) (m : Int) :
    intOf py (natRepr n) = some m ↔ py.reads n ∧ m = n := by
  have hreads : py.reads n ↔ ¬ (py.intMaxStrDigits ≠ 0 ∧ py.intMaxStrDigits < (natRepr n).length) := by
    unfold Interpreter.reads
    rw [Int.natAbs_natCast]
    omega
  rw [intOf_digits py _ (natRepr_ne_nil n) (natRepr_digits n), digitsValue_natRepr, hreads]
  split
  · rename_i h
    simp [h]
  · rename_i h
    simp [h, eq_comm]

/-! ## Separators -/

theorem natRepr_no_dot (n : Nat) : ch '.' ∉ natRepr n := fun h => (digit_cases _ (natRepr_digits n _ h)).2.2.2.2 rfl

theorem joinNumbers_cast (separator : CodePoint) (numbers : List Nat) :
    joinNumbers separator (numbers.map Int.ofNat) = [separator].intercalate (numbers.map natRepr) := by
  unfold joinNumbers
  rw [List.map_map]
  rfl

theorem splitOn_joinNumbers (numbers : List Nat) (hne : numbers ≠ []) :
    (joinNumbers (ch '.') (numbers.map Int.ofNat)).splitOn (ch '.') = numbers.map natRepr := by
  rw [joinNumbers_cast]
  apply List.splitOn_intercalate
  · rw [List.forall_mem_map]
    exact fun n _ => natRepr_no_dot n
  · simpa using hne

theorem joinNumbers_injective (numbers numbers' : List Nat) (hne : numbers ≠ []) (hne' : numbers' ≠ [])
    (h : joinNumbers (ch '.') (numbers.map Int.ofNat) = joinNumbers (ch '.') (numbers'.map Int.ofNat)) :
    numbers = numbers' := by
  have hsplit := congrArg (List.splitOn (ch '.')) h
  rw [splitOn_joinNumbers numbers hne, splitOn_joinNumbers numbers' hne'] at hsplit
  exact List.map_injective_iff.mpr (fun m n => natRepr_injective m n) hsplit

theorem joinNumbers_after (numbers all : List Nat) (rest : Str) (hne : numbers ≠ []) (hall : all ≠ [])
    (h : joinNumbers (ch '.') (all.map Int.ofNat) = joinNumbers (ch '.') (numbers.map Int.ofNat) ++ ch '.' :: rest) :
    ∃ suffix, suffix ≠ [] ∧ all = numbers ++ suffix ∧ rest.splitOn (ch '.') = suffix.map natRepr := by
  have hsplit := congrArg (List.splitOn (ch '.')) h
  rw [splitOn_joinNumbers all hall, List.splitOn_append_cons_self, splitOn_joinNumbers numbers hne] at hsplit
  obtain ⟨before, suffix, rfl, hbefore, hsuffix⟩ := List.map_eq_append_iff.mp hsplit
  have hsame : before = numbers := List.map_injective_iff.mpr (fun m n => natRepr_injective m n) hbefore
  refine ⟨suffix, ?_, by rw [hsame], hsuffix.symm⟩
  rintro rfl
  exact List.splitOn_ne_nil _ _ hsuffix.symm

theorem joinNumbers_append (numbers suffix : List Nat) (hne : numbers ≠ []) (hsuffix : suffix ≠ []) :
    joinNumbers (ch '.') ((numbers ++ suffix).map Int.ofNat) =
      joinNumbers (ch '.') (numbers.map Int.ofNat) ++ ch '.' :: joinNumbers (ch '.') (suffix.map Int.ofNat) := by
  simp only [joinNumbers_cast]
  induction numbers with
  | nil => exact absurd rfl hne
  | cons n numbers ih =>
    rw [List.cons_append, List.map_cons, List.map_cons, List.intercalate_cons_of_ne_nil (by simp [hsuffix])]
    cases numbers with
    | nil => simp
    | cons m numbers =>
      rw [ih (by simp), List.intercalate_cons_of_ne_nil (by simp)]
      simp

end Python
