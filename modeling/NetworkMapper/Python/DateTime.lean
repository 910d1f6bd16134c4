import NetworkMapper.Python.Text
import Mathlib.Tactic.Ring

/-!
# `datetime.isoformat` and `datetime.fromisoformat`

A `datetime` is what `isoformat` shows of it. The name of a zone and the `fold`
attribute are not part of that.
-/

namespace Python

/-! ## Padded decimal numbers -/

def digit (d : Nat) : CodePoint := codePoint (48 + d)

/-- `%0kd`, for a number of at most `k` digits. -/
def pad : Nat → Nat → Str
  | 0, _ => []
  | k + 1, n => pad k (n / 10) ++ [digit (n % 10)]

def digitValue (c : CodePoint) : Option Nat :=
  if 48 ≤ c.val ∧ c.val ≤ 57 then some (c.val - 48) else none

/-- Reads exactly `k` digits after the digits already in `acc`. -/
def readDigits : Nat → Nat → Str → Option (Nat × Str)
  | 0, acc, s => some (acc, s)
  | _ + 1, _, [] => none
  | k + 1, acc, c :: s => (digitValue c).bind fun d => readDigits k (10 * acc + d) s

theorem digitValue_digit (d : Nat) (h : d < 10) : digitValue (digit d) = some d := by
  have hv : (digit d).val = 48 + d := codePoint_val _ (by omega)
  unfold digitValue
  rw [hv, if_pos (by omega)]
  congr 1
  omega

theorem readDigits_succ (k acc : Nat) (s : Str) :
    readDigits (k + 1) acc s = (readDigits k acc s).bind fun r => readDigits 1 r.1 r.2 := by
  induction k generalizing acc s with
  | zero => rfl
  | succ k ih =>
    cases s with
    | nil => rfl
    | cons c s =>
      rw [readDigits, readDigits]
      cases digitValue c with
      | none => rfl
      | some d => simp only [Option.bind_some, ih (10 * acc + d) s]

theorem readDigits_pad (k acc n : Nat) (rest : Str) (h : n < 10 ^ k) :
    readDigits k acc (pad k n ++ rest) = some (acc * 10 ^ k + n, rest) := by
  induction k generalizing n rest with
  | zero => simp [readDigits, pad] at *; omega
  | succ k ih =>
    have hd : n / 10 < 10 ^ k := by rw [pow_succ] at h; omega
    rw [readDigits_succ, pad, List.append_assoc, ih (n / 10) _ hd]
    simp only [List.singleton_append, Option.bind_some, readDigits,
      digitValue_digit _ (Nat.mod_lt n (by omega))]
    congr 2
    rw [pow_succ, Nat.mul_add, Nat.add_assoc, Nat.div_add_mod]
    ring

theorem readDigits_zero_pad (k n : Nat) (rest : Str) (h : n < 10 ^ k) :
    readDigits k 0 (pad k n ++ rest) = some (n, rest) := by
  simpa using readDigits_pad k 0 n rest h

/-! ## The values -/

/-- A UTC offset, strictly between minus and plus 24 hours. Zero has no sign. -/
structure UtcOffset where
  negative : Bool
  hours : Nat
  minutes : Nat
  seconds : Nat
  microseconds : Nat
  valid : hours < 24 ∧ minutes < 60 ∧ seconds < 60 ∧ microseconds < 1000000 ∧
    (negative = true → 0 < hours + minutes + seconds + microseconds)
  deriving DecidableEq

def isLeap (year : Nat) : Bool := year % 4 = 0 ∧ (year % 100 ≠ 0 ∨ year % 400 = 0)

def daysInMonth (year month : Nat) : Nat :=
  if month = 2 then (if isLeap year then 29 else 28)
  else if month = 4 ∨ month = 6 ∨ month = 9 ∨ month = 11 then 30 else 31

/-- A naive `datetime` has no UTC offset. -/
structure DateTime where
  year : Nat
  month : Nat
  day : Nat
  hour : Nat
  minute : Nat
  second : Nat
  microsecond : Nat
  utcoffset : Option UtcOffset
  date_valid : 1 ≤ year ∧ year ≤ 9999 ∧ 1 ≤ month ∧ month ≤ 12 ∧ 1 ≤ day ∧ day ≤ daysInMonth year month
  time_valid : hour < 24 ∧ minute < 60 ∧ second < 60 ∧ microsecond < 1000000
  deriving DecidableEq

theorem daysInMonth_le (year month : Nat) : daysInMonth year month ≤ 31 := by
  unfold daysInMonth
  split_ifs <;> omega

/-! ## Writing -/

def fraction (microseconds : Nat) : Str :=
  if microseconds = 0 then [] else ch '.' :: pad 6 microseconds

/-- `+HH:MM[:SS[.ffffff]]` -/
def UtcOffset.isoformat (o : UtcOffset) : Str :=
  (if o.negative then ch '-' else ch '+') :: pad 2 o.hours ++ ch ':' :: pad 2 o.minutes ++
    (if o.seconds = 0 ∧ o.microseconds = 0 then []
      else ch ':' :: pad 2 o.seconds ++ fraction o.microseconds)

def offsetText : Option UtcOffset → Str
  | none => []
  | some o => o.isoformat

/-- `YYYY-MM-DDTHH:MM:SS[.ffffff][+HH:MM[:SS[.ffffff]]]` -/
def DateTime.isoformat (d : DateTime) : Str :=
  pad 4 d.year ++ ch '-' :: pad 2 d.month ++ ch '-' :: pad 2 d.day ++ ch 'T' ::
    pad 2 d.hour ++ ch ':' :: pad 2 d.minute ++ ch ':' :: pad 2 d.second ++
    (fraction d.microsecond ++ offsetText d.utcoffset)

/-! ## Reading -/

def expect (c : CodePoint) : Str → Option Str
  | [] => none
  | x :: s => if x = c then some s else none

def readFraction (s : Str) : Option (Nat × Str) :=
  match s with
  | [] => some (0, [])
  | x :: rest => if x = ch '.' then readDigits 6 0 rest else some (0, x :: rest)

def readOffsetSeconds (s : Str) : Option (Nat × Nat × Str) :=
  match s with
  | [] => some (0, 0, [])
  | x :: rest =>
    if x = ch ':' then do
      let (seconds, s) ← readDigits 2 0 rest
      let (microseconds, s) ← readFraction s
      some (seconds, microseconds, s)
    else some (0, 0, x :: rest)

/-- The fields of an offset, if they are in range. `-00:00` is zero. -/
def mkOffset (negative : Bool) (hours minutes seconds microseconds : Nat) : Option UtcOffset :=
  let sign := negative && decide (0 < hours + minutes + seconds + microseconds)
  if h : hours < 24 ∧ minutes < 60 ∧ seconds < 60 ∧ microseconds < 1000000 ∧
      (sign = true → 0 < hours + minutes + seconds + microseconds) then
    some ⟨sign, hours, minutes, seconds, microseconds, h⟩
  else none

def utc : UtcOffset := ⟨false, 0, 0, 0, 0, by decide⟩

def readOffset (s : Str) : Option (Option UtcOffset) :=
  match s with
  | [] => some none
  | sign :: s =>
    if sign = ch 'Z' ∧ s = [] then some (some utc)
    else if sign = ch '+' ∨ sign = ch '-' then do
      let (hours, s) ← readDigits 2 0 s
      let s ← expect (ch ':') s
      let (minutes, s) ← readDigits 2 0 s
      let (seconds, microseconds, s) ← readOffsetSeconds s
      if s = [] then (mkOffset (decide (sign = ch '-')) hours minutes seconds microseconds).map some
      else none
    else none

def mkDateTime (year month day hour minute second microsecond : Nat) (utcoffset : Option UtcOffset) :
    Option DateTime :=
  if hd : 1 ≤ year ∧ year ≤ 9999 ∧ 1 ≤ month ∧ month ≤ 12 ∧ 1 ≤ day ∧ day ≤ daysInMonth year month then
    if ht : hour < 24 ∧ minute < 60 ∧ second < 60 ∧ microsecond < 1000000 then
      some ⟨year, month, day, hour, minute, second, microsecond, utcoffset, hd, ht⟩
    else none
  else none

/-- The extended format in full, with any separator and with `Z`. Python reads
shorter spellings too (no seconds, no dashes, fewer digits in a fraction). None of
them is the `isoformat` of what it denotes. -/
def DateTime.fromisoformat (s : Str) : Option DateTime := do
  let (year, s) ← readDigits 4 0 s
  let s ← expect (ch '-') s
  let (month, s) ← readDigits 2 0 s
  let s ← expect (ch '-') s
  let (day, s) ← readDigits 2 0 s
  let s ← s.tail?
  let (hour, s) ← readDigits 2 0 s
  let s ← expect (ch ':') s
  let (minute, s) ← readDigits 2 0 s
  let s ← expect (ch ':') s
  let (second, s) ← readDigits 2 0 s
  let (microsecond, s) ← readFraction s
  let utcoffset ← readOffset s
  mkDateTime year month day hour minute second microsecond utcoffset

/-! ## Round trip -/

@[simp]
theorem expect_cons (c : CodePoint) (s : Str) : expect c (c :: s) = some s := by simp [expect]

theorem readFraction_fraction (us : Nat) (rest : Str) (h : us < 1000000) (hr : rest.head? ≠ some (ch '.')) :
    readFraction (fraction us ++ rest) = some (us, rest) := by
  unfold fraction
  split
  · rename_i h0
    subst h0
    cases rest with
    | nil => rfl
    | cons x rest =>
      have hx : x ≠ ch '.' := by simpa using hr
      simp [readFraction, hx]
  · simp only [List.cons_append, readFraction, if_true]
    exact readDigits_zero_pad 6 us rest (by omega)

theorem readOffsetSeconds_write (o : UtcOffset) :
    readOffsetSeconds (if o.seconds = 0 ∧ o.microseconds = 0 then []
      else ch ':' :: pad 2 o.seconds ++ fraction o.microseconds) =
      some (o.seconds, o.microseconds, []) := by
  obtain ⟨-, -, hs, hus, -⟩ := o.valid
  split
  · rename_i h0
    rw [h0.1, h0.2]
    rfl
  · have hf := readFraction_fraction o.microseconds [] hus (by simp)
    rw [List.append_nil] at hf
    simp [readOffsetSeconds, readDigits_zero_pad 2 o.seconds _ (by omega), hf]

theorem mkOffset_self (o : UtcOffset) :
    mkOffset o.negative o.hours o.minutes o.seconds o.microseconds = some o := by
  obtain ⟨neg, h, m, s, us, hv⟩ := o
  have hsign : (neg && decide (0 < h + m + s + us)) = neg := by
    cases neg with
    | false => rfl
    | true => simpa using hv.2.2.2.2 rfl
  unfold mkOffset
  simp only [hsign]
  rw [dif_pos hv]

theorem readOffset_offsetText (o : Option UtcOffset) : readOffset (offsetText o) = some o := by
  cases o with
  | none => rfl
  | some o =>
    obtain ⟨hh, hm, -⟩ := o.valid
    have hsec := readOffsetSeconds_write o
    have hself := mkOffset_self o
    have hne : ch '+' ≠ ch '-' := by decide
    have hz : ∀ b : Bool, (if b then ch '-' else ch '+') ≠ ch 'Z' := by decide
    have hs : ∀ b : Bool, (if b then ch '-' else ch '+') = ch '+' ∨ (if b then ch '-' else ch '+') = ch '-' := by
      decide
    have hb : ∀ b : Bool, decide ((if b then ch '-' else ch '+') = ch '-') = b := by decide
    simp only [offsetText, UtcOffset.isoformat, List.cons_append, List.append_assoc, readOffset, hz, false_and,
      if_false, hs, if_true, readDigits_zero_pad 2 o.hours _ (by omega : o.hours < 10 ^ 2),
      readDigits_zero_pad 2 o.minutes _ (by omega : o.minutes < 10 ^ 2), Option.bind_eq_bind,
      Option.bind_some, expect_cons, hb]
    simp only [← List.cons_append, hsec, Option.bind_some, if_true, hself, Option.map_some]

theorem mkDateTime_self (d : DateTime) :
    mkDateTime d.year d.month d.day d.hour d.minute d.second d.microsecond d.utcoffset = some d := by
  obtain ⟨_, _, _, _, _, _, _, _, hd, ht⟩ := d
  unfold mkDateTime
  rw [dif_pos hd, dif_pos ht]

theorem offsetText_head (o : Option UtcOffset) : (offsetText o).head? ≠ some (ch '.') := by
  cases o with
  | none => simp [offsetText]
  | some o =>
    have hb : ∀ b : Bool, (if b then ch '-' else ch '+') ≠ ch '.' := by decide
    simpa [offsetText, UtcOffset.isoformat] using hb o.negative

theorem bind_of_some {α β : Type} {x : Option α} {a : α} {f : α → Option β} {r : Option β} (hx : x = some a)
    (hf : f a = r) : x >>= f = r := by
  rw [hx]
  exact hf

theorem fromisoformat_isoformat (d : DateTime) : DateTime.fromisoformat d.isoformat = some d := by
  obtain ⟨-, hy, -, hmo, -, hday⟩ := d.date_valid
  obtain ⟨hh, hmi, hs, hus⟩ := d.time_valid
  have hday := le_trans hday (daysInMonth_le _ _)
  unfold DateTime.isoformat
  simp only [List.append_assoc, List.cons_append]
  unfold DateTime.fromisoformat
  apply bind_of_some (readDigits_zero_pad 4 d.year _ (by omega))
  apply bind_of_some (expect_cons _ _)
  apply bind_of_some (readDigits_zero_pad 2 d.month _ (by omega))
  apply bind_of_some (expect_cons _ _)
  apply bind_of_some (readDigits_zero_pad 2 d.day _ (by omega))
  apply bind_of_some List.tail?_cons
  apply bind_of_some (readDigits_zero_pad 2 d.hour _ (by omega))
  apply bind_of_some (expect_cons _ _)
  apply bind_of_some (readDigits_zero_pad 2 d.minute _ (by omega))
  apply bind_of_some (expect_cons _ _)
  apply bind_of_some (readDigits_zero_pad 2 d.second _ (by omega))
  apply bind_of_some (readFraction_fraction d.microsecond (offsetText d.utcoffset) hus (offsetText_head _))
  apply bind_of_some (readOffset_offsetText d.utcoffset)
  exact mkDateTime_self d

theorem isoformat_injective (d₁ d₂ : DateTime) (h : d₁.isoformat = d₂.isoformat) : d₁ = d₂ := by
  have := congrArg DateTime.fromisoformat h
  simpa [fromisoformat_isoformat] using this

/-! ## ASCII -/

theorem pad_ascii (k n : Nat) : asciiText (pad k n) := by
  induction k generalizing n with
  | zero => exact List.forall_mem_nil _
  | succ k ih =>
    unfold pad
    rw [asciiText_append, asciiText_cons]
    refine ⟨ih _, ?_, List.forall_mem_nil _⟩
    unfold digit
    rw [codePoint_val _ (by omega)]
    omega

theorem fraction_ascii (us : Nat) : asciiText (fraction us) := by
  unfold fraction
  split
  · decide
  · rw [asciiText_cons]
    exact ⟨by decide, pad_ascii 6 us⟩

theorem offsetText_ascii (o : Option UtcOffset) : asciiText (offsetText o) := by
  cases o with
  | none => rw [offsetText]; decide
  | some o =>
    have hsign : (if o.negative then ch '-' else ch '+').val < 128 := by cases o.negative <;> decide
    unfold offsetText UtcOffset.isoformat
    simp only [asciiText_append, asciiText_cons]
    refine ⟨⟨⟨hsign, pad_ascii _ _⟩, by decide, pad_ascii _ _⟩, ?_⟩
    split
    · decide
    · simp only [asciiText_append, asciiText_cons]
      exact ⟨⟨by decide, pad_ascii _ _⟩, fraction_ascii _⟩

theorem isoformat_ascii (d : DateTime) : asciiText d.isoformat := by
  unfold DateTime.isoformat
  simp only [asciiText_append, asciiText_cons]
  simp only [pad_ascii, fraction_ascii, offsetText_ascii, and_true, true_and]
  decide

end Python
