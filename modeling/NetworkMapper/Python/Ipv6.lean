import NetworkMapper.Python.IpAddress
import NetworkMapper.Python.Numerals

/-!
# `ipaddress.IPv6Address`

An address is eight groups of sixteen bits. A run of groups that are zero can be left
out of its text once.
-/

namespace Python

/-! ## Reading -/

/-- `_parse_hextet`: one to four hexadecimal digits. -/
def parseHextet (hextet : Str) : Option Nat :=
  if hextet = [] ∨ 4 < hextet.length then none else hextet.foldlM (fun n c => (hexValue c).map (16 * n + ·)) 0

def hextetsValue (start : Nat) (hextets : List Str) : Option Nat :=
  hextets.foldlM (fun n hextet => (parseHextet hextet).map (65536 * n + ·)) start

/-- `'%x' % n` of sixteen bits. -/
def hextetText (n : Nat) : Str :=
  match [hexDigit (n / 4096), hexDigit (n / 256 % 16), hexDigit (n / 16 % 16), hexDigit (n % 16)].dropWhile
      (· = ch '0') with
  | [] => str "0"
  | digits => digits

/-- The text between the colons. An IPv4 address at the end is written as two groups. -/
def ipv6Parts (text : Str) : Option (List Str) :=
  let parts := text.splitOn (ch ':')
  if parts.length < 3 then none
  else match parts.getLast? with
    | none => none
    | some last =>
      if ch '.' ∈ last then
        (ipv4Address last).map fun n => parts.dropLast ++ [hextetText (n / 65536), hextetText (n % 65536)]
      else some parts

/-- The groups on one side of the run. An empty part at the end of the text belongs to the two colons. -/
def sideParts (atEnd : Option Str) (parts : List Str) : Option (List Str) :=
  if atEnd = some [] then (if parts.length - 1 ≠ 0 then none else some []) else some parts

/-- The groups before and after the run that is left out. -/
def skippedAround (parts : List Str) (skip : Nat) : Option (List Str × List Str) := do
  let high ← sideParts parts.head? (parts.take skip)
  let low ← sideParts parts.getLast? (parts.drop (skip + 1))
  if 8 < high.length + low.length + 1 then none else some (high, low)

/-- `_ip_int_from_string` -/
def ipv6IntFromString (text : Str) : Option Nat := do
  let parts ← ipv6Parts text
  if 9 < parts.length then none
  else match (List.range' 1 (parts.length - 2)).filter fun i => parts[i]? = some [] with
    | [] =>
      if parts.length ≠ 8 ∨ parts.head? = some [] ∨ parts.getLast? = some [] then none else hextetsValue 0 parts
    | [skip] => do
      let (high, low) ← skippedAround parts skip
      let n ← hextetsValue 0 high
      hextetsValue (n * 65536 ^ (8 - (high.length + low.length))) low
    | _ => none

/-! ## Writing -/

/-- The longest run of zeros so far, and the one that is open. -/
structure ZeroRuns where
  index : Nat := 0
  start : Nat := 0
  length : Nat := 0
  bestStart : Nat := 0
  bestLength : Nat := 0

def ZeroRuns.step (runs : ZeroRuns) (hextet : Str) : ZeroRuns :=
  if hextet = str "0" then
    let start := if runs.length = 0 then runs.index else runs.start
    let length := runs.length + 1
    if runs.bestLength < length then ⟨runs.index + 1, start, length, start, length⟩
    else { runs with index := runs.index + 1, start := start, length := length }
  else { runs with index := runs.index + 1, length := 0 }

def compressHextets (hextets : List Str) : List Str :=
  let runs := hextets.foldl ZeroRuns.step {}
  if 1 < runs.bestLength then
    let bestEnd := runs.bestStart + runs.bestLength
    (if runs.bestStart = 0 then [[]] else []) ++ hextets.take runs.bestStart ++ [[]] ++ hextets.drop bestEnd ++
      if bestEnd = hextets.length then [[]] else []
  else hextets

/-- The groups of an integer, the high ones first. -/
def hextets (n : Nat) : List Nat := (List.range 8).map fun i => n / 65536 ^ (7 - i) % 65536

/-- `_string_from_ip_int` -/
def ipv6Text (n : Nat) : Str := [ch ':'].intercalate (compressHextets ((hextets n).map hextetText))

example : ipv6IntFromString (str "2001:db8::192.0.2.1") = some 0x20010db80000000000000000c0000201 := by decide

example : ["::1::", ":1:2:3:4:5:6:7", "::10000"].map (fun text => ipv6IntFromString (str text)) =
    [none, none, none] := by decide

example : (ipv6Text 0x20010db8000000000001000000000001, ipv6Text 0, ipv6Text 1) =
    (str "2001:db8::1:0:0:1", str "::", str "::1") := by decide

/-! ## Bounds -/

theorem foldlM_digits_lt {α : Type} (f : α → Option Nat) (b : Nat) (hf : ∀ a n, f a = some n → n < b) (items : List α)
    (start m : Nat) (h : items.foldlM (fun n a => (f a).map (b * n + ·)) start = some m) :
    m < (start + 1) * b ^ items.length := by
  induction items generalizing start with
  | nil =>
    rw [List.foldlM_nil, Option.pure_def, Option.some.injEq] at h
    simp [h]
  | cons a items ih =>
    rw [List.foldlM_cons, Option.bind_eq_bind, Option.bind_eq_some_iff] at h
    obtain ⟨n, hn, hm⟩ := h
    obtain ⟨d, hd, rfl⟩ := Option.map_eq_some_iff.mp hn
    have hstep : b * start + d + 1 ≤ b * (start + 1) := by
      have := hf a d hd
      rw [Nat.mul_succ]
      omega
    calc m < (b * start + d + 1) * b ^ items.length := ih _ hm
      _ ≤ b * (start + 1) * b ^ items.length := Nat.mul_le_mul_right _ hstep
      _ = (start + 1) * b ^ (a :: items).length := by
        rw [List.length_cons, pow_succ]
        ring

theorem foldlM_digits_some {α : Type} (f : α → Option Nat) (b : Nat) (items : List α) (start m : Nat)
    (h : items.foldlM (fun n a => (f a).map (b * n + ·)) start = some m) : ∀ a ∈ items, ∃ d, f a = some d := by
  induction items generalizing start with
  | nil => exact fun a ha => absurd ha List.not_mem_nil
  | cons a items ih =>
    rw [List.foldlM_cons, Option.bind_eq_bind, Option.bind_eq_some_iff] at h
    obtain ⟨n, hn, hm⟩ := h
    obtain ⟨d, hd, -⟩ := Option.map_eq_some_iff.mp hn
    exact List.forall_mem_cons.mpr ⟨⟨d, hd⟩, ih _ hm⟩

theorem hexValue_lt (c : CodePoint) (n : Nat) (h : hexValue c = some n) : n < 16 := by
  unfold hexValue at h
  split_ifs at h <;> rw [Option.some.injEq] at h <;> omega

theorem parseHextet_lt (hextet : Str) (n : Nat) (h : parseHextet hextet = some n) : n < 65536 := by
  unfold parseHextet at h
  split at h
  · cases h
  · rename_i hlength
    have hlt := foldlM_digits_lt hexValue 16 hexValue_lt hextet 0 n h
    have hpow : 16 ^ hextet.length ≤ 16 ^ 4 := Nat.pow_le_pow_right (by decide) (by omega)
    omega

theorem hextetsValue_lt (start : Nat) (hextets : List Str) (n : Nat) (h : hextetsValue start hextets = some n) :
    n < (start + 1) * 65536 ^ hextets.length :=
  foldlM_digits_lt parseHextet 65536 parseHextet_lt hextets start n h

theorem skippedAround_length {parts high low : List Str} {skip : Nat}
    (h : skippedAround parts skip = some (high, low)) :
    high.length + low.length + 1 ≤ 8 := by
  unfold skippedAround at h
  simp only [Option.bind_eq_bind, Option.bind_eq_some_iff] at h
  obtain ⟨high', -, low', -, h⟩ := h
  split at h
  · cases h
  · rw [Option.some.injEq, Prod.mk.injEq] at h
    obtain ⟨rfl, rfl⟩ := h
    omega

theorem ipv6IntFromString_lt {text : Str} {n : Nat} (h : ipv6IntFromString text = some n) : n < 2 ^ 128 := by
  have htotal : 65536 ^ 8 = 2 ^ 128 := by norm_num
  unfold ipv6IntFromString at h
  simp only [Option.bind_eq_bind, Option.bind_eq_some_iff] at h
  obtain ⟨parts, -, h⟩ := h
  split at h
  · cases h
  split at h
  · split at h
    · cases h
    · rename_i hparts
      have hlt := hextetsValue_lt 0 parts n h
      simp only [not_or, not_not] at hparts
      rw [hparts.1] at hlt
      omega
  · rename_i skip _
    rw [Option.bind_eq_some_iff] at h
    obtain ⟨⟨high, low⟩, haround, h⟩ := h
    rw [Option.bind_eq_some_iff] at h
    obtain ⟨k, hk, h⟩ := h
    have hlength := skippedAround_length haround
    have hhigh := hextetsValue_lt 0 high k hk
    have hpow : 0 < 65536 ^ (8 - (high.length + low.length)) := Nat.pow_pos (by decide)
    calc n < (k * 65536 ^ (8 - (high.length + low.length)) + 1) * 65536 ^ low.length := hextetsValue_lt _ _ _ h
      _ ≤ ((k + 1) * 65536 ^ (8 - (high.length + low.length))) * 65536 ^ low.length := by
        refine Nat.mul_le_mul_right _ ?_
        rw [Nat.succ_mul]
        omega
      _ ≤ (65536 ^ high.length * 65536 ^ (8 - (high.length + low.length))) * 65536 ^ low.length := by
        refine Nat.mul_le_mul_right _ (Nat.mul_le_mul_right _ ?_)
        omega
      _ = 65536 ^ 8 := by
        rw [← pow_add, ← pow_add]
        congr 1
        omega
      _ = 2 ^ 128 := htotal
  · cases h

end Python
