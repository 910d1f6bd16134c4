import NetworkMapper.Python.DateTime

/-! # `ipaddress.IPv4Address` -/

namespace Python

/-- `_parse_octet`: one to three ASCII digits, no leading zero, at most 255. -/
def parseOctet (octet : Str) : Option Nat := do
  let value ← octet.foldlM (fun n c => (digitValue c).map (10 * n + ·)) 0
  if octet = [] ∨ 3 < octet.length ∨ (octet ≠ str "0" ∧ octet.head? = some (ch '0')) ∨ 255 < value then none
  else some value

/-- `IPv4Address(text)` as an integer, `none` for a `ValueError`. -/
def ipv4Address (text : Str) : Option Nat := do
  match text.splitOn (ch '.') with
  | [a, b, c, d] =>
    return ((256 * (← parseOctet a) + (← parseOctet b)) * 256 + (← parseOctet c)) * 256 + (← parseOctet d)
  | _ => none

example : ipv4Address (str "10.0.0.7") = some 167772167 := by decide

example : ipv4Address (str "10.0.0.07") = none := by decide

theorem parseOctet_le {octet : Str} {n : Nat} (h : parseOctet octet = some n) : n ≤ 255 := by
  unfold parseOctet at h
  obtain ⟨value, -, h⟩ := Option.bind_eq_some_iff.mp h
  split at h
  · cases h
  · rename_i hvalid
    rw [Option.some.injEq] at h
    simp only [not_or] at hvalid
    omega

theorem ipv4Address_octets {text : Str} {n : Nat} (h : ipv4Address text = some n) :
    ∃ a b c d i j k l, text.splitOn (ch '.') = [a, b, c, d] ∧ parseOctet a = some i ∧ parseOctet b = some j ∧
      parseOctet c = some k ∧ parseOctet d = some l ∧ n = ((256 * i + j) * 256 + k) * 256 + l := by
  unfold ipv4Address at h
  split at h
  · rename_i a b c d hsplit
    simp only [Option.bind_eq_bind, Option.bind_eq_some_iff, Option.pure_def, Option.some.injEq] at h
    obtain ⟨i, hi, j, hj, k, hk, l, hl, rfl⟩ := h
    exact ⟨a, b, c, d, i, j, k, l, hsplit, hi, hj, hk, hl, rfl⟩
  · cases h

theorem ipv4Address_lt {text : Str} {n : Nat} (h : ipv4Address text = some n) : n < 2 ^ 32 := by
  obtain ⟨a, b, c, d, i, j, k, l, -, hi, hj, hk, hl, rfl⟩ := ipv4Address_octets h
  have hi := parseOctet_le hi
  have hj := parseOctet_le hj
  have hk := parseOctet_le hk
  have hl := parseOctet_le hl
  omega

end Python
