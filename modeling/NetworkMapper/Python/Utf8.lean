import NetworkMapper.Python.Text
import NetworkMapper.Python.Raising

/-! # Bytes: ASCII and strict UTF-8 -/

namespace Python

abbrev Byte := Fin 256

abbrev Bytes := List Byte

def byte (n : Nat) : Byte := Fin.ofNat 256 n

theorem byte_val (n : Nat) (h : n < 256) : (byte n).val = n := Nat.mod_eq_of_lt h

inductive UnicodeError where
  | encode
  | decode
  deriving DecidableEq

/-! ## Writing -/

/-- `text.encode("ascii")` -/
def encodeAscii (text : Str) : Except UnicodeError Bytes :=
  text.mapM fun c => if c.val < 128 then .ok (byte c.val) else .error .encode

/-- One code point. A surrogate has no encoding. -/
def encodePoint (c : CodePoint) : Except UnicodeError Bytes :=
  if c.val < 0x80 then .ok [byte c.val]
  else if c.val < 0x800 then .ok [byte (0xC0 + c.val / 64), byte (0x80 + c.val % 64)]
  else if isSurrogate c then .error .encode
  else if c.val < 0x10000 then
    .ok [byte (0xE0 + c.val / 4096), byte (0x80 + c.val / 64 % 64), byte (0x80 + c.val % 64)]
  else
    .ok [byte (0xF0 + c.val / 262144), byte (0x80 + c.val / 4096 % 64), byte (0x80 + c.val / 64 % 64),
      byte (0x80 + c.val % 64)]

/-- `text.encode("utf-8")` -/
def encodeUtf8 (text : Str) : Except UnicodeError Bytes := do
  return (← text.mapM encodePoint).flatten

/-! ## Reading -/

/-- Between code points, or `more` bytes before the end of one that must reach `low`. -/
inductive Utf8State where
  | start
  | tail (more value low : Nat)
  deriving DecidableEq

def leadByte (b : Byte) : Option Utf8State :=
  if 0xC0 ≤ b.val ∧ b.val < 0xE0 then some (.tail 1 (b.val - 0xC0) 0x80)
  else if 0xE0 ≤ b.val ∧ b.val < 0xF0 then some (.tail 2 (b.val - 0xE0) 0x800)
  else if 0xF0 ≤ b.val ∧ b.val < 0xF8 then some (.tail 3 (b.val - 0xF0) 0x10000)
  else none

/-- Overlong forms, surrogates and values past U+10FFFF are rejected at the last byte. -/
def finishPoint (value low : Nat) : Option CodePoint :=
  if low ≤ value ∧ value < 0x110000 ∧ isSurrogate (codePoint value) = false then some (codePoint value) else none

def utf8Step (p : Utf8State × Str) (b : Byte) : Except UnicodeError (Utf8State × Str) :=
  match p.1 with
  | .start =>
    if b.val < 0x80 then .ok (.start, p.2 ++ [codePoint b.val])
    else
      match leadByte b with
      | some state => .ok (state, p.2)
      | none => .error .decode
  | .tail more value low =>
    if 0x80 ≤ b.val ∧ b.val < 0xC0 then
      if more = 1 then
        match finishPoint (64 * value + (b.val - 0x80)) low with
        | some c => .ok (.start, p.2 ++ [c])
        | none => .error .decode
      else .ok (.tail (more - 1) (64 * value + (b.val - 0x80)) low, p.2)
    else .error .decode

/-- `data.decode("utf-8")` -/
def decodeUtf8 (data : Bytes) : Except UnicodeError Str := do
  let (state, text) ← data.foldlM utf8Step (.start, [])
  if state = .start then return text else .error .decode

/-! ## Round trip -/

theorem encodeAscii_ok (text : Str) (h : ∀ c ∈ text, c.val < 128) :
    encodeAscii text = .ok (text.map fun c => byte c.val) := by
  induction text with
  | nil => rfl
  | cons c text ih =>
    have hc := h c List.mem_cons_self
    have hrest := ih fun x hx => h x (List.mem_cons_of_mem _ hx)
    unfold encodeAscii at hrest ⊢
    rw [List.mapM_cons, hrest]
    simp [hc]

theorem foldlM_ascii (text read : Str) (h : ∀ c ∈ text, c.val < 128) :
    (text.map fun c => byte c.val).foldlM utf8Step (.start, read) = .ok (.start, read ++ text) := by
  induction text generalizing read with
  | nil => simp
  | cons c text ih =>
    have hc := h c List.mem_cons_self
    have hb := byte_val c.val (by omega)
    have hstep : utf8Step (.start, read) (byte c.val) = .ok (.start, read ++ [c]) := by
      unfold utf8Step
      simp only [hb, if_pos hc, codePoint_self]
    rw [List.map_cons, List.foldlM_cons, hstep, ok_bind, ih _ fun x hx => h x (List.mem_cons_of_mem _ hx)]
    simp

theorem decodeUtf8_ascii (text : Str) (h : ∀ c ∈ text, c.val < 128) :
    decodeUtf8 (text.map fun c => byte c.val) = .ok text := by
  rw [decodeUtf8, foldlM_ascii text [] h]
  rfl

theorem decodeUtf8_ascii_take (text : Str) (h : ∀ c ∈ text, c.val < 128) (n : Nat) :
    decodeUtf8 ((text.map fun c => byte c.val).take n) = .ok (text.take n) := by
  -- A cut does not fall into a code point of ASCII.
  rw [← List.map_take]
  exact decodeUtf8_ascii _ fun c hc => h c (List.mem_of_mem_take hc)

theorem encodeUtf8_ascii (text : Str) (h : ∀ c ∈ text, c.val < 128) :
    encodeUtf8 text = .ok (text.map fun c => byte c.val) := by
  have hpoints : text.mapM encodePoint = .ok (text.map fun c => [byte c.val]) := by
    induction text with
    | nil => rfl
    | cons c text ih =>
      have hc : encodePoint c = .ok [byte c.val] := if_pos (h c List.mem_cons_self)
      rw [List.mapM_cons, hc, ih fun x hx => h x (List.mem_cons_of_mem _ hx)]
      rfl
  rw [encodeUtf8, hpoints, ok_bind, pure_ok, ← List.flatMap_def, List.map_eq_flatMap]

theorem utf8Step_lead (b : Byte) (state : Utf8State) (read : Str) (hb : 0x80 ≤ b.val)
    (h : leadByte b = some state) : utf8Step (.start, read) b = .ok (state, read) := by
  have hb : ¬ b.val < 0x80 := by omega
  unfold utf8Step
  simp only [if_neg hb, h]

theorem utf8Step_tail (more value low n : Nat) (read : Str) (hn : n < 64) (hmore : more ≠ 1) :
    utf8Step (.tail more value low, read) (byte (0x80 + n)) = .ok (.tail (more - 1) (64 * value + n) low, read) := by
  have hb := byte_val (0x80 + n) (by omega)
  simp only [utf8Step, hb, if_pos (show 0x80 ≤ 0x80 + n ∧ 0x80 + n < 0xC0 by omega), if_neg hmore,
    Nat.add_sub_cancel_left]

theorem utf8Step_last (value low n : Nat) (read : Str) (hn : n < 64) (c : CodePoint)
    (h : finishPoint (64 * value + n) low = some c) :
    utf8Step (.tail 1 value low, read) (byte (0x80 + n)) = .ok (.start, read ++ [c]) := by
  have hb := byte_val (0x80 + n) (by omega)
  simp only [utf8Step, hb, if_pos (show 0x80 ≤ 0x80 + n ∧ 0x80 + n < 0xC0 by omega), if_true,
    Nat.add_sub_cancel_left, h]

theorem finishPoint_self (c : CodePoint) (value low : Nat) (hvalue : value = c.val) (hlow : low ≤ c.val)
    (hs : isSurrogate c = false) : finishPoint value low = some c := by
  unfold finishPoint
  rw [hvalue, codePoint_self, if_pos ⟨hlow, c.isLt, hs⟩]

theorem foldlM_encodePoint (c : CodePoint) (data : Bytes) (h : encodePoint c = .ok data) (read : Str) :
    data.foldlM utf8Step (.start, read) = .ok (.start, read ++ [c]) := by
  have hlt := c.isLt
  unfold encodePoint at h
  split_ifs at h with h₁ h₂ h₃ h₄ <;> rw [Except.ok.injEq] at h <;> subst h
  · have hb := byte_val c.val (by omega)
    simp only [List.foldlM_cons, List.foldlM_nil, utf8Step, hb, if_pos h₁, codePoint_self, ok_bind, pure_ok]
  · have hb := byte_val (0xC0 + c.val / 64) (by omega)
    have hs : isSurrogate c = false := not_surrogate c (by omega)
    have hlead : leadByte (byte (0xC0 + c.val / 64)) = some (.tail 1 (c.val / 64) 0x80) := by
      unfold leadByte
      rw [hb, if_pos (by omega), Nat.add_sub_cancel_left]
    have hlast := finishPoint_self c (64 * (c.val / 64) + c.val % 64) 0x80 (by omega) (by omega) hs
    rw [List.foldlM_cons, utf8Step_lead _ _ _ (by omega) hlead, ok_bind, List.foldlM_cons,
      utf8Step_last _ _ _ _ (by omega) c hlast]
    rfl
  · have hb := byte_val (0xE0 + c.val / 4096) (by omega)
    have hlead : leadByte (byte (0xE0 + c.val / 4096)) = some (.tail 2 (c.val / 4096) 0x800) := by
      unfold leadByte
      rw [hb, if_neg (by omega), if_pos (by omega), Nat.add_sub_cancel_left]
    have hlast := finishPoint_self c (64 * (64 * (c.val / 4096) + c.val / 64 % 64) + c.val % 64) 0x800 (by omega)
      (by omega) (by simpa using h₃)
    rw [List.foldlM_cons, utf8Step_lead _ _ _ (by omega) hlead, ok_bind, List.foldlM_cons,
      utf8Step_tail _ _ _ _ _ (by omega) (by decide), ok_bind, List.foldlM_cons,
      utf8Step_last _ _ _ _ (by omega) c hlast]
    rfl
  · have hb := byte_val (0xF0 + c.val / 262144) (by omega)
    have hlead : leadByte (byte (0xF0 + c.val / 262144)) = some (.tail 3 (c.val / 262144) 0x10000) := by
      unfold leadByte
      rw [hb, if_neg (by omega), if_neg (by omega), if_pos (by omega), Nat.add_sub_cancel_left]
    have hlast := finishPoint_self c
      (64 * (64 * (64 * (c.val / 262144) + c.val / 4096 % 64) + c.val / 64 % 64) + c.val % 64) 0x10000 (by omega)
      (by omega) (by simpa using h₃)
    rw [List.foldlM_cons, utf8Step_lead _ _ _ (by omega) hlead, ok_bind, List.foldlM_cons,
      utf8Step_tail _ _ _ _ _ (by omega) (by decide), ok_bind, List.foldlM_cons,
      utf8Step_tail _ _ _ _ _ (by omega) (by decide), ok_bind, List.foldlM_cons,
      utf8Step_last _ _ _ _ (by omega) c hlast]
    rfl

theorem foldlM_encoded (text : Str) (chunks : List Bytes) (h : text.mapM encodePoint = .ok chunks) (read : Str) :
    chunks.flatten.foldlM utf8Step (.start, read) = .ok (.start, read ++ text) := by
  induction text generalizing chunks read with
  | nil =>
    rw [List.mapM_nil, pure_ok, Except.ok.injEq] at h
    subst h
    simp
  | cons c text ih =>
    rw [List.mapM_cons] at h
    cases hc : encodePoint c with
    | error e => simp [hc] at h
    | ok data =>
      cases hrest : text.mapM encodePoint with
      | error e => simp [hc, hrest] at h
      | ok rest =>
        simp only [hc, hrest, ok_bind, pure_ok, Except.ok.injEq] at h
        subst h
        rw [List.flatten_cons, List.foldlM_append, foldlM_encodePoint c data hc, ok_bind, ih rest hrest]
        simp

theorem decodeUtf8_encodeUtf8 (text : Str) (data : Bytes) (h : encodeUtf8 text = .ok data) :
    decodeUtf8 data = .ok text := by
  unfold encodeUtf8 at h
  cases hm : text.mapM encodePoint with
  | error e => simp [hm] at h
  | ok chunks =>
    rw [hm, ok_bind, pure_ok, Except.ok.injEq] at h
    unfold decodeUtf8
    rw [← h, foldlM_encoded text chunks hm]
    rfl

theorem encodeUtf8_scalar (text : Str) (h : scalarText text) : ∃ data, encodeUtf8 text = .ok data := by
  have hpoint : ∀ c ∈ text, ∃ data, encodePoint c = .ok data ∧ True := by
    intro c hc
    unfold encodePoint
    split_ifs with h₁ h₂ h₃
    · exact ⟨_, rfl, trivial⟩
    · exact ⟨_, rfl, trivial⟩
    · rw [h c hc] at h₃
      exact absurd h₃ (by decide)
    · exact ⟨_, rfl, trivial⟩
    · exact ⟨_, rfl, trivial⟩
  obtain ⟨chunks, hm, -⟩ := mapM_ok encodePoint (fun _ _ => True) text hpoint
  exact ⟨chunks.flatten, by rw [encodeUtf8, hm]; rfl⟩

/-! ## What is read -/

theorem scalarText_append_singleton {text : Str} {c : CodePoint} (htext : scalarText text) (hc : isSurrogate c = false) :
    scalarText (text ++ [c]) :=
  List.forall_mem_append.mpr ⟨htext, List.forall_mem_singleton.mpr hc⟩

theorem utf8Step_scalar {p q : Utf8State × Str} {b : Byte} (hp : scalarText p.2) (h : utf8Step p b = .ok q) :
    scalarText q.2 := by
  obtain ⟨state, text⟩ := p
  cases state with
  | start =>
    simp only [utf8Step] at h
    split_ifs at h with hb
    · cases h
      have hval : (codePoint b.val).val = b.val := codePoint_val b.val (by omega)
      exact scalarText_append_singleton hp (not_surrogate _ (by omega))
    · cases hlead : leadByte b with
      | none => simp [hlead] at h
      | some state =>
        simp only [hlead, Except.ok.injEq] at h
        exact h ▸ hp
  | tail more value low =>
    simp only [utf8Step] at h
    split_ifs at h
    · cases hpoint : finishPoint (64 * value + (b.val - 0x80)) low with
      | none => simp [hpoint] at h
      | some c =>
        simp only [hpoint, Except.ok.injEq] at h
        refine h ▸ scalarText_append_singleton hp ?_
        unfold finishPoint at hpoint
        split_ifs at hpoint with hvalue
        rw [Option.some.injEq] at hpoint
        rw [← hpoint]
        exact hvalue.2.2
    · cases h
      exact hp

theorem decodeUtf8_scalar {data : Bytes} {text : Str} (h : decodeUtf8 data = .ok text) : scalarText text := by
  -- A surrogate has no bytes.
  have hfold : ∀ (data : Bytes) (p q : Utf8State × Str), scalarText p.2 → data.foldlM utf8Step p = .ok q →
      scalarText q.2 := by
    intro data
    induction data with
    | nil =>
      intro p q hp hq
      cases hq
      exact hp
    | cons b data ih =>
      intro p q hp hq
      rw [List.foldlM_cons, bind_eq_ok] at hq
      obtain ⟨r, hstep, hrest⟩ := hq
      exact ih r q (utf8Step_scalar hp hstep) hrest
  unfold decodeUtf8 at h
  obtain ⟨⟨state, read⟩, hread, h⟩ := (bind_eq_ok _ _ _).mp h
  simp only at h
  split at h <;> cases h
  exact hfold data _ _ (by simp [scalarText]) hread

end Python
