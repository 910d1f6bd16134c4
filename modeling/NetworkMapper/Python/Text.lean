import Mathlib.Order.Fin.Basic
import Mathlib.Data.List.Lex
import Mathlib.Order.Lex

/-! # Python text: a `str` is any sequence of code points, surrogates included -/

namespace Python

/-- A code point, U+0000 to U+10FFFF. -/
abbrev CodePoint := Fin 0x110000

/-- A Python `str`. `<` compares code points from left to right, as Python does. -/
abbrev Str := List CodePoint

instance : LawfulBEq Str := inferInstance

def codePoint (n : Nat) : CodePoint := Fin.ofNat 0x110000 n

theorem codePoint_val (n : Nat) (h : n < 0x110000) : (codePoint n).val = n := Nat.mod_eq_of_lt h

theorem codePoint_self (c : CodePoint) : codePoint c.val = c := Fin.ext (codePoint_val _ c.isLt)

def ch (c : Char) : CodePoint := codePoint c.toNat

def str (s : String) : Str := s.toList.map ch

/-! ## Surrogates -/

def isHighSurrogate (c : CodePoint) : Bool := 0xD800 ≤ c.val ∧ c.val ≤ 0xDBFF

def isLowSurrogate (c : CodePoint) : Bool := 0xDC00 ≤ c.val ∧ c.val ≤ 0xDFFF

def isSurrogate (c : CodePoint) : Bool := 0xD800 ≤ c.val ∧ c.val ≤ 0xDFFF

def scalarText (s : Str) : Prop := ∀ c ∈ s, isSurrogate c = false

instance (s : Str) : Decidable (scalarText s) := List.decidableBAll (fun c : CodePoint => isSurrogate c = false) s

theorem not_surrogate (c : CodePoint) (h : c.val < 0xD800 ∨ 0xDFFF < c.val) : isSurrogate c = false := by
  unfold isSurrogate
  rw [decide_eq_false_iff_not]
  omega

theorem surrogate_of_high (c : CodePoint) (h : isHighSurrogate c = true) : isSurrogate c = true := by
  simp only [isHighSurrogate, isSurrogate, decide_eq_true_eq] at *
  omega

/-! ## ASCII -/

def asciiText (s : Str) : Prop := ∀ c ∈ s, c.val < 128

instance (s : Str) : Decidable (asciiText s) := List.decidableBAll (fun c : CodePoint => c.val < 128) s

theorem asciiText_append (s t : Str) : asciiText (s ++ t) ↔ asciiText s ∧ asciiText t := by
  unfold asciiText
  simp only [List.forall_mem_append]

theorem asciiText_cons (c : CodePoint) (s : Str) : asciiText (c :: s) ↔ c.val < 128 ∧ asciiText s := by
  unfold asciiText
  simp only [List.forall_mem_cons]

theorem scalar_of_ascii (s : Str) (h : asciiText s) : scalarText s := by
  intro c hc
  have := h c hc
  exact not_surrogate c (by omega)

theorem scalarText_intercalate {separator : Str} (hseparator : scalarText separator) {texts : List Str}
    (htexts : ∀ s ∈ texts, scalarText s) : scalarText (separator.intercalate texts) := by
  induction texts with
  | nil => exact fun c hc => absurd hc List.not_mem_nil
  | cons s texts ih =>
    obtain ⟨hs, hrest⟩ := List.forall_mem_cons.mp htexts
    cases texts with
    | nil => simpa using hs
    | cons s' texts =>
      rw [List.intercalate_cons_cons]
      exact List.forall_mem_append.mpr ⟨List.forall_mem_append.mpr ⟨hs, hseparator⟩, ih hrest⟩

end Python
