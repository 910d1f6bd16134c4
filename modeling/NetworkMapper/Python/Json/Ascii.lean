import NetworkMapper.Python.Json.RoundTrip

/-! # `json.dumps` writes ASCII -/

namespace Python

theorem hexDigit_ascii (n : Nat) (h : n < 16) : (hexDigit n).val < 128 := by
  unfold hexDigit
  split
  · rw [codePoint_val _ (by omega)]
    omega
  · rw [codePoint_val _ (by omega)]
    omega

theorem unicodeEscape_ascii (n : Nat) (h : n < 0x10000) : asciiText (unicodeEscape n) := by
  intro c hc
  unfold unicodeEscape at hc
  simp only [List.mem_cons, List.not_mem_nil, or_false] at hc
  rcases hc with rfl | rfl | rfl | rfl | rfl | rfl
  · decide
  · decide
  · exact hexDigit_ascii _ (by omega)
  · exact hexDigit_ascii _ (by omega)
  · exact hexDigit_ascii _ (by omega)
  · exact hexDigit_ascii _ (by omega)

theorem shortEscape_ascii (c e : CodePoint) (h : shortEscape c = some e) : e.val < 128 := by
  unfold shortEscape at h
  split_ifs at h <;> rw [Option.some.injEq] at h <;> subst h <;> decide

theorem escapeAscii_ascii (c : CodePoint) : asciiText (escapeAscii c) := by
  unfold escapeAscii
  split
  · rename_i e he
    rw [asciiText_cons, asciiText_cons]
    exact ⟨by decide, shortEscape_ascii c e he, List.forall_mem_nil _⟩
  · split_ifs with hp hbmp
    · rw [asciiText_cons]
      exact ⟨by omega, List.forall_mem_nil _⟩
    · exact unicodeEscape_ascii _ hbmp
    · rw [asciiText_append]
      exact ⟨unicodeEscape_ascii _ (by omega), unicodeEscape_ascii _ (by omega)⟩

theorem quote_ascii (s : Str) : asciiText (quote s) := by
  unfold quote
  rw [asciiText_append, asciiText_cons]
  refine ⟨⟨by decide, ?_⟩, by decide⟩
  intro c hc
  obtain ⟨x, -, hx⟩ := List.mem_flatMap.mp hc
  exact escapeAscii_ascii x c hx

theorem numberChar_ascii (c : CodePoint) (h : isNumberChar c = true) : c.val < 128 := by
  unfold isNumberChar at h
  simp only [decide_eq_true_eq] at h
  rcases h with h | rfl | rfl | rfl | rfl | rfl
  · unfold isDigit at h
    simp only [decide_eq_true_eq] at h
    omega
  all_goals decide

theorem intRepr_ascii (n : Int) : asciiText (intRepr n) := by
  obtain ⟨c, s, heq, hc, hs⟩ := intRepr_head n
  rw [heq, asciiText_cons]
  refine ⟨?_, fun x hx => numberChar_ascii x (hs x hx)⟩
  rcases hc with rfl | hc
  · decide
  · exact numberChar_ascii c (by simp [isNumberChar, hc])

theorem blank_ascii (s : Str) (h : ∀ c ∈ s, isWhitespace c = true) : asciiText s := by
  intro c hc
  have := h c hc
  unfold isWhitespace at this
  simp only [decide_eq_true_eq] at this
  rcases this with rfl | rfl | rfl | rfl <;> decide

section Dumps

variable (py : Interpreter) (layout : Layout)

theorem dumpsItems_ascii (level : Nat) (items : List Json)
    (h : ∀ v ∈ items, asciiText (dumpsAt py layout level v)) : asciiText (dumpsItems py layout level items) := by
  induction items with
  | nil =>
    unfold dumpsItems
    exact List.forall_mem_nil _
  | cons v items ih =>
    unfold dumpsItems
    simp only [asciiText_append, asciiText_cons]
    exact ⟨⟨⟨⟨by decide, blank_ascii _ layout.gap_blank⟩, blank_ascii _ (layout.newline_blank level)⟩,
      h v List.mem_cons_self⟩, ih fun w hw => h w (List.mem_cons_of_mem _ hw)⟩

theorem dumpsMembers_ascii (level : Nat) (members : List (Str × Json))
    (h : ∀ m ∈ members, asciiText (dumpsAt py layout level m.2)) :
    asciiText (dumpsMembers py layout level members) := by
  induction members with
  | nil =>
    unfold dumpsMembers
    exact List.forall_mem_nil _
  | cons m members ih =>
    obtain ⟨k, v⟩ := m
    unfold dumpsMembers
    simp only [asciiText_append, asciiText_cons]
    exact ⟨⟨⟨⟨⟨⟨by decide, blank_ascii _ layout.gap_blank⟩, blank_ascii _ (layout.newline_blank level)⟩,
      quote_ascii k⟩, by decide⟩, h (k, v) List.mem_cons_self⟩, ih fun w hw => h w (List.mem_cons_of_mem _ hw)⟩

theorem dumpsAt_ascii {room : Nat} {v : Json} (h : Readable py room v) (level : Nat) :
    asciiText (dumpsAt py layout level v) := by
  have hblank := fun n => blank_ascii _ (layout.newline_blank n)
  induction h generalizing level with
  | null => rw [dumpsAt]; decide
  | bool room b => cases b <;> rw [dumpsAt] <;> decide
  | int room n =>
    unfold dumpsAt
    exact intRepr_ascii n
  | str room s =>
    unfold dumpsAt
    exact quote_ascii s
  | arr room items _ ih =>
    cases items with
    | nil => rw [dumpsAt]; decide
    | cons v items =>
      unfold dumpsAt
      simp only [asciiText_append, asciiText_cons]
      exact ⟨⟨⟨⟨⟨by decide, hblank _⟩, ih v List.mem_cons_self _⟩, dumpsItems_ascii py layout _ items
        fun w hw => ih w (List.mem_cons_of_mem _ hw) _⟩, hblank _⟩, by decide, by decide⟩
  | obj room members _ ih =>
    rcases members with _ | ⟨⟨k, v⟩, members⟩
    · rw [dumpsAt]; decide
    · unfold dumpsAt
      simp only [asciiText_append, asciiText_cons]
      exact ⟨⟨⟨⟨⟨⟨⟨by decide, hblank _⟩, quote_ascii k⟩, by decide⟩, ih (k, v) List.mem_cons_self _⟩,
        dumpsMembers_ascii py layout _ members fun w hw => ih w (List.mem_cons_of_mem _ hw) _⟩, hblank _⟩,
        by decide, by decide⟩

end Dumps

end Python
