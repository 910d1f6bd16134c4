import NetworkMapper.Python.Json.Tokens

/-!
# `json.loads` reads what `json.dumps` writes

At any level of nesting and in any layout. Each string comes back with its
surrogate pairs joined.
-/

namespace Python

mutual

/-- The document with the surrogate pairs of its strings and keys joined. -/
def joined : Json → Json
  | .str s => .str (joinSurrogates s)
  | .arr items => .arr (joinedItems items)
  | .obj members => .obj (joinedMembers members)
  | v => v

def joinedItems : List Json → List Json
  | [] => []
  | v :: items => joined v :: joinedItems items

def joinedMembers : List (Str × Json) → List (Str × Json)
  | [] => []
  | (k, v) :: members => (joinSurrogates k, joined v) :: joinedMembers members

end

/-- No floats, no integer over the digit limit and at most `room` levels. -/
inductive Readable (py : Interpreter) : Nat → Json → Prop
  | null (room : Nat) : Readable py room .null
  | bool (room : Nat) (b : Bool) : Readable py room (.bool b)
  | int (room : Nat) (n : Int) (h : py.reads n) : Readable py room (.int n)
  | str (room : Nat) (s : Str) : Readable py room (.str s)
  | arr (room : Nat) (items : List Json) (h : ∀ v ∈ items, Readable py room v) :
      Readable py (room + 1) (.arr items)
  | obj (room : Nat) (members : List (Str × Json)) (h : ∀ m ∈ members, Readable py room m.2) :
      Readable py (room + 1) (.obj members)

theorem Readable.mono {py : Interpreter} {room room' : Nat} {v : Json} (h : Readable py room v)
    (hle : room ≤ room') : Readable py room' v := by
  induction h generalizing room' with
  | null => exact .null room'
  | bool room b => exact .bool room' b
  | int room n hn => exact .int room' n hn
  | str room s => exact .str room' s
  | arr room items _ ih =>
    obtain ⟨k, rfl⟩ : ∃ k, room' = k + 1 := ⟨room' - 1, by omega⟩
    exact .arr k items fun v hv => ih v hv (by omega)
  | obj room members _ ih =>
    obtain ⟨k, rfl⟩ : ∃ k, room' = k + 1 := ⟨room' - 1, by omega⟩
    exact .obj k members fun m hm => ih m hm (by omega)

section RoundTrip

variable (py : Interpreter) (layout : Layout)

/-- `τ` has read `v`, up to the digits that could still follow a number. -/
structure Settled (τ : LoadState) (stack : List Frame) (v : Json) : Prop where
  step_eq : ∀ c, isNumberChar c = false → LoadState.step py keepPairs τ c = stepDone keepPairs stack v c
  finish_eq : LoadState.finish (ε := Empty) py τ = LoadState.finish py ⟨stack, .done v⟩

theorem settled_done (stack : List Frame) (v : Json) : Settled py ⟨stack, .done v⟩ stack v :=
  ⟨fun _ _ => rfl, rfl⟩

theorem settled_number (stack : List Frame) (text : Str) (v : Json)
    (h : finishNumber (ε := Empty) py text = .ok v) : Settled py ⟨stack, .number text⟩ stack v := by
  constructor
  · intro c hc
    have hminus : text ≠ [ch '-'] := by
      rintro rfl
      simp [finishNumber, matchSign, matchInteger] at h
    simp [LoadState.step, stepNumber, hc, hminus, h]
  · cases stack with
    | nil => exact h
    | cons f stack => simp [LoadState.finish, h]

/-! ## White space -/

theorem run_blank (σ : LoadState) (hskip : ∀ c, isWhitespace c = true → LoadState.step py keepPairs σ c = .ok σ)
    (ws : Str) (hws : ∀ c ∈ ws, isWhitespace c = true) : LoadState.run py keepPairs σ ws = .ok σ := by
  induction ws with
  | nil => rfl
  | cons c ws ih =>
    rw [run_cons, hskip c (hws c List.mem_cons_self)]
    exact ih fun x hx => hws x (List.mem_cons_of_mem _ hx)

theorem whitespace_not_number (c : CodePoint) (h : isWhitespace c = true) : isNumberChar c = false := by
  unfold isWhitespace at h
  simp only [decide_eq_true_eq] at h
  rcases h with rfl | rfl | rfl | rfl <;> decide

theorem number_not_whitespace (c : CodePoint) (h : c = ch '-' ∨ isDigit c = true) : isWhitespace c = false := by
  by_contra hw
  have hnumber := whitespace_not_number c (by simpa using hw)
  rcases h with rfl | h
  · exact absurd hnumber (by decide)
  · simp [isNumberChar, h] at hnumber

theorem run_singleton (stack : List Frame) (v : Json) (c : CodePoint) :
    LoadState.run py keepPairs ⟨stack, .done v⟩ [c] = stepDone keepPairs stack v c := by
  have hstep : LoadState.step py keepPairs ⟨stack, .done v⟩ c = stepDone keepPairs stack v c := rfl
  rw [run_cons, hstep]
  cases stepDone keepPairs stack v c <;> rfl

theorem Settled.run_white {τ : LoadState} {stack : List Frame} {v : Json} (h : Settled py τ stack v) (ws : Str)
    (hws : ∀ c ∈ ws, isWhitespace c = true) (hne : ws ≠ []) :
    LoadState.run py keepPairs τ ws = .ok ⟨stack, .done v⟩ := by
  have hdone : ∀ x, isWhitespace x = true →
      LoadState.step py keepPairs ⟨stack, .done v⟩ x = .ok ⟨stack, .done v⟩ := by
    intro x hx
    simp [LoadState.step, stepDone, hx]
  cases ws with
  | nil => exact absurd rfl hne
  | cons w ws =>
    have hw := hws w List.mem_cons_self
    have hfirst : LoadState.step py keepPairs τ w = .ok ⟨stack, .done v⟩ := by
      rw [h.step_eq w (whitespace_not_number w hw)]
      exact hdone w hw
    rw [run_cons, hfirst]
    exact Python.run_blank py _ hdone ws fun x hx => hws x (List.mem_cons_of_mem _ hx)

theorem Settled.run_blank {τ : LoadState} {stack : List Frame} {v : Json} (h : Settled py τ stack v) (ws : Str)
    (hws : ∀ c ∈ ws, isWhitespace c = true) (c : CodePoint) (hc : isNumberChar c = false) :
    LoadState.run py keepPairs τ (ws ++ [c]) = stepDone keepPairs stack v c := by
  rcases eq_or_ne ws [] with rfl | hne
  · rw [List.nil_append, run_cons, h.step_eq c hc]
    cases stepDone keepPairs stack v c <;> rfl
  · rw [run_append, h.run_white py ws hws hne]
    exact run_singleton py stack v c

theorem run_value_blank (stack : List Frame) (ws : Str) (hws : ∀ c ∈ ws, isWhitespace c = true) :
    LoadState.run py keepPairs ⟨stack, .value⟩ ws = .ok ⟨stack, .value⟩ :=
  Python.run_blank py _ (fun c hc => by simp [LoadState.step, hc]) ws hws

/-! ## Where values start -/

theorem intRepr_head (n : Int) :
    ∃ c s, intRepr n = c :: s ∧ (c = ch '-' ∨ isDigit c = true) ∧ ∀ x ∈ s, isNumberChar x = true := by
  have hnat : ∀ m, ∀ x ∈ natRepr m, isNumberChar x = true := by
    intro m x hx
    simp [isNumberChar, natRepr_digits m x hx]
  cases n with
  | ofNat n =>
    rcases h : natRepr n with _ | ⟨c, s⟩
    · have := natRepr_eq n
      rw [h] at this
      simp at this
    · refine ⟨c, s, h, Or.inr (natRepr_digits n c (by simp [h])), ?_⟩
      intro x hx
      exact hnat n x (by simp [h, hx])
  | negSucc n => exact ⟨_, _, rfl, Or.inl rfl, hnat (n + 1)⟩

theorem dumpsAt_head {room : Nat} {v : Json} (h : Readable py room v) (level : Nat) :
    ∃ c s, dumpsAt py layout level v = c :: s ∧ isWhitespace c = false ∧ c ≠ ch ']' := by
  cases h with
  | null => exact ⟨_, _, by rw [dumpsAt]; rfl, by decide, by decide⟩
  | bool room b => cases b <;> exact ⟨_, _, by rw [dumpsAt]; rfl, by decide, by decide⟩
  | str room s => exact ⟨_, _, by rw [dumpsAt]; rfl, by decide, by decide⟩
  | arr room items =>
    cases items <;> exact ⟨_, _, by rw [dumpsAt]; rfl, by decide, by decide⟩
  | obj room members =>
    rcases members with _ | ⟨⟨k, v⟩, members⟩ <;> exact ⟨_, _, by rw [dumpsAt]; rfl, by decide, by decide⟩
  | int room n =>
    obtain ⟨c, s, hc, hd, -⟩ := intRepr_head n
    refine ⟨c, s, by rw [dumpsAt, hc], number_not_whitespace c hd, ?_⟩
    rintro rfl
    exact absurd hd (by decide)

theorem run_firstItem {room : Nat} {v : Json} (h : Readable py room v) (level : Nat) (stack : List Frame) :
    LoadState.run py keepPairs ⟨stack, .firstItem⟩ (dumpsAt py layout level v) =
      LoadState.run py keepPairs ⟨.array [] :: stack, .value⟩ (dumpsAt py layout level v) := by
  obtain ⟨c, s, heq, hw, hb⟩ := dumpsAt_head py layout h level
  rw [heq, run_cons, run_cons]
  simp [LoadState.step, hw, hb]

/-! ## Keys -/

theorem run_key (stack : List Frame) (members : List (Str × Json)) (scan : Scan)
    (hscan : LoadState.step py keepPairs ⟨stack, scan⟩ (ch '"') =
      .ok ⟨stack, .string (some members) [] (.plain none)⟩) (k : Str) :
    LoadState.run py keepPairs ⟨stack, scan⟩ (quote k ++ str ": ") =
      .ok ⟨.member members (joinSurrogates k) :: stack, .value⟩ := by
  have hcolon : LoadState.run py keepPairs ⟨stack, .colon members (joinSurrogates k)⟩ (str ": ") =
      .ok ⟨.member members (joinSurrogates k) :: stack, .value⟩ := rfl
  unfold quote
  rw [List.cons_append, List.cons_append, run_cons, hscan]
  simp only [ok_bind]
  rw [run_append, run_quoted]
  exact hcolon

/-! ## Items and members -/

theorem joinedItems_eq (items : List Json) : joinedItems items = items.map joined := by
  induction items with
  | nil => simp [joinedItems]
  | cons v items ih => simp [joinedItems, ih]

theorem joinedMembers_eq (members : List (Str × Json)) :
    joinedMembers members = members.map fun m => (joinSurrogates m.1, joined m.2) := by
  induction members with
  | nil => simp [joinedMembers]
  | cons m members ih => simp [joinedMembers, ih]

/-- `v` is read back wherever a value can start. -/
def ReadsBack (stack : List Frame) (level : Nat) (v : Json) : Prop :=
  ∃ τ, LoadState.run py keepPairs ⟨stack, .value⟩ (dumpsAt py layout level v) = .ok τ ∧
    Settled py τ stack (joined v)

theorem run_items (stack : List Frame) (level outer : Nat) (items : List Json)
    (hitems : ∀ v ∈ items, ∀ read, ReadsBack py layout (.array read :: stack) level v) (read : List Json)
    (first : Json) (τ : LoadState) (hτ : Settled py τ (.array read :: stack) first) :
    LoadState.run py keepPairs τ (dumpsItems py layout level items ++ layout.newline outer ++ [ch ']']) =
      .ok ⟨stack, .done (.arr (read ++ first :: items.map joined))⟩ := by
  induction items generalizing read first τ with
  | nil =>
    have hclose := hτ.run_blank py _ (layout.newline_blank outer) (ch ']') (by decide)
    unfold dumpsItems
    rw [List.nil_append, hclose]
    rfl
  | cons v items ih =>
    obtain ⟨τ', hrun, hsettled⟩ := hitems v List.mem_cons_self (read ++ [first])
    have hcomma : LoadState.step py keepPairs τ (ch ',') =
        .ok ⟨.array (read ++ [first]) :: stack, .value⟩ := hτ.step_eq (ch ',') (by decide)
    have hrest := ih (fun x hx => hitems x (List.mem_cons_of_mem _ hx)) (read ++ [first]) (joined v) τ' hsettled
    unfold dumpsItems
    simp only [List.cons_append, List.append_assoc, run_cons, hcomma, ok_bind]
    rw [run_append, run_value_blank py _ _ layout.gap_blank]
    simp only [ok_bind]
    rw [run_append, run_value_blank py _ _ (layout.newline_blank level)]
    simp only [ok_bind]
    rw [run_append, hrun]
    simp only [ok_bind]
    rw [← List.append_assoc, hrest]
    simp

theorem run_members (stack : List Frame) (level outer : Nat) (members : List (Str × Json))
    (hmembers : ∀ m ∈ members, ∀ read k, ReadsBack py layout (.member read k :: stack) level m.2)
    (read : List (Str × Json)) (k : Str) (first : Json) (τ : LoadState)
    (hτ : Settled py τ (.member read k :: stack) first) :
    LoadState.run py keepPairs τ (dumpsMembers py layout level members ++ layout.newline outer ++ [ch '}']) =
      .ok ⟨stack, .done (.obj (read ++ (k, first) :: members.map fun m => (joinSurrogates m.1, joined m.2)))⟩ := by
  induction members generalizing read k first τ with
  | nil =>
    have hclose := hτ.run_blank py _ (layout.newline_blank outer) (ch '}') (by decide)
    unfold dumpsMembers
    rw [List.nil_append, hclose]
    rfl
  | cons m members ih =>
    obtain ⟨k', v⟩ := m
    obtain ⟨τ', hrun, hsettled⟩ := hmembers (k', v) List.mem_cons_self (read ++ [(k, first)]) (joinSurrogates k')
    have hcomma : LoadState.step py keepPairs τ (ch ',') = .ok ⟨stack, .key (read ++ [(k, first)])⟩ :=
      hτ.step_eq (ch ',') (by decide)
    have hskip : ∀ c, isWhitespace c = true →
        LoadState.step py keepPairs ⟨stack, .key (read ++ [(k, first)])⟩ c =
          .ok ⟨stack, .key (read ++ [(k, first)])⟩ := by
      intro c hc
      simp [LoadState.step, hc]
    have hkey := run_key py stack (read ++ [(k, first)]) (.key (read ++ [(k, first)])) rfl k'
    have hrest := ih (fun x hx => hmembers x (List.mem_cons_of_mem _ hx)) (read ++ [(k, first)])
      (joinSurrogates k') (joined v) τ' hsettled
    unfold dumpsMembers
    simp only [List.cons_append, List.append_assoc, run_cons, hcomma, ok_bind]
    rw [run_append, Python.run_blank py _ hskip _ layout.gap_blank]
    simp only [ok_bind]
    rw [run_append, Python.run_blank py _ hskip _ (layout.newline_blank level)]
    simp only [ok_bind]
    rw [← List.append_assoc, run_append, hkey]
    simp only [ok_bind]
    rw [run_append, hrun]
    simp only [ok_bind]
    rw [← List.append_assoc, hrest]
    simp

/-! ## Values -/

theorem run_open (stack : List Frame) (h : stack.length < py.nesting) :
    LoadState.run py keepPairs ⟨stack, .value⟩ [ch '['] = .ok ⟨stack, .firstItem⟩ ∧
      LoadState.run py keepPairs ⟨stack, .value⟩ [ch '{'] = .ok ⟨stack, .firstKey⟩ := by
  constructor
  · simp [LoadState.step, startValue, openContainer, h, ok_bind, show isWhitespace (ch '[') = false by decide,
      show ch '[' ≠ ch '{' by decide]
  · simp [LoadState.step, startValue, openContainer, h, ok_bind, show isWhitespace (ch '{') = false by decide]

theorem startValue_number (stack : List Frame) (c : CodePoint) (h : c = ch '-' ∨ isDigit c = true) :
    startValue (ε := Empty) py stack c = .ok ⟨stack, .number [c]⟩ := by
  have hval : c.val < 58 ∧ c ≠ ch '"' := by
    rcases h with rfl | h
    · decide
    · unfold isDigit at h
      simp only [decide_eq_true_eq] at h
      refine ⟨by omega, ?_⟩
      rintro rfl
      exact absurd h (by decide)
  have hne : ∀ x : CodePoint, 58 ≤ x.val → c ≠ x := by
    rintro x hx rfl
    omega
  simp [startValue, startScalar, hval.2, hne (ch '{') (by decide), hne (ch '[') (by decide), hne (ch 'n') (by decide),
    hne (ch 't') (by decide), hne (ch 'f') (by decide), hne (ch 'N') (by decide), hne (ch 'I') (by decide), h]

theorem run_number (stack : List Frame) (text s : Str) (hs : ∀ x ∈ s, isNumberChar x = true) :
    LoadState.run py keepPairs ⟨stack, .number text⟩ s = .ok ⟨stack, .number (text ++ s)⟩ := by
  induction s generalizing text with
  | nil => simp
  | cons c s ih =>
    have hc := hs c List.mem_cons_self
    rw [run_cons]
    unfold LoadState.step stepNumber
    simp only [hc, if_true, ok_bind]
    rw [ih (text ++ [c]) fun x hx => hs x (List.mem_cons_of_mem _ hx)]
    simp

theorem run_intRepr (stack : List Frame) (n : Int) :
    LoadState.run py keepPairs ⟨stack, .value⟩ (intRepr n) = .ok ⟨stack, .number (intRepr n)⟩ := by
  obtain ⟨c, s, heq, hc, hs⟩ := intRepr_head n
  have hw := number_not_whitespace c hc
  have hstart : LoadState.step py keepPairs ⟨stack, .value⟩ c = .ok ⟨stack, .number [c]⟩ := by
    simp [LoadState.step, hw, startValue_number py stack c hc]
  rw [heq, run_cons, hstart]
  exact run_number py stack [c] s hs

theorem reads_back {room : Nat} {v : Json} (h : Readable py room v) (stack : List Frame) (level : Nat)
    (hroom : stack.length + room ≤ py.nesting) : ReadsBack py layout stack level v := by
  -- The induction is on the document. Each container takes one level of the room.
  induction h generalizing stack level with
  | null => exact ⟨_, by rw [dumpsAt]; rfl, settled_done py stack .null⟩
  | bool room b => cases b <;> exact ⟨_, by rw [dumpsAt]; rfl, settled_done py stack _⟩
  | str room s =>
    refine ⟨_, ?_, settled_done py stack (.str (joinSurrogates s))⟩
    unfold dumpsAt quote
    rw [List.cons_append, run_cons]
    exact run_quoted py keepPairs stack none s
  | int room n hn =>
    refine ⟨_, ?_, settled_number py stack (intRepr n) (.int n) (finishNumber_intRepr py n hn)⟩
    unfold dumpsAt
    exact run_intRepr py stack n
  | arr room items hitems ih =>
    obtain ⟨hopen, -⟩ := run_open py stack (by omega)
    cases items with
    | nil =>
      refine ⟨_, ?_, settled_done py stack (.arr [])⟩
      rw [dumpsAt, show str "[]" = [ch '['] ++ [ch ']'] from rfl, run_append, hopen]
      rfl
    | cons v items =>
      have hback : ∀ w ∈ v :: items, ∀ read, ReadsBack py layout (.array read :: stack) (level + 1) w := by
        intro w hw read
        apply ih w hw
        simp only [List.length_cons]
        omega
      obtain ⟨τ, hrun, hsettled⟩ := hback v List.mem_cons_self []
      have hskip : ∀ c, isWhitespace c = true →
          LoadState.step py keepPairs ⟨stack, .firstItem⟩ c = .ok ⟨stack, .firstItem⟩ := by
        intro c hc
        simp [LoadState.step, hc]
      have hrest := run_items py layout stack (level + 1) level items
        (fun w hw => hback w (List.mem_cons_of_mem _ hw)) [] (joined v) τ hsettled
      refine ⟨_, ?_, settled_done py stack (joined (.arr (v :: items)))⟩
      unfold dumpsAt
      rw [← List.singleton_append]
      simp only [List.append_assoc]
      rw [run_append, hopen]
      simp only [ok_bind]
      rw [run_append, Python.run_blank py _ hskip _ (layout.newline_blank (level + 1))]
      simp only [ok_bind]
      rw [run_append, run_firstItem py layout (hitems v List.mem_cons_self), hrun]
      simp only [ok_bind]
      rw [← List.append_assoc, hrest, joined, joinedItems, joinedItems_eq]
      rfl
  | obj room members hmembers ih =>
    obtain ⟨-, hopen⟩ := run_open py stack (by omega)
    rcases members with _ | ⟨⟨k, v⟩, members⟩
    · refine ⟨_, ?_, settled_done py stack (.obj [])⟩
      rw [dumpsAt, show str "{}" = [ch '{'] ++ [ch '}'] from rfl, run_append, hopen]
      rfl
    · have hback : ∀ m ∈ (k, v) :: members, ∀ read key,
          ReadsBack py layout (.member read key :: stack) (level + 1) m.2 := by
        intro m hm read key
        apply ih m hm
        simp only [List.length_cons]
        omega
      obtain ⟨τ, hrun, hsettled⟩ := hback (k, v) List.mem_cons_self [] (joinSurrogates k)
      have hskip : ∀ c, isWhitespace c = true →
          LoadState.step py keepPairs ⟨stack, .firstKey⟩ c = .ok ⟨stack, .firstKey⟩ := by
        intro c hc
        simp [LoadState.step, hc]
      have hkey := run_key py stack [] .firstKey rfl k
      have hrest := run_members py layout stack (level + 1) level members
        (fun m hm => hback m (List.mem_cons_of_mem _ hm)) [] (joinSurrogates k) (joined v) τ hsettled
      refine ⟨_, ?_, settled_done py stack (joined (.obj ((k, v) :: members)))⟩
      unfold dumpsAt
      rw [← List.singleton_append]
      simp only [List.append_assoc]
      rw [run_append, hopen]
      simp only [ok_bind]
      rw [run_append, Python.run_blank py _ hskip _ (layout.newline_blank (level + 1))]
      simp only [ok_bind]
      rw [← List.append_assoc, run_append, hkey]
      simp only [ok_bind]
      rw [run_append, hrun]
      simp only [ok_bind]
      rw [← List.append_assoc, hrest, joined, joinedMembers, joinedMembers_eq]
      rfl

theorem readDocument_dumps {v : Json} (h : Readable py py.nesting v) (ws : Str)
    (hws : ∀ c ∈ ws, isWhitespace c = true) :
    readDocument py (dumps py layout v ++ ws) = .ok (joined v) := by
  obtain ⟨τ, hrun, hsettled⟩ := reads_back py layout h [] 0 (by simp)
  unfold readDocument loads dumps
  rw [run_append, hrun]
  rcases eq_or_ne ws [] with rfl | hne
  · exact hsettled.finish_eq
  · simp only [ok_bind, hsettled.run_white py ws hws hne]
    rfl

end RoundTrip

end Python
