import NetworkMapper.Python.Interpreter

/-!
# `csv.writer` and `csv.reader` in the default dialect

The reader is CPython's machine. A file opened with `newline=""` comes in lines,
each with its terminator, and the machine sees the end of each line.
-/

namespace Python

namespace Csv

/-! ## Writing -/

def needsQuotes (field : Str) : Bool :=
  field.any fun c => c = ch ',' ∨ c = ch '"' ∨ c = ch '\r' ∨ c = ch '\n'

def doubleQuotes (field : Str) : Str :=
  field.flatMap fun c => if c = ch '"' then [ch '"', ch '"'] else [c]

def writeField (field : Str) : Str :=
  if needsQuotes field then ch '"' :: doubleQuotes field ++ [ch '"'] else field

def writeFields (fields : List Str) : Str := fields.flatMap fun field => ch ',' :: writeField field

/-- `writer.writerow`. A single empty field is quoted, so that the line is not empty. -/
def writeRow : List Str → Str
  | [] => str "\r\n"
  | [[]] => str "\"\"\r\n"
  | field :: fields => writeField field ++ writeFields fields ++ str "\r\n"

def writeRows (rows : List (List Str)) : Str := rows.flatMap writeRow

def added : List CodePoint := [ch ',', ch '"', ch '\r', ch '\n']

theorem mem_writeField (field : Str) (c : CodePoint) (hc : c ∈ writeField field) : c ∈ added ∨ c ∈ field := by
  have hquote : ch '"' ∈ added := by decide
  unfold writeField at hc
  split at hc
  · simp only [doubleQuotes, List.cons_append, List.mem_cons, List.mem_append, List.mem_flatMap, List.not_mem_nil,
      or_false] at hc
    rcases hc with rfl | ⟨d, hd, hc⟩ | rfl
    · exact Or.inl hquote
    · split at hc <;> simp only [List.mem_cons, List.not_mem_nil, or_false, or_self] at hc <;> subst hc
      · exact Or.inl hquote
      · exact Or.inr hd
    · exact Or.inl hquote
  · exact Or.inr hc

theorem mem_writeRow (row : List Str) (c : CodePoint) (hc : c ∈ writeRow row) :
    c ∈ added ∨ ∃ field ∈ row, c ∈ field := by
  have hend : str "\r\n" ⊆ added := by decide
  have hcomma : ch ',' ∈ added := by decide
  have hblank : str "\"\"\r\n" ⊆ added := by decide
  unfold writeRow at hc
  split at hc
  · exact Or.inl (hend hc)
  · exact Or.inl (hblank hc)
  · rename_i field fields _
    unfold writeFields at hc
    simp only [List.mem_append, List.mem_flatMap, List.mem_cons] at hc
    rcases hc with (hc | ⟨f, hf, rfl | hc⟩) | hc
    · exact (mem_writeField field c hc).imp_right fun h => ⟨field, List.mem_cons_self, h⟩
    · exact Or.inl hcomma
    · exact (mem_writeField f c hc).imp_right fun h => ⟨f, List.mem_cons_of_mem _ hf, h⟩
    · exact Or.inl (hend hc)

theorem mem_writeRows (rows : List (List Str)) (c : CodePoint) (hc : c ∈ writeRows rows) :
    c ∈ added ∨ ∃ row ∈ rows, ∃ field ∈ row, c ∈ field := by
  obtain ⟨row, hrow, hc⟩ := List.mem_flatMap.mp hc
  exact (mem_writeRow row c hc).imp_right fun h => ⟨row, hrow, h⟩

/-! ## Reading -/

inductive Error where
  | fieldLimit
  | newline
  deriving DecidableEq

inductive Scan where
  | startRecord
  | startField
  | inField
  | inQuotedField
  | quoteInQuotedField
  | eatCrnl
  deriving DecidableEq

structure State where
  scan : Scan
  field : Str
  fields : List Str
  rows : List (List Str)

def start (rows : List (List Str)) : State := ⟨.startRecord, [], [], rows⟩

def State.save (σ : State) (scan : Scan) : State := ⟨scan, [], σ.fields ++ [σ.field], σ.rows⟩

def State.add (py : Interpreter) (σ : State) (scan : Scan) (c : CodePoint) : Except Error State :=
  if py.csvFieldLimit ≤ σ.field.length then .error .fieldLimit
  else .ok ⟨scan, σ.field ++ [c], σ.fields, σ.rows⟩

def isNewline (c : CodePoint) : Bool := c = ch '\r' ∨ c = ch '\n'

def startField (py : Interpreter) (σ : State) (c : CodePoint) : Except Error State :=
  if isNewline c then .ok (σ.save .eatCrnl)
  else if c = ch '"' then .ok { σ with scan := .inQuotedField }
  else if c = ch ',' then .ok (σ.save .startField)
  else σ.add py .inField c

/-- `parse_process_char` on a character of a line. -/
def State.step (py : Interpreter) (σ : State) (c : CodePoint) : Except Error State :=
  match σ.scan with
  | .startRecord => if isNewline c then .ok { σ with scan := .eatCrnl } else startField py σ c
  | .startField => startField py σ c
  | .inField =>
    if isNewline c then .ok (σ.save .eatCrnl)
    else if c = ch ',' then .ok (σ.save .startField)
    else σ.add py .inField c
  | .inQuotedField => if c = ch '"' then .ok { σ with scan := .quoteInQuotedField } else σ.add py .inQuotedField c
  | .quoteInQuotedField =>
    if c = ch '"' then σ.add py .inQuotedField c
    else if c = ch ',' then .ok (σ.save .startField)
    else if isNewline c then .ok (σ.save .eatCrnl)
    else σ.add py .inField c
  | .eatCrnl => if isNewline c then .ok σ else .error .newline

/-- `parse_process_char` at the end of a line. A finished record becomes a row. -/
def State.endLine (σ : State) : State :=
  match σ.scan with
  | .inQuotedField => σ
  | .startRecord | .eatCrnl => start (σ.rows ++ [σ.fields])
  | .startField | .inField | .quoteInQuotedField => start (σ.rows ++ [σ.fields ++ [σ.field]])

/-- A line ends after `\n`, after a `\r` that no `\n` follows, and with the file. -/
def endsLine (c : CodePoint) (rest : Str) : Bool :=
  c = ch '\n' ∨ (c = ch '\r' ∧ rest.head? ≠ some (ch '\n')) ∨ rest = []

def State.run (py : Interpreter) (σ : State) : Str → Except Error State
  | [] => .ok σ
  | c :: rest => do
    let τ ← σ.step py c
    (if endsLine c rest then τ.endLine else τ).run py rest

/-- `list(csv.reader(file))`. A quoted field that the file cuts off is kept. -/
def readRows (py : Interpreter) (text : Str) : Except Error (List (List Str)) := do
  let σ ← (start []).run py text
  return if σ.scan = .inQuotedField then σ.rows ++ [σ.fields ++ [σ.field]] else σ.rows

/-! ## The reader inverts the writer -/

section RoundTrip

variable (py : Interpreter)

theorem run_cons (σ : State) (c : CodePoint) (rest : Str) :
    σ.run py (c :: rest) = σ.step py c >>= fun τ => (if endsLine c rest then τ.endLine else τ).run py rest := rfl

theorem run_inside (σ : State) (c : CodePoint) (rest : Str) (hc : isNewline c = false) (hrest : rest ≠ []) :
    σ.run py (c :: rest) = σ.step py c >>= fun τ => τ.run py rest := by
  have hends : endsLine c rest = false := by
    unfold isNewline at hc
    simp only [decide_eq_false_iff_not, not_or] at hc
    simp [endsLine, hc, hrest]
  rw [run_cons]
  simp only [hends, Bool.false_eq_true, if_false]

theorem add_ok (σ : State) (scan : Scan) (c : CodePoint) (h : σ.field.length < py.csvFieldLimit) :
    σ.add py scan c = .ok ⟨scan, σ.field ++ [c], σ.fields, σ.rows⟩ := by
  unfold State.add
  rw [if_neg (by omega)]

/-- `μ` has read the field, up to what closes it. -/
structure Closing (μ : State) (field : Str) (fields : List Str) (rows : List (List Str)) : Prop where
  comma : μ.step py (ch ',') = .ok ⟨.startField, [], fields ++ [field], rows⟩
  newline : μ.step py (ch '\r') = .ok ⟨.eatCrnl, [], fields ++ [field], rows⟩

theorem run_plain (field s t : Str) (fields : List Str) (rows : List (List Str)) (hs : needsQuotes s = false)
    (hlen : (field ++ s).length ≤ py.csvFieldLimit) (ht : t ≠ []) :
    State.run py ⟨.inField, field, fields, rows⟩ (s ++ t) =
      State.run py ⟨.inField, field ++ s, fields, rows⟩ t := by
  induction s generalizing field with
  | nil => simp
  | cons c s ih =>
    unfold needsQuotes at hs
    simp only [List.any_cons, Bool.or_eq_false_iff, decide_eq_false_iff_not, not_or] at hs
    obtain ⟨⟨hcomma, hquote, hcr, hlf⟩, hs⟩ := hs
    have hnew : isNewline c = false := by simp [isNewline, hcr, hlf]
    have hadd := add_ok py ⟨.inField, field, fields, rows⟩ .inField c (by
      simp only [List.length_append, List.length_cons] at hlen
      simp only
      omega)
    have hstep : State.step py ⟨.inField, field, fields, rows⟩ c =
        .ok ⟨.inField, field ++ [c], fields, rows⟩ := by
      rw [← hadd]
      simp [State.step, hnew, hcomma]
    rw [List.cons_append, run_inside py _ c _ hnew (by simp [ht]), hstep, ok_bind, ih _ hs (by simpa using hlen)]
    simp

theorem run_quoted (field s t : Str) (fields : List Str) (rows : List (List Str))
    (hlen : (field ++ s).length ≤ py.csvFieldLimit) (ht : t ≠ []) :
    State.run py ⟨.inQuotedField, field, fields, rows⟩ (doubleQuotes s ++ ch '"' :: t) =
      State.run py ⟨.quoteInQuotedField, field ++ s, fields, rows⟩ t := by
  have hquote : isNewline (ch '"') = false := by decide
  induction s generalizing field with
  | nil =>
    have hstep : State.step py ⟨.inQuotedField, field, fields, rows⟩ (ch '"') =
        .ok ⟨.quoteInQuotedField, field, fields, rows⟩ := by simp [State.step]
    unfold doubleQuotes
    rw [List.flatMap_nil, List.nil_append, run_inside py _ _ _ hquote ht, hstep]
    simp
  | cons c s ih =>
    have hlt : field.length < py.csvFieldLimit := by
      simp only [List.length_append, List.length_cons] at hlen
      omega
    have hrest := ih (field ++ [c]) (by simpa using hlen)
    unfold doubleQuotes
    rw [List.flatMap_cons, List.append_assoc, ← doubleQuotes]
    split
    · -- A quote comes doubled.
      rename_i hc
      subst hc
      have hfirst : State.step py ⟨.inQuotedField, field, fields, rows⟩ (ch '"') =
          .ok ⟨.quoteInQuotedField, field, fields, rows⟩ := by simp [State.step]
      have hsecond : State.step py ⟨.quoteInQuotedField, field, fields, rows⟩ (ch '"') =
          .ok ⟨.inQuotedField, field ++ [ch '"'], fields, rows⟩ := by
        unfold State.step
        simp only [if_true]
        exact add_ok py _ _ _ hlt
      simp only [List.cons_append, List.nil_append]
      rw [run_inside py _ _ _ hquote (by simp), hfirst, ok_bind, run_inside py _ _ _ hquote (by simp), hsecond,
        ok_bind, hrest]
      simp
    · rename_i hc
      have hstep : State.step py ⟨.inQuotedField, field, fields, rows⟩ c =
          .ok ⟨.inQuotedField, field ++ [c], fields, rows⟩ := by
        unfold State.step
        simp only [hc, if_false]
        exact add_ok py _ _ _ hlt
      -- The end of a line inside quotes changes nothing.
      have hend : State.endLine ⟨.inQuotedField, field ++ [c], fields, rows⟩ =
          ⟨.inQuotedField, field ++ [c], fields, rows⟩ := rfl
      simp only [List.cons_append, List.nil_append]
      rw [run_cons, hstep, ok_bind, hend, ite_self, hrest]
      simp

theorem run_field (s t : Str) (fields : List Str) (rows : List (List Str)) (hlen : s.length ≤ py.csvFieldLimit)
    (ht : t ≠ []) :
    ∃ μ, State.run py ⟨.startField, [], fields, rows⟩ (writeField s ++ t) = μ.run py t ∧
      Closing py μ s fields rows := by
  have hcomma : isNewline (ch ',') = false := by decide
  have hcr : isNewline (ch '\r') = true := by decide
  have hcq : ch ',' ≠ ch '"' ∧ ch '\r' ≠ ch '"' ∧ ch '\r' ≠ ch ',' := by decide
  unfold writeField
  split
  · refine ⟨⟨.quoteInQuotedField, s, fields, rows⟩, ?_, ?_, ?_⟩
    · have hstep : State.step py ⟨.startField, [], fields, rows⟩ (ch '"') =
          .ok ⟨.inQuotedField, [], fields, rows⟩ := by
        simp [State.step, startField, show isNewline (ch '"') = false by decide]
      rw [List.append_assoc, List.cons_append, run_inside py _ _ _ (by decide) (by simp), hstep, ok_bind]
      exact run_quoted py [] s t fields rows (by simpa using hlen) ht
    · simp [State.step, State.save, hcq]
    · simp [State.step, State.save, hcr, hcq]
  · rename_i hplain
    simp only [Bool.not_eq_true] at hplain
    cases s with
    | nil =>
      refine ⟨_, rfl, ?_, ?_⟩
      · simp [State.step, startField, State.save, hcomma, hcq]
      · simp [State.step, startField, State.save, hcr]
    | cons c s =>
      have hfirst := hplain
      unfold needsQuotes at hfirst
      simp only [List.any_cons, Bool.or_eq_false_iff, decide_eq_false_iff_not, not_or] at hfirst
      obtain ⟨⟨h₁, h₂, h₃, h₄⟩, hs⟩ := hfirst
      have hnew : isNewline c = false := by simp [isNewline, h₃, h₄]
      have hadd := add_ok py ⟨.startField, [], fields, rows⟩ .inField c (by
        simp only [List.length_cons] at hlen
        simp only [List.length_nil]
        omega)
      have hstep : State.step py ⟨.startField, [], fields, rows⟩ c = .ok ⟨.inField, [c], fields, rows⟩ := by
        simpa [State.step, startField, hnew, h₁, h₂] using hadd
      refine ⟨⟨.inField, c :: s, fields, rows⟩, ?_, ?_, ?_⟩
      · rw [List.cons_append, run_inside py _ c _ hnew (by simp [ht]), hstep, ok_bind]
        exact run_plain py [c] s t fields rows hs (by simpa using hlen) ht
      · simp [State.step, State.save, hcomma]
      · simp [State.step, State.save, hcr]

theorem run_fields (μ : State) (s : Str) (fields after : List Str) (rows : List (List Str))
    (hμ : Closing py μ s fields rows) (hlen : ∀ field ∈ after, field.length ≤ py.csvFieldLimit) (rest : Str) :
    μ.run py (writeFields after ++ str "\r\n" ++ rest) =
      (start (rows ++ [fields ++ s :: after])).run py rest := by
  induction after generalizing μ s fields with
  | nil =>
    have hends : endsLine (ch '\r') (ch '\n' :: rest) = false := by simp [endsLine, show ch '\r' ≠ ch '\n' by decide]
    have hlf : State.step py ⟨.eatCrnl, [], fields ++ [s], rows⟩ (ch '\n') =
        .ok ⟨.eatCrnl, [], fields ++ [s], rows⟩ := by simp [State.step, show isNewline (ch '\n') = true by decide]
    have hendsLf : endsLine (ch '\n') rest = true := by simp [endsLine]
    rw [writeFields, List.flatMap_nil, List.nil_append, show str "\r\n" = [ch '\r', ch '\n'] from rfl]
    simp only [List.cons_append, List.nil_append]
    rw [run_cons, hμ.newline, ok_bind, hends, run_cons]
    simp only [Bool.false_eq_true, if_false, hlf, ok_bind, hendsLf, if_true]
    rfl
  | cons field after ih =>
    have hwrite : writeFields (field :: after) = ch ',' :: writeField field ++ writeFields after := rfl
    have htail : writeFields after ++ (str "\r\n" ++ rest) ≠ [] := by simp [str]
    obtain ⟨ν, hrun, hν⟩ := run_field py field (writeFields after ++ (str "\r\n" ++ rest)) (fields ++ [s]) rows
      (hlen field List.mem_cons_self) htail
    have hrest := ih ν field (fields ++ [s]) hν fun f hf => hlen f (List.mem_cons_of_mem _ hf)
    rw [hwrite]
    simp only [List.cons_append, List.append_assoc] at hrest ⊢
    rw [run_inside py _ _ _ (by decide) (by simp [str]), hμ.comma, ok_bind, hrun, hrest]
    simp

theorem run_startRecord (rows : List (List Str)) (c : CodePoint) (text : Str) (hc : isNewline c = false) :
    (start rows).run py (c :: text) = State.run py ⟨.startField, [], [], rows⟩ (c :: text) := by
  simp [run_cons, start, State.step, startField, hc, State.save, State.add]

theorem writeField_head (s : Str) (hs : s ≠ []) : ∃ c t, writeField s = c :: t ∧ isNewline c = false := by
  unfold writeField
  split
  · exact ⟨_, _, rfl, by decide⟩
  · rename_i hplain
    cases s with
    | nil => exact absurd rfl hs
    | cons c s =>
      unfold needsQuotes at hplain
      simp only [List.any_cons, Bool.or_eq_true, decide_eq_true_eq, not_or] at hplain
      exact ⟨c, s, rfl, by simp [isNewline, hplain]⟩

theorem run_blank (rows : List (List Str)) (rest : Str) :
    (start rows).run py (str "\r\n" ++ rest) = (start (rows ++ [[]])).run py rest := by
  have hends : endsLine (ch '\r') (ch '\n' :: rest) = false := by simp [endsLine, show ch '\r' ≠ ch '\n' by decide]
  have hendsLf : endsLine (ch '\n') rest = true := by simp [endsLine]
  have hcr : (start rows).step py (ch '\r') = .ok ⟨.eatCrnl, [], [], rows⟩ := by
    simp [start, State.step, show isNewline (ch '\r') = true by decide]
  have hlf : State.step py ⟨.eatCrnl, [], [], rows⟩ (ch '\n') = .ok ⟨.eatCrnl, [], [], rows⟩ := by
    simp [State.step, show isNewline (ch '\n') = true by decide]
  rw [show str "\r\n" = [ch '\r', ch '\n'] from rfl]
  simp only [List.cons_append, List.nil_append]
  rw [run_cons, hcr, ok_bind, hends, run_cons]
  simp only [Bool.false_eq_true, if_false, hlf, ok_bind, hendsLf, if_true]
  rfl

theorem run_quotes (rows : List (List Str)) (rest : Str) :
    (start rows).run py (str "\"\"\r\n" ++ rest) = (start (rows ++ [[[]]])).run py rest := by
  have hquote : isNewline (ch '"') = false := by decide
  have hopen : (start rows).step py (ch '"') = .ok ⟨.inQuotedField, [], [], rows⟩ := by
    simp [start, State.step, startField, hquote]
  have hclose : State.step py ⟨.inQuotedField, [], [], rows⟩ (ch '"') = .ok ⟨.quoteInQuotedField, [], [], rows⟩ := by
    simp [State.step]
  have hμ : Closing py ⟨.quoteInQuotedField, [], [], rows⟩ [] [] rows := by
    constructor
    · simp [State.step, State.save, show ch ',' ≠ ch '"' by decide]
    · simp [State.step, State.save, show isNewline (ch '\r') = true by decide,
        show ch '\r' ≠ ch '"' ∧ ch '\r' ≠ ch ',' by decide]
  have hrest := run_fields py _ [] [] [] rows hμ (by simp) rest
  rw [show str "\"\"\r\n" = ch '"' :: ch '"' :: str "\r\n" from rfl]
  simp only [List.cons_append]
  rw [run_inside py _ _ _ hquote (by simp), hopen, ok_bind, run_inside py _ _ _ hquote (by simp [str]), hclose, ok_bind]
  exact hrest

theorem run_row (row : List Str) (rows : List (List Str)) (hlen : ∀ field ∈ row, field.length ≤ py.csvFieldLimit)
    (rest : Str) : (start rows).run py (writeRow row ++ rest) = (start (rows ++ [row])).run py rest := by
  -- The line of a row with text starts with no newline, so the record starts with its first field.
  have hwritten : ∀ field after, row = field :: after → writeRow row = writeField field ++ writeFields after ++ str "\r\n" →
      (∃ c text, writeRow row ++ rest = c :: text ∧ isNewline c = false) →
      (start rows).run py (writeRow row ++ rest) = (start (rows ++ [row])).run py rest := by
    rintro field after rfl hwrite ⟨c, text, htext, hc⟩
    obtain ⟨μ, hrun, hμ⟩ := run_field py field (writeFields after ++ (str "\r\n" ++ rest)) [] rows
      (hlen field List.mem_cons_self) (by simp [str])
    have hrest := run_fields py μ field [] after rows hμ (fun f hf => hlen f (List.mem_cons_of_mem _ hf)) rest
    rw [htext, run_startRecord py rows c text hc, ← htext, hwrite]
    simp only [List.append_assoc, List.nil_append] at hrest ⊢
    rw [hrun, hrest]
  match row, hwritten, hlen with
  | [], _, _ => exact run_blank py rows rest
  | [[]], _, _ => exact run_quotes py rows rest
  | [] :: field :: after, hwritten, _ =>
    exact hwritten [] (field :: after) rfl rfl ⟨ch ',', _, rfl, by decide⟩
  | (c :: s) :: after, hwritten, _ =>
    obtain ⟨d, text, htext, hd⟩ := writeField_head (c :: s) (by simp)
    have hwrite : writeRow ((c :: s) :: after) = writeField (c :: s) ++ writeFields after ++ str "\r\n" := rfl
    refine hwritten (c :: s) after rfl hwrite ⟨d, text ++ writeFields after ++ str "\r\n" ++ rest, ?_, hd⟩
    rw [hwrite, htext]
    simp

theorem readRows_writeRows (rows : List (List Str))
    (hlen : ∀ row ∈ rows, ∀ field ∈ row, field.length ≤ py.csvFieldLimit) :
    readRows py (writeRows rows) = .ok rows := by
  have hrun : ∀ done, (start done).run py (writeRows rows) = .ok (start (done ++ rows)) := by
    induction rows with
    | nil => simp [writeRows, State.run]
    | cons row rows ih =>
      intro done
      unfold writeRows
      rw [List.flatMap_cons, run_row py row done (hlen row List.mem_cons_self)]
      rw [← writeRows, ih (fun r hr => hlen r (List.mem_cons_of_mem _ hr)), List.append_assoc, List.singleton_append]
  unfold readRows
  rw [hrun]
  rfl

end RoundTrip

end Csv

end Python
