import NetworkMapper.Devtools.ReplayObservations
import NetworkMapper.Observations.ReplayRoundTrip
import NetworkMapper.Python.CsvLimit
import NetworkMapper.Python.Json.Limits
import NetworkMapper.Relationships.Spec

/-!
# Which replays end with an exit code

The command catches its own errors and those of the artifact's format. What escapes is
a text that is not UTF-8 or not CSV in `relationships.csv`, and a number or a nesting
beyond the interpreter's limits in `observations.json`.
-/

open Python

namespace NetworkMapper

/-! ## The artifact -/

namespace ReplayFormat

/-- Decoding stops, at the end or before, with every literal and every nesting within the limits. -/
def DecodesWithinLimits (py : Interpreter) (data : Bytes) : Prop :=
  ∀ text, decodeUtf8 data = .ok text → ∀ s t σ, text = s ++ t →
    LoadState.run py rejectDuplicateKeys ⟨[], .value⟩ s = .ok σ → ¬ σ.Exceeds py t

theorem decodesWithinLimits_text (py : Interpreter) (data : Bytes) (text : Str) (h : decodeUtf8 data = .ok text) :
    DecodesWithinLimits py data ↔ ¬ MeetsLimit (loads py rejectDuplicateKeys text) := by
  unfold DecodesWithinLimits
  rw [loads_limit, h]
  simp only [Except.ok.injEq, forall_eq', not_exists, not_and]

theorem loadDocument_rejects (py : Interpreter) (data : Bytes) (source : Str) :
    Rejects (loadDocument py (.bytes data) source) ↔ DecodesWithinLimits py data := by
  cases hdecode : decodeUtf8 data with
  | error e =>
    have hwithin : DecodesWithinLimits py data := by
      intro text htext
      rw [hdecode] at htext
      cases htext
    simp only [loadDocument, ReplayData.decode, hdecode, hwithin, iff_true]
    exact rejects_reject _ _
  | ok text =>
    rw [decodesWithinLimits_text py data text hdecode]
    simp only [loadDocument, ReplayData.decode, hdecode]
    split
    all_goals
      rename_i hloads
      rw [hloads]
    · simp [rejects_ok]
    · simp [rejects_reject]
    · simp [rejects_reject]
    all_goals simp [Rejects, MeetsLimit]

theorem parseObservations_rejects (py : Interpreter) (data : Bytes) (source : Str) :
    Rejects (parseObservations py (.bytes data) source) ↔ DecodesWithinLimits py data := by
  rw [← loadDocument_rejects py data source]
  constructor
  · intro h e he
    refine h e ?_
    unfold parseObservations
    rw [he, error_bind]
  · intro h
    exact h.bind fun document _ => checkDocument_rejects py document source

end ReplayFormat

namespace ReplayObservations

open ReplayFormat (parseObservations DecodesWithinLimits)

/-- What the `except` of the command names. -/
def Caught (e : Error) : Prop := ∃ message, e = .input message ∨ e = .observations (.format message)

/-! ## The CSV file -/

/-- The bytes are UTF-8 and no field is longer than `csv` allows. -/
def CsvWithinLimits (py : Interpreter) (data : Bytes) : Prop :=
  ∃ text, decodeUtf8 data = .ok text ∧ Csv.FieldsFit py text

theorem caught_input (message : Str) : Caught (.input message) := ⟨message, Or.inl rfl⟩

theorem parseRows_caught (lineNumber : Nat) (rows : List (List Str)) (e : Error)
    (h : parseRows lineNumber rows = .error e) : Caught e := by
  induction rows generalizing lineNumber with
  | nil => cases h
  | cons row rows ih =>
    unfold parseRows at h
    split at h
    · cases h
    · rename_i hrow
      rw [List.cons.injEq] at hrow
      obtain ⟨-, rfl⟩ := hrow
      cases hrest : parseRows (lineNumber + 1) rows with
      | error e' =>
        rw [hrest, error_bind, Except.error.injEq] at h
        exact ih _ (h ▸ hrest)
      | ok parsed => simp [hrest] at h
    · rw [Except.error.injEq] at h
      exact h ▸ caught_input _

theorem readRelationshipsCsv_caught (py : Interpreter) (data : Bytes) :
    (∀ e, readRelationshipsCsv py data = .error e → Caught e) ↔ CsvWithinLimits py data := by
  unfold CsvWithinLimits readRelationshipsCsv
  cases hdecode : decodeUtf8 data with
  | error e => simp [Except.mapError, Caught]
  | ok text =>
    simp only [Except.mapError, ok_bind, Except.ok.injEq, exists_eq_left', ← Csv.readRows_limit]
    cases hrows : Csv.readRows py text with
    | error e => simp [Caught]
    | ok rows =>
      simp only [ok_bind, Except.ok.injEq, exists_eq', iff_true]
      intro e h
      split at h
      · cases h
        exact caught_input _
      · split at h
        · cases h
          exact caught_input _
        · exact parseRows_caught _ _ e h

/-! ## The command -/

/-- A condition on the two files, when both are there. The second is read only after the first is accepted. -/
def RunDirectory.WithinLimits (py : Interpreter) (run : RunDirectory) : Prop :=
  run.isDir = true → ∀ observationsJson, run.observations = some observationsJson →
    ∀ relationshipsCsv, run.relationshipsCsv = some relationshipsCsv →
      DecodesWithinLimits py observationsJson ∧
        ∀ observations, parseObservations py (.bytes observationsJson) run.observationsPath = .ok observations →
          CsvWithinLimits py relationshipsCsv

theorem runReplayCommand_caught (py : Interpreter) (run : RunDirectory) :
    (∃ result, runReplayCommand py run = .ok result ∧ result.exitCode ∈ [exitMatch, exitMismatch, exitCannotReplay]) ↔
      ∀ e, replayAndCompare py run = .error e → Caught e := by
  unfold runReplayCommand
  split
  all_goals
    rename_i h
    rw [h]
  · simp only [Except.ok.injEq, exists_eq_left', reduceCtorEq, false_implies, implies_true, iff_true]
    split <;> simp
  · simp [Caught]
  · simp [Caught]
  · rename_i e hinput hformat
    simp only [reduceCtorEq, false_and, exists_false, false_iff, Except.error.injEq, forall_eq']
    rintro ⟨message, rfl | rfl⟩
    · exact hinput message rfl
    · exact hformat message rfl

theorem replayObservations_cases (py : Interpreter) (data : Bytes) (source : Str) :
    (∃ e, parseObservations py (.bytes data) source = .error e ∧
      replayObservations py data source = .error (.observations e)) ∨
    ∃ observations replay, parseObservations py (.bytes data) source = .ok observations ∧
      replayObservations py data source = .ok replay := by
  -- The resolvers raise nothing, so only the artifact can stop the replay.
  unfold replayObservations
  cases hparse : parseObservations py (.bytes data) source with
  | error e => exact Or.inl ⟨e, rfl, rfl⟩
  | ok observations =>
    obtain ⟨relationships, hresolve, -⟩ := RelationshipResolver.resolve_ok categoryCardinality observations
      (IdentityResolver.resolve observations)
    refine Or.inr ⟨observations, ⟨observations, IdentityResolver.resolve observations, relationships⟩, rfl, ?_⟩
    simp only [Except.mapError, ok_bind, hresolve, pure_ok]

theorem compareWithRelationshipsCsv_caught (py : Interpreter) (relationships : List CanonicalRelationship)
    (data : Bytes) :
    (∀ e, compareWithRelationshipsCsv py relationships data = .error e → Caught e) ↔ CsvWithinLimits py data := by
  rw [← readRelationshipsCsv_caught]
  unfold compareWithRelationshipsCsv
  cases readRelationshipsCsv py data <;> simp

/-- The command ends with one of its exit codes in exactly the runs whose files are within the limits. -/
theorem exits_iff_within_limits (py : Interpreter) (run : RunDirectory) :
    (∃ result, runReplayCommand py run = .ok result ∧ result.exitCode ∈ [exitMatch, exitMismatch, exitCannotReplay]) ↔
      run.WithinLimits py := by
  rw [runReplayCommand_caught]
  obtain ⟨path, observationsPath, isDir, observationsJson, relationshipsCsv⟩ := run
  unfold RunDirectory.WithinLimits replayAndCompare
  cases isDir with
  | false => simp [caught_input]
  | true =>
    cases observationsJson with
    | none => simp [caught_input]
    | some observationsJson =>
      cases relationshipsCsv with
      | none => simp [caught_input]
      | some relationshipsCsv =>
        simp only [Bool.not_true, Bool.false_eq_true, if_false, true_implies, Option.some.injEq, forall_eq']
        rw [← ReplayFormat.parseObservations_rejects py observationsJson observationsPath]
        rcases replayObservations_cases py observationsJson observationsPath with
          ⟨e, hparse, hreplay⟩ | ⟨observations, replay, hparse, hreplay⟩
        · simp [hparse, hreplay, Caught, ReplayFormat.Rejects]
        · simp only [hparse, hreplay, ok_bind, ReplayFormat.rejects_ok, Except.ok.injEq, forall_eq', true_and]
          rw [← compareWithRelationshipsCsv_caught py replay.relationships relationshipsCsv]
          cases compareWithRelationshipsCsv py replay.relationships relationshipsCsv <;> simp

/-- An empty artifact is there, and a stray byte is all of the CSV file. -/
def strayByteRun : RunDirectory where
  path := str "run"
  observationsPath := str "run/observations.json"
  isDir := true
  observations := some ((ReplayFormat.artifact cpython []).map fun c => byte c.val)
  relationshipsCsv := some [byte 255]

theorem stray_byte_escapes :
    strayByteRun.isDir = true ∧ runReplayCommand cpython strayByteRun = .error (.unicode .decode) := by
  decide +kernel

end ReplayObservations

end NetworkMapper
