import NetworkMapper.Developer.BenchmarkReport
import NetworkMapper.Python.Numerals

/-!
# Two benchmark reports

The cells of the tables are compared under text keys. A key is split again to see
whether its cell is on the diagonal.
-/

open Python

namespace NetworkMapper

namespace Compare

/-- What a comparison raises: a value of a wrong type, or one that is not a number. -/
inductive Error where
  | access (e : AccessError)
  | unsupportedFormat (path : Str)
  | unpack (key : Str)
  | notNumber (value : Json)

/-! ## Records -/

/-- Two values and their difference, as floats. -/
structure DeltaRow where
  key : Str
  baseline : Str
  candidate : Str
  delta : Str
  deriving DecidableEq

/-- Two counts and their difference. -/
structure CountDeltaRow where
  key : Str
  baseline : Int
  candidate : Int
  delta : Int
  deriving DecidableEq

/-- What a comparison of two reports says. -/
structure CompareResult where
  baselineLabel : Str
  candidateLabel : Str
  overall : DeltaRow
  perDeviceType : List DeltaRow
  misclassification : List CountDeltaRow
  confusionOffDiagonalBaseline : Int
  confusionOffDiagonalCandidate : Int
  confusionOffDiagonalDelta : Int
  confusionChangedCells : Nat
  confusionImprovedCells : Nat
  confusionRegressedCells : Nat
  confusionUnchangedCells : Nat
  exitCode : Nat
  deriving DecidableEq

/-- A report file: its path, the name at the end of it, and the decoded document. -/
structure ReportFile where
  path : Str
  name : Str
  document : Json

/-! ## Reading -/

/-- `_load_report` from the decoded document on: the members of the payload. -/
def loadReport (file : ReportFile) : Except Error (List (Str × Json)) :=
  match file.document with
  | .obj members => .ok members
  | _ => .error (.unsupportedFormat file.path)

section Reading

variable (py : Interpreter) (decimal : CodePoint → Option (Fin 10)) (fl : Floats)

/-- A conversion that can raise a `ValueError`. -/
def number {α : Type} (value : Json) : Option α → Except Error α
  | some n => .ok n
  | none => .error (.notNumber value)

/-- `int(value)` -/
def intOfJson : Json → Except Error Int
  | .int n => .ok n
  | .bool b => .ok b.toNat
  | .float literal => number (.float literal) (fl.toInt (py.floatRepr literal))
  | .str s => number (.str s) (intOfText py decimal s)
  | _ => .error (.access .typeError)

/-- `float(value)`. A float is the `repr` of its value. -/
def floatOf : Json → Except Error Str
  | .float literal => .ok (py.floatRepr literal)
  | .int n => number (.int n) (fl.ofInt n)
  | .bool b => number (.bool b) (fl.ofInt b.toNat)
  | .str s => number (.str s) (fl.ofText s)
  | _ => .error (.access .typeError)

/-! ## Cells -/

/-- `f"{expected_type} -> {actual_type}"` -/
def arrow : Str := str " -> "

/-- The text key of a cell. -/
def cellKey (expectedType actualType : Str) : Str := expectedType ++ arrow ++ actualType

/-- `key.split(" -> ", maxsplit=1)`, where it has two parts. -/
def splitKey (key : Str) : Option (Str × Str) :=
  (find arrow key).map fun i => (key.take i, key.drop (i + arrow.length))

/-- A loop over the cells of a table. What is not a dictionary is passed over. -/
def foldCells {σ : Type} (step : σ → Str → Str → Json → Except Error σ) (start : σ) : Json → Except Error σ
  | .obj rows => rows.foldlM (fun state row =>
      match row.2 with
      | .obj counts => counts.foldlM (fun state count => step state row.1 count.1 count.2) state
      | _ => .ok state) start
  | _ => .ok start

def flattenStep (flattened : Dict Str Int) (expectedType actualType : Str) (count : Json) :
    Except Error (Dict Str Int) := do
  return flattened.set (cellKey expectedType actualType) (← intOfJson py decimal fl count)

/-- A table of a report under text keys. A table that is not there has no cells. -/
def flatten (field : Str) (payload : List (Str × Json)) : Except Error (Dict Str Int) :=
  foldCells (flattenStep py decimal fl) Dict.empty ((payload.lookup field).getD (.obj []))

def flattenMisclassifications (payload : List (Str × Json)) : Except Error (Dict Str Int) :=
  flatten py decimal fl (str "misclassification_summary") payload

def flattenConfusionMatrix (payload : List (Str × Json)) : Except Error (Dict Str Int) :=
  flatten py decimal fl (str "confusion_matrix") payload

/-- A count on the diagonal is not converted. -/
def offDiagonalStep (total : Int) (expectedType actualType : Str) (count : Json) : Except Error Int := do
  if expectedType ≠ actualType then return total + (← intOfJson py decimal fl count)
  else return total

/-- The counts of the matrix that are not on its diagonal. -/
def offDiagonalTotal (payload : List (Str × Json)) : Except Error Int :=
  foldCells (offDiagonalStep py decimal fl) 0 ((payload.lookup (str "confusion_matrix")).getD (.obj []))

end Reading

/-! ## Comparing -/

/-- `sorted(set(baseline.keys()) | set(candidate.keys()))` -/
def allKeys (baseline candidate : List Str) : List Str := sortedSet (baseline.toFinset ∪ candidate.toFinset)

/-- A key that a table does not have counts as zero. -/
def deltaOf (baseline candidate : Dict Str Int) (key : Str) : Int :=
  (candidate.get? key).getD 0 - (baseline.get? key).getD 0

def countDeltaRow (baseline candidate : Dict Str Int) (key : Str) : CountDeltaRow :=
  ⟨key, (baseline.get? key).getD 0, (candidate.get? key).getD 0, deltaOf baseline candidate key⟩

/-- The counters of the loop over the cells. -/
structure CellCounts where
  improved : Nat := 0
  regressed : Nat := 0
  unchanged : Nat := 0
  changed : Nat := 0

/-- One key. It is split again only when its counts differ. -/
def CellCounts.step (baseline candidate : Dict Str Int) (counts : CellCounts) (key : Str) : Except Error CellCounts :=
  let delta := deltaOf baseline candidate key
  if delta = 0 then .ok { counts with unchanged := counts.unchanged + 1 }
  else
    let counts := { counts with changed := counts.changed + 1 }
    match splitKey key with
    | none => .error (.unpack key)
    | some (expectedType, actualType) =>
      -- on the diagonal more is better, elsewhere less is
      if expectedType = actualType then
        if delta > 0 then .ok { counts with improved := counts.improved + 1 }
        else .ok { counts with regressed := counts.regressed + 1 }
      else
        if delta < 0 then .ok { counts with improved := counts.improved + 1 }
        else .ok { counts with regressed := counts.regressed + 1 }

section Compare

variable (py : Interpreter) (decimal : CodePoint → Option (Fin 10)) (fl : Floats) (strOf : Json → Str)

def deltaRow (key baseline candidate : Str) : DeltaRow := ⟨key, baseline, candidate, fl.sub candidate baseline⟩

/-- `float(types.get(device_type, {}).get("accuracy", 0.0))` -/
def typeAccuracy (types : List (Str × Json)) (deviceType : Str) : Except Error Str := do
  let accuracy ← (((types.lookup deviceType).getD (.obj [])).get (str "accuracy") (.float zeroFloat)).mapError .access
  floatOf py fl accuracy

/-- `types.keys()` needs a dictionary. -/
def typesOf (payload : List (Str × Json)) : Except Error (List (Str × Json)) :=
  match (payload.lookup (str "device_type_summary")).getD (.obj []) with
  | .obj types => .ok types
  | _ => .error (.access .typeError)

/-- `str(payload.get("dataset_name", path.name))` -/
def label (file : ReportFile) (payload : List (Str × Json)) : Str :=
  match (payload.lookup (str "dataset_name")).getD (.str file.name) with
  | .str name => name
  | value => strOf value

def accuracyOf (payload : List (Str × Json)) : Except Error Str :=
  floatOf py fl ((payload.lookup (str "accuracy_percentage")).getD (.float zeroFloat))

/-- The exit code is zero, whatever the comparison says. -/
def compareReports (baselineReport candidateReport : ReportFile) : Except Error CompareResult := do
  let baselinePayload ← loadReport baselineReport
  let candidatePayload ← loadReport candidateReport
  let baselineAccuracy ← accuracyOf py fl baselinePayload
  let candidateAccuracy ← accuracyOf py fl candidatePayload
  let baselineTypes ← typesOf baselinePayload
  let candidateTypes ← typesOf candidatePayload
  let perDeviceType ← (allKeys (baselineTypes.map Prod.fst) (candidateTypes.map Prod.fst)).mapM fun deviceType => do
    return deltaRow fl deviceType (← typeAccuracy py fl baselineTypes deviceType)
      (← typeAccuracy py fl candidateTypes deviceType)
  let baselineMisclassification ← flattenMisclassifications py decimal fl baselinePayload
  let candidateMisclassification ← flattenMisclassifications py decimal fl candidatePayload
  let baselineConfusion ← flattenConfusionMatrix py decimal fl baselinePayload
  let candidateConfusion ← flattenConfusionMatrix py decimal fl candidatePayload
  let cells ← (allKeys baselineConfusion.keys candidateConfusion.keys).foldlM
    (CellCounts.step baselineConfusion candidateConfusion) {}
  let baselineOffDiagonal ← offDiagonalTotal py decimal fl baselinePayload
  let candidateOffDiagonal ← offDiagonalTotal py decimal fl candidatePayload
  return {
    baselineLabel := label strOf baselineReport baselinePayload
    candidateLabel := label strOf candidateReport candidatePayload
    overall := deltaRow fl (str "Overall accuracy") baselineAccuracy candidateAccuracy
    perDeviceType := perDeviceType
    misclassification := (allKeys baselineMisclassification.keys candidateMisclassification.keys).map
      (countDeltaRow baselineMisclassification candidateMisclassification)
    confusionOffDiagonalBaseline := baselineOffDiagonal
    confusionOffDiagonalCandidate := candidateOffDiagonal
    confusionOffDiagonalDelta := candidateOffDiagonal - baselineOffDiagonal
    confusionChangedCells := cells.changed
    confusionImprovedCells := cells.improved
    confusionRegressedCells := cells.regressed
    confusionUnchangedCells := cells.unchanged
    exitCode := 0 }

end Compare

end Compare

end NetworkMapper
