import NetworkMapper.Classification.DeviceClassifier
import NetworkMapper.Developer.BenchmarkRunner
import NetworkMapper.Python.CountTable
import NetworkMapper.Python.Floats

/-!
# The report of a benchmark

One loop over the devices counts on several branches, and the counts are laid out
afterwards.
-/

open Python

namespace NetworkMapper

/-! ## Records -/

/-- A device whose type is not the expected one, or for which none is expected. -/
structure BenchmarkMismatch where
  ipAddress : Str
  hostname : Option Str
  expectedDeviceType : Str
  actualDeviceType : Str
  deriving DecidableEq

/-- A value of `device_type_summary`. -/
structure TypeSummary where
  total : Nat
  correct : Nat
  incorrect : Nat
  accuracy : Str

/-- What a benchmark writes, without the time at which it does. -/
structure BenchmarkReport where
  datasetName : Str
  totalDevices : Nat
  correctClassifications : Nat
  incorrectClassifications : Nat
  accuracyPercentage : Str
  deviceTypeSummary : Dict Str TypeSummary
  confusionMatrix : CountTable Str Str
  misclassificationSummary : CountTable Str Str
  mismatches : List BenchmarkMismatch

namespace BenchmarkRunner

/-! ## Expected results -/

/-- A document of the wrong shape, or the name of a type that does not exist. -/
inductive Error where
  | access (e : AccessError)
  | unsupportedDeviceType (raw : Json)

def accessed {α : Type} (r : Except AccessError α) : Except Error α := r.mapError .access

/-- `bool(value)` -/
def truthyJson (py : Interpreter) : Json → Bool
  | .null => false
  | .bool b => b
  | .int n => n ≠ 0
  | .float literal => py.floatRepr literal ≠ zeroFloat ∧ py.floatRepr literal ≠ str "-0.0"
  | .str s => s ≠ []
  | .arr items => !items.isEmpty
  | .obj members => !members.isEmpty

/-- The value of a type in any case, or its name. -/
def parseDeviceType (u : Unicode) (raw : Json) : Except Error DeviceType :=
  match raw with
  | .str s =>
    let normalized := strip s
    match (DeviceType.ofValue (u.lower normalized)).or (DeviceType.ofName (u.upper normalized)) with
    | some deviceType => .ok deviceType
    | none => .error (.unsupportedDeviceType raw)
  | _ => .error (.unsupportedDeviceType raw)

/-- An entry of `expected_results`. -/
def readExpected (py : Interpreter) (u : Unicode) (payload : Json) : Except Error (Str × DeviceType) := do
  let ipAddress ← accessed (payload.textItem (str "ip_address"))
  let deviceType ← accessed (payload.get (str "device_type") .null)
  let raw ← if truthyJson py deviceType then .ok deviceType
    else accessed (payload.get (str "expected_device_type") .null)
  return (ipAddress, ← parseDeviceType u raw)

/-- `load_expected_results` from the decoded document on. -/
def loadExpectedResults (py : Interpreter) (u : Unicode) (payload : Json) : Except Error (Dict Str DeviceType) :=
  match payload with
  | .obj members => do
    let pairs ← match members.lookup (str "expected_results") with
      | some expectedPayloads => do (← accessed expectedPayloads.list).mapM (readExpected py u)
      | none => members.mapM fun member => do return (member.1, ← parseDeviceType u member.2)
    return Dict.ofPairs pairs
  | _ => .error (.access .typeError)

/-! ## Counting -/

/-- The counters of one expected type. -/
structure TypeCounts where
  total : Nat := 0
  correct : Nat := 0
  incorrect : Nat := 0
  deriving DecidableEq

/-- What the loop over the devices keeps. -/
structure Tally where
  classifier : DeviceClassifier
  correctClassifications : Nat := 0
  deviceTypeSummaryCounts : Dict Str TypeCounts := Dict.empty
  confusionMatrixCounts : CountTable Str Str := Dict.empty
  expectedDeviceTypes : Finset Str := ∅
  actualDeviceTypes : Finset Str := ∅
  misclassificationSummary : CountTable Str Str := Dict.empty
  mismatches : List BenchmarkMismatch := []

/-- The counts of a type, zeros when there are none yet. -/
def countsOf (counts : Dict Str TypeCounts) (typeName : Str) : TypeCounts := (counts.get? typeName).getD {}

/-- The row of devices for which nothing is expected. -/
def missing : Str := str "MISSING"

namespace Tally

/-- The first block of the loop body: the device counts for its expected type. -/
def recordExpected (tally : Tally) (typeName actualName : Str) : Tally :=
  let counts := countsOf tally.deviceTypeSummaryCounts typeName
  { tally with
    deviceTypeSummaryCounts := tally.deviceTypeSummaryCounts.set typeName { counts with total := counts.total + 1 }
    expectedDeviceTypes := insert typeName tally.expectedDeviceTypes
    actualDeviceTypes := insert actualName tally.actualDeviceTypes
    confusionMatrixCounts := tally.confusionMatrixCounts.bump typeName actualName }

/-- The type was the expected one. -/
def recordCorrect (tally : Tally) (typeName : Str) : Tally :=
  let counts := countsOf tally.deviceTypeSummaryCounts typeName
  { tally with
    correctClassifications := tally.correctClassifications + 1
    deviceTypeSummaryCounts :=
      tally.deviceTypeSummaryCounts.set typeName { counts with correct := counts.correct + 1 } }

/-- Another type was expected. -/
def recordIncorrect (tally : Tally) (typeName : Str) : Tally :=
  let counts := countsOf tally.deviceTypeSummaryCounts typeName
  { tally with
    deviceTypeSummaryCounts :=
      tally.deviceTypeSummaryCounts.set typeName { counts with incorrect := counts.incorrect + 1 } }

/-- The end of the loop body. -/
def recordMismatch (tally : Tally) (device : Device) (expectedName actualName : Str) : Tally :=
  { tally with
    misclassificationSummary := tally.misclassificationSummary.bump expectedName actualName
    mismatches := tally.mismatches ++ [⟨device.ipAddress, device.hostname, expectedName, actualName⟩] }

/-- One device. A device type is never falsy, so only a device without one is `MISSING`. -/
def step (u : Unicode) (expectedByIp : Dict Str DeviceType) (tally : Tally) (device : Device) : Tally :=
  let (classifier, classified) := tally.classifier.classify u device
  let tally := { tally with classifier := classifier }
  let predictedType := classified.deviceType
  match expectedByIp.get? device.ipAddress with
  | none => tally.recordMismatch device missing predictedType.name
  | some expectedType =>
    let tally := tally.recordExpected expectedType.name predictedType.name
    if predictedType = expectedType then tally.recordCorrect expectedType.name
    else (tally.recordIncorrect expectedType.name).recordMismatch device expectedType.name predictedType.name

end Tally

/-- The loop over the inventory. -/
def tally (u : Unicode) (expectedByIp : Dict Str DeviceType) (classifier : DeviceClassifier) (devices : List Device) :
    Tally :=
  devices.foldl (Tally.step u expectedByIp) { classifier := classifier }

/-! ## The report -/

/-- `(correct / total) * 100 if total else 0.0` -/
def accuracy (fl : Floats) (correct total : Nat) : Str :=
  if total = 0 then zeroFloat else fl.mul (fl.div correct total) 100

def typeSummary (fl : Floats) (counts : TypeCounts) : TypeSummary :=
  ⟨counts.total, counts.correct, counts.incorrect, accuracy fl counts.correct counts.total⟩

/-- The matrix has a row for each expected type, and a column for each type at all. -/
def report (u : Unicode) (fl : Floats) (classifier : DeviceClassifier) (devices : List Device)
    (expectedByIp : Dict Str DeviceType) (datasetName : Str) : BenchmarkReport :=
  let tally := tally u expectedByIp classifier devices
  let totalDevices := devices.length
  let correct := tally.correctClassifications
  let matrixColumns := sortedSet (tally.expectedDeviceTypes ∪ tally.actualDeviceTypes)
  { datasetName := datasetName
    totalDevices := totalDevices
    correctClassifications := correct
    incorrectClassifications := totalDevices - correct
    accuracyPercentage := accuracy fl correct totalDevices
    deviceTypeSummary := mapSorted (typeSummary fl) tally.deviceTypeSummaryCounts
    confusionMatrix := tally.confusionMatrixCounts.layout (sortedSet tally.expectedDeviceTypes) matrixColumns
    misclassificationSummary := mapSorted (mapSorted id) tally.misclassificationSummary
    mismatches := tally.mismatches }

/-- `run_benchmark` from the decoded documents on. -/
def runBenchmark (py : Interpreter) (u : Unicode) (fl : Floats) (classifier : DeviceClassifier)
    (inventory expectedResults : Json) (datasetName : Str) : Except Error BenchmarkReport := do
  let devices ← accessed (loadInventory inventory)
  let expectedByIp ← loadExpectedResults py u expectedResults
  return report u fl classifier devices expectedByIp datasetName

theorem runBenchmark_eq_ok (py : Interpreter) (u : Unicode) (fl : Floats) (classifier : DeviceClassifier)
    (inventory expectedResults : Json) (datasetName : Str) (r : BenchmarkReport) :
    runBenchmark py u fl classifier inventory expectedResults datasetName = .ok r ↔
      ∃ devices, loadInventory inventory = .ok devices ∧
        ∃ expectedByIp, loadExpectedResults py u expectedResults = .ok expectedByIp ∧
          report u fl classifier devices expectedByIp datasetName = r := by
  unfold runBenchmark
  simp only [bind_eq_ok, accessed, mapError_eq_ok, pure_ok, Except.ok.injEq]

/-! ## As JSON -/

/-- A table of counts as nested objects. -/
def tableDict (table : CountTable Str Str) : Json :=
  .obj (table.entries.map fun e => (e.1, .obj (e.2.entries.map fun cell => (cell.1, .int cell.2))))

def typeSummaryDict (summary : TypeSummary) : Json :=
  .obj [(str "total", .int summary.total), (str "correct", .int summary.correct),
    (str "incorrect", .int summary.incorrect), (str "accuracy", .float summary.accuracy)]

def mismatchDict (mismatch : BenchmarkMismatch) : Json :=
  .obj [(str "ip_address", .str mismatch.ipAddress), (str "hostname", .ofOption mismatch.hostname),
    (str "expected_device_type", .str mismatch.expectedDeviceType),
    (str "actual_device_type", .str mismatch.actualDeviceType)]

/-- The document that `compare` reads again. -/
def benchmarkReportToDict (report : BenchmarkReport) (generatedAt : Str) : Json :=
  .obj [(str "dataset_name", .str report.datasetName), (str "generated_at", .str generatedAt),
    (str "total_devices", .int report.totalDevices),
    (str "correct_classifications", .int report.correctClassifications),
    (str "incorrect_classifications", .int report.incorrectClassifications),
    (str "accuracy_percentage", .float report.accuracyPercentage),
    (str "device_type_summary", .obj (report.deviceTypeSummary.entries.map fun e => (e.1, typeSummaryDict e.2))),
    (str "confusion_matrix", tableDict report.confusionMatrix),
    (str "misclassification_summary", tableDict report.misclassificationSummary),
    (str "mismatch_summary", .obj [(str "total_mismatches", .int report.mismatches.length)]),
    (str "mismatches", .arr (report.mismatches.map mismatchDict))]

end BenchmarkRunner

end NetworkMapper
