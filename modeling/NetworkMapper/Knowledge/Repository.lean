import NetworkMapper.Knowledge.Serializer
import NetworkMapper.Classification.Explanation
import NetworkMapper.Python.DateTime

/-!
# The repository of field observations

One JSON file for each observation, in one directory. A capture gives the
observation the next id.
-/

open Python

namespace NetworkMapper.Knowledge

/-- What the files of a directory hold, by name. -/
abbrev Directory := Dict Str Bytes

namespace ObservationRepository

/-- `f"{n:0{width}d}"`. A sign counts, and a number that is too long is not cut. -/
def padded (width : Nat) (n : Int) : Str :=
  let sign := if n < 0 then [ch '-'] else []
  let digits := natRepr n.natAbs
  sign ++ List.replicate (width - sign.length - digits.length) (ch '0') ++ digits

/-- The name in `path_for`. -/
def fileName (observationId : Int) : Str := str "observation-" ++ padded 6 observationId ++ str ".json"

/-- `_FILENAME_PATTERN.match(name)`, and the number of its group. The pattern's `\d` takes every decimal digit, and
here it takes the ASCII digits: `path_for` writes no others. -/
def matchFileName (name : Str) : Option Int :=
  let rest := name.drop 12
  let digits := rest.take 6
  if name.take 12 = str "observation-" ∧ digits.length = 6 ∧ digits.all isDigit ∧
      (rest.drop 6 = str ".json" ∨ rest.drop 6 = str ".json\n") then
    some (digitsValue digits)
  else none

/-- `_existing_ids`, of the names that `iterdir` gives in some order. -/
def existingIds (listing : List Str) : List Int := listing.filterMap matchFileName

/-- `max(ids, default=0)` -/
def maximum : List Int → Int
  | [] => 0
  | id :: ids => ids.foldl max id

def nextObservationId (listing : List Str) : Int := maximum (existingIds listing) + 1

def listObservationIds (listing : List Str) : List Int := sortedBy id (existingIds listing)

/-- `save`. `none` when the observation cannot be written. -/
def save (py : Interpreter) (directory : Directory) (observation : Observation) : Option Directory := do
  let text ← ObservationSerializer.toJson py observation
  let data ← (encodeUtf8 text).toOption
  return directory.set (fileName observation.observationId) data

inductive LoadFailure where
  | notFound (observationId : Int)
  | unicode
  | fromJson (e : ObservationSerializer.FromJsonError)

def load (py : Interpreter) (directory : Directory) (observationId : Int) : Except LoadFailure Observation :=
  match directory.get? (fileName observationId) with
  | none => .error (.notFound observationId)
  | some data =>
    match decodeUtf8 data with
    | .error _ => .error .unicode
    | .ok text => (ObservationSerializer.fromJson py text).mapError .fromJson

end ObservationRepository

/-! ## Capture -/

structure RunMetadata where
  scanProfile : ScanProfile
  customerName : Str
  version : Option Str

open NetworkMapper.Capture (evaluateClassification)

def shouldCapture (device : Device) : Bool := device.deviceType = .unknown

def serviceEvidence (entry : ServiceEvidence) : ObservationServiceEvidence :=
  ⟨entry.port, entry.protocol, entry.service, entry.product, entry.version, entry.httpTitle, entry.tlsSubject,
    entry.tlsIssuer, entry.httpAuthRealm⟩

def buildObservation (u : Unicode) (device : Device) (observationId : Int) (runMetadata : RunMetadata)
    (capturedAt : DateTime) : Observation :=
  let (classificationType, reason, matchedRule) := evaluateClassification u device
  { observationId := observationId
    capturedAt := capturedAt.isoformat
    network := ⟨runMetadata.customerName⟩
    scan := ⟨runMetadata.scanProfile.value, runMetadata.version⟩
    device := ⟨some device.ipAddress, device.hostname, device.vendor, device.macAddress⟩
    evidence := ⟨device.operatingSystem, device.computerName, device.domain, device.smbSigning,
      device.discoverySources, device.services.map serviceEvidence⟩
    classification := ⟨classificationType, reason, matchedRule⟩ }

/-- `capture_unresolved_device`. `none` when nothing is written: the device is resolved, or `save` raises. -/
def captureUnresolvedDevice (py : Interpreter) (u : Unicode) (directory : Directory) (listing : List Str)
    (device : Device) (runMetadata : RunMetadata) (now : DateTime) : Option (Observation × Directory) :=
  if shouldCapture device then do
    let observation := buildObservation u device (ObservationRepository.nextObservationId listing) runMetadata now
    let directory ← ObservationRepository.save py directory observation
    return (observation, directory)
  else none

end NetworkMapper.Knowledge
