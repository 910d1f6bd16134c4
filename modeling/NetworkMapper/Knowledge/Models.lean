import NetworkMapper.Python.Text
import Mathlib.Data.List.ReduceOption

/-! # Field observations -/

open Python

namespace NetworkMapper.Knowledge

inductive ObservationStatus where
  | new
  | underReview
  | validated
  | implemented
  | archived
  deriving DecidableEq

def ObservationStatus.value : ObservationStatus → Str
  | .new => str "NEW"
  | .underReview => str "UNDER_REVIEW"
  | .validated => str "VALIDATED"
  | .implemented => str "IMPLEMENTED"
  | .archived => str "ARCHIVED"

def ObservationStatus.all : List ObservationStatus := [.new, .underReview, .validated, .implemented, .archived]

/-- `ObservationStatus(value)` -/
def ObservationStatus.ofValue (value : Str) : Option ObservationStatus :=
  ObservationStatus.all.find? fun status => status.value = value

theorem ObservationStatus.ofValue_value (status : ObservationStatus) : ofValue status.value = some status := by
  cases status <;> decide

structure ObservationNetwork where
  name : Str
  deriving DecidableEq

structure ObservationScan where
  profile : Str
  networkmapperVersion : Option Str := none
  deriving DecidableEq

structure ObservationDevice where
  ip : Option Str := none
  hostname : Option Str := none
  vendor : Option Str := none
  macAddress : Option Str := none
  deriving DecidableEq

structure ObservationServiceEvidence where
  port : Int
  protocol : Str
  service : Option Str := none
  product : Option Str := none
  version : Option Str := none
  httpTitle : Option Str := none
  tlsSubject : Option Str := none
  tlsIssuer : Option Str := none
  httpAuthRealm : Option Str := none
  deriving DecidableEq

structure ObservationEvidence where
  operatingSystem : Option Str := none
  computerName : Option Str := none
  domain : Option Str := none
  smbSigning : Option Str := none
  discoverySources : List Str := []
  services : List ObservationServiceEvidence := []
  deriving DecidableEq

structure ObservationClassification where
  type : Str
  reason : Str
  matchedRule : Option Str := none
  deriving DecidableEq

structure ObservationReviewEntry where
  reviewedAt : Str
  action : ObservationStatus
  notes : Str := []
  reference : Option Str := none
  deriving DecidableEq

structure Observation where
  observationId : Int
  capturedAt : Str
  network : ObservationNetwork
  scan : ObservationScan
  device : ObservationDevice
  evidence : ObservationEvidence
  classification : ObservationClassification
  status : ObservationStatus := .new
  schemaVersion : Int := 1
  technicianNotes : Str := []
  reviewHistory : List ObservationReviewEntry := []
  deriving DecidableEq

/-! ## Texts -/

def ObservationServiceEvidence.texts (e : ObservationServiceEvidence) : List Str :=
  e.protocol :: [e.service, e.product, e.version, e.httpTitle, e.tlsSubject, e.tlsIssuer, e.httpAuthRealm].reduceOption

def ObservationEvidence.texts (e : ObservationEvidence) : List Str :=
  [e.operatingSystem, e.computerName, e.domain, e.smbSigning].reduceOption ++ e.discoverySources ++
    e.services.flatMap ObservationServiceEvidence.texts

def ObservationReviewEntry.texts (e : ObservationReviewEntry) : List Str :=
  e.reviewedAt :: e.notes :: e.reference.toList

/-- Every text field. -/
def Observation.texts (o : Observation) : List Str :=
  [o.capturedAt, o.network.name, o.scan.profile, o.classification.type, o.classification.reason,
    o.technicianNotes] ++
  [o.scan.networkmapperVersion, o.device.ip, o.device.hostname, o.device.vendor, o.device.macAddress,
    o.classification.matchedRule].reduceOption ++
  o.evidence.texts ++ o.reviewHistory.flatMap ObservationReviewEntry.texts

end NetworkMapper.Knowledge
