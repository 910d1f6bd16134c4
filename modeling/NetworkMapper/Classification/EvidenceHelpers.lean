import NetworkMapper.Core.Models
import NetworkMapper.Python.Json.Value
import NetworkMapper.Python.StrMethods

/-! # The evidence that classification rules look at -/

open Python

namespace NetworkMapper

/-- What a rule says of a device. -/
structure RuleResult where
  matched : Bool
  confidenceContribution : Int
  reason : Str
  suggestedDeviceType : Option DeviceType
  deriving DecidableEq

namespace RuleResult

/-- A match. No rule contributes to a confidence. -/
def hit (reason : Str) (deviceType : DeviceType) : RuleResult := ⟨true, 0, reason, some deviceType⟩

/-- No match, with the reason why. -/
def miss (reason : Str) : RuleResult := ⟨false, 0, reason, none⟩

/-- A result matches exactly when it suggests a type, and that type is not `UNKNOWN`. -/
def Decided (r : RuleResult) : Prop :=
  match r.suggestedDeviceType with
  | some deviceType => r.matched = true ∧ deviceType ≠ .unknown
  | none => r.matched = false

/-- A result suggests this type where it matches. -/
def Suggests (deviceType : DeviceType) (r : RuleResult) : Prop :=
  r.suggestedDeviceType = if r.matched then some deviceType else none

theorem hit_suggests (reason : Str) (deviceType : DeviceType) : (hit reason deviceType).Suggests deviceType := rfl

theorem miss_suggests (reason : Str) (deviceType : DeviceType) : (miss reason).Suggests deviceType := rfl

theorem Suggests.decided {r : RuleResult} {deviceType : DeviceType} (h : r.Suggests deviceType)
    (hne : deviceType ≠ .unknown) : r.Decided := by
  unfold Suggests at h
  unfold Decided
  rw [h]
  cases hmatched : r.matched with
  | true => exact ⟨rfl, hne⟩
  | false => rfl

end RuleResult

section Helpers

variable (u : Unicode)

def servicePorts (services : List ServiceEvidence) : List Int := services.map (·.port)

/-- The empty text counts as no name, here and in the lists below. -/
def serviceNames (services : List ServiceEvidence) : List Str := services.filterMap fun e => truthy e.service

def serviceHttpTitles (services : List ServiceEvidence) : List Str := services.filterMap fun e => truthy e.httpTitle

def serviceTlsSubjects (services : List ServiceEvidence) : List Str := services.filterMap fun e => truthy e.tlsSubject

def serviceTlsIssuers (services : List ServiceEvidence) : List Str := services.filterMap fun e => truthy e.tlsIssuer

def serviceHttpAuthRealms (services : List ServiceEvidence) : List Str :=
  services.filterMap fun e => truthy e.httpAuthRealm

/-- The first value that has one of the keywords in it, in any case of its letters. -/
def firstContaining (values : List (Option Str)) (candidateKeywords : List Str) : Option Str :=
  (values.filterMap truthy).find? fun value => containsAny candidateKeywords (u.lower value)

def firstMatchingProduct (services : List ServiceEvidence) (candidateKeywords : List Str) : Option Str :=
  firstContaining u (services.map (·.product)) candidateKeywords

/-- Each kind of evidence under its label, in the order of the search. -/
def identifierChecks (services : List ServiceEvidence) (snmpSysDescr : Option Str) : List (Str × List (Option Str)) :=
  [(str "service product", services.map (·.product)),
    (str "HTTP title", (serviceHttpTitles services).map some),
    (str "TLS certificate subject", (serviceTlsSubjects services).map some),
    (str "TLS certificate issuer", (serviceTlsIssuers services).map some),
    (str "HTTP authentication realm", (serviceHttpAuthRealms services).map some),
    (str "SNMP sysDescr", [snmpSysDescr])]

/-- The label and the value of the first check that finds something. -/
def firstMatchingIdentifier (services : List ServiceEvidence) (candidateKeywords : List Str)
    (snmpSysDescr : Option Str) : Option (Str × Str) :=
  (identifierChecks services snmpSysDescr).findSome? fun (label, values) =>
    (firstContaining u values candidateKeywords).map fun value => (label, value)

/-- What the three `normalize` functions do alike. `None` is the empty text. -/
def normalizeText (stripped : Bool) (text : Option Str) : Str :=
  u.lower (if stripped then strip (text.getD []) else text.getD [])

def normalizeVendor (vendor : Option Str) (stripped : Bool) : Str := normalizeText u stripped vendor

def normalizeHostname (hostname : Option Str) (stripped : Bool) : Str := normalizeText u stripped hostname

def normalizeOperatingSystem (operatingSystem : Option Str) : Str := normalizeText u true operatingSystem

/-- The first open port, not the first candidate. -/
def firstMatchingPort (openPorts candidatePorts : List Int) : Option Int :=
  openPorts.find? fun port => port ∈ candidatePorts

/-- Every caller strips. -/
def firstMatchingService (detectedServices candidateServices : List Str) (returnLower : Bool) : Option Str :=
  detectedServices.findSome? fun service =>
    let value := strip service
    let lowered := u.lower value
    if lowered ∈ candidateServices then some (if returnLower then lowered else value) else none

/-- A caller has a port or a service, so the last branch is for a service alone. -/
def formatHostnameEvidenceReason (rawHostname : Option Str) (matchedPort : Option Int) (matchedService : Option Str)
    (evidenceLabel : Str) : Str :=
  match matchedPort, matchedService with
  | some port, some service =>
    str "Hostname " ++ reprOptional u rawHostname ++ str " with open port " ++ intRepr port ++ str " and service " ++
      u.repr service ++ str " matched known " ++ evidenceLabel ++ str " evidence."
  | some port, none =>
    str "Hostname " ++ reprOptional u rawHostname ++ str " with open port " ++ intRepr port ++
      str " matched known " ++ evidenceLabel ++ str " evidence."
  | none, matchedService =>
    str "Hostname " ++ reprOptional u rawHostname ++ str " with service " ++ reprOptional u matchedService ++
      str " matched known " ++ evidenceLabel ++ str " evidence."

end Helpers

end NetworkMapper
