import NetworkMapper.Classification.EvidenceHelpers
import NetworkMapper.Discovery.NmapProvider

/-! # What a scan did and did not find -/

open Python

namespace NetworkMapper

/-- One call of nmap, and the time it took. -/
structure ScanPhase where
  name : Str
  arguments : Str
  /-- The `repr` of the `float`. -/
  elapsedSeconds : Option Str

/-- What the enrichment of one host did and did not find. -/
structure HostDiagnostics where
  enriched : Bool
  hasServiceEvidence : Bool
  hasSmbIdentity : Bool
  hasRdpIdentity : Bool
  hasHttpTitle : Bool
  hasTlsCertificate : Bool
  hasHttpAuthRealm : Bool
  missingEvidenceReasons : List Str

/-- The diagnostics of one scan. -/
structure RunDiagnostics where
  scanProfile : ScanProfile
  hostsDiscovered : Nat
  enrichmentEnabled : Bool
  enrichmentArguments : Option Str := none
  phases : List ScanPhase := []
  hostDiagnostics : Dict Str HostDiagnostics := .empty
  expandedCapabilities : List Str := []

/-- `bool(value)` -/
def isTruthy (value : Option Str) : Bool := (truthy value).isSome

/-- `any(identity.values())` -/
def NmapProvider.HostIdentity.reported (identity : NmapProvider.HostIdentity) : Bool :=
  [identity.operatingSystem, identity.computerName, identity.domain, identity.smbSigning].any isTruthy

namespace RunDiagnostics

variable (u : Unicode)

/-- A service that has a name with one of the needles in it. -/
def nameContains (needles : List Str) (entry : ServiceEvidence) : Bool :=
  (truthy entry.service).any fun service => containsAny needles (u.lower service)

/-- The reason about the open ports: there are none, or none is named. -/
def portReasons (services : List ServiceEvidence) : List Str :=
  if servicePorts services = [] then [str "No curated ports open."]
  else if services.any fun entry => isTruthy entry.service then []
  else [str "Open ports detected, but no supported services identified."]

/-- A reason, where a port is not open. -/
def unreachable (services : List ServiceEvidence) (port : Int) (reason : Str) : List Str :=
  if port ∈ servicePorts services then [] else [reason]

/-- The reasons about HTTP and TLS. -/
def webReasons (services : List ServiceEvidence) : List Str :=
  let httpLikeServices := services.filter (nameContains u [str "http"])
  let tlsLikeServices := services.filter (nameContains u [str "https", str "ssl"])
  if httpLikeServices = [] then [str "HTTP service not present."]
  else if tlsLikeServices.any fun entry => isTruthy entry.tlsSubject then []
  else if tlsLikeServices = [] then []
  else [str "TLS certificate not presented."]

/-- The reasons of `diagnose_host`, in its order. -/
def missingEvidenceReasons (services : List ServiceEvidence) : List Str :=
  portReasons services ++ unreachable services 445 (str "SMB unreachable (port 445 not open).") ++
    unreachable services 3389 (str "RDP unreachable (port 3389 not open).") ++ webReasons u services

/-- `diagnose_host` -/
def diagnoseHost (services : List ServiceEvidence) (smbIdentity rdpIdentity : NmapProvider.HostIdentity) :
    HostDiagnostics where
  enriched := services ≠ [] || smbIdentity.reported || rdpIdentity.reported
  hasServiceEvidence := services ≠ []
  hasSmbIdentity := smbIdentity.reported
  hasRdpIdentity := rdpIdentity.reported
  hasHttpTitle := services.any fun entry => isTruthy entry.httpTitle
  hasTlsCertificate := services.any fun entry => isTruthy entry.tlsSubject
  hasHttpAuthRealm := services.any fun entry => isTruthy entry.httpAuthRealm
  missingEvidenceReasons := missingEvidenceReasons u services

end RunDiagnostics

end NetworkMapper
