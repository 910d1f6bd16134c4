import NetworkMapper.Discovery.DiscoveryEngine
import NetworkMapper.Python.Sorted
import NetworkMapper.Python.StrMethods
import Mathlib.Data.Prod.Lex

/-!
# The Nmap provider

A scan is what `python-nmap` parsed. A `FAST` run has one scan, and the other
profiles have a second one of the hosts that the first one found.
-/

open Python

namespace NetworkMapper

/-- What nmap says of one port. -/
structure PortData where
  state : Option Str := none
  name : Option Str := none
  product : Option Str := none
  version : Option Str := none
  script : Dict Str Str := .empty

/-- What nmap says of one host. -/
structure HostData where
  /-- The `name` of each entry. -/
  hostnames : List (Option Str) := []
  addresses : Dict Str Str := .empty
  vendor : Dict Str Str := .empty
  tcp : Dict Int PortData := .empty
  udp : Dict Int PortData := .empty
  /-- The `id` and the `output` of each entry. -/
  hostscript : List (Option Str × Option Str) := []

/-- A provider in one run: its profile, the run id and the clock, and what its scans give. -/
structure NmapProvider where
  scanProfile : ScanProfile
  currentRunId : Str
  currentObservedAt : DateTime
  discoveryScan : Dict Str HostData
  enrichmentScan : Dict Str HostData := .empty

namespace NmapProvider

/-! ## Extraction -/

section Extraction

variable (u : Unicode)

/-- `_extract_hostname`: the first entry with a name. -/
def extractHostname (hostData : HostData) : Option Str := hostData.hostnames.findSome? truthy

/-- `_extract_mac_address` -/
def extractMacAddress (hostData : HostData) : Option Str := hostData.addresses.get? (str "mac")

/-- `_extract_vendor`: the first value of the mapping. -/
def extractVendor (hostData : HostData) : Option Str := hostData.vendor.values.head?

/-- `value or None` -/
def orNone (value : Str) : Option Str := truthy (some value)

/-- `_extract_http_auth_realm`: what follows `realm=` in the first line that has it, without its quotes. -/
def extractHttpAuthRealm (httpAuthOutput : Option Str) : Option Str :=
  (truthy httpAuthOutput).bind fun output =>
    (splitlines output).findSome? (fun line =>
      (find (str "realm=") (u.lower (strip line))).map fun realmIndex => ((strip line).drop (realmIndex + 6))) |>.bind
    fun value => orNone (((strip value).dropWhile (· = ch '"')).rdropWhile (· = ch '"'))

/-- `_clean_script_output`: the lines joined by blanks. -/
def cleanScriptOutput (rawOutput : Option Str) : Option Str :=
  (truthy rawOutput).bind fun output => orNone (strip ([ch ' '].intercalate (splitlines (strip output))))

/-- The value of the first line with the label. -/
def extractLabeledField (scriptOutput : Option Str) (fieldLabel : Str) : Option Str :=
  (truthy scriptOutput).bind fun output =>
    (((splitlines output).map strip).find? fun line => (fieldLabel ++ str ":").isPrefixOf line).bind fun line =>
      orNone (strip (line.drop (fieldLabel ++ str ":").length))

/-- `_extract_version`: the output of the script first, and the version nmap detected otherwise. -/
def extractVersion (serviceData : PortData) : Option Str :=
  match cleanScriptOutput (serviceData.script.get? (str "vmware-version")) with
  | some version => some version
  | none => orNone (strip (serviceData.version.getD []))

/-- The `ServiceEvidence` of one port. -/
def serviceEvidence (protocol : Str) (port : Int) (serviceData : PortData) : ServiceEvidence where
  port := port
  protocol := protocol
  service := orNone (strip (serviceData.name.getD []))
  product := orNone (strip (serviceData.product.getD []))
  version := extractVersion serviceData
  httpTitle := cleanScriptOutput (serviceData.script.get? (str "http-title"))
  tlsSubject := extractLabeledField (serviceData.script.get? (str "ssl-cert")) (str "Subject")
  tlsIssuer := extractLabeledField (serviceData.script.get? (str "ssl-cert")) (str "Issuer")
  httpAuthRealm := extractHttpAuthRealm u (serviceData.script.get? (str "http-auth"))

/-- The open ports, by number and protocol. -/
def extractServices (hostData : HostData) : List ServiceEvidence :=
  let services := [(str "tcp", hostData.tcp), (str "udp", hostData.udp)].flatMap fun (protocol, ports) =>
    (ports.entries.filter fun e => e.2.state = some (str "open")).map fun e => serviceEvidence u protocol e.1 e.2
  sortedBy (fun entry => toLex (entry.port, entry.protocol)) services

/-- The output of the first entry with the id. -/
def hostScriptOutput (hostData : HostData) (scriptId : Str) : Option Str :=
  (hostData.hostscript.find? fun entry => entry.1 = some scriptId).bind Prod.snd

/-- What a host says of itself over SMB or over RDP. -/
structure HostIdentity where
  operatingSystem : Option Str
  computerName : Option Str
  domain : Option Str
  smbSigning : Option Str := none

/-- `_extract_smb_identity` -/
def extractSmbIdentity (hostData : HostData) : HostIdentity :=
  let osDiscoveryOutput := hostScriptOutput hostData (str "smb-os-discovery")
  let securityModeOutput := hostScriptOutput hostData (str "smb-security-mode")
  { operatingSystem := extractLabeledField osDiscoveryOutput (str "OS")
    computerName := extractLabeledField osDiscoveryOutput (str "Computer name")
    domain := orElse (extractLabeledField osDiscoveryOutput (str "Domain name"))
      (extractLabeledField osDiscoveryOutput (str "Workgroup"))
    smbSigning := extractLabeledField securityModeOutput (str "message_signing") }

/-- `_extract_rdp_identity` -/
def extractRdpIdentity (hostData : HostData) : HostIdentity :=
  let rdpOutput := (hostData.tcp.get? 3389).bind fun port => port.script.get? (str "rdp-ntlm-info")
  { operatingSystem := extractLabeledField rdpOutput (str "Product_Version")
    computerName := extractLabeledField rdpOutput (str "NetBIOS_Computer_Name")
    domain := extractLabeledField rdpOutput (str "NetBIOS_Domain_Name") }

end Extraction

/-! ## Discovery -/

variable (u : Unicode) (provider : NmapProvider)

/-- `_emit_identity_observation`: what it appends. -/
def emitIdentityObservation (subject propertyName : Str) (value : Option Str) (collectionMethod : Str) :
    List Observation :=
  match truthy value with
  | none => []
  | some value => [.identity ⟨subject, propertyName, value,
      ⟨str "nmap", collectionMethod, provider.currentObservedAt, provider.currentRunId⟩⟩]

/-- `_build_device` -/
def buildDevice (ipAddress : Str) (hostData : HostData) : Device :=
  { ipAddress := ipAddress
    hostname := extractHostname hostData
    macAddress := extractMacAddress hostData
    vendor := extractVendor hostData
    services := []
    discoverySources := [str "nmap"] }

/-- The observations of `_build_device`. -/
def buildObservations (ipAddress : Str) (hostData : HostData) : List Observation :=
  provider.emitIdentityObservation ipAddress (str "hostname") (extractHostname hostData) (str "host-discovery") ++
  provider.emitIdentityObservation ipAddress (str "mac_address") (extractMacAddress hostData) (str "host-discovery")

/-- One host of the second scan. What SMB reports wins, field by field. -/
def enrichDevice (device : Device) (hostData : HostData) : Device :=
  let smbIdentity := extractSmbIdentity hostData
  let rdpIdentity := extractRdpIdentity hostData
  { device with
    services := extractServices u hostData
    operatingSystem := orElse smbIdentity.operatingSystem rdpIdentity.operatingSystem
    computerName := orElse smbIdentity.computerName rdpIdentity.computerName
    domain := orElse smbIdentity.domain rdpIdentity.domain
    smbSigning := smbIdentity.smbSigning }

/-- The identity observations of the enrichment of one host. -/
def enrichObservations (ipAddress : Str) (hostData : HostData) : List Observation :=
  let smbIdentity := extractSmbIdentity hostData
  let rdpIdentity := extractRdpIdentity hostData
  provider.emitIdentityObservation ipAddress (str "computer_name") smbIdentity.computerName (str "smb-os-discovery") ++
  provider.emitIdentityObservation ipAddress (str "computer_name") rdpIdentity.computerName (str "rdp-ntlm-info") ++
  provider.emitIdentityObservation ipAddress (str "domain") smbIdentity.domain (str "smb-os-discovery") ++
  provider.emitIdentityObservation ipAddress (str "domain") rdpIdentity.domain (str "rdp-ntlm-info")

/-- `enriched_hosts.get(ip_address, {})` -/
def enrichmentData (ipAddress : Str) : HostData := (provider.enrichmentScan.get? ipAddress).getD {}

/-- What `_discover_single_pass` comes to. -/
def discoverSinglePass : DiscoveryProvider where
  devices := provider.discoveryScan.entries.map fun (ip, hostData) => buildDevice ip hostData
  observations := provider.discoveryScan.entries.flatMap fun (ip, hostData) => provider.buildObservations ip hostData

/-- What `_discover_with_enrichment` comes to: the observations of the first scan stand before all others. -/
def discoverWithEnrichment : DiscoveryProvider where
  devices := provider.discoveryScan.entries.map fun (ip, hostData) =>
    enrichDevice u (buildDevice ip hostData) (provider.enrichmentData ip)
  observations :=
    provider.discoveryScan.entries.flatMap (fun (ip, hostData) => provider.buildObservations ip hostData) ++
    provider.discoveryScan.entries.flatMap fun (ip, _) => provider.enrichObservations ip (provider.enrichmentData ip)

/-- `discover`, and `collect_observations` after it. -/
def discover : DiscoveryProvider :=
  match provider.scanProfile with
  | .fast => provider.discoverSinglePass
  | .standard | .deep => provider.discoverWithEnrichment u

end NmapProvider

end NetworkMapper
