import NetworkMapper.Classification.EvidenceHelpers

/-! # The fourteen classification rules -/

open Python

namespace NetworkMapper

open RuleResult (hit miss)

/-- A rule under its class name. -/
structure ClassificationRule where
  name : Str
  classify : Unicode → Device → RuleResult

section Rules

variable (u : Unicode) (device : Device)

/-! ## Servers and hypervisors -/

namespace ServerHostnameRule

def serverHostnameKeywords : List Str := [str "srv", str "server"]

def serverOperatingSystemKeywords : List Str := [str "server"]

/-- The operating system, where it corroborates a server. -/
def matchedOperatingSystem : Option Str :=
  let operatingSystem := normalizeOperatingSystem u device.operatingSystem
  if operatingSystem ≠ [] ∧ containsAny serverOperatingSystemKeywords operatingSystem then device.operatingSystem
  else none

/-- The operating system only adds a sentence to the reason. -/
def corroborated (reason : Str) : Str :=
  match matchedOperatingSystem u device with
  | some operatingSystem => reason ++ str " Detected operating system " ++ u.repr operatingSystem ++
      str " corroborates known server evidence."
  | none => reason

/-- The short names `dc` and `cam` are looked for first, anywhere in the hostname. -/
def classify : RuleResult :=
  let hostname := normalizeHostname u device.hostname false
  let rawHostname := reprOptional u device.hostname
  if contains (str "dc") hostname ∨ contains (str "cam") hostname then
    hit (corroborated u device
      (str "Hostname " ++ rawHostname ++ str " matched known server naming convention.")) .server
  else if containsAny serverHostnameKeywords hostname then
    hit (corroborated u device
      (str "Hostname " ++ rawHostname ++ str " matched known server naming pattern.")) .server
  else miss (str "Hostname " ++ rawHostname ++ str " did not match known server naming patterns.")

end ServerHostnameRule

namespace NetworkApplianceRule

def networkApplianceIdentifierKeywords : List Str := [str "readynas"]

def networkApplianceVendorKeywords : List Str := [str "netgear"]

def networkApplianceHostnameHints : List Str := [str "nas"]

/-- The identifier decides. Vendor and hostname only add to the reason. -/
def classify : RuleResult :=
  match firstMatchingIdentifier u device.services networkApplianceIdentifierKeywords device.snmpSysDescr with
  | none => miss (str "No known NAS/network appliance identifier evidence was detected.")
  | some (label, value) =>
    let vendor := normalizeVendor u device.vendor true
    let hostname := normalizeHostname u device.hostname true
    hit (str "Detected " ++ label ++ str " " ++ u.repr value ++
      str " matched known NAS/network appliance identifier." ++
      (if vendor ≠ [] ∧ containsAny networkApplianceVendorKeywords vendor then
        str " Vendor " ++ reprOptional u device.vendor ++ str " corroborates known NAS/network appliance vendor."
      else []) ++
      (if hostname ≠ [] ∧ containsAny networkApplianceHostnameHints hostname then
        str " Hostname " ++ reprOptional u device.hostname ++ str " corroborates known NAS naming convention."
      else [])) .server

end NetworkApplianceRule

namespace HypervisorHostnameRule

def hypervisorHostnameKeywords : List Str :=
  [str "esx", str "esxi", str "hyperv", str "vcenter", str "vmhost", str "vsh"]

/-- HTTPS and Remote Desktop. -/
def hypervisorCorroboratingPorts : List Int := [443, 3389]

def hypervisorCorroboratingServices : List Str := [str "https", str "ms-wbt-server"]

def hypervisorProductKeywords : List Str := [str "vmware"]

def hypervisorOperatingSystemKeywords : List Str := [str "windows server"]

/-- The hostname decides, and everything after it only changes the reason. -/
def classify : RuleResult :=
  let rawHostname := reprOptional u device.hostname
  if !containsAny hypervisorHostnameKeywords (normalizeHostname u device.hostname false) then
    miss (str "Hostname " ++ rawHostname ++ str " did not match known hypervisor naming conventions.")
  else
    let matchedPort := firstMatchingPort (servicePorts device.services) hypervisorCorroboratingPorts
    let matchedService :=
      firstMatchingService u (serviceNames device.services) hypervisorCorroboratingServices true
    hit ((if matchedPort ≠ none ∨ matchedService ≠ none then
        formatHostnameEvidenceReason u device.hostname matchedPort matchedService (str "hypervisor")
      else str "Hostname " ++ rawHostname ++ str " matched known hypervisor naming convention.") ++
      (match firstMatchingIdentifier u device.services hypervisorProductKeywords device.snmpSysDescr with
      | some (label, value) =>
        str " Detected " ++ label ++ str " " ++ u.repr value ++ str " matched known hypervisor product identifier."
      | none => []) ++
      (if containsAny hypervisorOperatingSystemKeywords (normalizeOperatingSystem u device.operatingSystem) then
        str " Detected operating system " ++ reprOptional u device.operatingSystem ++
          str " matched known hypervisor operating system indicator."
      else [])) .hypervisor

end HypervisorHostnameRule

/-! ## Infrastructure -/

namespace UbiquitiAccessPointRule

def ubiquitiApHostnameKeywords : List Str := [str "nanohd", str "ac-pro", str "ac-lr", str "unifi-ap"]

/-- Of UniFi access points: the part before the first dash. -/
def ubiquitiApHostnamePrefixes : List Str := [str "uap", str "u6", str "u7"]

def unifiGuestPortalTitleKeywords : List Str := [str "guest/s/default"]

/-- `hostname.split("-", 1)[0]` -/
def hostnamePrefix (hostname : Str) : Str := hostname.takeWhile fun c => c ≠ ch '-'

/-- One text for a wrong vendor and for a hostname that does not fit. -/
def notMatched : RuleResult :=
  miss (str "Vendor " ++ reprOptional u device.vendor ++ str " and hostname " ++ reprOptional u device.hostname ++
    str " did not match known wireless infrastructure vendor patterns.")

/-- The title that names the guest portal of a UniFi controller. -/
def findGuestPortalIdentifier : Option Str :=
  firstContaining u ((serviceHttpTitles device.services).map some) unifiGuestPortalTitleKeywords

/-- A Ubiquiti device needs more evidence than its vendor, because Ubiquiti makes other devices too. -/
def classify : RuleResult :=
  let rawVendor := reprOptional u device.vendor
  let rawHostname := reprOptional u device.hostname
  let hostname := strip (device.hostname.getD [])
  let hostnameNormalized := normalizeHostname u device.hostname true
  if normalizeVendor u device.vendor false ≠ str "ubiquiti" then notMatched u device
  else if hostname ≠ [] ∧ hostnamePrefix hostnameNormalized ∈ ubiquitiApHostnamePrefixes then
    hit (str "Vendor " ++ rawVendor ++ str " and hostname " ++ rawHostname ++
      str " matched known wireless infrastructure vendor.") .accessPoint
  else if hostname ≠ [] ∧ containsAny ubiquitiApHostnameKeywords hostnameNormalized then
    hit (str "Vendor " ++ rawVendor ++ str " and hostname " ++ rawHostname ++
      str " matched known wireless access point naming patterns.") .accessPoint
  else
    match findGuestPortalIdentifier u device with
    | some title => hit (str "Vendor " ++ rawVendor ++ str " and HTTP title " ++ u.repr title ++
        str " matched known UniFi guest-portal captive-redirect evidence.") .accessPoint
    | none => notMatched u device

end UbiquitiAccessPointRule

/-- A product identifier alone: what `EdgeRouterRule` and `PfSenseFirewallRule` do alike. -/
def identifierRule (keywords : List Str) (identifier : Str) (deviceType : DeviceType) : RuleResult :=
  match firstMatchingIdentifier u device.services keywords device.snmpSysDescr with
  | none => miss (str "No known " ++ identifier ++ str " identifier evidence was detected.")
  | some (label, value) => hit (str "Detected " ++ label ++ str " " ++ u.repr value ++ str " matched known " ++
      identifier ++ str " identifier.") deviceType

namespace EdgeRouterRule

/-- The names of the operating system and of its web interface. -/
def edgeRouterIdentifierKeywords : List Str := [str "edgeos", str "ubiquitirouterui"]

def classify : RuleResult := identifierRule u device edgeRouterIdentifierKeywords (str "EdgeOS router") .router

end EdgeRouterRule

namespace SonicWallFirewallRule

def firewallManagementPorts : List Int := [443, 8443]

def firewallManagementServices : List Str := [str "https", str "ssl/http"]

def firewallIdentifierKeywords : List Str := [str "sonicwall"]

def firewallHostnamePrefixes : List Str := [str "tz", str "nsa", str "soho"]

/-- The product lines are only looked for at the start. -/
def hostnameLooksLikeSonicwall (hostname : Str) : Bool :=
  contains (str "sonicwall") hostname || firewallHostnamePrefixes.any fun start => start.isPrefixOf hostname

/-- A hostname is not enough without a management port or service. -/
def classify : RuleResult :=
  if normalizeVendor u device.vendor true = str "sonicwall" then
    hit (str "Vendor " ++ reprOptional u device.vendor ++ str " matched known firewall vendor.") .firewall
  else
    match firstMatchingIdentifier u device.services firewallIdentifierKeywords device.snmpSysDescr with
    | some (label, value) => hit (str "Detected " ++ label ++ str " " ++ u.repr value ++
        str " matched known firewall vendor identifier.") .firewall
    | none =>
      let matchedPort := firstMatchingPort (servicePorts device.services) firewallManagementPorts
      let matchedService := firstMatchingService u (serviceNames device.services) firewallManagementServices true
      if hostnameLooksLikeSonicwall (normalizeHostname u device.hostname true) ∧
          (matchedPort ≠ none ∨ matchedService ≠ none) then
        hit (formatHostnameEvidenceReason u device.hostname matchedPort matchedService
          (str "firewall management")) .firewall
      else miss (str "Vendor " ++ reprOptional u device.vendor ++ str " is not a known firewall vendor.")

end SonicWallFirewallRule

namespace PfSenseFirewallRule

def pfsenseIdentifierKeywords : List Str := [str "pfsense"]

def classify : RuleResult := identifierRule u device pfsenseIdentifierKeywords (str "pfSense firewall") .firewall

end PfSenseFirewallRule

namespace VoiceVendorRule

/-- Found anywhere in the vendor, one of these is enough. -/
def supportedVoiceVendorKeywords : List Str :=
  [str "yealink", str "poly", str "polycom", str "grandstream", str "mitel", str "avaya", str "cisco ip phone"]

def voiceHostnameKeywords : List Str := [str "phone", str "voip", str "handset"]

def voiceSignalPorts : List Int := [5060, 5061]

def voiceSignalServices : List Str := [str "sip", str "sips"]

/-- The way to a match without a known vendor: a hostname with a SIP port or service. -/
def matchByHostnameAndSignals (hostname : Str) : RuleResult :=
  let missed := miss (str "Vendor " ++ reprOptional u device.vendor ++ str " is not a known voice device vendor.")
  if !containsAny voiceHostnameKeywords hostname then missed
  else
    let matchedPort := firstMatchingPort (servicePorts device.services) voiceSignalPorts
    let matchedService := firstMatchingService u (serviceNames device.services) voiceSignalServices false
    if matchedPort = none ∧ matchedService = none then missed
    else hit (formatHostnameEvidenceReason u device.hostname matchedPort matchedService (str "voice device")) .phone

/-- An empty vendor and an unknown one go the same way. -/
def classify : RuleResult :=
  let vendor := normalizeVendor u device.vendor true
  let hostname := normalizeHostname u device.hostname true
  if vendor = [] then matchByHostnameAndSignals u device hostname
  else if containsAny supportedVoiceVendorKeywords vendor then
    hit (str "Vendor " ++ reprOptional u device.vendor ++ str " matched known voice device vendor.") .phone
  else matchByHostnameAndSignals u device hostname

end VoiceVendorRule

namespace SwitchVendorRule

def switchHostnameHints : List Str := [str "switch", str "sw-", str "core-sw", str "dist-sw", str "access-sw"]

def switchManagementPorts : List Int := [22, 23, 161]

def switchManagementServices : List Str := [str "ssh", str "telnet", str "snmp"]

/-- They only add to the reason. -/
def switchProductKeywords : List Str := [str "cisco"]

def switchIdentifierKeywords : List Str := [str "procurve", str "edgeswitch", str "tp-link switch"]

/-- Meraki is a brand of Cisco that makes more than switches. -/
def isSwitchVendor (vendor : Str) : Bool := contains (str "cisco") vendor && !contains (str "meraki") vendor

/-- The vendor, then an identifier, and last a hostname with a management port or service. -/
def classify : RuleResult :=
  if isSwitchVendor (normalizeVendor u device.vendor false) then
    hit (str "Vendor " ++ reprOptional u device.vendor ++ str " matched known switch vendor.") .switch
  else
    match firstMatchingIdentifier u device.services switchIdentifierKeywords device.snmpSysDescr with
    | some (label, value) => hit (str "Detected " ++ label ++ str " " ++ u.repr value ++
        str " matched known switch identifier.") .switch
    | none =>
      let matchedPort := firstMatchingPort (servicePorts device.services) switchManagementPorts
      let matchedService := firstMatchingService u (serviceNames device.services) switchManagementServices true
      if containsAny switchHostnameHints (normalizeHostname u device.hostname false) ∧
          (matchedPort ≠ none ∨ matchedService ≠ none) then
        hit (formatHostnameEvidenceReason u device.hostname matchedPort matchedService (str "switch management") ++
          (match firstMatchingProduct u device.services switchProductKeywords with
          | some product => str " Detected service product " ++ u.repr product ++
              str " matched known Cisco product identifier."
          | none => [])) .switch
      else miss (str "Vendor " ++ reprOptional u device.vendor ++ str " is not a known switch vendor.")

end SwitchVendorRule

namespace CameraVendorRule

/-- The vendor is required but not enough. -/
def supportedCameraVendorKeywords : List Str := [str "axis communications"]

def cameraProductIdentifierKeywords : List Str := [str "axis camera station"]

/-- Both are needed: the vendor and a product identifier. -/
def classify : RuleResult :=
  let vendor := normalizeVendor u device.vendor true
  if ¬ (vendor ≠ [] ∧ containsAny supportedCameraVendorKeywords vendor) then
    miss (str "Vendor " ++ reprOptional u device.vendor ++ str " is not a known camera vendor.")
  else
    match firstMatchingIdentifier u device.services cameraProductIdentifierKeywords device.snmpSysDescr with
    | none => miss (str "Vendor " ++ reprOptional u device.vendor ++
        str " matched known camera vendor, but no camera/video-specific product evidence was detected.")
    | some (label, value) => hit (str "Vendor " ++ reprOptional u device.vendor ++
        str " matched known camera vendor, and detected " ++ label ++ str " " ++ u.repr value ++
        str " matched known camera/video product evidence.") .camera

end CameraVendorRule

/-! ## Hosts and printers -/

namespace WindowsServerRule

/-- Part of a caption that `smb-os-discovery` has resolved. -/
def windowsServerCaptionKeyword : Str := str "windows server"

/-- No release of a Windows client shares this build number. -/
def windowsServer2022Build : Str := str "10.0.20348"

/-- The caption in any place, or the build number alone. -/
def classify : RuleResult :=
  let rawOperatingSystem := reprOptional u device.operatingSystem
  let operatingSystem := normalizeOperatingSystem u device.operatingSystem
  if contains windowsServerCaptionKeyword operatingSystem then
    hit (str "Operating system " ++ rawOperatingSystem ++ str " matched known Windows Server caption.") .server
  else if operatingSystem = windowsServer2022Build then
    hit (str "Operating system build " ++ rawOperatingSystem ++
      str " matched the unambiguous Windows Server 2022 build number.") .server
  else miss (str "Operating system " ++ rawOperatingSystem ++
    str " did not match known high-confidence Windows Server evidence.")

end WindowsServerRule

namespace PrinterVendorRule

def supportedPrinterVendorKeywords : List Str :=
  [str "brother", str "hp", str "hewlett-packard", str "hewlett packard", str "canon", str "ricoh",
    str "konica minolta", str "epson", str "xerox", str "lexmark", str "kyocera", str "sharp", str "toshiba",
    str "zebra", str "datamax", str "fujifilm business innovation"]

/-- LPD, IPP and JetDirect, in the order of their numbers. -/
def printerProtocolPorts : List Int := [515, 631, 9100]

def printerServiceKeywords : List Str :=
  [str "ipp", str "ipps", str "jetdirect", str "lpd", str "printer", str "raw", str "pdl-datastream"]

/-- How Nmap begins the title of a page it was sent away from. -/
def redirectNoticePrefix : Str := str "did not follow redirect"

/-- `_without_redirect_notice_titles`, for one entry. -/
def withoutRedirectNoticeTitle (entry : ServiceEvidence) : ServiceEvidence :=
  match truthy entry.httpTitle with
  | some title =>
    if redirectNoticePrefix.isPrefixOf (u.lower (strip title)) then { entry with httpTitle := none } else entry
  | none => entry

/-- Titles that are redirect notices are left out of the search. -/
def findPrinterVendorIdentifier : Option (Str × Str) :=
  firstMatchingIdentifier u (device.services.map (withoutRedirectNoticeTitle u)) supportedPrinterVendorKeywords
    device.snmpSysDescr

/-- A Windows host that runs a print spooler is no printer. -/
def isMicrosoftProduct (product : Option Str) : Bool :=
  match truthy product with
  | some product => contains (str "microsoft") (u.lower product)
  | none => false

/-- The first entry with such a port that is not of Microsoft. -/
def findPrinterPort (services : List ServiceEvidence) : Option Int :=
  services.findSome? fun entry =>
    if entry.port ∈ printerProtocolPorts ∧ !isMicrosoftProduct u entry.product then some entry.port else none

/-- The first entry with such a service that is not of Microsoft. -/
def findPrinterService (services : List ServiceEvidence) : Option Str :=
  services.findSome? fun entry =>
    (truthy entry.service).bind fun service =>
      if u.lower (strip service) ∈ printerServiceKeywords ∧ !isMicrosoftProduct u entry.product then
        some (strip service)
      else none

/-- The name of the protocol behind the number. -/
def portLabel (port : Int) : Str :=
  if port = 9100 then str " (JetDirect)" else if port = 631 then str " (IPP)" else if port = 515 then str " (LPD)"
  else []

def serviceLabel : Option Str → Str
  | none => str "Unknown"
  | some service => u.upper service

/-- One sentence for the port and one for the service. -/
def formatNetworkingReason (matchedPort : Option Int) (matchedService : Option Str) : Str :=
  let portText := fun port => str "Open TCP port " ++ intRepr port ++ portLabel port ++
    str " indicates printer networking."
  let serviceText := str "Detected " ++ serviceLabel u matchedService ++
    str " service indicates printer networking."
  match matchedPort, matchedService with
  | some port, some _ => portText port ++ str " " ++ serviceText
  | some port, none => portText port
  | none, _ => serviceText

/-- Three tiers: the vendor, an identifier, and printer networking. -/
def classify : RuleResult :=
  let vendor := normalizeVendor u device.vendor true
  if vendor ≠ [] ∧ containsAny supportedPrinterVendorKeywords vendor then
    hit (str "Vendor " ++ reprOptional u device.vendor ++ str " matched known printer vendor.") .printer
  else
    match findPrinterVendorIdentifier u device with
    | some (label, value) => hit (str "Detected " ++ label ++ str " " ++ u.repr value ++
        str " matched known printer vendor identifier.") .printer
    | none =>
      let matchedPort := findPrinterPort u device.services
      let matchedService := findPrinterService u device.services
      if matchedPort ≠ none ∨ matchedService ≠ none then
        hit (formatNetworkingReason u matchedPort matchedService) .printer
      else miss (str "Vendor " ++ reprOptional u device.vendor ++
        str " is not a known printer vendor and no printer networking protocols were detected.")

end PrinterVendorRule

namespace DellWorkstationRule

/-- Model lines of Dell computers. -/
def dellWorkstationHostnameKeywords : List Str :=
  [str "optiplex", str "latitude", str "precision", str "xps", str "vostro", str "inspiron"]

/-- The vendor or the hostname. Each is enough. -/
def classify : RuleResult :=
  let rawVendor := reprOptional u device.vendor
  let rawHostname := reprOptional u device.hostname
  if contains (str "dell") (normalizeVendor u device.vendor false) then
    hit (str "Vendor " ++ rawVendor ++ str " matched known workstation vendor.") .workstation
  else if containsAny dellWorkstationHostnameKeywords (normalizeHostname u device.hostname false) then
    hit (str "Hostname " ++ rawHostname ++ str " matched known Dell workstation naming pattern.") .workstation
  else miss (str "Vendor " ++ rawVendor ++ str " and hostname " ++ rawHostname ++
    str " did not match known workstation indicators.")

end DellWorkstationRule

namespace WindowsWorkstationRule

/-- None of them is in the name of a server edition. -/
def windowsClientEditionKeywords : List Str :=
  [str "enterprise", str "professional", str "windows 10 home", str "windows 11 home"]

/-- The operating system alone. -/
def classify : RuleResult :=
  let rawOperatingSystem := reprOptional u device.operatingSystem
  if containsAny windowsClientEditionKeywords (normalizeOperatingSystem u device.operatingSystem) then
    hit (str "Operating system " ++ rawOperatingSystem ++ str " matched known Windows client edition caption.")
      .workstation
  else miss (str "Operating system " ++ rawOperatingSystem ++
    str " did not match known Windows client edition evidence.")

end WindowsWorkstationRule

end Rules

/-- `self._rules` -/
def classificationRules : List ClassificationRule :=
  [⟨str "ServerHostnameRule", ServerHostnameRule.classify⟩,
    ⟨str "NetworkApplianceRule", NetworkApplianceRule.classify⟩,
    ⟨str "HypervisorHostnameRule", HypervisorHostnameRule.classify⟩,
    ⟨str "UbiquitiAccessPointRule", UbiquitiAccessPointRule.classify⟩,
    ⟨str "EdgeRouterRule", EdgeRouterRule.classify⟩,
    ⟨str "SonicWallFirewallRule", SonicWallFirewallRule.classify⟩,
    ⟨str "PfSenseFirewallRule", PfSenseFirewallRule.classify⟩,
    ⟨str "VoiceVendorRule", VoiceVendorRule.classify⟩,
    ⟨str "SwitchVendorRule", SwitchVendorRule.classify⟩,
    ⟨str "CameraVendorRule", CameraVendorRule.classify⟩,
    ⟨str "WindowsServerRule", WindowsServerRule.classify⟩,
    ⟨str "PrinterVendorRule", PrinterVendorRule.classify⟩,
    ⟨str "DellWorkstationRule", DellWorkstationRule.classify⟩,
    ⟨str "WindowsWorkstationRule", WindowsWorkstationRule.classify⟩]

end NetworkMapper
