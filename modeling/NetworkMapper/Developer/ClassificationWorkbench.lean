import NetworkMapper.Classification.Explanation
import NetworkMapper.Discovery.DiscoveryEngine
import NetworkMapper.Exporters.MarkdownExporter

/-!
# The classification workbench

Of a run it shows the devices that no rule matched, each with all the rules.
-/

open Python

namespace NetworkMapper

namespace ClassificationWorkbench

open MarkdownExporter (displayValue unknownDevices)

variable (u : Unicode)

def line : Str := List.replicate 50 (ch '=')

def ruleLine : Str := List.replicate 40 (ch '-')

/-- A value as `repr` shows it after its label, or nothing. -/
def quoted (label : String) (value : Option Str) : Str :=
  ((truthy value).map fun value => str label ++ u.repr value).getD []

/-- `_format_service`, of a port that `str` can show. -/
def formatService (entry : ServiceEvidence) : Str :=
  MarkdownExporter.formatServiceSummary entry ++ quoted u " | title: " entry.httpTitle ++
    quoted u " | tls subject: " entry.tlsSubject ++ quoted u " | tls issuer: " entry.tlsIssuer ++
    quoted u " | auth realm: " entry.httpAuthRealm

def displayServices (services : List ServiceEvidence) : Str :=
  if services = [] then str "Unknown" else [ch '\n'].intercalate (services.map (formatService u))

def field (label : String) (value : Str) : Str := str label ++ str ":\n" ++ value ++ str "\n\n"

/-- The section of a device, with what its rules say at the end. -/
def renderDeviceSection (device : Device) (evidence : Str) : Str :=
  line ++ str "\nUNKNOWN DEVICE\n" ++ line ++ str "\n\n" ++
    field "IP Address" (displayValue (some device.ipAddress)) ++
    field "Hostname" (displayValue device.hostname) ++
    field "Vendor" (displayValue device.vendor) ++
    field "MAC Address" (displayValue device.macAddress) ++
    field "Operating System" (displayValue device.operatingSystem) ++
    field "Computer Name" (displayValue device.computerName) ++
    field "Domain" (displayValue device.domain) ++
    field "SMB Signing" (displayValue device.smbSigning) ++
    field "Services" (displayServices u device.services) ++
    field "Current DeviceType" (displayValue (some device.deviceType.value)) ++
    field "Rule Evidence" evidence ++ line

/-- A rule with its reason, whether it matched or not. -/
def ruleSection (ruleName : Str) (result : RuleResult) : Str :=
  ruleLine ++ str "\nRule: " ++ ruleName ++ str "\nMatched: " ++ (if result.matched then str "Yes" else str "No") ++
    str "\nSuggested Type: " ++ (result.suggestedDeviceType.map (·.name)).getD (str "None") ++
    str "\nReason:\n" ++ displayValue (some result.reason)

/-- `_build_rule_evidence`. There are no more results than rules. -/
def buildRuleEvidence (device : Device) (classifier : DeviceClassifier) : Str :=
  let (ruleResults, ruleNames) := evaluateRules u device classifier
  (str "\n\n").intercalate (List.zipWith ruleSection ruleNames ruleResults)

/-- Only the devices that were left `UNKNOWN` have a section. -/
def generate (project : Project) : Str :=
  if unknownDevices project = [] then str "No UNKNOWN devices found."
  else
    (str "\n\n").intercalate
      ((unknownDevices project).map fun d => renderDeviceSection u d (buildRuleEvidence u d ⟨[]⟩))

/-! ## The devices of a run -/

/-- The type that the engine gives to a device. -/
def typeOf (device : Device) : DeviceType := (DeviceClassifier.classify u ⟨[]⟩ device).2.deviceType

end ClassificationWorkbench

end NetworkMapper
