import NetworkMapper.Classification.Explanation
import NetworkMapper.Exporters.DeviceCsv
import NetworkMapper.Reporting.ProjectSummary
import NetworkMapper.Reporting.ReportRun

/-! # `report.md`, as its lines -/

open Python

namespace NetworkMapper

/-- `:%Y-%m-%d %H:%M:%S` -/
def timestampText (d : DateTime) : Str :=
  dateText d ++ ch ' ' :: pad 2 d.hour ++ ch ':' :: pad 2 d.minute ++ ch ':' :: pad 2 d.second

namespace MarkdownExporter

/-! ## Helpers -/

/-- `_display_value`, of a text. -/
def displayValue : Option Str → Str
  | none => str "Unknown"
  | some value => if strip value = [] then str "Unknown" else value

def pluralTitles : List (Str × Str) :=
  [(str "Server", str "Servers"), (str "Workstation", str "Workstations"), (str "Printer", str "Printers"),
    (str "Switch", str "Switches"), (str "Router", str "Routers"), (str "Firewall", str "Firewalls"),
    (str "Access Point", str "Access Points"), (str "Hypervisor", str "Hypervisors"), (str "Unknown", str "Unknown")]

/-- `_plural_title` -/
def pluralTitle (deviceType : DeviceType) : Str :=
  (pluralTitles.lookup (displayTitle deviceType)).getD (displayTitle deviceType)

/-- The items of a counter, sorted, as a list. -/
def countLines (counts : Dict Str Nat) : List Str :=
  (sortedBy Prod.fst counts.entries).map fun e => str "- " ++ e.1 ++ str ": " ++ natRepr e.2

def labelled (label : String) (value : Option Str) : List Str :=
  (truthy value).toList.map (str label ++ ·)

/-! ## The run and the summary -/

/-- `_render_run_metadata` -/
def renderRunMetadata (u : Unicode) (runMetadata : RunMetadata) : List Str :=
  [str "# Run Metadata", [],
    str "- Report Generated: " ++ timestampText runMetadata.generatedAt,
    str "- Scan Profile: " ++ u.upper runMetadata.scanProfile.value,
    str "- Customer Name: " ++ runMetadata.customerName,
    str "- Device Count: " ++ natRepr runMetadata.deviceCount,
    str "- NetworkMapper Version: " ++ (truthy runMetadata.version).getD (str "Unknown")]

def deviceTypeLine (entry : DeviceType × Nat) : Str := str "- " ++ displayTitle entry.1 ++ str ": " ++ natRepr entry.2

/-- `_render_executive_summary` -/
def renderExecutiveSummary (summary : ProjectSummary) : List Str :=
  [str "# Customer", [],
    str "- Customer Name: " ++ displayValue (some summary.customerName),
    str "- Created: " ++ summary.createdAt.isoformat,
    str "- Last Updated: " ++ summary.updatedAt.isoformat, [],
    str "# Executive Summary", [],
    str "- Total Devices: " ++ natRepr summary.totalDevices, [],
    str "## Device Types", []] ++
    (sortedBy (fun e => e.1.value) summary.deviceTypeCounts.entries).map deviceTypeLine

def unknownDevices (project : Project) : List Device :=
  project.networkGraph.allDevices.filter fun d => d.deviceType = .unknown

def unknownVendors (project : Project) : Dict Str Nat :=
  tally ((unknownDevices project).map fun d => displayValue d.vendor)

def unknownSystems (project : Project) : Dict Str Nat :=
  tally ((unknownDevices project).map fun d => (truthy d.operatingSystem).getD (str "Not Determined"))

/-- `percentage m n` is `(m / n) * 100` with one decimal. -/
def renderClassificationOverview (percentage : Nat → Nat → Str) (project : Project) : List Str :=
  [str "# Classification Overview", []] ++
    if unknownDevices project = [] then [str "No UNKNOWN devices."]
    else
      let unknown := (unknownDevices project).length
      [str "- Total UNKNOWN Devices: " ++ natRepr unknown,
        str "- UNKNOWN Devices as % of Total: " ++ percentage unknown project.networkGraph.allDevices.length ++ str "%",
        [], str "## UNKNOWN Devices by Vendor", []] ++
        countLines (unknownVendors project) ++
        [[], str "## UNKNOWN Devices by Operating System (where known)", []] ++
        countLines (unknownSystems project)

/-! ## The inventory -/

/-- `_render_identity` -/
def renderIdentity (device : Device) : List Str :=
  [str "**Identity**", [],
    str "- Device Type: " ++ displayTitle device.deviceType,
    str "- IP Address: " ++ displayValue (some device.ipAddress),
    str "- Hostname: " ++ displayValue device.hostname] ++
    labelled "- Computer Name: " device.computerName ++
    labelled "- Operating System: " device.operatingSystem ++
    labelled "- Domain: " device.domain ++
    [str "- Vendor: " ++ displayValue device.vendor,
      str "- MAC Address: " ++ displayValue device.macAddress,
      str "- Discovery Sources: " ++ displayValue (some ([ch ','].intercalate device.discoverySources))]

/-- `_format_service_summary`, of a port that `str` can show. -/
def formatServiceSummary (entry : ServiceEvidence) : Str :=
  let service := ((truthy entry.service).map (ch ' ' :: ·)).getD []
  let version := ((truthy entry.version).map (ch ' ' :: ·)).getD []
  let product := ((truthy entry.product).map fun product => str " (" ++ product ++ version ++ str ")").getD []
  intRepr entry.port ++ ch '/' :: entry.protocol ++ service ++ product

def formatServiceDetail (entry : ServiceEvidence) : List Str :=
  labelled "  - HTTP Title: " entry.httpTitle ++
    labelled "  - TLS Subject: " entry.tlsSubject ++
    labelled "  - TLS Issuer: " entry.tlsIssuer ++
    labelled "  - HTTP Authentication Realm: " entry.httpAuthRealm

def formatSnmpEvidence (device : Device) : List Str :=
  labelled "SNMP Description: " device.snmpSysDescr ++
    labelled "SNMP Location: " device.snmpSysLocation ++
    labelled "SNMP Contact: " device.snmpSysContact ++
    labelled "SNMP Uptime: " device.snmpSysUptime

def serviceLines (device : Device) : List Str :=
  if device.services = [] then []
  else
    str "Services:" ::
      device.services.flatMap (fun entry => (str "- " ++ formatServiceSummary entry) :: formatServiceDetail entry) ++
      (truthy device.smbSigning).toList.map fun _ => []

/-- `_render_evidence` -/
def renderEvidence (device : Device) : List Str :=
  let content := serviceLines device ++ labelled "SMB Signing: " device.smbSigning ++ formatSnmpEvidence device
  [str "**Evidence**", []] ++ if content = [] then [str "No additional evidence collected."] else content

def deviceTitle (device : Device) : Str :=
  displayValue (some ((truthy device.hostname).getD ((truthy (some device.ipAddress)).getD (str "Unknown"))))

/-- `_render_device_section` -/
def renderDeviceSection (u : Unicode) (classifier : DeviceClassifier) (device : Device) : List Str :=
  [str "### " ++ deviceTitle device, []] ++ renderIdentity device ++ [[]] ++ renderEvidence device ++ [[]] ++
    renderClassification u device classifier ++ [[]]

/-- `_render_section_manufacturers` -/
def renderSectionManufacturers (devices : List Device) : List Str :=
  let manufacturerCounts := tally (devices.map fun d => displayValue d.vendor)
  match manufacturerCounts.keys with
  | [manufacturer] => [str "Manufacturer", [], manufacturer, []]
  | _ => [str "Manufacturers", []] ++ countLines manufacturerCounts ++ [[]]

/-- Python compares the two texts as these lists compare. -/
def inventoryKey (device : Device) : List Str := [device.hostname.getD [], device.ipAddress]

/-- `_group_devices_by_type` -/
def groupDevicesByType (project : Project) : List (DeviceType × List Device) :=
  groupBy (·.deviceType) (sortedBy inventoryKey project.networkGraph.allDevices)

/-- The sections of the inventory in their order. -/
def inventory (project : Project) : List (DeviceType × List Device) :=
  sortedBy (fun g => pluralTitle g.1) (groupDevicesByType project)

def renderInventorySection (u : Unicode) (classifier : DeviceClassifier) (group : DeviceType × List Device) : List Str :=
  [str "## " ++ pluralTitle group.1, [], str "Total: " ++ natRepr group.2.length, []] ++
    renderSectionManufacturers group.2 ++ [str "---", []] ++ group.2.flatMap (renderDeviceSection u classifier)

/-- `_render_device_inventory` -/
def renderDeviceInventory (u : Unicode) (project : Project) (classifier : DeviceClassifier) : List Str :=
  [str "# Device Inventory", []] ++ (inventory project).flatMap (renderInventorySection u classifier)

/-! ## Identities and relationships -/

def subjectLabel (subject : Str) (device : Option Device) : Str :=
  match device.bind fun d => truthy d.hostname with
  | some hostname => hostname ++ str " (" ++ subject ++ str ")"
  | none => subject

/-- `_corroboration_label`, of the value of a state. -/
def corroborationLabel (state : Str) : Str := asciiTitle false (state.map fun c => if c = ch '_' then ch ' ' else c)

def cardinalityLabel (cardinality : RelationshipCardinality) : Str :=
  if cardinality = .single then str "Single-valued" else str "Multi-valued"

def formatProvenance (provenance : ObservationProvenance) : Str :=
  provenance.provider ++ str " / " ++ provenance.collectionMethod ++ str " (" ++ timestampText provenance.observedAt ++
    str ")"

def renderValue (value : PropertyValuePresentation) : List Str :=
  (str "- Value: " ++ value.value) :: value.observations.map fun o => str "  - " ++ formatProvenance o.provenance

def renderProperty (p : IdentityPropertyPresentation) : List Str :=
  [str "### " ++ p.propertyName, [], str "- State: " ++ corroborationLabel p.state.value] ++
    p.values.flatMap renderValue ++ [[]]

def renderIdentityEntry (identity : IdentityPresentation) : List Str :=
  [str "## " ++ subjectLabel identity.subject identity.device, [],
    str "- Corroboration State: " ++ corroborationLabel identity.state.value, []] ++
    identity.properties.flatMap renderProperty

/-- `_render_canonical_identity` -/
def renderCanonicalIdentity (presentation : CanonicalPresentation) : List Str :=
  [str "# Canonical Identity", []] ++
    if presentation.identities = [] then [str "No canonical identity evidence collected."]
    else presentation.identities.flatMap renderIdentityEntry

def renderRelated (label : Str) (related : RelatedSubjectPresentation) : List Str :=
  [str "  - " ++ label ++ str " \u2192 " ++ subjectLabel related.relatedSubject related.device,
    str "    - Corroboration State: " ++ corroborationLabel related.state.value] ++
    related.observations.map fun o => str "    - " ++ formatProvenance o.provenance

def renderRelationship (relationship : RelationshipPresentation) : List Str :=
  let label := subjectLabel relationship.subject relationship.device
  [str "## " ++ label ++ str " \u2014 " ++ relationship.categoryLabel, [],
    str "- Cardinality: " ++ cardinalityLabel relationship.cardinality, str "- Related:"] ++
    relationship.related.flatMap (renderRelated label) ++ [[]]

/-- `_render_canonical_relationships` -/
def renderCanonicalRelationships (presentation : CanonicalPresentation) : List Str :=
  [str "# Canonical Relationships", []] ++
    if presentation.relationships = [] then [str "No canonical relationship evidence collected."]
    else presentation.relationships.flatMap renderRelationship

/-! ## Appendices -/

def countsOr (nothing : String) (counts : Dict Str Nat) : List Str :=
  if counts.entries = [] then [str nothing] else countLines counts

def services (project : Project) : List ServiceEvidence := project.networkGraph.allDevices.flatMap (·.services)

def serviceCounts (project : Project) : Dict Str Nat := tally ((services project).filterMap fun e => truthy e.service)

/-- How many of the items have the field. -/
def coverageLine {α : Type} (items : List α) (unit : String) (field : String × (α → Option Str)) : Str :=
  str "- " ++ str field.1 ++ str ": " ++ natRepr (items.countP fun item => (truthy (field.2 item)).isSome) ++ ch '/' ::
    natRepr items.length ++ str unit

def deviceFields : List (String × (Device → Option Str)) :=
  [("Operating System", (·.operatingSystem)), ("Computer Name", (·.computerName)), ("Domain", (·.domain)),
    ("SMB Signing", (·.smbSigning)), ("MAC Address", (·.macAddress))]

def serviceFields : List (String × (ServiceEvidence → Option Str)) :=
  [("Product", (·.product)), ("Version", (·.version)), ("HTTP Title", (·.httpTitle)), ("TLS Subject", (·.tlsSubject)),
    ("TLS Issuer", (·.tlsIssuer)), ("HTTP Authentication Realm", (·.httpAuthRealm))]

/-- `_render_appendices` -/
def renderAppendices (project : Project) (summary : ProjectSummary) : List Str :=
  [str "# Appendices", [], str "## Vendor Counts", []] ++
    countsOr "No vendor data collected." summary.vendorCounts ++
    [[], str "## Service Counts", []] ++
    countsOr "No service data collected." (serviceCounts project) ++
    [[], str "## Discovery Evidence Coverage", []] ++
    deviceFields.map (coverageLine project.networkGraph.allDevices " devices") ++
    serviceFields.map (coverageLine (services project) " services")

/-! ## The report -/

variable (py : Interpreter) (u : Unicode) (percentage : Nat → Nat → Str)

def renderMarkdown (project : SavedProject) (summary : ProjectSummary) (classifier : DeviceClassifier) :
    Except PresentationError (List Str) := do
  let presentation ← CanonicalPresentation.fromProject py project.toProject
  return renderExecutiveSummary summary ++ [[]] ++
    renderClassificationOverview percentage project.toProject ++ [[]] ++
    renderDeviceInventory u project.toProject classifier ++ [[]] ++
    renderCanonicalIdentity presentation ++ [[]] ++
    renderCanonicalRelationships presentation ++ [[]] ++
    renderAppendices project.toProject summary

/-- The text that `export` writes. -/
def report (project : SavedProject) (runMetadata : Option RunMetadata) : Except PresentationError Str := do
  let metadata := (runMetadata.map fun m => renderRunMetadata u m ++ [[]]).getD []
  let markdown ← renderMarkdown py u percentage project (.fromProject project) ⟨[]⟩
  return (str "\n").intercalate (metadata ++ markdown) ++ str "\n"

end MarkdownExporter

end NetworkMapper
