import NetworkMapper.Python.DateTime
import NetworkMapper.Python.Json.Objects
import NetworkMapper.Reporting.CanonicalPresentation

/-!
# Projects as JSON files

A file holds the customer, the dates and the devices. What a run has observed and
resolved is not in it.
-/

open Python

namespace NetworkMapper

/-- A `Project` with the fields that its file holds beside the devices. -/
structure SavedProject extends Project where
  customerName : Str
  createdDate : DateTime
  modifiedDate : DateTime

namespace ProjectSerializer

/-! ## Writing -/

def serviceDict (entry : ServiceEvidence) : Json :=
  .obj [(str "port", .int entry.port), (str "protocol", .str entry.protocol),
    (str "service", .ofOption entry.service), (str "product", .ofOption entry.product),
    (str "version", .ofOption entry.version), (str "http_title", .ofOption entry.httpTitle),
    (str "tls_subject", .ofOption entry.tlsSubject), (str "tls_issuer", .ofOption entry.tlsIssuer),
    (str "http_auth_realm", .ofOption entry.httpAuthRealm)]

def deviceDict (device : Device) : Json :=
  .obj [(str "ip_address", .str device.ipAddress), (str "hostname", .ofOption device.hostname),
    (str "mac_address", .ofOption device.macAddress), (str "vendor", .ofOption device.vendor),
    (str "operating_system", .ofOption device.operatingSystem),
    (str "computer_name", .ofOption device.computerName), (str "domain", .ofOption device.domain),
    (str "smb_signing", .ofOption device.smbSigning), (str "snmp_sys_descr", .ofOption device.snmpSysDescr),
    (str "snmp_sys_object_id", .ofOption device.snmpSysObjectId),
    (str "snmp_sys_uptime", .ofOption device.snmpSysUptime),
    (str "snmp_sys_contact", .ofOption device.snmpSysContact),
    (str "snmp_sys_location", .ofOption device.snmpSysLocation),
    (str "services", .arr (device.services.map serviceDict)), (str "device_type", .str device.deviceType.value),
    (str "discovery_sources", .arr (device.discoverySources.map .str))]

/-- The mapping that `save` dumps. -/
def payload (project : SavedProject) : Json :=
  .obj [(str "customer_name", .str project.customerName),
    (str "created_date", .str project.createdDate.isoformat),
    (str "modified_date", .str project.modifiedDate.isoformat),
    (str "devices", .arr (project.networkGraph.allDevices.map deviceDict))]

/-- The bytes of the file. `none` when the project cannot be written. -/
def save (py : Interpreter) (project : SavedProject) : Option Bytes := do
  let text ← dumpsChecked py (indent 2) (payload project)
  (encodeUtf8 text).toOption

/-! ## Reading -/

/-- What `load` raises. A value of the wrong type, which a field would just keep, is a `TypeError` here. -/
inductive LoadFailure where
  | unicode
  | json (e : LoadError Empty)
  | access (e : AccessError)
  | valueError

def accessed {α : Type} (r : Except AccessError α) : Except LoadFailure α := r.mapError .access

def readDate (payload : Json) (key : Str) : Except LoadFailure DateTime := do
  let text ← accessed (payload.textItem key)
  match DateTime.fromisoformat text with
  | some date => .ok date
  | none => .error .valueError

def readService (entry : Json) : Except AccessError ServiceEvidence := do
  return {
    port := ← (← entry.item (str "port")).number
    protocol := ← entry.textItem (str "protocol")
    service := ← entry.optionalItem (str "service")
    product := ← entry.optionalItem (str "product")
    version := ← entry.optionalItem (str "version")
    httpTitle := ← entry.optionalItem (str "http_title")
    tlsSubject := ← entry.optionalItem (str "tls_subject")
    tlsIssuer := ← entry.optionalItem (str "tls_issuer")
    httpAuthRealm := ← entry.optionalItem (str "http_auth_realm") }

/-- `DeviceType(device_payload.get("device_type", DeviceType.UNKNOWN.value))` -/
def readDeviceType (devicePayload : Json) : Except LoadFailure DeviceType := do
  match ← accessed (devicePayload.get (str "device_type") (.str DeviceType.unknown.value)) with
  | .str value => match DeviceType.ofValue value with
    | some type => .ok type
    | none => .error .valueError
  | _ => .error .valueError

/-- The loop over the devices in `load`. -/
def readDevice (devicePayload : Json) : Except LoadFailure Device := do
  return {
    ipAddress := ← accessed (devicePayload.textItem (str "ip_address"))
    hostname := ← accessed (devicePayload.optionalItem (str "hostname"))
    macAddress := ← accessed (devicePayload.optionalItem (str "mac_address"))
    vendor := ← accessed (devicePayload.optionalItem (str "vendor"))
    operatingSystem := ← accessed (devicePayload.optionalItem (str "operating_system"))
    computerName := ← accessed (devicePayload.optionalItem (str "computer_name"))
    domain := ← accessed (devicePayload.optionalItem (str "domain"))
    smbSigning := ← accessed (devicePayload.optionalItem (str "smb_signing"))
    snmpSysDescr := ← accessed (devicePayload.optionalItem (str "snmp_sys_descr"))
    snmpSysObjectId := ← accessed (devicePayload.optionalItem (str "snmp_sys_object_id"))
    snmpSysUptime := ← accessed (devicePayload.optionalItem (str "snmp_sys_uptime"))
    snmpSysContact := ← accessed (devicePayload.optionalItem (str "snmp_sys_contact"))
    snmpSysLocation := ← accessed (devicePayload.optionalItem (str "snmp_sys_location"))
    services := ← accessed (do (← (← devicePayload.get (str "services") (.arr [])).list).mapM readService)
    deviceType := ← readDeviceType devicePayload
    discoverySources := ← accessed (do
      (← (← devicePayload.get (str "discovery_sources") (.arr [])).list).mapM Json.text) }

/-- `load` from the decoded document on. The devices go into an empty graph, one by one. -/
def fromPayload (payload : Json) : Except LoadFailure SavedProject := do
  let customerName ← accessed (payload.textItem (str "customer_name"))
  let createdDate ← readDate payload (str "created_date")
  let modifiedDate ← readDate payload (str "modified_date")
  let devices ← (← accessed (do (← payload.get (str "devices") (.arr [])).list)).mapM readDevice
  return {
    customerName := customerName
    createdDate := createdDate
    modifiedDate := modifiedDate
    networkGraph := NetworkGraph.empty.addDevices devices
    observations := []
    canonicalIdentities := []
    canonicalRelationships := [] }

/-- `load`, from the bytes of the file. -/
def load (py : Interpreter) (data : Bytes) : Except LoadFailure SavedProject :=
  match decodeUtf8 data with
  | .error _ => .error .unicode
  | .ok text =>
    match loadsDict py text with
    | .error e => .error (.json e)
    | .ok payload => fromPayload payload

/-! ## Reading back what was written -/

open Json (optionalItem_eq)

theorem readService_serviceDict (e : ServiceEvidence) : readService (serviceDict e) = .ok e := by
  unfold readService
  rw [optionalItem_eq (s := e.service) rfl, optionalItem_eq (s := e.product) rfl, optionalItem_eq (s := e.version) rfl,
    optionalItem_eq (s := e.httpTitle) rfl, optionalItem_eq (s := e.tlsSubject) rfl,
    optionalItem_eq (s := e.tlsIssuer) rfl, optionalItem_eq (s := e.httpAuthRealm) rfl]
  rfl

theorem readDeviceType_deviceDict (d : Device) : readDeviceType (deviceDict d) = .ok d.deviceType := by
  have hget : (deviceDict d).get (str "device_type") (.str DeviceType.unknown.value) = .ok (.str d.deviceType.value) :=
    rfl
  unfold readDeviceType
  rw [hget]
  simp only [accessed, Except.mapError, ok_bind, DeviceType.ofValue_value]

theorem readDevice_deviceDict (d : Device) : readDevice (deviceDict d) = .ok d := by
  have hservices : (deviceDict d).get (str "services") (.arr []) = .ok (.arr (d.services.map serviceDict)) := rfl
  have hsources : (deviceDict d).get (str "discovery_sources") (.arr []) = .ok (.arr (d.discoverySources.map .str)) :=
    rfl
  unfold readDevice
  rw [optionalItem_eq (s := d.hostname) rfl, optionalItem_eq (s := d.macAddress) rfl, optionalItem_eq (s := d.vendor) rfl,
    optionalItem_eq (s := d.operatingSystem) rfl, optionalItem_eq (s := d.computerName) rfl,
    optionalItem_eq (s := d.domain) rfl, optionalItem_eq (s := d.smbSigning) rfl,
    optionalItem_eq (s := d.snmpSysDescr) rfl, optionalItem_eq (s := d.snmpSysObjectId) rfl,
    optionalItem_eq (s := d.snmpSysUptime) rfl, optionalItem_eq (s := d.snmpSysContact) rfl,
    optionalItem_eq (s := d.snmpSysLocation) rfl, hservices, hsources, readDeviceType_deviceDict]
  simp only [ok_bind, Json.list, mapM_map_ok Json.str Json.text (fun _ => rfl),
    mapM_map_ok serviceDict readService readService_serviceDict]
  rfl

theorem readDate_isoformat (payload : Json) (key : Str) (d : DateTime)
    (h : payload.textItem key = .ok d.isoformat) : readDate payload key = .ok d := by
  unfold readDate
  rw [h]
  simp only [accessed, Except.mapError, ok_bind, fromisoformat_isoformat]

/-- What is left of a project that was saved. -/
def persisted (project : SavedProject) : SavedProject :=
  { project with observations := [], canonicalIdentities := [], canonicalRelationships := [] }

theorem fromPayload_payload (project : SavedProject) : fromPayload (payload project) = .ok (persisted project) := by
  have hcustomer : (payload project).textItem (str "customer_name") = .ok project.customerName := rfl
  have hdevices : (payload project).get (str "devices") (.arr []) =
      .ok (.arr (project.networkGraph.allDevices.map deviceDict)) := rfl
  unfold fromPayload
  rw [hcustomer, readDate_isoformat (payload project) (str "created_date") project.createdDate rfl,
    readDate_isoformat (payload project) (str "modified_date") project.modifiedDate rfl, hdevices]
  simp only [accessed, Except.mapError, ok_bind, Json.list, mapM_map_ok deviceDict readDevice readDevice_deviceDict,
    pure_ok, NetworkGraph.addDevices_allDevices]
  rfl

/-! ## The file can be written and read -/

def serviceTexts (e : ServiceEvidence) : List Str :=
  e.protocol :: [e.service, e.product, e.version, e.httpTitle, e.tlsSubject, e.tlsIssuer, e.httpAuthRealm].reduceOption

def deviceTexts (d : Device) : List Str :=
  d.ipAddress :: [d.hostname, d.macAddress, d.vendor, d.operatingSystem, d.computerName, d.domain, d.smbSigning,
    d.snmpSysDescr, d.snmpSysObjectId, d.snmpSysUptime, d.snmpSysContact, d.snmpSysLocation].reduceOption ++
  d.discoverySources ++ d.services.flatMap serviceTexts

/-- Every text field of the file. -/
def texts (project : SavedProject) : List Str :=
  project.customerName :: project.networkGraph.allDevices.flatMap deviceTexts

section Rereadable

variable {py : Interpreter}

theorem serviceDict_rereadable {e : ServiceEvidence} (hport : py.reads e.port)
    (htexts : ∀ s ∈ serviceTexts e, hasSurrogatePair s = false) : Rereadable py 1 (serviceDict e) := by
  unfold serviceTexts at htexts
  simp only [List.forall_mem_cons, forall_reduceOption] at htexts
  obtain ⟨hprotocol, hservice, hproduct, hversion, htitle, hsubject, hissuer, hrealm, -⟩ := htexts
  refine .obj (by simp +decide) (by simp +decide) ?_
  simp only [List.forall_mem_cons]
  exact ⟨.int hport, .str hprotocol, .ofOption hservice, .ofOption hproduct, .ofOption hversion, .ofOption htitle,
    .ofOption hsubject, .ofOption hissuer, .ofOption hrealm, List.forall_mem_nil _⟩

theorem deviceDict_rereadable {d : Device} (hports : ∀ e ∈ d.services, py.reads e.port)
    (htexts : ∀ s ∈ deviceTexts d, hasSurrogatePair s = false) : Rereadable py 3 (deviceDict d) := by
  have htype : hasSurrogatePair d.deviceType.value = false := by cases d.deviceType <;> decide
  unfold deviceTexts at htexts
  simp only [List.cons_append, List.forall_mem_cons, List.forall_mem_append, forall_reduceOption,
    List.forall_mem_flatMap] at htexts
  obtain ⟨hip, ⟨⟨hhostname, hmac, hvendor, hsystem, hname, hdomain, hsigning, hdescr, hobject, huptime, hcontact,
    hlocation, -⟩, hsources⟩, hservices⟩ := htexts
  refine .obj (by simp +decide) (by simp +decide) ?_
  simp only [List.forall_mem_cons]
  refine ⟨.str hip, .ofOption hhostname, .ofOption hmac, .ofOption hvendor, .ofOption hsystem, .ofOption hname,
    .ofOption hdomain, .ofOption hsigning, .ofOption hdescr, .ofOption hobject, .ofOption huptime,
    .ofOption hcontact, .ofOption hlocation, .arrMap ?_, .str htype, .arrMap ?_, List.forall_mem_nil _⟩
  · exact fun e he => serviceDict_rereadable (hports e he) (hservices e he)
  · exact fun s hs => .str (hsources s hs)

theorem payload_rereadable {project : SavedProject}
    (hports : ∀ d ∈ project.networkGraph.allDevices, ∀ e ∈ d.services, py.reads e.port)
    (htexts : ∀ s ∈ texts project, hasSurrogatePair s = false) : Rereadable py 5 (payload project) := by
  unfold texts at htexts
  simp only [List.forall_mem_cons, List.forall_mem_flatMap] at htexts
  obtain ⟨hcustomer, hdevices⟩ := htexts
  refine .obj (by simp +decide) (by simp +decide) ?_
  simp only [List.forall_mem_cons]
  have hdate := fun d : DateTime => no_pair_of_ascii _ (isoformat_ascii d)
  refine ⟨.str hcustomer, .str (hdate _), .str (hdate _), .arrMap ?_, List.forall_mem_nil _⟩
  exact fun d hd => deviceDict_rereadable (hports d hd) (hdevices d hd)

theorem ofOption_integers (s : Option Str) : integers (.ofOption s) = [] := by cases s <;> rfl

theorem serviceDict_integers (e : ServiceEvidence) : integers (serviceDict e) = [e.port] := by
  simp [serviceDict, integers, integersMembers, ofOption_integers]

theorem deviceDict_integers (d : Device) : integers (deviceDict d) = d.services.map (·.port) := by
  have hsources : integersItems (d.discoverySources.map .str) = [] := by
    simp [integersItems_eq, List.flatMap_eq_nil_iff, integers]
  have hservices : integersItems (d.services.map serviceDict) = d.services.map (·.port) := by
    rw [integersItems_eq, List.flatMap_map]
    simp only [serviceDict_integers, ← List.map_eq_flatMap]
  simp [deviceDict, integers, integersMembers, ofOption_integers, hsources, hservices]

theorem payload_integers (project : SavedProject) :
    integers (payload project) = project.networkGraph.allDevices.flatMap fun d => d.services.map (·.port) := by
  simp [payload, integers, integersMembers, integersItems_eq, List.flatMap_map, deviceDict_integers]

/-- Saving and loading a project gives it back, without the data of its run. `json` reads an integer back
when it is within the limit on digits. -/
theorem load_restores (project : SavedProject) (hscalar : ∀ s ∈ texts project, scalarText s)
    (hports : ∀ d ∈ project.networkGraph.allDevices, ∀ e ∈ d.services, py.reads e.port) :
    ∃ data, save py project = some data ∧ load py data = .ok (persisted project) := by
  have hintegers : ∀ n ∈ integers (payload project), py.reads n := by
    simpa only [payload_integers, List.forall_mem_flatMap, List.forall_mem_map] using hports
  have hroom := py.nesting_valid
  have hrereadable := (payload_rereadable hports fun s hs => no_pair_of_scalar s (hscalar s hs)).mono
    (show 5 ≤ py.nesting by omega)
  have hascii := dumpsAt_ascii py (indent 2) hrereadable.readable 0
  obtain ⟨data, hencode⟩ := encodeUtf8_scalar (dumps py (indent 2) (payload project)) (scalar_of_ascii _ hascii)
  refine ⟨data, ?_, ?_⟩
  · unfold save dumpsChecked
    rw [if_pos hintegers]
    simp only [Option.bind_eq_bind, Option.bind_some, hencode]
    rfl
  · unfold load
    rw [decodeUtf8_encodeUtf8 _ data hencode]
    simp only [loadsDict_dumps hrereadable, fromPayload_payload]

end Rereadable

/-- A named server with two services, and a device of which only the address is known. -/
def sampleProject : SavedProject where
  networkGraph := NetworkGraph.empty.addDevices [
    { ipAddress := str "192.0.2.10"
      hostname := some (str "caf\u00e9")
      vendor := some []
      services := [{ port := 80, protocol := str "tcp" },
        { port := 443, protocol := str "tcp", service := some (str "https"), httpTitle := some [] }]
      deviceType := .server
      discoverySources := [str "nmap", str "snmp"] },
    { ipAddress := str "192.0.2.11" }]
  observations := [.identity ⟨str "192.0.2.10", str "hostname", str "caf\u00e9", sampleProvenance "dns"⟩]
  canonicalIdentities := []
  canonicalRelationships := []
  customerName := str "Example"
  createdDate := (sampleProvenance "").observedAt
  modifiedDate := (sampleProvenance "").observedAt

theorem load_restores_sample :
    ∃ data, save cpython sampleProject = some data ∧ load cpython data = .ok (persisted sampleProject) :=
  load_restores sampleProject (by decide) (by decide)

end ProjectSerializer

end NetworkMapper
