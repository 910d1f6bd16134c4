import NetworkMapper.Knowledge.Models
import NetworkMapper.Python.Json.Objects

/-! # Field observations as JSON -/

open Python

namespace NetworkMapper.Knowledge

/-- What `from_dict` raises. The first three are `ObservationSchemaError`. A value of the wrong type, which a
field would just keep, is a `TypeError` here. -/
inductive FromDictError where
  | missingField (key : Str)
  | invalidStatus (value : Json)
  | invalidAction (value : Json)
  | access (e : AccessError)

namespace ObservationSerializer

/-! ## Writing -/

def serviceDict (entry : ObservationServiceEvidence) : Json :=
  .obj [(str "port", .int entry.port), (str "protocol", .str entry.protocol),
    (str "service", .ofOption entry.service), (str "product", .ofOption entry.product),
    (str "version", .ofOption entry.version), (str "http_title", .ofOption entry.httpTitle),
    (str "tls_subject", .ofOption entry.tlsSubject), (str "tls_issuer", .ofOption entry.tlsIssuer),
    (str "http_auth_realm", .ofOption entry.httpAuthRealm)]

def evidenceDict (evidence : ObservationEvidence) : Json :=
  .obj [(str "operating_system", .ofOption evidence.operatingSystem),
    (str "computer_name", .ofOption evidence.computerName), (str "domain", .ofOption evidence.domain),
    (str "smb_signing", .ofOption evidence.smbSigning),
    (str "discovery_sources", .arr (evidence.discoverySources.map .str)),
    (str "services", .arr (evidence.services.map serviceDict))]

def reviewEntryDict (entry : ObservationReviewEntry) : Json :=
  .obj [(str "reviewed_at", .str entry.reviewedAt), (str "action", .str entry.action.value),
    (str "notes", .str entry.notes), (str "reference", .ofOption entry.reference)]

def deviceDict (device : ObservationDevice) : Json :=
  .obj [(str "ip", .ofOption device.ip), (str "hostname", .ofOption device.hostname),
    (str "vendor", .ofOption device.vendor), (str "mac_address", .ofOption device.macAddress)]

def classificationDict (classification : ObservationClassification) : Json :=
  .obj [(str "type", .str classification.type), (str "reason", .str classification.reason),
    (str "matched_rule", .ofOption classification.matchedRule)]

def scanDict (scan : ObservationScan) : Json :=
  .obj [(str "profile", .str scan.profile), (str "networkmapper_version", .ofOption scan.networkmapperVersion)]

/-- `to_dict` -/
def toDict (o : Observation) : Json :=
  .obj [(str "schema_version", .int o.schemaVersion), (str "observation_id", .int o.observationId),
    (str "status", .str o.status.value), (str "captured_at", .str o.capturedAt),
    (str "network", .obj [(str "name", .str o.network.name)]), (str "scan", scanDict o.scan),
    (str "device", deviceDict o.device), (str "evidence", evidenceDict o.evidence),
    (str "classification", classificationDict o.classification),
    (str "technician_notes", .str o.technicianNotes),
    (str "review_history", .arr (o.reviewHistory.map reviewEntryDict))]

/-- `to_json`. An integer with too many digits is a `ValueError`. -/
def toJson (py : Interpreter) (o : Observation) : Option Str := dumpsChecked py (indent 2) (toDict o)

/-! ## Reading -/

/-- The loop over `services` in `from_dict`. -/
def readService (entry : Json) : Except AccessError ObservationServiceEvidence := do
  return {
    port := ← (← entry.item (str "port")).number
    protocol := ← entry.textItem (str "protocol")
    service := ← entry.optionalItem (str "service")
    product := ← entry.optionalItem (str "product")
    version := ← entry.optionalItem (str "version")
    httpTitle := ← entry.optionalItem (str "http_title")
    tlsSubject := ← entry.optionalItem (str "tls_subject")
    tlsIssuer := ← entry.optionalItem (str "tls_issuer")
    httpAuthRealm := ← entry.optionalItem (str "http_auth_realm") }

def readEvidence (payload : Json) : Except AccessError ObservationEvidence := do
  return {
    operatingSystem := ← payload.optionalItem (str "operating_system")
    computerName := ← payload.optionalItem (str "computer_name")
    domain := ← payload.optionalItem (str "domain")
    smbSigning := ← payload.optionalItem (str "smb_signing")
    discoverySources := ← (← (← payload.get (str "discovery_sources") (.arr [])).list).mapM Json.text
    services := ← (← (← payload.get (str "services") (.arr [])).list).mapM readService }

def readDevice (payload : Json) : Except AccessError ObservationDevice := do
  return {
    ip := ← payload.optionalItem (str "ip")
    hostname := ← payload.optionalItem (str "hostname")
    vendor := ← payload.optionalItem (str "vendor")
    macAddress := ← payload.optionalItem (str "mac_address") }

def readClassification (payload : Json) : Except AccessError ObservationClassification := do
  return {
    type := ← payload.textItem (str "type")
    reason := ← payload.textItem (str "reason")
    matchedRule := ← payload.optionalItem (str "matched_rule") }

def readScan (payload : Json) : Except AccessError ObservationScan := do
  return {
    profile := ← payload.textItem (str "profile")
    networkmapperVersion := ← payload.optionalItem (str "networkmapper_version") }

/-- An item that must be there. -/
def required (key : Str) (payload : Json) : Except FromDictError Json :=
  match payload.item key with
  | .ok v => .ok v
  | .error (.keyError key) => .error (.missingField key)
  | .error e => .error (.access e)

def accessed {α : Type} (r : Except AccessError α) : Except FromDictError α := r.mapError .access

/-- The status, `NEW` where the key is missing. -/
def readStatus (payload : Json) : Except FromDictError ObservationStatus := do
  let value ← accessed (payload.get (str "status") (.str ObservationStatus.new.value))
  match value with
  | .str s => match ObservationStatus.ofValue s with
    | some status => .ok status
    | none => .error (.invalidStatus value)
  | _ => .error (.invalidStatus value)

def readAction (payload : Json) : Except FromDictError ObservationStatus := do
  let value ← accessed (payload.get (str "action") .null)
  match value with
  | .str s => match ObservationStatus.ofValue s with
    | some status => .ok status
    | none => .error (.invalidAction value)
  | _ => .error (.invalidAction value)

/-- The loop over `review_history` in `from_dict`. -/
def readReviewEntry (payload : Json) : Except FromDictError ObservationReviewEntry := do
  let action ← readAction payload
  return {
    reviewedAt := ← accessed (payload.textItem (str "reviewed_at"))
    action := action
    notes := ← accessed (do (← payload.get (str "notes") (.str [])).text)
    reference := ← accessed (payload.optionalItem (str "reference")) }

/-- `from_dict` -/
def fromDict (payload : Json) : Except FromDictError Observation := do
  let schemaVersion ← required (str "schema_version") payload
  let observationId ← required (str "observation_id") payload
  let capturedAt ← required (str "captured_at") payload
  let network ← required (str "network") payload
  let scan ← required (str "scan") payload
  let device ← required (str "device") payload
  let evidence ← required (str "evidence") payload
  let classification ← required (str "classification") payload
  let status ← readStatus payload
  let reviewHistory ← (← accessed (do (← payload.get (str "review_history") (.arr [])).list)).mapM readReviewEntry
  return {
    schemaVersion := ← accessed schemaVersion.number
    observationId := ← accessed observationId.number
    status := status
    capturedAt := ← accessed capturedAt.text
    network := ⟨← accessed (network.textItem (str "name"))⟩
    scan := ← accessed (readScan scan)
    device := ← accessed (readDevice device)
    evidence := ← accessed (readEvidence evidence)
    classification := ← accessed (readClassification classification)
    technicianNotes := ← accessed (do (← payload.get (str "technician_notes") (.str [])).text)
    reviewHistory := reviewHistory }

/-- `json.loads` or `from_dict` raises. -/
inductive FromJsonError where
  | loads (e : LoadError Empty)
  | fromDict (e : FromDictError)

/-- `from_json` -/
def fromJson (py : Interpreter) (text : Str) : Except FromJsonError Observation :=
  match loadsDict py text with
  | .error e => .error (.loads e)
  | .ok payload => (fromDict payload).mapError .fromDict

/-! ## Reading back what was written -/

open Json (optionalItem_eq)

theorem readService_serviceDict (e : ObservationServiceEvidence) : readService (serviceDict e) = .ok e := by
  unfold readService
  rw [optionalItem_eq (s := e.service) rfl, optionalItem_eq (s := e.product) rfl, optionalItem_eq (s := e.version) rfl,
    optionalItem_eq (s := e.httpTitle) rfl, optionalItem_eq (s := e.tlsSubject) rfl,
    optionalItem_eq (s := e.tlsIssuer) rfl, optionalItem_eq (s := e.httpAuthRealm) rfl]
  rfl

theorem readEvidence_evidenceDict (e : ObservationEvidence) : readEvidence (evidenceDict e) = .ok e := by
  have hsources : (evidenceDict e).get (str "discovery_sources") (.arr []) = .ok (.arr (e.discoverySources.map .str)) :=
    rfl
  have hservices : (evidenceDict e).get (str "services") (.arr []) = .ok (.arr (e.services.map serviceDict)) := rfl
  unfold readEvidence
  rw [optionalItem_eq (s := e.operatingSystem) rfl, optionalItem_eq (s := e.computerName) rfl,
    optionalItem_eq (s := e.domain) rfl, optionalItem_eq (s := e.smbSigning) rfl, hsources, hservices]
  simp only [ok_bind, Json.list, mapM_map_ok Json.str Json.text (fun _ => rfl),
    mapM_map_ok serviceDict readService readService_serviceDict]
  rfl

theorem readDevice_deviceDict (d : ObservationDevice) : readDevice (deviceDict d) = .ok d := by
  unfold readDevice
  rw [optionalItem_eq (s := d.ip) rfl, optionalItem_eq (s := d.hostname) rfl, optionalItem_eq (s := d.vendor) rfl,
    optionalItem_eq (s := d.macAddress) rfl]
  rfl

theorem readClassification_classificationDict (c : ObservationClassification) :
    readClassification (classificationDict c) = .ok c := by
  unfold readClassification
  rw [optionalItem_eq (s := c.matchedRule) rfl]
  rfl

theorem readScan_scanDict (scan : ObservationScan) : readScan (scanDict scan) = .ok scan := by
  unfold readScan
  rw [optionalItem_eq (s := scan.networkmapperVersion) rfl]
  rfl

theorem readReviewEntry_reviewEntryDict (e : ObservationReviewEntry) : readReviewEntry (reviewEntryDict e) = .ok e := by
  have haction : readAction (reviewEntryDict e) = .ok e.action := by
    have hget : (reviewEntryDict e).get (str "action") .null = .ok (.str e.action.value) := rfl
    unfold readAction
    rw [hget]
    simp only [accessed, Except.mapError, ok_bind, ObservationStatus.ofValue_value]
  unfold readReviewEntry
  rw [haction, optionalItem_eq (s := e.reference) rfl]
  rfl

theorem readStatus_toDict (o : Observation) : readStatus (toDict o) = .ok o.status := by
  have hget : (toDict o).get (str "status") (.str ObservationStatus.new.value) = .ok (.str o.status.value) := rfl
  unfold readStatus
  rw [hget]
  simp only [accessed, Except.mapError, ok_bind, ObservationStatus.ofValue_value]

theorem fromDict_toDict (o : Observation) : fromDict (toDict o) = .ok o := by
  have hrequired : ∀ key v, (toDict o).item key = .ok v → required key (toDict o) = .ok v := by
    intro key v h
    unfold required
    rw [h]
  have hhistory : (toDict o).get (str "review_history") (.arr []) = .ok (.arr (o.reviewHistory.map reviewEntryDict)) :=
    rfl
  have hnotes : (toDict o).get (str "technician_notes") (.str []) = .ok (.str o.technicianNotes) := rfl
  unfold fromDict
  rw [hrequired (str "schema_version") (.int o.schemaVersion) rfl,
    hrequired (str "observation_id") (.int o.observationId) rfl,
    hrequired (str "captured_at") (.str o.capturedAt) rfl,
    hrequired (str "network") (.obj [(str "name", .str o.network.name)]) rfl,
    hrequired (str "scan") (scanDict o.scan) rfl, hrequired (str "device") (deviceDict o.device) rfl,
    hrequired (str "evidence") (evidenceDict o.evidence) rfl,
    hrequired (str "classification") (classificationDict o.classification) rfl, readStatus_toDict, hhistory, hnotes]
  simp only [ok_bind, accessed, Except.mapError, Json.list, Json.number, Json.text,
    mapM_map_ok reviewEntryDict readReviewEntry readReviewEntry_reviewEntryDict, readScan_scanDict,
    readDevice_deviceDict, readEvidence_evidenceDict, readClassification_classificationDict]
  rfl

/-! ## The document can be written and read -/

section Rereadable

variable {py : Interpreter}

theorem serviceDict_rereadable {e : ObservationServiceEvidence} (hport : py.reads e.port)
    (htexts : ∀ s ∈ e.texts, hasSurrogatePair s = false) : Rereadable py 1 (serviceDict e) := by
  unfold ObservationServiceEvidence.texts at htexts
  simp only [List.forall_mem_cons, forall_reduceOption] at htexts
  obtain ⟨hprotocol, hservice, hproduct, hversion, htitle, hsubject, hissuer, hrealm, -⟩ := htexts
  refine .obj (by simp +decide) (by simp +decide) ?_
  simp only [List.forall_mem_cons]
  exact ⟨.int hport, .str hprotocol, .ofOption hservice, .ofOption hproduct, .ofOption hversion, .ofOption htitle,
    .ofOption hsubject, .ofOption hissuer, .ofOption hrealm, List.forall_mem_nil _⟩

theorem evidenceDict_rereadable {e : ObservationEvidence} (hports : ∀ s ∈ e.services, py.reads s.port)
    (htexts : ∀ s ∈ e.texts, hasSurrogatePair s = false) : Rereadable py 3 (evidenceDict e) := by
  unfold ObservationEvidence.texts at htexts
  simp only [List.forall_mem_append, List.forall_mem_cons, forall_reduceOption, List.forall_mem_flatMap] at htexts
  obtain ⟨⟨⟨hsystem, hname, hdomain, hsigning, -⟩, hsources⟩, hservices⟩ := htexts
  refine .obj (by simp +decide) (by simp +decide) ?_
  simp only [List.forall_mem_cons]
  refine ⟨.ofOption hsystem, .ofOption hname, .ofOption hdomain, .ofOption hsigning, .arrMap ?_, .arrMap ?_,
    List.forall_mem_nil _⟩
  · exact fun s hs => .str (hsources s hs)
  · exact fun s hs => serviceDict_rereadable (hports s hs) (hservices s hs)

theorem reviewEntryDict_rereadable {e : ObservationReviewEntry}
    (htexts : ∀ s ∈ e.texts, hasSurrogatePair s = false) : Rereadable py 1 (reviewEntryDict e) := by
  unfold ObservationReviewEntry.texts at htexts
  simp only [List.forall_mem_cons, Option.mem_toList] at htexts
  obtain ⟨hreviewed, hnotes, hreference⟩ := htexts
  have haction : hasSurrogatePair e.action.value = false := by cases e.action <;> decide
  refine .obj (by simp +decide) (by simp +decide) ?_
  simp only [List.forall_mem_cons]
  exact ⟨.str hreviewed, .str haction, .str hnotes, .ofOption hreference, List.forall_mem_nil _⟩

theorem toDict_integers (o : Observation) :
    o.schemaVersion ∈ integers (toDict o) ∧ o.observationId ∈ integers (toDict o) ∧
      ∀ s ∈ o.evidence.services, s.port ∈ integers (toDict o) := by
  refine ⟨by simp [toDict, integers, integersMembers], by simp [toDict, integers, integersMembers], fun s hs => ?_⟩
  have hservice : s.port ∈ integers (serviceDict s) := by simp [serviceDict, integers, integersMembers]
  have hevidence : s.port ∈ integers (evidenceDict o.evidence) := by
    simp only [evidenceDict, integers, integersMembers, integersItems_eq, List.mem_append, List.mem_flatMap,
      List.mem_map]
    exact Or.inr (Or.inr (Or.inr (Or.inr (Or.inr (Or.inl ⟨_, ⟨s, hs, rfl⟩, hservice⟩)))))
  simp only [toDict, integers, integersMembers, List.mem_append]
  tauto

theorem toDict_rereadable {o : Observation} (hnumbers : ∀ n ∈ integers (toDict o), py.reads n)
    (htexts : ∀ s ∈ o.texts, hasSurrogatePair s = false) : Rereadable py 4 (toDict o) := by
  obtain ⟨hschema, hid, hports⟩ := toDict_integers o
  have hstatus : hasSurrogatePair o.status.value = false := by cases o.status <;> decide
  unfold Observation.texts at htexts
  simp only [List.forall_mem_append, List.forall_mem_cons, forall_reduceOption, List.forall_mem_flatMap] at htexts
  obtain ⟨⟨⟨⟨hcaptured, hnetwork, hprofile, htype, hreason, htechnician, -⟩, hversion, hip, hhostname, hvendor, hmac,
    hrule, -⟩, hevidence⟩, hreview⟩ := htexts
  refine .obj (by simp +decide) (by simp +decide) ?_
  simp only [List.forall_mem_cons]
  refine ⟨.int (hnumbers _ hschema), .int (hnumbers _ hid), .str hstatus, .str hcaptured, ?_, ?_, ?_,
    evidenceDict_rereadable (fun s hs => hnumbers _ (hports s hs)) hevidence, ?_, .str htechnician, .arrMap ?_,
    List.forall_mem_nil _⟩
  · refine .obj (by simp +decide) (by simp +decide) ?_
    simp only [List.forall_mem_cons]
    exact ⟨.str hnetwork, List.forall_mem_nil _⟩
  · refine .obj (by simp +decide) (by simp +decide) ?_
    simp only [List.forall_mem_cons]
    exact ⟨.str hprofile, .ofOption hversion, List.forall_mem_nil _⟩
  · refine .obj (by simp +decide) (by simp +decide) ?_
    simp only [List.forall_mem_cons]
    exact ⟨.ofOption hip, .ofOption hhostname, .ofOption hvendor, .ofOption hmac, List.forall_mem_nil _⟩
  · refine .obj (by simp +decide) (by simp +decide) ?_
    simp only [List.forall_mem_cons]
    exact ⟨.str htype, .str hreason, .ofOption hrule, List.forall_mem_nil _⟩
  · exact fun e he => (reviewEntryDict_rereadable (hreview e he)).mono (by omega)

theorem fromJson_toJson {o : Observation} {text : Str} (h : toJson py o = some text)
    (htexts : ∀ s ∈ o.texts, hasSurrogatePair s = false) : asciiText text ∧ fromJson py text = .ok o := by
  unfold toJson dumpsChecked at h
  split_ifs at h with hnumbers
  rw [Option.some.injEq] at h
  have hroom := py.nesting_valid
  have hrereadable := (toDict_rereadable hnumbers htexts).mono (show 4 ≤ py.nesting by omega)
  refine ⟨?_, ?_⟩
  · rw [← h]
    exact dumpsAt_ascii py (indent 2) hrereadable.readable 0
  · unfold fromJson
    rw [← h, loadsDict_dumps hrereadable]
    simp only [fromDict_toDict, Except.mapError]

/-- An observation comes back from `to_json` as it was. An integer that is too long to be written is no value that
`json` can invert. -/
theorem stored_survives (py : Interpreter) (o : Observation) (hnumbers : ∀ n ∈ integers (toDict o), py.reads n)
    (htexts : ∀ s ∈ o.texts, scalarText s) : ∃ text, toJson py o = some text ∧ fromJson py text = .ok o := by
  have hwritten : toJson py o = some (dumps py (indent 2) (toDict o)) := if_pos hnumbers
  exact ⟨_, hwritten, (fromJson_toJson hwritten fun s hs => no_pair_of_scalar s (htexts s hs)).2⟩

def sampleObservation : Observation where
  observationId := 7
  capturedAt := str "2026-01-05T10:00:00+00:00"
  network := ⟨str "Office"⟩
  scan := ⟨str "deep", none⟩
  device := { ip := some (str "192.0.2.7"), hostname := some [] }
  evidence := { services := [{ port := 80, protocol := str "tcp", product := some (str "nginx") }] }
  classification := ⟨str "UNKNOWN", str "No rule matched.", none⟩
  status := .underReview
  reviewHistory := [{ reviewedAt := str "2026-01-06", action := .underReview }]

theorem stored_survives_sample :
    ∃ text, toJson cpython sampleObservation = some text ∧ fromJson cpython text = .ok sampleObservation :=
  stored_survives cpython sampleObservation (by decide) (by decide)

end Rereadable

end ObservationSerializer

end NetworkMapper.Knowledge
