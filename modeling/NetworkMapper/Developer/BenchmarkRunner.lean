import NetworkMapper.Classification.SysDescr
import NetworkMapper.Project.Serializer

/-!
# The inventory of a benchmark

Its devices have the layout of those of a project file, and the loader takes from
them what it knows. It knows nothing of SNMP.
-/

open Python

namespace NetworkMapper

namespace BenchmarkRunner

/-! ## Loading -/

/-- As for a project file, a value of the wrong type is a `TypeError`. -/
def readService (entry : Json) : Except AccessError ServiceEvidence := do
  return {
    port := ← (← entry.item (str "port")).number
    protocol := ← (← entry.get (str "protocol") (.str (str "tcp"))).text
    service := ← entry.optionalItem (str "service")
    product := ← entry.optionalItem (str "product")
    version := ← entry.optionalItem (str "version")
    httpTitle := ← entry.optionalItem (str "http_title")
    tlsSubject := ← entry.optionalItem (str "tls_subject")
    tlsIssuer := ← entry.optionalItem (str "tls_issuer")
    httpAuthRealm := ← entry.optionalItem (str "http_auth_realm") }

/-- The benchmark reads fewer fields than `ProjectSerializer.load`: none of the SNMP fields. -/
def readDevice (devicePayload : Json) : Except AccessError Device := do
  return {
    ipAddress := ← devicePayload.textItem (str "ip_address")
    hostname := ← devicePayload.optionalItem (str "hostname")
    macAddress := ← devicePayload.optionalItem (str "mac_address")
    vendor := ← devicePayload.optionalItem (str "vendor")
    operatingSystem := ← devicePayload.optionalItem (str "operating_system")
    computerName := ← devicePayload.optionalItem (str "computer_name")
    domain := ← devicePayload.optionalItem (str "domain")
    smbSigning := ← devicePayload.optionalItem (str "smb_signing")
    services := ← (← (← devicePayload.get (str "services") (.arr [])).list).mapM readService
    deviceType := .unknown
    discoverySources := ← (← (← devicePayload.get (str "discovery_sources") (.arr [])).list).mapM Json.text }

/-- `payload.get("devices", [])` -/
def devicePayloads (payload : Json) : Except AccessError (List Json) := do
  (← payload.get (str "devices") (.arr [])).list

/-- `load_inventory` from the decoded document on. -/
def loadInventory (payload : Json) : Except AccessError (List Device) := do
  (← devicePayloads payload).mapM readDevice

/-! ## The same entry in a project file -/

open ProjectSerializer (accessed fromPayload LoadFailure)

theorem readService_of_project {entry : Json} {e : ServiceEvidence}
    (h : ProjectSerializer.readService entry = .ok e) : readService entry = .ok e := by
  have hprotocol : ∀ p, entry.textItem (str "protocol") = .ok p →
      (entry.get (str "protocol") (.str (str "tcp")) >>= Json.text) = .ok p := by
    intro p hp
    obtain ⟨v, hv, htext⟩ := (bind_eq_ok _ _ _).mp hp
    unfold Json.item at hv
    unfold Json.get
    split at hv
    · split at hv
      · rename_i hlookup
        cases hv
        rw [hlookup]
        exact htext
      · cases hv
    · cases hv
  unfold ProjectSerializer.readService at h
  simp only [bind_eq_ok, pure_ok] at h
  obtain ⟨v, hv, port, hport, protocol, hp, rest⟩ := h
  obtain ⟨v', hv', hp'⟩ := (bind_eq_ok _ _ _).mp (hprotocol protocol hp)
  unfold readService
  simp only [bind_eq_ok, pure_ok]
  exact ⟨v, hv, port, hport, v', hv', protocol, hp', rest⟩

theorem mapM_of_project {payloads : List Json} {services : List ServiceEvidence}
    (h : payloads.mapM ProjectSerializer.readService = .ok services) : payloads.mapM readService = .ok services := by
  rw [mapM_eq_ok] at *
  exact h.imp fun _ _ => readService_of_project

theorem readDevice_of_project {entry : Json} {d : Device} (h : ProjectSerializer.readDevice entry = .ok d) :
    readDevice entry = .ok (withoutSnmp d) := by
  unfold ProjectSerializer.readDevice at h
  simp only [bind_eq_ok, accessed, mapError_eq_ok, pure_ok, Except.ok.injEq] at h
  obtain ⟨ip, hip, hostname, hhostname, mac, hmac, vendor, hvendor, system, hsystem, name, hname, domain, hdomain,
    signing, hsigning, descr, hdescr, object, hobject, uptime, huptime, contact, hcontact, location, hlocation,
    services, ⟨value, hvalue, payloads, hpayloads, hservices⟩, deviceType, htype, sources, hsources, rfl⟩ := h
  unfold readDevice
  simp only [bind_eq_ok, pure_ok, Except.ok.injEq]
  obtain ⟨value', hvalue', texts, htexts, hsources⟩ := hsources
  exact ⟨ip, hip, hostname, hhostname, mac, hmac, vendor, hvendor, system, hsystem, name, hname, domain, hdomain,
    signing, hsigning, value, hvalue, payloads, hpayloads, services, mapM_of_project hservices, value', hvalue', texts,
    htexts, sources, hsources, rfl⟩

/-! ## The types -/

/-- One entry, as the benchmark and as the project have it. -/
def SameDevice (entries : List Json) (saved : SavedProject) (b d : Device) : Prop :=
  ∃ entry ∈ entries, readDevice entry = .ok b ∧ ProjectSerializer.readDevice entry = .ok d ∧
    d ∈ saved.networkGraph.allDevices

theorem sameDevice_eq {entries : List Json} {saved : SavedProject} {b d : Device}
    (h : SameDevice entries saved b d) : b = withoutSnmp d := by
  obtain ⟨entry, -, hb, hd, -⟩ := h
  rw [readDevice_of_project hd] at hb
  exact (Except.ok.inj hb).symm

theorem loaded_from_entry {project : Json} {saved : SavedProject} {entries : List Json}
    (hentries : devicePayloads project = .ok entries) (hsaved : fromPayload project = .ok saved) {d : Device}
    (hd : d ∈ saved.networkGraph.allDevices) : ∃ entry ∈ entries, ProjectSerializer.readDevice entry = .ok d := by
  unfold devicePayloads at hentries
  unfold fromPayload at hsaved
  simp only [bind_eq_ok, accessed, mapError_eq_ok, pure_ok, Except.ok.injEq] at hsaved
  obtain ⟨customer, -, created, -, modified, -, entries', hentries', devices, hdevices, rfl⟩ := hsaved
  have heq : entries' = entries := by
    have hboth := (bind_eq_ok _ _ _).mpr hentries'
    rw [hentries] at hboth
    exact (Except.ok.inj hboth).symm
  rw [heq, mapM_eq_ok] at hdevices
  exact forall₂_mem_right hdevices d (NetworkGraph.mem_of_mem_addDevices devices d hd)

/-- The benchmark gives every device the type that the project gives it, exactly when the system description of
none of them decides its type. -/
theorem classifies_alike_iff (u : Unicode) (classifier classifier' : DeviceClassifier) (inventory project : Json)
    (entries : List Json) (hinventory : devicePayloads inventory = .ok entries)
    (hproject : devicePayloads project = .ok entries) (devices : List Device)
    (hdevices : loadInventory inventory = .ok devices) (saved : SavedProject)
    (hsaved : fromPayload project = .ok saved) :
    (∀ b ∈ devices, ∀ d, SameDevice entries saved b d →
      (classifier.classify u b).2.deviceType = (classifier'.classify u d).2.deviceType) ↔
      ∀ d ∈ saved.networkGraph.allDevices, DescrAddsNothing u d := by
  constructor
  · intro h d hd
    obtain ⟨entry, hentry, hread⟩ := loaded_from_entry hproject hsaved hd
    have hbenchmark := readDevice_of_project hread
    have hmem : withoutSnmp d ∈ devices := by
      unfold loadInventory at hdevices
      rw [hinventory, ok_bind, mapM_eq_ok] at hdevices
      obtain ⟨b, hb, heq⟩ := forall₂_mem_left hdevices entry hentry
      rw [hbenchmark] at heq
      rw [Except.ok.inj heq]
      exact hb
    exact (withoutSnmp_type_iff u classifier classifier' d).mp (h _ hmem d ⟨entry, hentry, hbenchmark, hread, hd⟩)
  · intro h b _ d hsame
    rw [sameDevice_eq hsame]
    obtain ⟨-, -, -, -, hd⟩ := hsame
    exact (withoutSnmp_type_iff u classifier classifier' d).mpr (h d hd)

/-- A ReadyNAS, as it describes itself. -/
def sampleNas : Device := { ipAddress := str "192.0.2.40", snmpSysDescr := some (str "ReadyNAS OS 6.10") }

def sampleInventory : Json := .obj [(str "devices", .arr [ProjectSerializer.deviceDict sampleNas])]

def sampleSaved : SavedProject :=
  { ProjectSerializer.sampleProject with networkGraph := NetworkGraph.empty.addDevices [sampleNas] }

theorem loadInventory_sample : loadInventory sampleInventory = .ok [withoutSnmp sampleNas] := by
  have hentries : devicePayloads sampleInventory = .ok [ProjectSerializer.deviceDict sampleNas] := rfl
  unfold loadInventory
  rw [hentries, ok_bind, mapM_eq_ok]
  exact .cons (readDevice_of_project (ProjectSerializer.readDevice_deviceDict sampleNas)) .nil

theorem classifies_alike_iff_sample :
    (∀ b ∈ [withoutSnmp sampleNas], ∀ d,
      SameDevice [ProjectSerializer.deviceDict sampleNas] (ProjectSerializer.persisted sampleSaved) b d →
      ((⟨[]⟩ : DeviceClassifier).classify ascii b).2.deviceType =
        ((⟨[]⟩ : DeviceClassifier).classify ascii d).2.deviceType) ↔
      ∀ d ∈ (ProjectSerializer.persisted sampleSaved).networkGraph.allDevices, DescrAddsNothing ascii d :=
  classifies_alike_iff ascii ⟨[]⟩ ⟨[]⟩ sampleInventory (ProjectSerializer.payload sampleSaved) _ rfl rfl _
    loadInventory_sample _ (ProjectSerializer.fromPayload_payload sampleSaved)

/-- The project has a server there, and the benchmark does not know the device. -/
theorem classifies_unlike : ∃ entries devices saved,
    devicePayloads sampleInventory = .ok entries ∧
    devicePayloads (ProjectSerializer.payload sampleSaved) = .ok entries ∧
    loadInventory sampleInventory = .ok devices ∧ fromPayload (ProjectSerializer.payload sampleSaved) = .ok saved ∧
    ∃ b ∈ devices, ∃ d, SameDevice entries saved b d ∧
      ((⟨[]⟩ : DeviceClassifier).classify ascii d).2.deviceType = .server ∧
      ((⟨[]⟩ : DeviceClassifier).classify ascii b).2.deviceType = .unknown := by
  have hread := ProjectSerializer.readDevice_deviceDict sampleNas
  refine ⟨_, _, _, rfl, rfl, loadInventory_sample, ProjectSerializer.fromPayload_payload sampleSaved,
    withoutSnmp sampleNas, List.mem_singleton_self _, sampleNas, ?_, by decide, by decide⟩
  exact ⟨_, List.mem_singleton_self _, readDevice_of_project hread, hread, by decide⟩

end BenchmarkRunner

end NetworkMapper
