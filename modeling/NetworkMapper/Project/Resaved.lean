import NetworkMapper.Project.Serializer
import NetworkMapper.Python.Json.CutShort
import NetworkMapper.Python.Json.Loaded

/-!
# Project files that are saved again

Whatever file is loaded, its project can be saved, and the new file loads as the same project.
-/

open Python

namespace NetworkMapper

namespace ProjectSerializer

variable {py : Interpreter}

theorem save_eq (project : SavedProject) (htexts : ∀ s ∈ texts project, hasSurrogatePair s = false)
    (hports : ∀ d ∈ project.networkGraph.allDevices, ∀ e ∈ d.services, py.reads e.port) :
    ∃ text, save py project = some ((ch '{' :: text).map fun c => byte c.val) ∧ asciiText (ch '{' :: text) ∧
      loadsDict py (ch '{' :: text) = .ok (payload project) := by
  have hroom := py.nesting_valid
  have hrereadable := (payload_rereadable hports htexts).mono (show 5 ≤ py.nesting by omega)
  have hascii := dumpsAt_ascii py (indent 2) hrereadable.readable 0
  have hintegers : ∀ n ∈ integers (payload project), py.reads n := by
    simpa only [payload_integers, List.forall_mem_flatMap, List.forall_mem_map] using hports
  obtain ⟨text, htext⟩ : ∃ text, dumps py (indent 2) (payload project) = ch '{' :: text := dumps_obj py (indent 2) _
  refine ⟨text, ?_, ?_, ?_⟩
  · unfold save dumpsChecked
    rw [if_pos hintegers, ← htext]
    simp only [Option.bind_eq_bind, Option.bind_some]
    rw [dumps, encodeUtf8_ascii _ hascii]
    rfl
  · rw [← htext]
    exact hascii
  · rw [← htext]
    exact loadsDict_dumps hrereadable (indent 2)

/-! ## What is loaded -/

theorem readService_loaded {entry : Json} (h : Loaded py entry) {e : ServiceEvidence} (hread : readService entry = .ok e) :
    py.reads e.port ∧ ∀ s ∈ serviceTexts e, hasSurrogatePair s = false := by
  simp only [readService, bind_eq_ok, pure_ok, Except.ok.injEq] at hread
  obtain ⟨v, hv, port, hport, protocol, hprotocol, service, hservice, product, hproduct, version, hversion, title, htitle,
    subject, hsubject, issuer, hissuer, realm, hrealm, rfl⟩ := hread
  refine ⟨(h.item hv).number hport, ?_⟩
  unfold serviceTexts
  simp only [List.forall_mem_cons, forall_reduceOption]
  exact ⟨h.textItem hprotocol, h.optionalItem hservice, h.optionalItem hproduct, h.optionalItem hversion,
    h.optionalItem htitle, h.optionalItem hsubject, h.optionalItem hissuer, h.optionalItem hrealm,
    List.forall_mem_nil _⟩

theorem readDevice_loaded {devicePayload : Json} (h : Loaded py devicePayload) {d : Device}
    (hread : readDevice devicePayload = .ok d) :
    (∀ e ∈ d.services, py.reads e.port) ∧ ∀ s ∈ deviceTexts d, hasSurrogatePair s = false := by
  simp only [readDevice, accessed, bind_eq_ok, mapError_eq_ok, pure_ok, Except.ok.injEq] at hread
  obtain ⟨ip, hip, hostname, hhostname, mac, hmac, vendor, hvendor, system, hsystem, name, hname, domain, hdomain,
    signing, hsigning, descr, hdescr, object, hobject, uptime, huptime, contact, hcontact, location, hlocation,
    services, ⟨v, hv, entries, hentries, hservices⟩, type, -, sources, ⟨w, hw, items, hitems, hsources⟩, rfl⟩ := hread
  have hnone : Loaded py (.arr []) := .arr [] (List.forall_mem_nil _)
  have hservice : ∀ e ∈ services, py.reads e.port ∧ ∀ s ∈ serviceTexts e, hasSurrogatePair s = false := by
    intro e he
    obtain ⟨entry, hentry, hread⟩ := Loaded.items ((h.get hnone hv).list hentries) hservices e he
    exact readService_loaded hentry hread
  have hsource : ∀ s ∈ sources, hasSurrogatePair s = false := by
    intro s hs
    obtain ⟨item, hitem, hread⟩ := Loaded.items ((h.get hnone hw).list hitems) hsources s hs
    exact hitem.text hread
  refine ⟨fun e he => (hservice e he).1, ?_⟩
  unfold deviceTexts
  simp only [List.cons_append, List.forall_mem_cons, List.forall_mem_append, forall_reduceOption, List.forall_mem_flatMap]
  exact ⟨h.textItem hip, ⟨⟨h.optionalItem hhostname, h.optionalItem hmac, h.optionalItem hvendor,
    h.optionalItem hsystem, h.optionalItem hname, h.optionalItem hdomain, h.optionalItem hsigning,
    h.optionalItem hdescr, h.optionalItem hobject, h.optionalItem huptime, h.optionalItem hcontact,
    h.optionalItem hlocation, List.forall_mem_nil _⟩, hsource⟩, fun e he => (hservice e he).2⟩

theorem fromPayload_loaded {document : Json} (h : Loaded py document) {project : SavedProject}
    (hread : fromPayload document = .ok project) :
    persisted project = project ∧ (∀ s ∈ texts project, hasSurrogatePair s = false) ∧
      ∀ d ∈ project.networkGraph.allDevices, ∀ e ∈ d.services, py.reads e.port := by
  simp only [fromPayload, accessed, bind_eq_ok, mapError_eq_ok, pure_ok, Except.ok.injEq] at hread
  obtain ⟨customer, hcustomer, created, -, modified, -, items, ⟨v, hv, hitems⟩, devices, hdevices, rfl⟩ := hread
  have hnone : Loaded py (.arr []) := .arr [] (List.forall_mem_nil _)
  have hdevice : ∀ d ∈ (NetworkGraph.empty.addDevices devices).allDevices,
      (∀ e ∈ d.services, py.reads e.port) ∧ ∀ s ∈ deviceTexts d, hasSurrogatePair s = false := by
    intro d hd
    have hmem := NetworkGraph.mem_of_mem_addDevices devices d hd
    obtain ⟨item, hitem, hread⟩ := Loaded.items ((h.get hnone hv).list hitems) hdevices d hmem
    exact readDevice_loaded hitem hread
  refine ⟨rfl, ?_, fun d hd => (hdevice d hd).1⟩
  unfold texts
  rw [List.forall_mem_cons, List.forall_mem_flatMap]
  exact ⟨h.textItem hcustomer, fun d hd => (hdevice d hd).2⟩

/-- Every project that was loaded, from whatever file, can be saved, and the new file loads as that project. -/
theorem loaded_project_saves (data : Bytes) (project : SavedProject) (h : load py data = .ok project) :
    ∃ data', save py project = some data' ∧ load py data' = .ok project := by
  unfold load at h
  cases hdecode : decodeUtf8 data with
  | error e => simp [hdecode] at h
  | ok text =>
    simp only [hdecode] at h
    cases hdocument : loadsDict py text with
    | error e => simp [hdocument] at h
    | ok document =>
      simp only [hdocument] at h
      have hloaded := loads_loaded asDict_loaded (decodeUtf8_scalar hdecode) hdocument
      obtain ⟨hpersisted, htexts, hports⟩ := fromPayload_loaded hloaded h
      obtain ⟨text', hsave, hascii, hload⟩ := save_eq project htexts hports
      refine ⟨_, hsave, ?_⟩
      unfold load
      rw [decodeUtf8_ascii _ hascii]
      simp only [hload, fromPayload_payload, hpersisted]

/-- A file by another hand: other blanks, a key that comes twice, an escaped pair, and a device that leaves out
most of its fields and those of its service. -/
def foreignFile : Bytes :=
  (str "\x7b\"created_date\":\"2026-01-05 10:00:00\", \"customer_name\":\"x\", \"customer_name\":\"\\ud83d\\ude00\",\n" ++
    str "\"devices\":[\x7b\"services\":[\x7b\"protocol\":\"tcp\", \"port\":443, \"service\":null\x7d],\n" ++
    str "\"ip_address\":\"192.0.2.10\", \"vendor\":\"Acme\"\x7d],\n" ++
    str "\"modified_date\":\"2026-01-05T10:00:00Z\"\x7d").map fun c => byte c.val

theorem loaded_project_saves_sample :
    ∃ project data', load cpython foreignFile = .ok project ∧ save cpython project = some data' ∧
      load cpython data' = .ok project := by
  have hloads : (load cpython foreignFile).toBool = true := by decide +kernel
  cases hload : load cpython foreignFile with
  | error e =>
    rw [hload] at hloads
    cases hloads
  | ok project =>
    obtain ⟨data', hsave, hagain⟩ := loaded_project_saves foreignFile project hload
    exact ⟨project, data', rfl, hsave, hagain⟩

end ProjectSerializer

end NetworkMapper
