import NetworkMapper.Knowledge.MissingFields
import NetworkMapper.Knowledge.Runs
import NetworkMapper.Python.Json.Loaded

/-!
# Observation files that are saved again

Whatever file an observation is read from, it can be written, and it is read back as it is.
-/

open Python

namespace NetworkMapper.Knowledge

namespace ObservationSerializer

variable {py : Interpreter}

/-! ## What is read -/

theorem readService_loaded {entry : Json} (h : Loaded py entry) {e : ObservationServiceEvidence}
    (hread : readService entry = .ok e) : py.reads e.port ∧ ∀ s ∈ e.texts, hasSurrogatePair s = false := by
  simp only [readService, bind_eq_ok, pure_ok, Except.ok.injEq] at hread
  obtain ⟨v, hv, port, hport, protocol, hprotocol, service, hservice, product, hproduct, version, hversion, title, htitle,
    subject, hsubject, issuer, hissuer, realm, hrealm, rfl⟩ := hread
  refine ⟨(h.item hv).number hport, ?_⟩
  unfold ObservationServiceEvidence.texts
  simp only [List.forall_mem_cons, forall_reduceOption]
  exact ⟨h.textItem hprotocol, h.optionalItem hservice, h.optionalItem hproduct, h.optionalItem hversion,
    h.optionalItem htitle, h.optionalItem hsubject, h.optionalItem hissuer, h.optionalItem hrealm,
    List.forall_mem_nil _⟩

theorem readEvidence_loaded {payload : Json} (h : Loaded py payload) {evidence : ObservationEvidence}
    (hread : readEvidence payload = .ok evidence) :
    (∀ e ∈ evidence.services, py.reads e.port) ∧ ∀ s ∈ evidence.texts, hasSurrogatePair s = false := by
  simp only [readEvidence, bind_eq_ok, pure_ok, Except.ok.injEq] at hread
  obtain ⟨system, hsystem, name, hname, domain, hdomain, signing, hsigning, v, hv, items, hitems, sources, hsources, w, hw,
    entries, hentries, services, hservices, rfl⟩ := hread
  have hnone : Loaded py (.arr []) := .arr [] (List.forall_mem_nil _)
  have hservice : ∀ e ∈ services, py.reads e.port ∧ ∀ s ∈ e.texts, hasSurrogatePair s = false := by
    intro e he
    obtain ⟨entry, hentry, hread⟩ := Loaded.items ((h.get hnone hw).list hentries) hservices e he
    exact readService_loaded hentry hread
  have hsource : ∀ s ∈ sources, hasSurrogatePair s = false := by
    intro s hs
    obtain ⟨item, hitem, hread⟩ := Loaded.items ((h.get hnone hv).list hitems) hsources s hs
    exact hitem.text hread
  refine ⟨fun e he => (hservice e he).1, ?_⟩
  unfold ObservationEvidence.texts
  simp only [List.forall_mem_append, List.forall_mem_cons, forall_reduceOption, List.forall_mem_flatMap]
  exact ⟨⟨⟨h.optionalItem hsystem, h.optionalItem hname, h.optionalItem hdomain, h.optionalItem hsigning,
    List.forall_mem_nil _⟩, hsource⟩, fun e he => (hservice e he).2⟩

theorem readReviewEntry_loaded {payload : Json} (h : Loaded py payload) {entry : ObservationReviewEntry}
    (hread : readReviewEntry payload = .ok entry) : ∀ s ∈ entry.texts, hasSurrogatePair s = false := by
  simp only [readReviewEntry, accessed, bind_eq_ok, mapError_eq_ok, pure_ok, Except.ok.injEq] at hread
  obtain ⟨action, -, reviewedAt, hreviewed, notes, ⟨v, hv, hnotes⟩, reference, hreference, rfl⟩ := hread
  have hnone : Loaded py (.str []) := .str [] rfl
  unfold ObservationReviewEntry.texts
  simp only [List.forall_mem_cons, Option.mem_toList]
  exact ⟨h.textItem hreviewed, (h.get hnone hv).text hnotes, h.optionalItem hreference⟩

theorem required_loaded {payload v : Json} {key : Str} (h : Loaded py payload) (hv : required key payload = .ok v) :
    Loaded py v :=
  h.item ((required_eq_ok payload key v).mp hv)

theorem integers_toDict (o : Observation) :
    integers (toDict o) = o.schemaVersion :: o.observationId :: o.evidence.services.map (·.port) := by
  have hoption : ∀ s : Option Str, integers (.ofOption s) = [] := by
    intro s
    cases s <;> rfl
  have hsources : integersItems (o.evidence.discoverySources.map .str) = [] := by
    simp [integersItems_eq, List.flatMap_eq_nil_iff, integers]
  have hservices : integersItems (o.evidence.services.map serviceDict) = o.evidence.services.map (·.port) := by
    rw [integersItems_eq, List.flatMap_map, List.map_eq_flatMap]
    simp [serviceDict, integers, integersMembers, hoption]
  have hreview : integersItems (o.reviewHistory.map reviewEntryDict) = [] := by
    simp [integersItems_eq, List.flatMap_eq_nil_iff, reviewEntryDict, integers, integersMembers, hoption]
  simp [toDict, evidenceDict, scanDict, deviceDict, classificationDict, integers, integersMembers, hoption, hsources,
    hservices, hreview]

theorem readScan_loaded {payload : Json} (h : Loaded py payload) {scan : ObservationScan}
    (hread : readScan payload = .ok scan) :
    hasSurrogatePair scan.profile = false ∧ ∀ s ∈ scan.networkmapperVersion, hasSurrogatePair s = false := by
  simp only [readScan, bind_eq_ok, pure_ok, Except.ok.injEq] at hread
  obtain ⟨profile, hprofile, version, hversion, rfl⟩ := hread
  exact ⟨h.textItem hprofile, h.optionalItem hversion⟩

theorem readDevice_loaded {payload : Json} (h : Loaded py payload) {device : ObservationDevice}
    (hread : readDevice payload = .ok device) :
    (∀ s ∈ device.ip, hasSurrogatePair s = false) ∧ (∀ s ∈ device.hostname, hasSurrogatePair s = false) ∧
      (∀ s ∈ device.vendor, hasSurrogatePair s = false) ∧ ∀ s ∈ device.macAddress, hasSurrogatePair s = false := by
  simp only [readDevice, bind_eq_ok, pure_ok, Except.ok.injEq] at hread
  obtain ⟨ip, hip, hostname, hhostname, vendor, hvendor, mac, hmac, rfl⟩ := hread
  exact ⟨h.optionalItem hip, h.optionalItem hhostname, h.optionalItem hvendor, h.optionalItem hmac⟩

theorem readClassification_loaded {payload : Json} (h : Loaded py payload) {c : ObservationClassification}
    (hread : readClassification payload = .ok c) :
    hasSurrogatePair c.type = false ∧ hasSurrogatePair c.reason = false ∧
      ∀ s ∈ c.matchedRule, hasSurrogatePair s = false := by
  simp only [readClassification, bind_eq_ok, pure_ok, Except.ok.injEq] at hread
  obtain ⟨type, htype, reason, hreason, rule, hrule, rfl⟩ := hread
  exact ⟨h.textItem htype, h.textItem hreason, h.optionalItem hrule⟩

theorem fromDict_loaded {payload : Json} (h : Loaded py payload) {o : Observation} (hread : fromDict payload = .ok o) :
    (∀ n ∈ integers (toDict o), py.reads n) ∧ ∀ s ∈ o.texts, hasSurrogatePair s = false := by
  simp only [fromDict, accessed, bind_eq_ok, mapError_eq_ok, pure_ok, Except.ok.injEq] at hread
  obtain ⟨v₁, hv₁, v₂, hv₂, v₃, hv₃, v₄, hv₄, v₅, hv₅, v₆, hv₆, v₇, hv₇, v₈, hv₈, status, -, entries,
    ⟨v, hv, hentries⟩, history, hhistory, version, hversion, number, hnumber, captured, hcaptured, name, hname, scan,
    hscan, device, hdevice, evidence, hevidence, classification, hclassification, notes, ⟨w, hw, hnotes⟩, rfl⟩ := hread
  have hnone : Loaded py (.arr []) := .arr [] (List.forall_mem_nil _)
  have hempty : Loaded py (.str []) := .str [] rfl
  obtain ⟨hports, hfound⟩ := readEvidence_loaded (required_loaded h hv₇) hevidence
  obtain ⟨hprofile, hscanned⟩ := readScan_loaded (required_loaded h hv₅) hscan
  obtain ⟨hip, hhostname, hvendor, hmac⟩ := readDevice_loaded (required_loaded h hv₆) hdevice
  obtain ⟨htype, hreason, hrule⟩ := readClassification_loaded (required_loaded h hv₈) hclassification
  refine ⟨?_, ?_⟩
  · rw [integers_toDict, List.forall_mem_cons, List.forall_mem_cons, List.forall_mem_map]
    exact ⟨(required_loaded h hv₁).number hversion, (required_loaded h hv₂).number hnumber, hports⟩
  · unfold Observation.texts
    simp only [List.forall_mem_append, List.forall_mem_cons, forall_reduceOption, List.forall_mem_flatMap]
    refine ⟨⟨⟨⟨(required_loaded h hv₃).text hcaptured, (required_loaded h hv₄).textItem hname, hprofile, htype, hreason,
      (h.get hempty hw).text hnotes, List.forall_mem_nil _⟩, hscanned, hip, hhostname, hvendor, hmac, hrule,
      List.forall_mem_nil _⟩, hfound⟩, fun e he => ?_⟩
    obtain ⟨entry, hentry, hread⟩ := Loaded.items ((h.get hnone hv).list hentries) hhistory e he
    exact readReviewEntry_loaded hentry hread

theorem fromJson_loaded {text : Str} (htext : scalarText text) {o : Observation} (h : fromJson py text = .ok o) :
    (∃ text', toJson py o = some text') ∧ ∀ s ∈ o.texts, hasSurrogatePair s = false := by
  unfold fromJson at h
  cases hdocument : loadsDict py text with
  | error e => simp [hdocument] at h
  | ok document =>
    simp only [hdocument, mapError_eq_ok] at h
    obtain ⟨hnumbers, htexts⟩ := fromDict_loaded (loads_loaded asDict_loaded htext hdocument) h
    exact ⟨⟨_, if_pos hnumbers⟩, htexts⟩

end ObservationSerializer

namespace ObservationRepository

/-- Every observation that was loaded, from whatever file, can be saved. The new file loads as that observation,
and no other file changes. -/
theorem loaded_observation_saves (py : Interpreter) (directory : Directory) (observationId : Int) (o : Observation)
    (h : load py directory observationId = .ok o) :
    ∃ directory', save py directory o = some directory' ∧ load py directory' o.observationId = .ok o ∧
      ∀ name, name ≠ fileName o.observationId → directory'.get? name = directory.get? name := by
  have hread : ∃ text, scalarText text ∧ ObservationSerializer.fromJson py text = .ok o := by
    unfold load at h
    cases hfile : directory.get? (fileName observationId) with
    | none => simp [hfile] at h
    | some data =>
      cases hdecode : decodeUtf8 data with
      | error e => simp [hfile, hdecode] at h
      | ok text =>
        simp only [hfile, hdecode, mapError_eq_ok] at h
        exact ⟨text, decodeUtf8_scalar hdecode, h⟩
  obtain ⟨text, htext, hread⟩ := hread
  obtain ⟨⟨text', hwritten⟩, htexts⟩ := ObservationSerializer.fromJson_loaded htext hread
  have hascii := (ObservationSerializer.fromJson_toJson hwritten htexts).1
  have hsave : save py directory o =
      some (directory.set (fileName o.observationId) (text'.map fun c => byte c.val)) := by
    unfold save
    rw [hwritten]
    simp only [Option.bind_eq_bind, Option.bind_some, encodeUtf8_ascii _ hascii, Except.toOption, Option.pure_def]
  obtain ⟨data, hset, hload⟩ := Repository.load_save hsave htexts
  refine ⟨_, hsave, hload _ ?_, fun name hname => ?_⟩
  · rw [hset, Dict.get?_set, if_pos rfl]
  · rw [Dict.get?_set, if_neg fun h => hname h.symm]

/-- A file by another hand: the order, a key that comes twice, an escaped pair and the fields that are left out. -/
def foreignFile : Bytes :=
  (str "\x7b\"observation_id\": 12, \"schema_version\": 1, \"captured_at\": \"x\", \"captured_at\":\"\\ud83d\\ude00\"," ++
    str "\"network\":\x7b\"name\":\"Office\"\x7d,\"scan\":\x7b\"profile\":\"deep\"\x7d,\"device\":\x7b\x7d,\n" ++
    str "\"evidence\":\x7b\"services\":[\x7b\"port\": 80,\"protocol\":\"tcp\"\x7d]\x7d," ++
    str "\"classification\":\x7b\"type\":\"UNKNOWN\",\"reason\":\"\"\x7d\x7d\n").map fun c => byte c.val

/-- The file has the name of another id. -/
def foreignDirectory : Directory := ⟨[(fileName 3, foreignFile)], List.nodup_singleton _⟩

theorem loaded_observation_saves_sample :
    ∃ o directory', load cpython foreignDirectory 3 = .ok o ∧ save cpython foreignDirectory o = some directory' ∧
      load cpython directory' o.observationId = .ok o := by
  have hloads : (load cpython foreignDirectory 3).toBool = true := by decide +kernel
  cases hload : load cpython foreignDirectory 3 with
  | error e =>
    rw [hload] at hloads
    cases hloads
  | ok o =>
    obtain ⟨directory', hsave, hagain, -⟩ := loaded_observation_saves cpython foreignDirectory 3 o hload
    exact ⟨o, directory', rfl, hsave, hagain⟩

end ObservationRepository

end NetworkMapper.Knowledge
