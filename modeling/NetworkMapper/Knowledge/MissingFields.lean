import NetworkMapper.Knowledge.Serializer
import NetworkMapper.Python.Json.Removal

/-!
# Field observations with members missing

`from_dict` guards the members of the top level and the action of a review. The other
members that it needs raise a bare `KeyError`.
-/

open Python

namespace NetworkMapper.Knowledge

/-- `isinstance(e, ObservationSchemaError)` -/
def FromDictError.isSchemaError : FromDictError → Bool
  | .access _ => false
  | _ => true

/-- The schema error is raised, and nothing else. -/
def Rejected {α : Type} (r : Except FromDictError α) : Prop := ∃ e, r = .error e ∧ e.isSchemaError = true

section Rejected

variable {α β : Type}

theorem not_rejected_ok (a : α) : ¬ Rejected (.ok a) := by
  rintro ⟨e, h, -⟩
  cases h

theorem rejected_error (e : FromDictError) : Rejected (α := α) (.error e) ↔ e.isSchemaError = true := by
  constructor
  · rintro ⟨e', h, he⟩
    cases h
    exact he
  · exact fun he => ⟨e, rfl, he⟩

theorem rejected_bind (r : Except FromDictError α) (f : α → Except FromDictError β) :
    Rejected (r >>= f) ↔ Rejected r ∨ ∃ a, r = .ok a ∧ Rejected (f a) := by
  cases r with
  | error e => simp [rejected_error]
  | ok a => simp [not_rejected_ok]

theorem not_rejected_accessed (r : Except AccessError α) : ¬ Rejected (ObservationSerializer.accessed r) := by
  -- An access that fails is a `KeyError` or a `TypeError`.
  cases r with
  | ok a => exact not_rejected_ok a
  | error e => simp [ObservationSerializer.accessed, Except.mapError, rejected_error, FromDictError.isSchemaError]

end Rejected

namespace ObservationSerializer

/-! ## What is read without a default -/

def topLevel : List Str :=
  [str "schema_version", str "observation_id", str "captured_at", str "network", str "scan", str "device",
    str "evidence", str "classification"]

def servicePath (i : Nat) (field : Str) : Path :=
  [.key (str "evidence"), .key (str "services"), .index i, .key field]

def reviewPath (i : Nat) (field : Str) : Path := [.key (str "review_history"), .index i, .key field]

/-- The members that `from_dict` reads without a default. -/
def requiredPaths (o : Observation) : List Path :=
  topLevel.map (fun k => [.key k]) ++
  [[.key (str "network"), .key (str "name")], [.key (str "scan"), .key (str "profile")],
    [.key (str "classification"), .key (str "type")], [.key (str "classification"), .key (str "reason")]] ++
  (List.range o.evidence.services.length).flatMap
    (fun i => [servicePath i (str "port"), servicePath i (str "protocol")]) ++
  (List.range o.reviewHistory.length).flatMap
    fun i => [reviewPath i (str "reviewed_at"), reviewPath i (str "action")]

/-! ## Reviews -/

section Reviews

variable (removed : Path → Bool)

theorem readAction_without (e : ObservationReviewEntry) :
    readAction (without removed (reviewEntryDict e)) =
      if removed [.key (str "action")] then .error (.invalidAction .null) else .ok e.action := by
  -- The action is checked before the rest of a review is read.
  unfold readAction 
  rw [get_without removed (v := .str e.action.value) rfl]
  by_cases hr : removed [.key (str "action")] = true
  · simp [hr, accessed, Except.mapError]
  · simp [hr, accessed, Except.mapError, ObservationStatus.ofValue_value]

theorem reviewedAt_without (e : ObservationReviewEntry) :
    (without removed (reviewEntryDict e)).textItem (str "reviewed_at") =
      if removed [.key (str "reviewed_at")] then .error (.keyError (str "reviewed_at")) else .ok e.reviewedAt := by
  unfold Json.textItem
  rw [item_without removed (v := .str e.reviewedAt) rfl]
  by_cases hr : removed [.key (str "reviewed_at")] = true <;> simp [hr, Json.text]

theorem readReviewEntry_without (e : ObservationReviewEntry) :
    (removed [.key (str "action")] = true →
      readReviewEntry (without removed (reviewEntryDict e)) = .error (.invalidAction .null)) ∧
    (removed [.key (str "action")] = false → removed [.key (str "reviewed_at")] = true →
      readReviewEntry (without removed (reviewEntryDict e)) = .error (.access (.keyError (str "reviewed_at")))) ∧
    (removed [.key (str "action")] = false → removed [.key (str "reviewed_at")] = false →
      ∃ e', readReviewEntry (without removed (reviewEntryDict e)) = .ok e') := by
  unfold readReviewEntry
  rw [readAction_without, reviewedAt_without]
  refine ⟨fun h => ?_, fun h h' => ?_, fun h h' => ?_⟩
  · simp [h]
  · simp [h, h', accessed, Except.mapError]
  · have hnotes : ∃ s, ((without removed (reviewEntryDict e)).get (str "notes") (.str []) >>= Json.text) = .ok s := by
      rw [get_without removed (v := .str e.notes) rfl]
      by_cases hr : removed [.key (str "notes")] = true <;> simp [hr, Json.text]
    have hreference : ∃ s, (without removed (reviewEntryDict e)).optionalItem (str "reference") = .ok s := by
      unfold Json.optionalItem
      rw [get_without removed (v := .ofOption e.reference) rfl]
      by_cases hr : removed [.key (str "reference")] = true
      · simp [hr, Json.optionalText]
      · cases e.reference <;> simp [hr, Json.optionalText, Json.ofOption, without]
    obtain ⟨notes, hnotes⟩ := hnotes
    obtain ⟨reference, hreference⟩ := hreference
    refine ⟨⟨e.reviewedAt, e.action, notes, reference⟩, ?_⟩
    simp only [h, h', hnotes, hreference, accessed, Except.mapError, Bool.false_eq_true, if_false, ok_bind, pure_ok]

theorem rejected_reviews (i : Nat) (entries : List ObservationReviewEntry) :
    Rejected ((withoutItems removed i (entries.map reviewEntryDict)).mapM readReviewEntry) ↔
      ∃ j < entries.length, removed [.index (i + j), .key (str "action")] = true ∧
        ∀ k < j, removed [.index (i + k), .key (str "reviewed_at")] = false := by
  -- The first review that lacks something lacks its action.
  induction entries generalizing i with
  | nil => simp [withoutItems, not_rejected_ok]
  | cons e entries ih =>
    obtain ⟨hno, hlate, hkept⟩ := readReviewEntry_without (under removed (.index i)) e
    rw [List.map_cons, withoutItems, List.mapM_cons, List.length_cons, Nat.exists_lt_succ_left]
    simp only [Nat.forall_lt_succ_left, Nat.not_lt_zero, false_implies, implies_true, and_true, Nat.add_zero]
    cases haction : removed [.index i, .key (str "action")] with
    | true =>
      rw [hno haction]
      simp [rejected_error, FromDictError.isSchemaError]
    | false =>
      cases hreviewed : removed [.index i, .key (str "reviewed_at")] with
      | true =>
        rw [hlate haction hreviewed]
        simp [rejected_error, FromDictError.isSchemaError]
      | false =>
        obtain ⟨e', he⟩ := hkept haction hreviewed
        rw [he, ok_bind, rejected_bind, ih (i + 1)]
        simp [not_rejected_ok, Nat.add_assoc, Nat.add_comm 1]

end Reviews

/-! ## The whole payload -/

section Payload

variable {o : Observation} {removed : Path → Bool}

theorem review_history_required (o : Observation) : [Step.key (str "review_history")] ∉ requiredPaths o := by
  simp [requiredPaths, topLevel, servicePath, reviewPath]
  decide

theorem reviewPath_required {i : Nat} (h : reviewPath i (str "action") ∈ requiredPaths o) :
    i < o.reviewHistory.length := by
  have hreview : ∃ j < o.reviewHistory.length, i = j ∧ str "action" = str "reviewed_at" ∨ i = j := by
    simpa [requiredPaths, topLevel, servicePath, reviewPath] using h
  obtain ⟨j, hj, ⟨rfl, -⟩ | rfl⟩ := hreview <;> exact hj

theorem rejected_required {α : Type} {value : Json} {k : Str} (v : Json) (h : value.item k = .ok v)
    (f : Json → Except FromDictError α) :
    Rejected (required k (without removed value) >>= f) ↔
      removed [.key k] = true ∨ Rejected (f (without (under removed (.key k)) v)) := by
  unfold required
  rw [item_without removed h]
  by_cases hr : removed [.key k] = true
  · simp [hr, rejected_error, FromDictError.isSchemaError]
  · simp [hr]

theorem readStatus_without (o : Observation) (removed : Path → Bool) :
    ∃ status, readStatus (without removed (toDict o)) = .ok status := by
  unfold readStatus
  rw [get_without removed (v := .str o.status.value) rfl]
  by_cases hr : removed [.key (str "status")] = true
  · exact ⟨.new, by simp [hr, accessed, Except.mapError, ObservationStatus.ofValue_value]⟩
  · exact ⟨o.status, by simp [hr, accessed, Except.mapError, ObservationStatus.ofValue_value]⟩

theorem reviewHistory_without (o : Observation) (h : removed [.key (str "review_history")] = false) :
    (without removed (toDict o)).get (str "review_history") (.arr []) =
      .ok (.arr (withoutItems (under removed (.key (str "review_history"))) 0
        (o.reviewHistory.map reviewEntryDict))) := by
  rw [get_without removed (v := .arr (o.reviewHistory.map reviewEntryDict)) rfl]
  simp [h]

/-- `from_dict` looks at the members of the top level, then at the reviews, and after them it raises no schema
error. -/
theorem fromDict_rejected (o : Observation) (h : removed [.key (str "review_history")] = false) :
    Rejected (fromDict (without removed (toDict o))) ↔
      (∃ k ∈ topLevel, removed [.key k] = true) ∨
        ∃ i < o.reviewHistory.length, removed (reviewPath i (str "action")) = true ∧
          ∀ j < i, removed (reviewPath j (str "reviewed_at")) = false := by
  obtain ⟨status, hstatus⟩ := readStatus_without o removed
  have hreviews := rejected_reviews (under removed (.key (str "review_history"))) 0 o.reviewHistory
  unfold fromDict
  rw [rejected_required (.int o.schemaVersion) rfl, rejected_required (.int o.observationId) rfl,
    rejected_required (.str o.capturedAt) rfl, rejected_required (.obj [(str "name", .str o.network.name)]) rfl,
    rejected_required (scanDict o.scan) rfl, rejected_required (deviceDict o.device) rfl,
    rejected_required (evidenceDict o.evidence) rfl, rejected_required (classificationDict o.classification) rfl,
    hstatus, ok_bind, reviewHistory_without o h, ok_bind, Json.list, accessed, Except.mapError, ok_bind, rejected_bind,
    hreviews]
  simp only [rejected_bind, not_rejected_accessed, pure_ok, not_rejected_ok, and_false, exists_false, or_false, topLevel,
    List.exists_mem_cons_iff, List.not_mem_nil, false_and, under, reviewPath, Nat.zero_add, or_assoc]

/-- `from_dict` raises the schema error for missing members exactly when one of them is of the top level, or
when the first review that lacks a member lacks its action. -/
theorem missing_rejected_iff (o : Observation) (removed : Path → Bool)
    (hremoved : ∀ path, removed path = true → path ∈ requiredPaths o) :
    Rejected (fromDict (without removed (toDict o))) ↔
      (∃ k ∈ topLevel, removed [.key k] = true) ∨
        ∃ i, removed (reviewPath i (str "action")) = true ∧
          ∀ j < i, removed (reviewPath j (str "reviewed_at")) = false := by
  have hhistory : removed [.key (str "review_history")] = false := by
    rw [← Bool.not_eq_true]
    exact fun h => review_history_required o (hremoved _ h)
  rw [fromDict_rejected o hhistory]
  refine or_congr_right (exists_congr fun i => ?_)
  constructor
  · rintro ⟨-, h⟩
    exact h
  · intro h
    exact ⟨reviewPath_required (hremoved _ h.1), h⟩

def networkName : Path := [.key (str "network"), .key (str "name")]

theorem missing_rejected_iff_sample :
    Rejected (fromDict (without (fun path => path = networkName) (toDict sampleObservation))) ↔
      (∃ k ∈ topLevel, decide ([Step.key k] = networkName) = true) ∨
        ∃ i, decide (reviewPath i (str "action") = networkName) = true ∧
          ∀ j < i, decide (reviewPath j (str "reviewed_at") = networkName) = false :=
  missing_rejected_iff sampleObservation (fun path => path = networkName) fun path h => by
    rw [of_decide_eq_true h]
    simp [requiredPaths, networkName]

/-- The name of the network is required, and without it there is a `KeyError`. -/
theorem missing_name_is_key_error :
    (∀ path, decide (path = networkName) = true → path ∈ requiredPaths sampleObservation) ∧
      fromDict (without (fun path => path = networkName) (toDict sampleObservation)) =
        .error (.access (.keyError (str "name"))) ∧
      ¬ Rejected (fromDict (without (fun path => path = networkName) (toDict sampleObservation))) := by
  have herror : fromDict (without (fun path => path = networkName) (toDict sampleObservation)) =
      .error (.access (.keyError (str "name"))) := rfl
  refine ⟨?_, herror, ?_⟩
  · intro path h
    rw [of_decide_eq_true h]
    simp [requiredPaths, networkName]
  · rw [herror, rejected_error]
    decide

/-! ## Nothing is built -/

theorem required_eq_ok (value : Json) (k : Str) (v : Json) : required k value = .ok v ↔ value.item k = .ok v := by
  unfold required
  split <;> simp [*]

theorem readService_ok {e : ObservationServiceEvidence} {e' : ObservationServiceEvidence}
    (h : readService (without removed (serviceDict e)) = .ok e') :
    removed [.key (str "port")] = false ∧ removed [.key (str "protocol")] = false := by
  unfold readService at h
  simp only [bind_eq_ok] at h
  obtain ⟨port, hport, -, -, protocol, hprotocol, -⟩ := h
  exact ⟨(item_without_ok removed (v := .int e.port) rfl hport).1,
    textItem_without_ok removed (v := .str e.protocol) rfl hprotocol⟩

theorem readEvidence_ok {e e' : ObservationEvidence} (hservices : removed [.key (str "services")] = false)
    (h : readEvidence (without removed (evidenceDict e)) = .ok e') (i : Nat) (hi : i < e.services.length) :
    removed [.key (str "services"), .index i, .key (str "port")] = false ∧
      removed [.key (str "services"), .index i, .key (str "protocol")] = false := by
  unfold readEvidence at h
  rw [get_without removed (k := str "services") (v := .arr (e.services.map serviceDict)) rfl] at h
  simp only [bind_eq_ok, hservices, Bool.false_eq_true, if_false, without_arr, Json.list, Except.ok.injEq,
    exists_eq_left'] at h
  obtain ⟨-, -, -, -, -, -, -, -, -, -, -, -, -, -, services, hread, -⟩ := h
  obtain ⟨a, b, hb⟩ := mapM_withoutItems _ hread i hi
  rw [Nat.zero_add] at hb
  exact readService_ok hb

theorem readReviewEntry_ok {e e' : ObservationReviewEntry}
    (h : readReviewEntry (without removed (reviewEntryDict e)) = .ok e') :
    removed [.key (str "action")] = false ∧ removed [.key (str "reviewed_at")] = false := by
  obtain ⟨hno, hlate, -⟩ := readReviewEntry_without removed e
  cases haction : removed [.key (str "action")] with
  | true => simp [hno haction] at h
  | false =>
    cases hreviewed : removed [.key (str "reviewed_at")] with
    | true => simp [hlate haction hreviewed] at h
    | false => exact ⟨rfl, rfl⟩

theorem services_required (o : Observation) :
    [Step.key (str "evidence"), Step.key (str "services")] ∉ requiredPaths o := by
  simp [requiredPaths, topLevel, servicePath, reviewPath]
  decide

theorem readClassification_ok {c c' : ObservationClassification}
    (h : readClassification (without removed (classificationDict c)) = .ok c') :
    removed [.key (str "type")] = false ∧ removed [.key (str "reason")] = false := by
  unfold readClassification at h
  simp only [bind_eq_ok] at h
  obtain ⟨type, htype, reason, hreason, -⟩ := h
  exact ⟨textItem_without_ok removed (v := .str c.type) rfl htype,
    textItem_without_ok removed (v := .str c.reason) rfl hreason⟩

theorem readScan_ok {scan scan' : ObservationScan} (h : readScan (without removed (scanDict scan)) = .ok scan') :
    removed [.key (str "profile")] = false := by
  unfold readScan at h
  obtain ⟨profile, hprofile, -⟩ := (bind_eq_ok _ _ _).mp h
  exact textItem_without_ok removed (v := .str scan.profile) rfl hprofile

theorem missing_builds_nothing (o o' : Observation) (removed : Path → Bool)
    (hremoved : ∀ path, removed path = true → path ∈ requiredPaths o)
    (h : fromDict (without removed (toDict o)) = .ok o') : ∀ path, removed path = false := by
  have hkept : ∀ path, path ∉ requiredPaths o → removed path = false := by
    intro path hpath
    rw [← Bool.not_eq_true]
    exact fun hr => hpath (hremoved path hr)
  unfold fromDict at h
  simp only [bind_eq_ok, accessed, mapError_eq_ok, required_eq_ok,
    reviewHistory_without o (hkept _ (review_history_required o)), Json.list, Except.ok.injEq, exists_eq_left'] at h
  obtain ⟨_, hschema', _, hid', _, hcaptured', network, hnetwork', scan, hscan', _, hdevice', evidence, hevidence',
    classification, hclassification', -, -, history, hhistory, -, -, -, -, -, -, name, hname', _, hreadScan, -, -, _,
    hreadEvidence, _, hreadClassification, -⟩ := h
  obtain ⟨hnetwork, rfl⟩ := item_without_ok removed (v := .obj [(str "name", .str o.network.name)]) rfl hnetwork'
  obtain ⟨hscan, rfl⟩ := item_without_ok removed (v := scanDict o.scan) rfl hscan'
  obtain ⟨hevidence, rfl⟩ := item_without_ok removed (v := evidenceDict o.evidence) rfl hevidence'
  obtain ⟨hclassification, rfl⟩ :=
    item_without_ok removed (v := classificationDict o.classification) rfl hclassification'
  have hschema := (item_without_ok removed (v := .int o.schemaVersion) rfl hschema').1
  have hid := (item_without_ok removed (v := .int o.observationId) rfl hid').1
  have hcaptured := (item_without_ok removed (v := .str o.capturedAt) rfl hcaptured').1
  have hdevice := (item_without_ok removed (v := deviceDict o.device) rfl hdevice').1
  have hname := textItem_without_ok _ (v := .str o.network.name) rfl hname'
  have hprofile := readScan_ok hreadScan
  have hlist : under removed (.key (str "evidence")) [.key (str "services")] = false := hkept _ (services_required o)
  have hservices := readEvidence_ok hlist hreadEvidence
  obtain ⟨htype, hreason⟩ := readClassification_ok hreadClassification
  have hreviews : ∀ i < o.reviewHistory.length, removed (reviewPath i (str "action")) = false ∧
      removed (reviewPath i (str "reviewed_at")) = false := by
    intro i hi
    obtain ⟨a, b, hb⟩ := mapM_withoutItems _ hhistory i hi
    rw [Nat.zero_add] at hb
    exact readReviewEntry_ok hb
  have hrequired : ∀ path ∈ requiredPaths o, removed path = false := by
    unfold requiredPaths topLevel
    simp only [List.forall_mem_append, List.forall_mem_map, List.forall_mem_cons, List.forall_mem_flatMap,
      List.mem_range]
    refine ⟨⟨⟨⟨hschema, hid, hcaptured, hnetwork, hscan, hdevice, hevidence, hclassification, List.forall_mem_nil _⟩,
      hname, hprofile, htype, hreason, List.forall_mem_nil _⟩, fun i hi => ?_⟩, fun i hi => ?_⟩
    · exact ⟨(hservices i hi).1, (hservices i hi).2, List.forall_mem_nil _⟩
    · exact ⟨(hreviews i hi).2, (hreviews i hi).1, List.forall_mem_nil _⟩
  intro path
  by_cases hpath : path ∈ requiredPaths o
  · exact hrequired path hpath
  · exact hkept path hpath

end Payload

end ObservationSerializer

end NetworkMapper.Knowledge
