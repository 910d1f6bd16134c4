import NetworkMapper.Devtools.ReplayMatches

/-!
# `devices.csv`

The first nine columns are of the device. The last two say what the evidence about its
address comes to.
-/

open Python

namespace NetworkMapper

def IdentityCorroborationState.value : IdentityCorroborationState → Str
  | .weak => str "weak"
  | .probable => str "probable"
  | .confirmed => str "confirmed"
  | .conflicting => str "conflicting"

namespace CsvExporter

inductive Error where
  | presentation (e : PresentationError)
  | unicode (e : UnicodeError)
  deriving DecidableEq

def header : List Str :=
  [str "IP Address", str "Hostname", str "Vendor", str "Device Type", str "Discovery Sources",
    str "SNMP Description", str "SNMP Location", str "SNMP Contact", str "SNMP Uptime",
    str "Canonical Identity State", str "Conflicting Identity Properties"]

def canonicalIdentityState : Option IdentityPresentation → Str
  | none => []
  | some identity => identity.state.value

def conflictingIdentityProperties : Option IdentityPresentation → Str
  | none => []
  | some identity =>
    [ch ','].intercalate ((identity.properties.filter fun p => p.state = .conflicting).map (·.propertyName))

/-- The columns of the device. -/
def deviceColumns (device : Device) : List Str :=
  [device.ipAddress, device.hostname.getD [], device.vendor.getD [], device.deviceType.value,
    [ch ','].intercalate device.discoverySources, device.snmpSysDescr.getD [], device.snmpSysLocation.getD [],
    device.snmpSysContact.getD [], device.snmpSysUptime.getD []]

def row (identityBySubject : Dict Str IdentityPresentation) (device : Device) : List Str :=
  let identity := identityBySubject.get? device.ipAddress
  deviceColumns device ++ [canonicalIdentityState identity, conflictingIdentityProperties identity]

def rows (graph : NetworkGraph) (presentation : CanonicalPresentation) : List (List Str) :=
  let identityBySubject := Dict.empty.setAll (·.subject) presentation.identities
  header :: graph.allDevices.map (row identityBySubject)

end CsvExporter

/-- The bytes that `export` leaves in the file. -/
def CsvExporter.export (py : Interpreter) (project : Project) : Except CsvExporter.Error Bytes := do
  let presentation ← (CanonicalPresentation.fromProject py project).mapError .presentation
  (encodeUtf8 (Csv.writeRows (rows project.networkGraph presentation))).mapError .unicode

/-! ## The identity columns -/

/-- Two observations of the property disagree. -/
def Contradicted (observations : List Observation) (ip name : Str) : Prop :=
  Differ (·.value) (observed observations ip name)

/-- What the two columns say about the evidence. -/
structure TellsEvidence (observations : List Observation) (ip stateCell namesCell : Str) : Prop where
  state : stateCell = [] ∨ ∃ state : IdentityCorroborationState, stateCell = state.value
  blank : stateCell = [] ↔ ∀ o : IdentityObservation, .identity o ∈ observations → o.subject ≠ ip
  conflicting : stateCell = IdentityCorroborationState.conflicting.value ↔ ∃ name, Contradicted observations ip name
  names : ∃ names : List Str, namesCell = [ch ','].intercalate names ∧ names.Pairwise (· < ·) ∧
    ∀ name, name ∈ names ↔ Contradicted observations ip name

namespace CsvExporter

theorem value_ne_nil (state : IdentityCorroborationState) : state.value ≠ [] := by
  cases state <;> decide

theorem value_conflicting (state : IdentityCorroborationState) :
    state.value = IdentityCorroborationState.conflicting.value ↔ state = .conflicting := by
  cases state <;> decide

theorem contradicted_observed {observations : List Observation} {ip name : Str}
    (h : Contradicted observations ip name) :
    ∃ o : IdentityObservation, .identity o ∈ observations ∧ o.subject = ip ∧ o.propertyName = name := by
  -- A property that is not observed has no values that could differ.
  obtain ⟨o, ho, -⟩ := h
  unfold observed at ho
  rw [List.mem_filter, decide_eq_true_eq, mem_identityObservations] at ho
  exact ⟨o, ho.1, ho.2⟩

theorem contradicted_iff {observations : List Observation} {i : CanonicalIdentity} (h : IdentitySpec observations i)
    (name : Str) :
    (∃ p ∈ i.properties, p.state = .conflicting ∧ p.propertyName = name) ↔ Contradicted observations i.subject name := by
  have hspec : ∀ p ∈ i.properties, p.state = .conflicting ↔ Contradicted observations i.subject p.propertyName := by
    intro p hp
    rw [(h.properties p hp).conflicting]
    have hmem : ∀ o, o ∈ p.observations ↔ o ∈ observed observations i.subject p.propertyName := by
      intro o
      rw [← List.count_pos_iff, ← List.count_pos_iff, (h.properties p hp).count o,
        IdentityResolver.count_observed observations i.subject p.propertyName o]
    unfold Contradicted Differ
    simp only [hmem]
  constructor
  · rintro ⟨p, hp, hconflicting, rfl⟩
    exact (hspec p hp).mp hconflicting
  · intro hcontradicted
    obtain ⟨p, hp, rfl⟩ := List.mem_map.mp ((h.mem_properties name).mpr (contradicted_observed hcontradicted))
    exact ⟨p, hp, (hspec p hp).mpr hcontradicted, rfl⟩

theorem tellsEvidence_none {observations : List Observation} {ip : Str}
    (h : ∀ o : IdentityObservation, .identity o ∈ observations → o.subject ≠ ip) :
    TellsEvidence observations ip (canonicalIdentityState none) (conflictingIdentityProperties none) := by
  have hnone : ∀ name, ¬ Contradicted observations ip name := by
    intro name hcontradicted
    obtain ⟨o, ho, hsubject, -⟩ := contradicted_observed hcontradicted
    exact h o ho hsubject
  refine ⟨Or.inl rfl, ⟨fun _ => h, fun _ => rfl⟩, ⟨?_, ?_⟩, [], rfl, List.Pairwise.nil, ?_⟩
  · intro heq
    exact absurd heq.symm (value_ne_nil .conflicting)
  · rintro ⟨name, hcontradicted⟩
    exact absurd hcontradicted (hnone name)
  · intro name
    exact ⟨fun hname => absurd hname List.not_mem_nil, fun hcontradicted => absurd hcontradicted (hnone name)⟩

theorem tellsEvidence_some {observations : List Observation} {i : CanonicalIdentity} (h : IdentitySpec observations i)
    (hsubject : ∃ o : IdentityObservation, .identity o ∈ observations ∧ o.subject = i.subject) (project : Project) :
    TellsEvidence observations i.subject
      (canonicalIdentityState (some (CanonicalPresentation.presentIdentity i project)))
      (conflictingIdentityProperties (some (CanonicalPresentation.presentIdentity i project))) := by
  have hnames : ((CanonicalPresentation.presentIdentity i project).properties.filter fun p => p.state = .conflicting).map
      (·.propertyName) = (i.properties.filter fun p => p.state = .conflicting).map (·.propertyName) := by
    simp only [CanonicalPresentation.presentIdentity, List.filter_map, List.map_map]
    rfl
  refine ⟨Or.inr ⟨_, rfl⟩, ⟨fun hblank => absurd hblank (value_ne_nil _), ?_⟩, ?_,
    (i.properties.filter fun p => p.state = .conflicting).map (·.propertyName), ?_, ?_, ?_⟩
  · intro hnone
    obtain ⟨o, ho, hs⟩ := hsubject
    exact absurd hs (hnone o ho)
  · rw [canonicalIdentityState, value_conflicting]
    refine h.conflicting.trans ⟨?_, ?_⟩
    · rintro ⟨p, hp, hstate⟩
      exact ⟨p.propertyName, (contradicted_iff h _).mp ⟨p, hp, hstate, rfl⟩⟩
    · rintro ⟨name, hcontradicted⟩
      obtain ⟨p, hp, hstate, -⟩ := (contradicted_iff h name).mpr hcontradicted
      exact ⟨p, hp, hstate⟩
  · rw [conflictingIdentityProperties, hnames]
  · exact List.pairwise_map.mpr (h.properties_sorted.filter _)
  · intro name
    rw [← contradicted_iff h name]
    simp only [List.mem_map, List.mem_filter, decide_eq_true_eq, and_assoc]

/-! ## The file -/

/-- What a row says about its device. -/
def Describes (observations : List Observation) (device : Device) (row : List Str) : Prop :=
  ∃ stateCell namesCell, row = deviceColumns device ++ [stateCell, namesCell] ∧
    TellsEvidence observations device.ipAddress stateCell namesCell

theorem row_describes (observations : List Observation) (project : Project)
    (hids : project.canonicalIdentities = IdentityResolver.resolve observations) (device : Device) :
    Describes observations device (row (Dict.empty.setAll (·.subject)
      (project.canonicalIdentities.map fun i => CanonicalPresentation.presentIdentity i project)) device) := by
  have hspec := IdentityResolver.resolve_spec observations
  have hnodup : ((project.canonicalIdentities.map fun i => CanonicalPresentation.presentIdentity i project).map
      (·.subject)).Nodup := by
    rw [List.map_map, hids]
    exact List.pairwise_map.mpr (hspec.sorted.imp fun hlt => ne_of_lt hlt)
  refine ⟨_, _, rfl, ?_⟩
  cases hget : (Dict.empty.setAll (·.subject)
      (project.canonicalIdentities.map fun i => CanonicalPresentation.presentIdentity i project)).get?
      device.ipAddress with
  | none =>
    apply tellsEvidence_none
    intro o ho hsubject
    obtain ⟨i, hi, hs⟩ := List.mem_map.mp ((hspec.mem_subjects _).mpr ⟨o, ho, hsubject⟩)
    have hkey : device.ipAddress ∈ (Dict.empty.setAll (·.subject)
        (project.canonicalIdentities.map fun i => CanonicalPresentation.presentIdentity i project)).keys := by
      rw [Dict.mem_keys_setAll, List.map_map]
      refine Or.inr (List.mem_map.mpr ⟨i, ?_, hs⟩)
      rw [hids]
      exact hi
    obtain ⟨p, hp⟩ := (Dict.mem_keys _ _).mp hkey
    rw [hp] at hget
    cases hget
  | some p =>
    rw [Dict.get?_eq_some, Dict.setAll_entries _ _ hnodup, List.map_map, List.mem_map] at hget
    obtain ⟨i, hi, heq⟩ := hget
    obtain ⟨hip, rfl⟩ := Prod.mk.inj heq
    rw [hids] at hi
    rw [← hip]
    exact tellsEvidence_some (hspec.identities i hi) ((hspec.mem_subjects _).mp (List.mem_map_of_mem hi)) project

theorem rows_describe (py : Interpreter) (graph : NetworkGraph) (observations : List Observation) :
    ∃ project presentation body, Application.project graph observations = .ok project ∧
      CanonicalPresentation.fromProject py project = .ok presentation ∧
      rows project.networkGraph presentation = header :: body ∧
      List.Forall₂ (Describes observations) graph.allDevices body := by
  obtain ⟨relationships, hresolve, -, hspec⟩ := Application.resolve_ok categoryCardinality observations
  let project : Project := ⟨graph, observations, IdentityResolver.resolve observations, relationships⟩
  obtain ⟨out, hout, -⟩ := CanonicalPresentation.presentRelationships_ok py project hspec
  let identities := project.canonicalIdentities.map fun i => CanonicalPresentation.presentIdentity i project
  refine ⟨project, ⟨identities, out⟩, graph.allDevices.map (row (Dict.empty.setAll (·.subject) identities)), ?_, ?_, rfl, ?_⟩
  · rw [Application.project, hresolve]
    rfl
  · rw [CanonicalPresentation.fromProject, hout]
    rfl
  · apply List.forall₂_map_right_iff.mpr
    apply List.forall₂_same.mpr
    intro device _
    exact row_describes observations project rfl device

theorem Describes.scalar {observations : List Observation} {device : Device} {row : List Str}
    (h : Describes observations device row) (hdevice : ∀ field ∈ deviceColumns device, scalarText field)
    (hnames : ∀ o : IdentityObservation, .identity o ∈ observations → scalarText o.propertyName) :
    ∀ field ∈ row, scalarText field := by
  obtain ⟨stateCell, namesCell, rfl, htells⟩ := h
  obtain ⟨names, rfl, -, hcontradicted⟩ := htells.names
  rw [List.forall_mem_append]
  refine ⟨hdevice, List.forall_mem_cons.mpr ⟨?_, List.forall_mem_singleton.mpr ?_⟩⟩
  · rcases htells.state with rfl | ⟨state, rfl⟩
    · exact fun c hc => absurd hc List.not_mem_nil
    · cases state <;> decide
  · refine scalarText_intercalate (by decide) fun name hname => ?_
    obtain ⟨o, ho, -, rfl⟩ := contradicted_observed ((hcontradicted name).mp hname)
    exact hnames o ho

open ReplayObservations in
/-- The file reads back as one row for each device of the graph, in its order. The row has the device, and
says what all the evidence of the run about its address comes to. -/
theorem devices_csv_reads_back (py : Interpreter) (graph : NetworkGraph) (observations : List Observation)
    (hdevices : ∀ device ∈ graph.allDevices, ∀ field ∈ deviceColumns device, scalarText field)
    (hnames : ∀ o : IdentityObservation, .identity o ∈ observations → scalarText o.propertyName)
    (hlimit : ∀ project presentation, Application.project graph observations = .ok project →
      CanonicalPresentation.fromProject py project = .ok presentation →
      ∀ row ∈ rows project.networkGraph presentation, ∀ field ∈ row, field.length ≤ py.csvFieldLimit) :
    ∃ project data text body, Application.project graph observations = .ok project ∧
      CsvExporter.export py project = .ok data ∧ decodeUtf8 data = .ok text ∧
      Csv.readRows py text = .ok (header :: body) ∧ List.Forall₂ (Describes observations) graph.allDevices body := by
  obtain ⟨project, presentation, body, hproject, hpresentation, hrows, hdescribe⟩ :=
    rows_describe py graph observations
  have hbody : ∀ row ∈ body, ∀ field ∈ row, scalarText field := by
    intro row hrow
    obtain ⟨device, hdevice, hrow⟩ := forall₂_mem_right hdescribe row hrow
    exact hrow.scalar (hdevices device hdevice) hnames
  have hback : ReadsBack py (rows project.networkGraph presentation) := by
    refine readsBack_of_scalar py _ ?_ (hlimit project presentation hproject hpresentation)
    rw [hrows]
    exact List.forall_mem_cons.mpr ⟨by decide, hbody⟩
  obtain ⟨data, hencode, hdecode⟩ := (bind_eq_ok _ _ _).mp hback.utf8
  refine ⟨project, data, _, body, hproject, ?_, hdecode, ?_, hdescribe⟩
  · unfold CsvExporter.export
    rw [hpresentation]
    simp only [Except.mapError, ok_bind, hencode]
  · rw [hback.csv, hrows]

/-- Two MAC addresses are claimed for one device. -/
def sampleContradiction : List Observation :=
  [sampleIdentity "192.0.2.10" "02:00:5E:00:53:0A", sampleIdentity "192.0.2.10" "02:00:5E:00:53:0B"]

theorem sampleContradiction_names (o : IdentityObservation) (h : .identity o ∈ sampleContradiction) :
    scalarText o.propertyName := by
  simp only [sampleContradiction, sampleIdentity, List.mem_cons, Observation.identity.injEq, List.not_mem_nil,
    or_false] at h
  rcases h with rfl | rfl <;> decide

theorem devices_csv_reads_back_sample :
    ∃ project data text body, Application.project sampleGraph sampleContradiction = .ok project ∧
      CsvExporter.export cpython project = .ok data ∧ decodeUtf8 data = .ok text ∧
      Csv.readRows cpython text = .ok (header :: body) ∧
      List.Forall₂ (Describes sampleContradiction) sampleGraph.allDevices body := by
  have hrows : ((Application.project sampleGraph sampleContradiction).toOption.bind fun project =>
      (CanonicalPresentation.fromProject cpython project).toOption.map (rows project.networkGraph)) =
      some [header, [str "192.0.2.10", str "lab, \"east\"", [], str "unknown", [], [], [], [], [],
        str "conflicting", str "mac_address"]] := by decide
  refine devices_csv_reads_back cpython sampleGraph sampleContradiction (by decide) sampleContradiction_names ?_
  intro project presentation hproject hpresentation
  simp only [hproject, hpresentation, Except.toOption, Option.bind_some, Option.map_some, Option.some.injEq] at hrows
  rw [hrows]
  decide

end CsvExporter

end NetworkMapper
