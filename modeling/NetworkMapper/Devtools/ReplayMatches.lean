import NetworkMapper.Devtools.ReplayObservations
import NetworkMapper.Observations.ReplayRoundTrip
import NetworkMapper.Reporting.PresentationSpec

/-!
# A run replays as it was

The exporter goes through the presentation and its groups, the replay through its
own rows. Both write one row for each resolved relationship, in the resolver's order.
-/

open Python

namespace NetworkMapper

/-! ## What the exporter writes -/

namespace RelationshipCsvExporter

/-- The row that a relationship comes to, whatever group it is in. -/
def relationshipRow (graph : NetworkGraph) (r : CanonicalRelationship) : List Str :=
  [r.subject, hostname (graph.getDevice r.subject), r.category, r.relatedSubject,
    hostname (graph.getDevice r.relatedSubject), r.state.value, joinTokens r.observations]

variable {policy : CardinalityPolicy} {observations : List Observation} {identities : List CanonicalIdentity}
  {relationships : List CanonicalRelationship}

/-- The presentation of resolved relationships raises nothing. Its rows are the relationships. -/
theorem rows_ok (py : Interpreter) (project : Project)
    (h : RelationshipsSpec policy observations identities project.canonicalRelationships) :
    ∃ presentation, CanonicalPresentation.fromProject py project = .ok presentation ∧
      rows presentation =
        header :: project.canonicalRelationships.map (relationshipRow project.networkGraph) := by
  obtain ⟨out, hout, hall⟩ := CanonicalPresentation.presentRelationships_ok py project h
  have hgroups : out.map (fun p => p.related.map (row p)) =
      (groupBy (fun r => (r.subject, r.category)) project.canonicalRelationships).map fun g =>
        g.2.map (relationshipRow project.networkGraph) := by
    apply forall₂_map_eq hall
    intro g hg p hp
    rw [hp.related, List.map_map]
    apply List.map_congr_left
    intro r hr
    -- The members of a group have its subject and category.
    rw [((mem_groupBy _ _ _).mp hg).2, List.mem_filter, decide_eq_true_eq] at hr
    simp only [Function.comp, row, relationshipRow, CanonicalPresentation.presentRelated, provenanceCell, hp.subject,
      hp.category, hp.device, ← hr.2]
  have hfrom : CanonicalPresentation.fromProject py project =
      .ok ⟨project.canonicalIdentities.map fun i => CanonicalPresentation.presentIdentity i project, out⟩ := by
    rw [CanonicalPresentation.fromProject, hout]
    rfl
  refine ⟨_, hfrom, ?_⟩
  rw [rows, List.flatMap_def, hgroups, ← List.flatMap_def, ← List.map_flatMap,
    CanonicalPresentation.flatten_groups h]

end RelationshipCsvExporter

/-! ## What the replay reads -/

namespace ReplayObservations

theorem parseRows_map (graph : NetworkGraph) (relationships : List CanonicalRelationship) (lineNumber : Nat) :
    parseRows lineNumber (relationships.map (RelationshipCsvExporter.relationshipRow graph)) =
      .ok (relationshipRows relationships) := by
  induction relationships generalizing lineNumber with
  | nil => rfl
  | cons r relationships ih =>
    rw [List.map_cons, RelationshipCsvExporter.relationshipRow, parseRows, ih]
    rfl

theorem replayObservations_ok (py : Interpreter) (observations : List Observation)
    (hpairs : ∀ o ∈ observations, ∀ t ∈ o.texts, hasSurrogatePair t = false) (source : Str)
    (relationships : List CanonicalRelationship)
    (hresolve : RelationshipResolver.resolve categoryCardinality observations (IdentityResolver.resolve observations) =
      .ok relationships) :
    ∃ replay, replayObservations py ((ReplayFormat.artifact py observations).map fun c => byte c.val) source =
        .ok replay ∧
      replay.identities = IdentityResolver.resolve observations ∧ replay.relationships = relationships := by
  -- The observations come back in another order, and resolve as before.
  obtain ⟨reread, hreread, hperm⟩ : ∃ reread, ReplayFormat.parseObservations py
      (.bytes ((ReplayFormat.artifact py observations).map fun c => byte c.val)) source = .ok reread ∧
      reread.Perm observations :=
    ⟨_, ReplayFormat.parse_serialize_kept py observations hpairs source, sortedBy_perm _ observations⟩
  have hids := identities_of_perm hperm
  have hrels := relationships_of_perm hperm (List.Perm.of_eq hids) categoryCardinality
  refine ⟨⟨reread, IdentityResolver.resolve reread, relationships⟩, ?_, hids, rfl⟩
  unfold replayObservations
  rw [hreread]
  simp only [Except.mapError, ok_bind, hrels, hresolve, pure_ok]

/-- What is assumed of the library for the rows of one file: UTF-8 and the `csv` reader give back what
was written. -/
structure ReadsBack (py : Interpreter) (rows : List (List Str)) : Prop where
  utf8 : (encodeUtf8 (Csv.writeRows rows) >>= decodeUtf8) = .ok (Csv.writeRows rows)
  csv : Csv.readRows py (Csv.writeRows rows) = .ok rows

theorem readsBack_of_scalar (py : Interpreter) (rows : List (List Str))
    (hscalar : ∀ row ∈ rows, ∀ field ∈ row, scalarText field)
    (hlimit : ∀ row ∈ rows, ∀ field ∈ row, field.length ≤ py.csvFieldLimit) : ReadsBack py rows := by
  have htext : scalarText (Csv.writeRows rows) := by
    have hadded : scalarText Csv.added := by decide
    intro c hc
    rcases Csv.mem_writeRows rows c hc with hc | ⟨row, hrow, field, hfield, hc⟩
    · exact hadded c hc
    · exact hscalar row hrow field hfield c hc
  obtain ⟨data, hencode⟩ := encodeUtf8_scalar (Csv.writeRows rows) htext
  refine ⟨?_, Csv.readRows_writeRows py rows hlimit⟩
  rw [hencode, ok_bind, decodeUtf8_encodeUtf8 _ data hencode]

theorem readRelationshipsCsv_exported (py : Interpreter) (project : Project) (presentation : CanonicalPresentation)
    (hpresentation : CanonicalPresentation.fromProject py project = .ok presentation)
    (hrows : RelationshipCsvExporter.rows presentation = RelationshipCsvExporter.header ::
      project.canonicalRelationships.map (RelationshipCsvExporter.relationshipRow project.networkGraph))
    (hreads : ReadsBack py (RelationshipCsvExporter.rows presentation)) :
    ∃ data, RelationshipCsvExporter.export py project = .ok data ∧
      readRelationshipsCsv py data = .ok (relationshipRows project.canonicalRelationships) := by
  obtain ⟨data, hencode, hdecode⟩ := (bind_eq_ok _ _ _).mp hreads.utf8
  refine ⟨data, ?_, ?_⟩
  · unfold RelationshipCsvExporter.export
    rw [hpresentation]
    simp only [Except.mapError, ok_bind, hencode]
  · have hheader : RelationshipCsvExporter.header = expectedCsvHeader := rfl
    unfold readRelationshipsCsv
    rw [hdecode]
    simp only [Except.mapError, ok_bind, hreads.csv]
    rw [hrows]
    simp only [hheader, ne_eq, not_true_eq_false, if_false, parseRows_map]

end ReplayObservations

/-- The project of a run, as `Application.run` builds it. -/
def Application.project (graph : NetworkGraph) (observations : List Observation) : Except RelationshipError Project := do
  let (identities, relationships) ← Application.resolve categoryCardinality observations
  return ⟨graph, observations, identities, relationships⟩

open ReplayObservations in
/-- Writing the two files of a run and replaying them gives the identities, the relationships and the
rows of the run, in order, and the exit code for a match. -/
theorem run_replays (py : Interpreter) (observations : List Observation)
    (hscalar : ∀ o ∈ observations, ∀ t ∈ o.texts, scalarText t) (graph : NetworkGraph)
    (hreads : ∀ project presentation, Application.project graph observations = .ok project →
      CanonicalPresentation.fromProject py project = .ok presentation →
      ReadsBack py (RelationshipCsvExporter.rows presentation))
    (path observationsPath : Str) :
    ∃ project observationsJson relationshipsCsv replay comparison,
      Application.project graph observations = .ok project ∧
      ReplayFormat.serializeObservations py project.observations = .ok observationsJson ∧
      RelationshipCsvExporter.export py project = .ok relationshipsCsv ∧
      runReplayCommand py ⟨path, observationsPath, true, some observationsJson, some relationshipsCsv⟩ =
        .ok { exitCode := exitMatch, replay := some replay, comparison := some comparison } ∧
      replay.identities = project.canonicalIdentities ∧ replay.relationships = project.canonicalRelationships ∧
      comparison.csvRows = comparison.replayedRows ∧
      comparison.replayedRows = relationshipRows project.canonicalRelationships := by
  obtain ⟨relationships, hresolve, hspec⟩ :=
    RelationshipResolver.resolve_ok categoryCardinality observations (IdentityResolver.resolve observations)
  have hproject : Application.project graph observations =
      .ok ⟨graph, observations, IdentityResolver.resolve observations, relationships⟩ := by
    unfold Application.project Application.resolve
    simp only [hresolve, ok_bind, pure_ok]
  obtain ⟨presentation, hpresentation, hrows⟩ := RelationshipCsvExporter.rows_ok py
    ⟨graph, observations, IdentityResolver.resolve observations, relationships⟩ hspec
  obtain ⟨csv, hexport, hread⟩ := readRelationshipsCsv_exported py _ presentation hpresentation hrows
    (hreads _ _ hproject hpresentation)
  have hpairs : ∀ o ∈ observations, ∀ t ∈ o.texts, hasSurrogatePair t = false :=
    fun o ho t ht => no_pair_of_scalar t (hscalar o ho t ht)
  obtain ⟨replay, hreplay, hids, hrels⟩ :=
    replayObservations_ok py observations hpairs observationsPath relationships hresolve
  have hcompare : compareWithRelationshipsCsv py replay.relationships csv =
      .ok (compareRows (relationshipRows relationships) (relationshipRows relationships)) := by
    unfold compareWithRelationshipsCsv
    rw [hread, hrels]
    rfl
  refine ⟨_, _, csv, replay, compareRows (relationshipRows relationships) (relationshipRows relationships), hproject,
    ReplayFormat.serializeObservations_ok py observations, hexport, ?_, hids, hrels, rfl, rfl⟩
  unfold runReplayCommand replayAndCompare
  simp only [Bool.not_true, Bool.false_eq_true, if_false, hreplay, hcompare, ok_bind, pure_ok]
  simp [RelationshipComparison.matches, compareRows]

/-- One relationship, and a MAC address for each end of it. -/
def sampleRun : List Observation :=
  [sampleRelationship "192.0.2.1" "192.0.2.10", sampleIdentity "192.0.2.1" "02:00:5E:00:53:0A",
    sampleIdentity "192.0.2.10" "02:00:5E:00:53:0B"]

/-- A host name that the writer has to quote. -/
def sampleGraph : NetworkGraph :=
  NetworkGraph.empty.addDevice { ipAddress := str "192.0.2.10", hostname := some (str "lab, \"east\"") }

open ReplayObservations in
theorem run_replays_sample :
    ∃ project observationsJson relationshipsCsv replay comparison,
      Application.project sampleGraph sampleRun = .ok project ∧
      ReplayFormat.serializeObservations cpython project.observations = .ok observationsJson ∧
      RelationshipCsvExporter.export cpython project = .ok relationshipsCsv ∧
      runReplayCommand cpython ⟨str "run", str "run/observations.json", true, some observationsJson,
        some relationshipsCsv⟩ = .ok { exitCode := exitMatch, replay := some replay, comparison := some comparison } ∧
      replay.identities = project.canonicalIdentities ∧ replay.relationships = project.canonicalRelationships ∧
      comparison.csvRows = comparison.replayedRows ∧
      comparison.replayedRows = relationshipRows project.canonicalRelationships := by
  have hrows : ((Application.project sampleGraph sampleRun).toOption.bind fun project =>
      (CanonicalPresentation.fromProject cpython project).toOption.map RelationshipCsvExporter.rows) =
      some [RelationshipCsvExporter.header, [str "192.0.2.1", [], str "arp_neighbor", str "192.0.2.10",
        str "lab, \"east\"", str "weak", str "snmp/ipNetToPhysicalTable"]] := by decide
  refine run_replays cpython sampleRun (by decide) sampleGraph ?_ (str "run") (str "run/observations.json")
  intro project presentation hproject hpresentation
  simp only [hproject, hpresentation, Except.toOption, Option.bind_some, Option.map_some, Option.some.injEq] at hrows
  rw [hrows]
  exact readsBack_of_scalar cpython _ (by decide) (by decide)

end NetworkMapper
