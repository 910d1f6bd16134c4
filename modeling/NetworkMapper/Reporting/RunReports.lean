import NetworkMapper.Developer.ClassificationWorkbench
import NetworkMapper.Reporting.ReportRun
import NetworkMapper.Stores.Writes

/-!
# The files of a run

The evidence comes first. It is on the disk as a whole before a file that is made from it.
-/

open Python Stores

namespace NetworkMapper

/-! ## Writing a text -/

/-- The bytes of the parts up to one that cannot be encoded, and whether there is none. -/
def encodeParts : List Str → Bytes × Bool
  | [] => ([], true)
  | part :: parts =>
    match encodeUtf8 part with
    | .error _ => ([], false)
    | .ok data => (data ++ (encodeParts parts).1, (encodeParts parts).2)

theorem encodeUtf8_append {text text' : Str} {data data' : Bytes} (h : encodeUtf8 text = .ok data)
    (h' : encodeUtf8 text' = .ok data') : encodeUtf8 (text ++ text') = .ok (data ++ data') := by
  unfold encodeUtf8 at h h' ⊢
  rw [bind_eq_ok] at h h'
  obtain ⟨chunks, hchunks, heq⟩ := h
  obtain ⟨chunks', hchunks', heq'⟩ := h'
  cases heq
  cases heq'
  rw [List.mapM_append, hchunks, hchunks']
  simp only [ok_bind, pure_ok, List.flatten_append]

theorem encodeParts_returns (parts : List Str) (h : (encodeParts parts).2 = true) :
    encodeUtf8 parts.flatten = .ok (encodeParts parts).1 := by
  induction parts with
  | nil => rfl
  | cons part parts ih =>
    rw [encodeParts] at h ⊢
    cases hpart : encodeUtf8 part with
    | error e =>
      rw [hpart] at h
      cases h
    | ok data =>
      rw [hpart] at h
      exact encodeUtf8_append hpart (ih h)

def textWrite (path : List Str) (parts : List Str) : FileWrite (List Str) Byte :=
  ⟨path, (encodeParts parts).1, (encodeParts parts).2⟩

namespace Application

def customerName : Str := str "Test Network"

def networkMapperVersion : Str := str "0.1.0"

def outputRoot : List Str := [str "output"]

def workbenchPath : List Str := outputRoot ++ [customerName ++ str ".workbench.txt"]

def projectPath : List Str := outputRoot ++ [str "Test Network.nmproj"]

/-- What a run of the application has when it comes to its reports. -/
structure ReportedRun where
  graph : NetworkGraph
  observations : List Observation
  scanProfile : ScanProfile
  workbench : Bool
  createdDate : DateTime
  modifiedDate : DateTime
  generatedAt : DateTime

namespace ReportedRun

variable (py : Interpreter) (u : Unicode) (percentage : Nat → Nat → Str) (run : ReportedRun)

def project : Except RelationshipError SavedProject := do
  let project ← Application.project run.graph run.observations
  return { project with customerName := customerName, createdDate := run.createdDate, modifiedDate := run.modifiedDate }

def metadata : RunMetadata where
  scanProfile := run.scanProfile
  customerName := customerName
  version := some networkMapperVersion
  generatedAt := run.generatedAt
  deviceCount := run.graph.allDevices.length

def paths : ReportRunPaths := buildReportRunPaths outputRoot run.metadata

def workbenchWrites (project : SavedProject) : List (FileWrite (List Str) Byte) :=
  if run.workbench then [textWrite workbenchPath [ClassificationWorkbench.generate u project.toProject]] else []

def observationsWrite (payload : Bytes) : FileWrite (List Str) Byte := ⟨run.paths.observationsJsonPath, payload, true⟩

/-- `ProjectSerializer.save` -/
def projectWrite (project : SavedProject) : FileWrite (List Str) Byte :=
  ⟨projectPath, (ProjectSerializer.save py project).getD [], (ProjectSerializer.save py project).isSome⟩

/-- The files after `observations.json`. -/
def laterWrites (project : SavedProject) : List (FileWrite (List Str) Byte) :=
  match CanonicalPresentation.fromProject py project.toProject,
    MarkdownExporter.report py u percentage project (some run.metadata) with
  | .ok presentation, .ok report =>
    [textWrite run.paths.csvPath ((CsvExporter.rows project.networkGraph presentation).map Csv.writeRow),
      textWrite run.paths.relationshipsCsvPath ((RelationshipCsvExporter.rows presentation).map Csv.writeRow),
      textWrite run.paths.markdownPath [report],
      projectWrite py project]
  | _, _ => []

/-- All files of the run, in the order of their writing. An exception between two files ends the list. -/
def writes : List (FileWrite (List Str) Byte) :=
  match run.project with
  | .error _ => []
  | .ok project =>
    match ReplayFormat.serializeObservations py project.observations with
    | .error _ => run.workbenchWrites u project
    | .ok payload =>
      run.workbenchWrites u project ++ run.observationsWrite payload :: run.laterWrites py u percentage project

/-- A run, and the moment at which it ends. -/
def toRun (r : ReportedRun × Moment) : Run (List Str) Byte := ⟨r.1.writes py u percentage, r.2⟩

/-- The files that are made from the evidence. -/
def laterPaths : List (List Str) :=
  [run.paths.csvPath, run.paths.relationshipsCsvPath, run.paths.markdownPath, projectPath]

/-! ## Paths -/

theorem directory_names {name name' : Str} (hne : name ≠ name') (run : ReportedRun) :
    run.paths.runDirectory ++ [name] ≠ run.paths.runDirectory ++ [name'] :=
  fun h => hne (List.singleton_inj.mp (List.append_cancel_left h))

theorem paths_disjoint : run.paths.observationsJsonPath ∉ run.laterPaths ∧ workbenchPath ∉ run.laterPaths := by
  have hroot : ∀ name : Str, run.paths.runDirectory ++ [name] ≠ projectPath ∧
      run.paths.runDirectory ++ [name] ≠ workbenchPath := by
    intro name
    have hlength : (run.paths.runDirectory ++ [name]).length = 3 := rfl
    constructor
    · intro h
      rw [h] at hlength
      cases hlength
    · intro h
      rw [h] at hlength
      cases hlength
  have hproject : workbenchPath ≠ projectPath := by decide
  unfold laterPaths
  simp only [List.mem_cons, List.not_mem_nil, or_false, not_or]
  refine ⟨⟨?_, ?_, ?_, (hroot _).1⟩, ?_, ?_, ?_, hproject⟩
  · exact directory_names (by decide) run
  · exact directory_names (by decide) run
  · exact directory_names (by decide) run
  all_goals exact Ne.symm (hroot _).2

theorem laterWrites_paths (project : SavedProject) (w : FileWrite (List Str) Byte)
    (h : w ∈ run.laterWrites py u percentage project) : w.path ∈ run.laterPaths := by
  unfold laterWrites at h
  split at h
  · simp only [List.mem_cons, List.not_mem_nil, or_false] at h
    unfold laterPaths
    rcases h with rfl | rfl | rfl | rfl <;> simp [textWrite, projectWrite]
  · exact absurd h List.not_mem_nil

theorem laterWrites_ne (project : SavedProject) (payload : Bytes) (w : FileWrite (List Str) Byte)
    (h : w ∈ run.laterWrites py u percentage project) : w.path ≠ (run.observationsWrite payload).path := by
  -- Nothing comes back to the evidence.
  intro hpath
  have hmem := run.laterWrites_paths py u percentage project w h
  rw [hpath] at hmem
  exact run.paths_disjoint.1 hmem

theorem workbenchWrites_paths (project : SavedProject) (w : FileWrite (List Str) Byte)
    (h : w ∈ run.workbenchWrites u project) : w.path = workbenchPath := by
  unfold workbenchWrites at h
  split at h
  · rw [List.mem_singleton.mp h]
    rfl
  · exact absurd h List.not_mem_nil

/-! ## One run -/

theorem writes_eq : ∃ (project : SavedProject) (payload : Bytes), run.project = .ok project ∧
    Application.project run.graph run.observations = .ok project.toProject ∧
    ReplayFormat.serializeObservations py run.observations = .ok payload ∧
    run.writes py u percentage =
      run.workbenchWrites u project ++ run.observationsWrite payload :: run.laterWrites py u percentage project := by
  -- The resolvers do not raise, and so all files are reached.
  obtain ⟨relationships, hresolve, -, -⟩ := Application.resolve_ok categoryCardinality run.observations
  have hbase : Application.project run.graph run.observations =
      .ok ⟨run.graph, run.observations, IdentityResolver.resolve run.observations, relationships⟩ := by
    rw [Application.project, hresolve]
    rfl
  have hpayload := ReplayFormat.serializeObservations_ok py run.observations
  refine ⟨_, _, by rw [project, hbase]; rfl, hbase, hpayload, ?_⟩
  unfold writes project
  rw [hbase]
  simp only [ok_bind, pure_ok, hpayload]

theorem observationsWrite_first (files : Files (List Str) Byte) (moment : Moment) :
    (∀ path ∈ run.laterPaths, ¬ (toRun py u percentage (run, moment)).opens path) ∨
      ∃ payload, ReplayFormat.serializeObservations py run.observations = .ok payload ∧
        leave files (run.writes py u percentage) moment run.paths.observationsJsonPath = some payload := by
  obtain ⟨project, payload, -, -, hpayload, hwrites⟩ := run.writes_eq py u percentage
  unfold toRun Run.opens
  simp only [hwrites]
  have hlater := run.laterWrites_ne py u percentage project payload
  refine (leave_first files (run.workbenchWrites u project) (run.observationsWrite payload) _ moment hlater).imp ?_
    fun hobservations => ⟨payload, hpayload, hobservations⟩
  rintro hreached path hpath ⟨v, hv, rfl⟩
  rcases List.mem_append.mp (hreached v hv) with hv | hv
  · rw [run.workbenchWrites_paths u project v hv] at hpath
    exact run.paths_disjoint.2 hpath
  · rw [List.mem_singleton.mp hv] at hpath
    exact run.paths_disjoint.1 hpath

/-! ## Many runs -/

theorem writes_paths (w : FileWrite (List Str) Byte) (h : w ∈ run.writes py u percentage) :
    w.path ∈ [workbenchPath, projectPath] ∨ ∃ name, w.path = run.paths.runDirectory ++ [name] := by
  obtain ⟨project, payload, -, -, -, hwrites⟩ := run.writes_eq py u percentage
  rw [hwrites, List.mem_append, List.mem_cons] at h
  rcases h with h | rfl | h
  · rw [run.workbenchWrites_paths u project w h]
    exact Or.inl List.mem_cons_self
  · exact Or.inr ⟨_, rfl⟩
  · have hpath := run.laterWrites_paths py u percentage project w h
    unfold laterPaths at hpath
    simp only [List.mem_cons, List.not_mem_nil, or_false] at hpath
    rcases hpath with hpath | hpath | hpath | hpath
    · exact Or.inr ⟨_, hpath⟩
    · exact Or.inr ⟨_, hpath⟩
    · exact Or.inr ⟨_, hpath⟩
    · rw [hpath]
      exact Or.inl (by simp)

theorem touches_directory {r : ReportedRun × Moment} {name : Str}
    (h : (toRun py u percentage r).touches (run.paths.runDirectory ++ [name])) :
    secondOf r.1.generatedAt = secondOf run.generatedAt ∧ r.1.scanProfile = run.scanProfile := by
  obtain ⟨w, hw, hpath⟩ := h
  rcases r.1.writes_paths py u percentage w hw with hshort | ⟨name', hname⟩
  · have hlength : w.path.length = 3 := by
      rw [hpath]
      rfl
    simp only [List.mem_cons, List.not_mem_nil, or_false] at hshort
    rcases hshort with hshort | hshort <;> rw [hshort] at hlength <;> cases hlength
  · rw [hname] at hpath
    have hdirectory : r.1.paths.runDirectory = run.paths.runDirectory := (List.append_inj' hpath rfl).1
    exact runDirectoryName_inj (List.singleton_inj.mp (List.append_cancel_left hdirectory))

/-- The directory of a run stays as the run left it, whatever runs of another second or profile follow. -/
theorem directory_kept (files : Files (List Str) Byte) (earlier later : List (ReportedRun × Moment)) (ends : Moment)
    (hlater : ∀ r ∈ later, ¬ (secondOf r.1.generatedAt = secondOf run.generatedAt ∧ r.1.scanProfile = run.scanProfile))
    (name : Str) :
    leaveAll files ((earlier ++ (run, ends) :: later).map (toRun py u percentage)) (run.paths.runDirectory ++ [name]) =
      leave (leaveAll files (earlier.map (toRun py u percentage))) (run.writes py u percentage) ends
        (run.paths.runDirectory ++ [name]) := by
  have hsplit : (earlier ++ (run, ends) :: later).map (toRun py u percentage) =
      (earlier ++ [(run, ends)]).map (toRun py u percentage) ++ later.map (toRun py u percentage) := by
    rw [← List.map_append, List.append_assoc]
    rfl
  rw [hsplit, leaveAll_kept]
  · rw [List.map_append, leaveAll, List.foldl_append]
    rfl
  · intro later' hlater' htouches
    obtain ⟨r, hr, rfl⟩ := List.mem_map.mp hlater'
    exact hlater r hr (run.touches_directory py u percentage htouches)

theorem payload_replays {payload : Bytes}
    (hpairs : ∀ o ∈ run.observations, ∀ t ∈ o.texts, hasSurrogatePair t = false)
    (hpayload : ReplayFormat.serializeObservations py run.observations = .ok payload) (source : Str) :
    ∃ replay, ReplayObservations.replayObservations py payload source = .ok replay ∧
      Application.resolve categoryCardinality run.observations = .ok (replay.identities, replay.relationships) := by
  obtain ⟨relationships, hresolve, -⟩ :=
    RelationshipResolver.resolve_ok categoryCardinality run.observations (IdentityResolver.resolve run.observations)
  obtain ⟨replay, hreplay, hids, hrels⟩ :=
    ReplayObservations.replayObservations_ok py run.observations hpairs source relationships hresolve
  rw [ReplayFormat.serializeObservations_ok, Except.ok.injEq] at hpayload
  rw [hpayload] at hreplay
  refine ⟨replay, hreplay, ?_⟩
  rw [hids, hrels, Application.resolve, hresolve]
  rfl

/-- In any history of runs, each of them stopped anywhere: a run never opened a file made from its evidence, or
it has left the evidence itself, which still replays to the identities and relationships of that run. -/
theorem evidence_survives (files : Files (List Str) Byte) (earlier later : List (ReportedRun × Moment)) (ends : Moment)
    (hpairs : ∀ o ∈ run.observations, ∀ t ∈ o.texts, hasSurrogatePair t = false)
    (hlater : ∀ r ∈ later, ¬ (secondOf r.1.generatedAt = secondOf run.generatedAt ∧ r.1.scanProfile = run.scanProfile))
    (source : Str) :
    let before := leaveAll files (earlier.map (toRun py u percentage))
    let disk := leaveAll files ((earlier ++ (run, ends) :: later).map (toRun py u percentage))
    ((∀ path ∈ run.laterPaths, ¬ (toRun py u percentage (run, ends)).opens path) ∧
        ∀ path ∈ [run.paths.csvPath, run.paths.relationshipsCsvPath, run.paths.markdownPath], disk path = before path) ∨
      ∃ payload replay, disk run.paths.observationsJsonPath = some payload ∧
        ReplayObservations.replayObservations py payload source = .ok replay ∧
        Application.resolve categoryCardinality run.observations = .ok (replay.identities, replay.relationships) := by
  intro before disk
  have hkept := run.directory_kept py u percentage files earlier later ends hlater
  rcases run.observationsWrite_first py u percentage before ends with hunopened | ⟨payload, hpayload, hleave⟩
  · refine Or.inl ⟨hunopened, fun path hpath => ?_⟩
    have hclosed := hunopened path (List.mem_append_left [projectPath] hpath)
    have hsame : leave before (run.writes py u percentage) ends path = before path :=
      leave_unopened before _ ends path fun w hw hpath' => hclosed ⟨w, hw, hpath'⟩
    rw [← hsame]
    simp only [List.mem_cons, List.not_mem_nil, or_false] at hpath
    rcases hpath with rfl | rfl | rfl <;> exact hkept _
  · obtain ⟨replay, hreplay, hresolve⟩ := run.payload_replays py hpairs hpayload source
    exact Or.inr ⟨payload, replay, (hkept _).trans hleave, hreplay, hresolve⟩

/-! ## Finished runs -/

theorem later_writes {project : SavedProject} (hproject : Application.project run.graph run.observations = .ok project.toProject) :
    ∃ presentation rest, CanonicalPresentation.fromProject py project.toProject = .ok presentation ∧
      RelationshipCsvExporter.rows presentation = RelationshipCsvExporter.header ::
        project.canonicalRelationships.map (RelationshipCsvExporter.relationshipRow project.networkGraph) ∧
      run.laterWrites py u percentage project =
        textWrite run.paths.csvPath ((CsvExporter.rows project.networkGraph presentation).map Csv.writeRow) ::
          textWrite run.paths.relationshipsCsvPath ((RelationshipCsvExporter.rows presentation).map Csv.writeRow) ::
            textWrite run.paths.markdownPath rest :: [projectWrite py project] := by
  obtain ⟨relationships, hresolve, -, hspec⟩ := Application.resolve_ok categoryCardinality run.observations
  have hrelationships : project.canonicalRelationships = relationships := by
    rw [Application.project, hresolve] at hproject
    exact congrArg (·.canonicalRelationships) (Except.ok.inj hproject).symm
  rw [← hrelationships] at hspec
  obtain ⟨presentation, hpresentation, hrows⟩ := RelationshipCsvExporter.rows_ok py project.toProject hspec
  obtain ⟨report, hreport⟩ : ∃ report, MarkdownExporter.report py u percentage project (some run.metadata) = .ok report := by
    unfold MarkdownExporter.report MarkdownExporter.renderMarkdown
    rw [hpresentation]
    exact ⟨_, rfl⟩
  refine ⟨presentation, [report], hpresentation, hrows, ?_⟩
  unfold laterWrites
  rw [hpresentation, hreport]

theorem finished_files (files : Files (List Str) Byte) (ends : Moment)
    (hreturns : ∀ w ∈ run.writes py u percentage, w.returns = true)
    (hends : (run.writes py u percentage).length ≤ ends.completed) :
    ∃ project presentation payload data, Application.project run.graph run.observations = .ok project ∧
      CanonicalPresentation.fromProject py project = .ok presentation ∧
      RelationshipCsvExporter.rows presentation = RelationshipCsvExporter.header ::
        project.canonicalRelationships.map (RelationshipCsvExporter.relationshipRow project.networkGraph) ∧
      ReplayFormat.serializeObservations py run.observations = .ok payload ∧
      encodeUtf8 (Csv.writeRows (RelationshipCsvExporter.rows presentation)) = .ok data ∧
      leave files (run.writes py u percentage) ends run.paths.observationsJsonPath = some payload ∧
      leave files (run.writes py u percentage) ends run.paths.relationshipsCsvPath = some data := by
  obtain ⟨project, payload, -, hproject, hpayload, hwrites⟩ := run.writes_eq py u percentage
  obtain ⟨presentation, rest, hpresentation, hrows, hlaterWrites⟩ := run.later_writes py u percentage hproject
  obtain ⟨relationshipsCsv, hcsv⟩ : ∃ w, w = textWrite run.paths.relationshipsCsvPath
    ((RelationshipCsvExporter.rows presentation).map Csv.writeRow) := ⟨_, rfl⟩
  obtain ⟨csv, last, hlaterWrites', hlast⟩ : ∃ csv last,
      run.laterWrites py u percentage project = csv :: relationshipsCsv :: last ∧
      last = [textWrite run.paths.markdownPath rest, projectWrite py project] := by
    rw [hlaterWrites, hcsv]
    exact ⟨_, _, rfl, rfl⟩
  have hpath : relationshipsCsv.path = run.paths.relationshipsCsvPath := by
    rw [hcsv]
    rfl
  have hobservations : run.writes py u percentage =
      run.workbenchWrites u project ++ run.observationsWrite payload :: csv :: relationshipsCsv :: last := by
    rw [hwrites, hlaterWrites']
  have hrelationships : run.writes py u percentage =
      (run.workbenchWrites u project ++ [run.observationsWrite payload, csv]) ++ relationshipsCsv :: last := by
    rw [hobservations, List.append_assoc]
    rfl
  have hlength : (run.writes py u percentage).length = (run.workbenchWrites u project).length + 5 := by
    rw [hobservations, hlast, List.length_append]
    rfl
  have hdata : encodeUtf8 (Csv.writeRows (RelationshipCsvExporter.rows presentation)) = .ok relationshipsCsv.data := by
    have hwritten : relationshipsCsv.returns = true := by
      apply hreturns
      rw [hrelationships]
      exact List.mem_append_right _ List.mem_cons_self
    rw [Csv.writeRows, List.flatMap_def]
    rw [hcsv] at hwritten ⊢
    exact encodeParts_returns _ hwritten
  refine ⟨project.toProject, presentation, payload, relationshipsCsv.data, hproject, hpresentation, hrows, hpayload,
    hdata, ?_, ?_⟩
  · rw [hobservations] at hreturns ⊢
    refine leave_completed files _ (run.observationsWrite payload) _ ends hreturns (by omega) ?_
    rw [← hlaterWrites']
    exact run.laterWrites_ne py u percentage project payload
  · rw [hrelationships] at hreturns ⊢
    rw [← hpath]
    refine leave_completed files _ relationshipsCsv _ ends hreturns ?_ ?_
    · rw [List.length_append]
      simp only [List.length_cons, List.length_nil]
      omega
    · intro v hv
      rw [hpath]
      rw [hlast] at hv
      simp only [List.mem_cons, List.not_mem_nil, or_false] at hv
      rcases hv with rfl | rfl
      · exact directory_names (by decide) run
      · intro hsame
        have hlengths := congrArg List.length hsame
        cases hlengths

open ReplayObservations in
/-- A run that comes to its end leaves a directory that replays with a match, and still does after any number
of runs of another second or profile, wherever they stop. -/
theorem finished_runs_replay (files : Files (List Str) Byte) (earlier later : List (ReportedRun × Moment)) (ends : Moment)
    (hpairs : ∀ o ∈ run.observations, ∀ t ∈ o.texts, hasSurrogatePair t = false)
    (hreturns : ∀ w ∈ run.writes py u percentage, w.returns = true)
    (hends : (run.writes py u percentage).length ≤ ends.completed)
    (hlimit : ∀ project presentation, Application.project run.graph run.observations = .ok project →
      CanonicalPresentation.fromProject py project = .ok presentation →
      ∀ row ∈ RelationshipCsvExporter.rows presentation, ∀ field ∈ row, field.length ≤ py.csvFieldLimit)
    (hlater : ∀ r ∈ later, ¬ (secondOf r.1.generatedAt = secondOf run.generatedAt ∧ r.1.scanProfile = run.scanProfile))
    (path observationsPath : Str) :
    let disk := leaveAll files ((earlier ++ (run, ends) :: later).map (toRun py u percentage))
    ∃ replay comparison, runReplayCommand py
        ⟨path, observationsPath, true, disk run.paths.observationsJsonPath, disk run.paths.relationshipsCsvPath⟩ =
          .ok { exitCode := exitMatch, replay := some replay, comparison := some comparison } ∧
      Application.resolve categoryCardinality run.observations = .ok (replay.identities, replay.relationships) := by
  intro disk
  have hkept := run.directory_kept py u percentage files earlier later ends hlater
  obtain ⟨project, presentation, payload, data, hproject, hpresentation, hrows, hpayload, hencode, hobservations,
    hrelationships⟩ := run.finished_files py u percentage (leaveAll files (earlier.map (toRun py u percentage))) ends
      hreturns hends
  have hback : ReadsBack py (RelationshipCsvExporter.rows presentation) := by
    refine ⟨?_, Csv.readRows_writeRows py _ (hlimit project presentation hproject hpresentation)⟩
    rw [hencode, ok_bind, decodeUtf8_encodeUtf8 _ data hencode]
  obtain ⟨data', hexport, hread⟩ := readRelationshipsCsv_exported py project presentation hpresentation hrows hback
  have hdata : data' = data := by
    unfold RelationshipCsvExporter.export at hexport
    rw [hpresentation] at hexport
    simp only [Except.mapError, ok_bind, hencode] at hexport
    exact (Except.ok.inj hexport).symm
  obtain ⟨replay, hreplay, hresolve⟩ := run.payload_replays py hpairs hpayload observationsPath
  have hproject' := hproject
  rw [Application.project, hresolve] at hproject'
  have hrels : replay.relationships = project.canonicalRelationships :=
    congrArg (·.canonicalRelationships) (Except.ok.inj hproject')
  have hcompare : compareWithRelationshipsCsv py replay.relationships data =
      .ok (compareRows (relationshipRows replay.relationships) (relationshipRows replay.relationships)) := by
    unfold compareWithRelationshipsCsv
    rw [← hdata, hread, hrels]
    rfl
  have hobservations' : disk run.paths.observationsJsonPath = some payload := (hkept _).trans hobservations
  have hrelationships' : disk run.paths.relationshipsCsvPath = some data := (hkept _).trans hrelationships
  refine ⟨replay, compareRows (relationshipRows replay.relationships) (relationshipRows replay.relationships), ?_, hresolve⟩
  rw [hobservations', hrelationships']
  unfold runReplayCommand replayAndCompare
  simp only [Bool.not_true, Bool.false_eq_true, if_false, hreplay, hcompare, ok_bind, pure_ok]
  simp [RelationshipComparison.matches, compareRows]

/-! ## Two runs of one second -/

/-- A run that resolved one relationship. -/
def sampleReport (scanProfile : ScanProfile) : ReportedRun where
  graph := NetworkGraph.empty
  observations := sampleRun
  scanProfile := scanProfile
  workbench := false
  createdDate := (sampleProvenance "").observedAt
  modifiedDate := (sampleProvenance "").observedAt
  generatedAt := (sampleProvenance "").observedAt

def samplePercentage (_ _ : Nat) : Str := str "100.0"

theorem sampleReport_returns :
    ∀ w ∈ (sampleReport .fast).writes cpython ascii samplePercentage, w.returns = true := by
  decide +kernel

theorem sampleReport_rows {project : Project} {presentation : CanonicalPresentation}
    (hproject : Application.project NetworkGraph.empty sampleRun = .ok project)
    (hpresentation : CanonicalPresentation.fromProject cpython project = .ok presentation) :
    RelationshipCsvExporter.rows presentation = [RelationshipCsvExporter.header,
      [str "192.0.2.1", [], str "arp_neighbor", str "192.0.2.10", [], str "weak", str "snmp/ipNetToPhysicalTable"]] := by
  have hrows : ((Application.project NetworkGraph.empty sampleRun).toOption.bind fun project =>
      (CanonicalPresentation.fromProject cpython project).toOption.map RelationshipCsvExporter.rows) =
      some [RelationshipCsvExporter.header, [str "192.0.2.1", [], str "arp_neighbor", str "192.0.2.10", [],
        str "weak", str "snmp/ipNetToPhysicalTable"]] := by decide
  simp only [hproject, hpresentation, Except.toOption, Option.bind_some, Option.map_some, Option.some.injEq] at hrows
  exact hrows

/-- After five files. -/
def sampleEnd : Moment := .after (.after (.after (.after (.after .before))))

theorem sampleReport_later : ∀ r ∈ [(sampleReport .deep, Moment.after .before)],
    ¬ (secondOf r.1.generatedAt = secondOf (sampleReport .fast).generatedAt ∧
      r.1.scanProfile = (sampleReport .fast).scanProfile) := by
  rintro _ hr ⟨-, hprofile⟩
  rw [List.mem_singleton.mp hr] at hprofile
  cases hprofile

theorem evidence_survives_sample :
    let run := sampleReport .fast
    let disk := leaveAll (fun _ => none)
      (([] ++ (run, Moment.after (.within 10)) :: [(sampleReport .deep, Moment.after .before)]).map
        (toRun cpython ascii samplePercentage))
    ((∀ path ∈ run.laterPaths,
          ¬ (toRun cpython ascii samplePercentage (run, Moment.after (.within 10))).opens path) ∧
        ∀ path ∈ [run.paths.csvPath, run.paths.relationshipsCsvPath, run.paths.markdownPath], disk path = none) ∨
      ∃ payload replay, disk run.paths.observationsJsonPath = some payload ∧
        ReplayObservations.replayObservations cpython payload (str "run") = .ok replay ∧
        Application.resolve categoryCardinality run.observations = .ok (replay.identities, replay.relationships) :=
  evidence_survives cpython ascii samplePercentage (sampleReport .fast) (fun _ => none) [] _ _ (by decide)
    sampleReport_later (str "run")

open ReplayObservations in
theorem finished_runs_replay_sample :
    let run := sampleReport .fast
    let disk := leaveAll (fun _ => none)
      (([] ++ (run, sampleEnd) :: [(sampleReport .deep, Moment.after .before)]).map
        (toRun cpython ascii samplePercentage))
    ∃ replay comparison, runReplayCommand cpython
        ⟨str "run", str "run", true, disk run.paths.observationsJsonPath, disk run.paths.relationshipsCsvPath⟩ =
          .ok { exitCode := exitMatch, replay := some replay, comparison := some comparison } ∧
      Application.resolve categoryCardinality run.observations = .ok (replay.identities, replay.relationships) := by
  have hends : ((sampleReport .fast).writes cpython ascii samplePercentage).length ≤ sampleEnd.completed := by
    decide +kernel
  have hlimit : ∀ project presentation,
      Application.project (sampleReport .fast).graph (sampleReport .fast).observations = .ok project →
      CanonicalPresentation.fromProject cpython project = .ok presentation →
      ∀ row ∈ RelationshipCsvExporter.rows presentation, ∀ field ∈ row, field.length ≤ cpython.csvFieldLimit := by
    intro project presentation hproject hpresentation
    rw [sampleReport_rows hproject hpresentation]
    decide
  exact finished_runs_replay cpython ascii samplePercentage (sampleReport .fast) (fun _ => none) []
    [(sampleReport .deep, Moment.after .before)] sampleEnd (by decide) sampleReport_returns hends hlimit
    sampleReport_later (str "run") (str "run")

end ReportedRun

end Application

end NetworkMapper
