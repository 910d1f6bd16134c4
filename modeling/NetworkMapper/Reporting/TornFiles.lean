import NetworkMapper.Project.Resaved
import NetworkMapper.Reporting.RunReports

/-!
# Files that were cut short

A run can end within a file, and the next one may not come to it. What is left is refused
or it is the whole file, never another project or another set of observations.
-/

open Python Stores

namespace NetworkMapper

/-! ## The evidence -/

namespace ReplayFormat

variable (py : Interpreter)

theorem artifact_brace (observations : List Observation) : ∃ text, artifact py observations = ch '{' :: text := by
  obtain ⟨text, htext⟩ := dumps_obj py (indent 2) (sortedBy Prod.fst (sortKeysMembers
    [(str "format", .str formatIdentifier), (str "format_version", .int formatVersion),
      (str "observations", .arr (sortedBy recordSortKey (observations.map toRecord)))]))
  refine ⟨text ++ [ch '\n'], ?_⟩
  unfold artifact document
  rw [sortKeys, htext]
  rfl

theorem loadDocument_take {text : Str} (hascii : asciiText (ch '{' :: text)) (source : Str) (document : Json)
    (h : loadDocument py (.bytes ((ch '{' :: text).map fun c => byte c.val)) source = .ok document) (n : Nat) :
    (∃ e, loadDocument py (.bytes (((ch '{' :: text).map fun c => byte c.val).take n)) source = .error e) ∨
      loadDocument py (.bytes (((ch '{' :: text).map fun c => byte c.val).take n)) source = .ok document := by
  have hwhole : (ReplayData.bytes ((ch '{' :: text).map fun c => byte c.val)).decode py = .ok (ch '{' :: text) := by
    rw [ReplayData.decode, decodeUtf8_ascii _ hascii]
  have hcut : (ReplayData.bytes (((ch '{' :: text).map fun c => byte c.val).take n)).decode py =
      .ok ((ch '{' :: text).take n) := by
    rw [ReplayData.decode, decodeUtf8_ascii_take _ hascii]
  have hloads : loads py rejectDuplicateKeys (ch '{' :: text) = .ok document := by
    unfold loadDocument at h
    simp only [hwhole] at h
    cases hresult : loads py rejectDuplicateKeys (ch '{' :: text) with
    | ok document' =>
      simp only [hresult, Except.ok.injEq] at h
      rw [h]
    | error e =>
      rw [hresult] at h
      cases e <;> cases h
  unfold loadDocument
  simp only [hcut]
  rcases loads_take py rejectDuplicateKeys hloads n with ⟨e, he⟩ | hok
  · refine Or.inl ?_
    rw [he]
    cases e <;> exact ⟨_, rfl⟩
  · exact Or.inr (by rw [hok])

end ReplayFormat

namespace ReplayObservations

open ReplayFormat

/-- What is left of an artifact is refused, or it replays as the artifact does. -/
theorem replayObservations_take (py : Interpreter) {observations : List Observation} {payload : Bytes} {source : Str}
    {replay : ReplayResult} (hpayload : serializeObservations py observations = .ok payload)
    (h : replayObservations py payload source = .ok replay) (n : Nat) :
    (∃ e, replayObservations py (payload.take n) source = .error e) ∨
      replayObservations py (payload.take n) source = .ok replay := by
  have hascii := artifact_ascii py observations
  obtain ⟨text, htext⟩ := artifact_brace py observations
  rw [serializeObservations_ok, Except.ok.injEq, htext] at hpayload
  rw [htext] at hascii
  subst hpayload
  unfold replayObservations parseObservations at h ⊢
  cases hload : loadDocument py (.bytes ((ch '{' :: text).map fun c => byte c.val)) source with
  | error e =>
    rw [hload] at h
    cases h
  | ok document =>
    rcases loadDocument_take py hascii source document hload n with ⟨e, he⟩ | hok
    · exact Or.inl ⟨_, by rw [he]; rfl⟩
    · rw [hload] at h
      exact Or.inr (by rw [hok, h])

end ReplayObservations

/-! ## The project -/

namespace ProjectSerializer

theorem load_take (py : Interpreter) (project : SavedProject)
    (htexts : ∀ s ∈ texts project, hasSurrogatePair s = false)
    (hports : ∀ d ∈ project.networkGraph.allDevices, ∀ e ∈ d.services, py.reads e.port) (n : Nat) :
    (∃ e, load py (((save py project).getD []).take n) = .error e) ∨
      load py (((save py project).getD []).take n) = .ok (persisted project) := by
  obtain ⟨text, hsave, hascii, hwhole⟩ := save_eq project htexts hports
  have hcut : decodeUtf8 (((save py project).getD []).take n) = .ok ((ch '{' :: text).take n) := by
    rw [hsave, Option.getD_some]
    exact decodeUtf8_ascii_take _ hascii n
  unfold load
  simp only [hcut]
  unfold loadsDict at hwhole ⊢
  rcases loads_take py asDict hwhole n with ⟨e, he⟩ | hok
  · exact Or.inl ⟨_, by rw [he]⟩
  · refine Or.inr ?_
    rw [hok]
    exact fromPayload_payload project

end ProjectSerializer

/-! ## Histories of runs -/

namespace Application.ReportedRun

variable (py : Interpreter) (u : Unicode) (percentage : Nat → Nat → Str) (run : ReportedRun)

theorem last_opened (files : Files (List Str) Byte) (history : List (ReportedRun × Moment)) (path : List Str) :
    let disk := leaveAll files (history.map (toRun py u percentage))
    ((∀ r ∈ history, ¬ (toRun py u percentage r).opens path) ∧ disk path = files path) ∨
      ∃ earlier r later, history = earlier ++ r :: later ∧
        (∀ r' ∈ later, ¬ (toRun py u percentage r').opens path) ∧
        ∃ w ∈ r.1.writes py u percentage, w.path = path ∧ ∃ n, disk path = some (w.data.take n) := by
  intro disk
  rcases leaveAll_last files (history.map (toRun py u percentage)) path with
    ⟨hclosed, hsame⟩ | ⟨earlier, r, later, hsplit, hlater, hwritten⟩
  · exact Or.inl ⟨fun r hr => hclosed _ (List.mem_map_of_mem hr), hsame⟩
  · obtain ⟨earlier', rest, rfl, rfl, hrest⟩ := List.map_eq_append_iff.mp hsplit
    obtain ⟨r', later', rfl, rfl, rfl⟩ := List.map_eq_cons_iff.mp hrest
    exact Or.inr ⟨earlier', r', later', rfl, fun r hr => hlater _ (List.mem_map_of_mem hr), hwritten⟩

theorem observations_writer {w : FileWrite (List Str) Byte} {directory : List Str}
    (h : w ∈ run.writes py u percentage) (hlength : directory.length = 2)
    (hpath : w.path = directory ++ [str "observations.json"]) :
    ReplayFormat.serializeObservations py run.observations = .ok w.data := by
  obtain ⟨project, payload, -, -, hpayload, hwrites⟩ := run.writes_eq py u percentage
  rw [hwrites, List.mem_append, List.mem_cons] at h
  have hthree : w.path.length = 3 := by rw [hpath, List.length_append, hlength]; rfl
  rcases h with h | rfl | h
  · rw [run.workbenchWrites_paths u project w h] at hthree
    cases hthree
  · exact hpayload
  · have hlater := run.laterWrites_paths py u percentage project w h
    rw [hpath] at hlater hthree
    unfold laterPaths at hlater
    simp only [List.mem_cons, List.not_mem_nil, or_false] at hlater
    have hname : ∀ {name : Str}, directory ++ [str "observations.json"] = run.paths.runDirectory ++ [name] →
        str "observations.json" = name :=
      fun heq => List.singleton_inj.mp (List.append_inj' heq rfl).2
    rcases hlater with hlater | hlater | hlater | hlater
    · exact absurd (hname hlater) (by decide)
    · exact absurd (hname hlater) (by decide)
    · exact absurd (hname hlater) (by decide)
    · rw [hlater] at hthree
      cases hthree

/-- After any history of runs, each stopped anywhere, also of one second and one directory: an
`observations.json` is as it was, or it is refused, or it replays to what the last run resolved that opened it. -/
theorem observations_never_misread (files : Files (List Str) Byte) (history : List (ReportedRun × Moment))
    (hpairs : ∀ r ∈ history, ∀ o ∈ r.1.observations, ∀ t ∈ o.texts, hasSurrogatePair t = false) (source : Str) :
    let disk := leaveAll files (history.map (toRun py u percentage))
    let path := run.paths.observationsJsonPath
    ((∀ r ∈ history, ¬ (toRun py u percentage r).opens path) ∧ disk path = files path) ∨
      ∃ earlier r later data, history = earlier ++ r :: later ∧
        (∀ r' ∈ later, ¬ (toRun py u percentage r').opens path) ∧ disk path = some data ∧
        ((∃ e, ReplayObservations.replayObservations py data source = .error e) ∨
          ∃ replay, ReplayObservations.replayObservations py data source = .ok replay ∧
            Application.resolve categoryCardinality r.1.observations = .ok (replay.identities, replay.relationships)) := by
  intro disk path
  refine (last_opened py u percentage files history path).imp_right ?_
  rintro ⟨earlier, r, later, rfl, hlater, w, hw, hpath, n, hdata⟩
  have hpayload := r.1.observations_writer py u percentage hw rfl hpath
  obtain ⟨replay, hreplay, hresolve⟩ := r.1.payload_replays py (hpairs r (by simp)) hpayload source
  refine ⟨earlier, r, later, w.data.take n, rfl, hlater, hdata, ?_⟩
  exact (ReplayObservations.replayObservations_take py hpayload hreplay n).imp_right fun hcut => ⟨replay, hcut, hresolve⟩

/-- Two runs of one second that stop within their files. -/
def sampleHistory : List (ReportedRun × Moment) :=
  [(sampleReport .fast, .after (.within 20)), (sampleReport .fast, .within 10)]

theorem observations_never_misread_sample :
    let disk := leaveAll (fun _ => none) (sampleHistory.map (toRun cpython ascii samplePercentage))
    let path := (sampleReport .fast).paths.observationsJsonPath
    ((∀ r ∈ sampleHistory, ¬ (toRun cpython ascii samplePercentage r).opens path) ∧ disk path = none) ∨
      ∃ earlier r later data, sampleHistory = earlier ++ r :: later ∧
        (∀ r' ∈ later, ¬ (toRun cpython ascii samplePercentage r').opens path) ∧ disk path = some data ∧
        ((∃ e, ReplayObservations.replayObservations cpython data (str "run") = .error e) ∨
          ∃ replay, ReplayObservations.replayObservations cpython data (str "run") = .ok replay ∧
            Application.resolve categoryCardinality r.1.observations = .ok (replay.identities, replay.relationships)) :=
  observations_never_misread cpython ascii samplePercentage (sampleReport .fast) (fun _ => none) sampleHistory
    (by decide) (str "run")

theorem project_writer {w : FileWrite (List Str) Byte} (h : w ∈ run.writes py u percentage) (hpath : w.path = projectPath) :
    ∃ project, run.project = .ok project ∧ w = projectWrite py project := by
  obtain ⟨project, payload, hproject, -, -, hwrites⟩ := run.writes_eq py u percentage
  refine ⟨project, hproject, ?_⟩
  rw [hwrites, List.mem_append, List.mem_cons] at h
  have hthree : ∀ name : Str, run.paths.runDirectory ++ [name] ≠ projectPath := by
    intro name heq
    have hlength := congrArg List.length heq
    cases hlength
  rcases h with h | rfl | h
  · rw [run.workbenchWrites_paths u project w h] at hpath
    exact absurd hpath (by decide)
  · exact absurd hpath (hthree _)
  · unfold laterWrites at h
    split at h
    · simp only [List.mem_cons, List.not_mem_nil, or_false] at h
      rcases h with rfl | rfl | rfl | rfl
      · exact absurd hpath (hthree _)
      · exact absurd hpath (hthree _)
      · exact absurd hpath (hthree _)
      · rfl
    · exact absurd h List.not_mem_nil

theorem project_fields {project : SavedProject} (h : run.project = .ok project) :
    project.customerName = customerName ∧ project.networkGraph = run.graph ∧
      project.createdDate = run.createdDate ∧ project.modifiedDate = run.modifiedDate := by
  unfold ReportedRun.project Application.project at h
  obtain ⟨base, hbase, h⟩ := (bind_eq_ok _ _ _).mp h
  obtain ⟨resolved, -, hbase⟩ := (bind_eq_ok _ _ _).mp hbase
  cases hbase
  cases h
  exact ⟨rfl, rfl, rfl, rfl⟩

/-- After any history of runs, each stopped anywhere: the project file, which every run writes again, is as it
was, or it is refused, or it loads as the project of the last run that opened it. -/
theorem project_never_misread (files : Files (List Str) Byte) (history : List (ReportedRun × Moment))
    (hdevices : ∀ r ∈ history, ∀ d ∈ r.1.graph.allDevices, ∀ s ∈ ProjectSerializer.deviceTexts d,
      hasSurrogatePair s = false)
    (hports : ∀ r ∈ history, ∀ d ∈ r.1.graph.allDevices, ∀ e ∈ d.services, py.reads e.port) :
    let disk := leaveAll files (history.map (toRun py u percentage))
    ((∀ r ∈ history, ¬ (toRun py u percentage r).opens projectPath) ∧ disk projectPath = files projectPath) ∨
      ∃ earlier r later project data, history = earlier ++ r :: later ∧
        (∀ r' ∈ later, ¬ (toRun py u percentage r').opens projectPath) ∧ r.1.project = .ok project ∧
        disk projectPath = some data ∧
        ((∃ e, ProjectSerializer.load py data = .error e) ∨
          ProjectSerializer.load py data = .ok (ProjectSerializer.persisted project)) := by
  intro disk
  refine (last_opened py u percentage files history projectPath).imp_right ?_
  rintro ⟨earlier, r, later, rfl, hlater, w, hw, hpath, n, hdata⟩
  obtain ⟨project, hproject, rfl⟩ := r.1.project_writer py u percentage hw hpath
  obtain ⟨hcustomer, hgraph, -⟩ := r.1.project_fields hproject
  have hmem : r ∈ earlier ++ r :: later := by simp
  have htexts : ∀ s ∈ ProjectSerializer.texts project, hasSurrogatePair s = false := by
    unfold ProjectSerializer.texts
    rw [List.forall_mem_cons, List.forall_mem_flatMap, hcustomer, hgraph]
    exact ⟨by decide, hdevices r hmem⟩
  have hread : ∀ d ∈ project.networkGraph.allDevices, ∀ e ∈ d.services, py.reads e.port := by
    rw [hgraph]
    exact hports r hmem
  exact ⟨earlier, r, later, project, _, rfl, hlater, hproject, hdata, ProjectSerializer.load_take py project htexts hread n⟩

/-- The first run writes its file as a whole, and the second one stops within it. -/
def sampleProjects : List (ReportedRun × Moment) :=
  let run := { sampleReport .fast with graph := ProjectSerializer.sampleProject.networkGraph }
  [(run, .after (.after (.after (.after (.after .before))))), (run, .after (.after (.after (.after (.within 30)))))]

theorem project_never_misread_sample :
    let disk := leaveAll (fun _ => none) (sampleProjects.map (toRun cpython ascii samplePercentage))
    ((∀ r ∈ sampleProjects, ¬ (toRun cpython ascii samplePercentage r).opens projectPath) ∧ disk projectPath = none) ∨
      ∃ earlier r later project data, sampleProjects = earlier ++ r :: later ∧
        (∀ r' ∈ later, ¬ (toRun cpython ascii samplePercentage r').opens projectPath) ∧ r.1.project = .ok project ∧
        disk projectPath = some data ∧
        ((∃ e, ProjectSerializer.load cpython data = .error e) ∨
          ProjectSerializer.load cpython data = .ok (ProjectSerializer.persisted project)) :=
  project_never_misread cpython ascii samplePercentage (fun _ => none) sampleProjects (by decide) (by decide)

end Application.ReportedRun

end NetworkMapper
