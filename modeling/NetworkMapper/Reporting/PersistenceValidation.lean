import NetworkMapper.Reporting.TornFiles

/-!
# The end of a run

The project file is read again, and its devices are counted. A run that comes to this
point does not fail there.
-/

open Python Stores

namespace NetworkMapper

theorem ProjectSerializer.load_save {py : Interpreter} {project : SavedProject} {data : Bytes}
    (htexts : ∀ s ∈ texts project, hasSurrogatePair s = false) (h : save py project = some data) :
    load py data = .ok (persisted project) := by
  have hintegers : ∀ n ∈ integers (payload project), py.reads n := by
    by_contra hnot
    unfold save dumpsChecked at h
    rw [if_neg hnot] at h
    cases h
  rw [payload_integers, List.forall_mem_flatMap] at hintegers
  simp only [List.forall_mem_map] at hintegers
  obtain ⟨text, hsave, hascii, hloads⟩ := save_eq project htexts hintegers
  rw [h, Option.some.injEq] at hsave
  unfold load
  rw [hsave, decodeUtf8_ascii _ hascii]
  simp only [hloads, fromPayload_payload]

namespace Application

/-- The lines of the classification summary. -/
def classificationSummary (graph : NetworkGraph) : List (Str × Nat) :=
  sortedItems (tally (graph.allDevices.map (·.deviceType.name)))

/-- What the reading raises, and the `RuntimeError` of two counts that differ. -/
inductive ValidationFailure where
  | notFound
  | load (e : ProjectSerializer.LoadFailure)
  | deviceCount (beforeSaveCount afterSaveCount : Nat)

/-- The persistence validation, of the file that is there. -/
def validatePersistence (py : Interpreter) (beforeSaveCount : Nat) (file : Option Bytes) :
    Except ValidationFailure SavedProject := do
  let data ← match file with
    | none => .error .notFound
    | some data => .ok data
  let loadedProject ← (ProjectSerializer.load py data).mapError .load
  let afterSaveCount := loadedProject.networkGraph.allDevices.length
  if beforeSaveCount = afterSaveCount then return loadedProject
  else .error (.deviceCount beforeSaveCount afterSaveCount)

theorem classificationSummary_spec (graph : NetworkGraph) :
    ((classificationSummary graph).map Prod.fst).Nodup ∧
      (∀ name n, (name, n) ∈ classificationSummary graph ↔
        0 < n ∧ n = graph.allDevices.countP fun d => d.deviceType.name = name) ∧
      ((classificationSummary graph).map Prod.snd).sum = graph.allDevices.length := by
  have htally := tally_tallies (graph.allDevices.map (·.deviceType.name))
  refine ⟨sortedItems_nodup _, fun name n => ?_, ?_⟩
  · rw [← htally.of_map, ← Dict.get?_eq_some]
    exact mem_sortedItems _ name n
  · have hperm := (sortedBy_perm Prod.fst (tally (graph.allDevices.map (·.deviceType.name))).entries).map Prod.snd
    unfold classificationSummary sortedItems
    rw [hperm.sum_nat, htally.sum, List.length_map]

namespace ReportedRun

variable (py : Interpreter) (u : Unicode) (percentage : Nat → Nat → Str) (run : ReportedRun)

theorem finished_project (files : Files (List Str) Byte) (ends : Moment)
    (hreturns : ∀ w ∈ run.writes py u percentage, w.returns = true)
    (hends : (run.writes py u percentage).length ≤ ends.completed) :
    ∃ project data, run.project = .ok project ∧ ProjectSerializer.save py project = some data ∧
      leave files (run.writes py u percentage) ends projectPath = some data := by
  obtain ⟨project, payload, hproject, hbase, -, hwrites⟩ := run.writes_eq py u percentage
  obtain ⟨presentation, rest, -, -, hlater⟩ := run.later_writes py u percentage hbase
  obtain ⟨earlier, hsplit⟩ : ∃ earlier, run.writes py u percentage = earlier ++ [projectWrite py project] := by
    rw [hwrites, hlater]
    exact ⟨_, (List.append_assoc _ [_, _, _, _] [projectWrite py project]).symm⟩
  have hreturn : (ProjectSerializer.save py project).isSome = true := by
    apply hreturns (projectWrite py project)
    rw [hsplit]
    exact List.mem_append_right _ (List.mem_singleton_self _)
  obtain ⟨data, hsave⟩ := Option.isSome_iff_exists.mp hreturn
  refine ⟨project, data, hproject, hsave, ?_⟩
  have hleave := leave_completed files earlier (projectWrite py project) [] ends (hsplit ▸ hreturns)
    (by rw [hsplit, List.length_append, List.length_singleton] at hends; omega) (List.forall_mem_nil _)
  rw [hsplit]
  refine hleave.trans ?_
  rw [projectWrite, hsave, Option.getD_some]

/-- A run that has written its files passes its own validation: what is loaded is the customer, the dates and the
devices of the run, and the counts of the summary add up to both counts of devices. -/
theorem finished_runs_validate (files : Files (List Str) Byte) (earlier : List (ReportedRun × Moment)) (ends : Moment)
    (hdevices : ∀ d ∈ run.graph.allDevices, ∀ s ∈ ProjectSerializer.deviceTexts d, hasSurrogatePair s = false)
    (hreturns : ∀ w ∈ run.writes py u percentage, w.returns = true)
    (hends : (run.writes py u percentage).length ≤ ends.completed) :
    let disk := leaveAll files ((earlier ++ [(run, ends)]).map (toRun py u percentage))
    ∃ loadedProject, validatePersistence py run.graph.allDevices.length (disk projectPath) = .ok loadedProject ∧
      loadedProject.customerName = customerName ∧ loadedProject.createdDate = run.createdDate ∧
      loadedProject.modifiedDate = run.modifiedDate ∧ loadedProject.networkGraph = run.graph ∧
      ((classificationSummary run.graph).map Prod.fst).Nodup ∧
      (∀ name n, (name, n) ∈ classificationSummary run.graph ↔
        0 < n ∧ n = loadedProject.networkGraph.allDevices.countP fun d => d.deviceType.name = name) ∧
      ((classificationSummary run.graph).map Prod.snd).sum = loadedProject.networkGraph.allDevices.length := by
  intro disk
  obtain ⟨project, data, hproject, hsave, hfile⟩ :=
    run.finished_project py u percentage (leaveAll files (earlier.map (toRun py u percentage))) ends hreturns hends
  obtain ⟨hcustomer, hgraph, hcreated, hmodified⟩ := run.project_fields hproject
  have hdisk : disk projectPath = some data := by
    rw [← hfile]
    simp only [disk, List.map_append, leaveAll, List.foldl_append]
    rfl
  have htexts : ∀ s ∈ ProjectSerializer.texts project, hasSurrogatePair s = false := by
    unfold ProjectSerializer.texts
    rw [List.forall_mem_cons, List.forall_mem_flatMap, hcustomer, hgraph]
    exact ⟨by decide, hdevices⟩
  have hload : ProjectSerializer.load py data = .ok (ProjectSerializer.persisted project) :=
    ProjectSerializer.load_save htexts hsave
  have hloaded : (ProjectSerializer.persisted project).networkGraph = run.graph := hgraph
  obtain ⟨hnames, hlines, hsum⟩ := classificationSummary_spec run.graph
  refine ⟨ProjectSerializer.persisted project, ?_, hcustomer, hcreated, hmodified, hloaded, hnames, ?_, ?_⟩
  · unfold validatePersistence
    simp only [hdisk, hload, ok_bind, Except.mapError, hloaded, if_true, pure_ok]
  · rw [hloaded]
    exact hlines
  · rw [hloaded]
    exact hsum

def oneServer : NetworkGraph := NetworkGraph.empty.addDevice { ipAddress := str "192.0.2.10", deviceType := .server }

/-- After a run that stopped within its first file. -/
theorem finished_runs_validate_sample :
    let run := { sampleReport .fast with graph := oneServer }
    let disk := leaveAll (fun _ => none)
      (([(sampleReport .deep, Moment.within 10)] ++ [(run, sampleEnd)]).map (toRun cpython ascii samplePercentage))
    ∃ loadedProject, validatePersistence cpython 1 (disk projectPath) = .ok loadedProject ∧
      loadedProject.networkGraph = oneServer := by
  intro run disk
  have hfiles : (∀ w ∈ run.writes cpython ascii samplePercentage, w.returns = true) ∧
      (run.writes cpython ascii samplePercentage).length ≤ sampleEnd.completed := by decide +kernel
  obtain ⟨loadedProject, hvalid, -, -, -, hgraph, -⟩ :=
    finished_runs_validate cpython ascii samplePercentage run (fun _ => none) [(sampleReport .deep, .within 10)] sampleEnd
      (by decide) hfiles.1 hfiles.2
  exact ⟨loadedProject, hvalid, hgraph⟩

end ReportedRun

end Application

end NetworkMapper
