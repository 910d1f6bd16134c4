import NetworkMapper.Discovery.EnrichmentFrame
import NetworkMapper.Discovery.MacEdges
import NetworkMapper.Discovery.NmapRun
import NetworkMapper.Discovery.TableRuns
import NetworkMapper.Runtime.CliRenderer

/-!
# The events of a run

Every provider opens one phase at a time and finishes it. Only a field that is not of the
system group, which the PySNMP client never returns, leaves a phase open.
-/

open Python Traces

namespace NetworkMapper

open DiscoveryEngine

/-! ## The system group -/

namespace SnmpEnrichmentProvider

variable (session : SnmpSession SnmpHostResult)

/-- The events of the loop, after `index` devices. A `KeyError` ends them. -/
def publicationsFrom (total responded index : Nat) : List Device → List Publication
  | [] => [hostsResponded responded total]
  | device :: devices =>
    let result := session.queryHost (SnmpHostResult.mk false []) device.ipAddress
    if (mergeResult device result).2 then
      hostsQueried (index + 1) total ::
        publicationsFrom total (responded + if result.responded then 1 else 0) (index + 1) devices
    else []

def publications (devices : List Device) : List Publication :=
  snmpStarted (str "Querying " ++ natRepr devices.length ++ str " host(s) via SNMP...") ::
    publicationsFrom session devices.length 0 0 devices

theorem mergeResult_returns (device : Device) :
    (mergeResult device (session.queryHost (SnmpHostResult.mk false []) device.ipAddress)).2 =
      (enrichDevice session device).2.isSome :=
  (enrichDevice_merges session device).2.symm

theorem enrich_returns (hknown : ∀ ip, KnownFields (session.queryHost (SnmpHostResult.mk false []) ip))
    (devices : List Device) : (enrich session devices).2.isSome := by
  induction devices with
  | nil => rfl
  | cons device devices ih =>
    have hdevice := mergeResult_returns session device
    rw [mergeResult_ok device (hknown device.ipAddress)] at hdevice
    obtain ⟨collected, hcollected⟩ := Option.isSome_iff_exists.mp hdevice.symm
    cases hone : enrichDevice session device with
    | mk enriched observations =>
      rw [hone] at hcollected
      simp only at hcollected
      subst hcollected
      rw [enrich, hone]
      simp only [Option.isSome_map]
      exact ih

theorem publicationsFrom_fits (abandon : Bool) (total responded index : Nat) (devices : List Device)
    (hlength : index + devices.length = total) (hresponded : responded ≤ index) :
    ∃ opened, run abandon (some ⟨.snmpEnrichment, index⟩)
        ((publicationsFrom session total responded index devices).map (·.mark)) = some opened ∧
      (opened = none ↔ (enrich session devices).2.isSome) := by
  induction devices generalizing responded index with
  | nil =>
    have hwithin : Count.Within ⟨responded, some total⟩ := by
      simp only [Count.Within, Option.mem_def, Option.some.injEq, forall_eq']
      rw [List.length_nil] at hlength
      omega
    refine ⟨none, ?_, by simp [enrich]⟩
    rw [publicationsFrom, List.map_singleton, run_marks_cons]
    simp only [hostsResponded, Publication.mark, next, Option.map_some, ProgressMeasurement.count, Option.bind_some]
    rw [if_pos ⟨trivial, by simpa using hwithin⟩]
    rfl
  | cons device devices ih =>
    rw [List.length_cons] at hlength
    rw [publicationsFrom]
    simp only [mergeResult_returns]
    cases hdevice : enrichDevice session device with
    | mk enriched collected =>
      cases collected with
      | none =>
        refine ⟨some ⟨.snmpEnrichment, index⟩, ?_, ?_⟩
        · simp [run]
        · simp [enrich, hdevice]
      | some collected =>
        have hle : (responded + if (session.queryHost (SnmpHostResult.mk false []) device.ipAddress).responded then 1
            else 0) ≤ index + 1 := by
          split <;> omega
        have hwithin : Count.Within ⟨index + 1, some total⟩ := by
          simp only [Count.Within, Option.mem_def, Option.some.injEq, forall_eq']
          omega
        obtain ⟨opened, hrun, hiff⟩ := ih _ (index + 1) (by omega) hle
        refine ⟨opened, ?_, ?_⟩
        · simp only [Option.isSome_some, if_true]
          rw [List.map_cons, run_marks_cons]
          simp only [hostsQueried, Publication.mark, next, Option.map_some, Option.getD_some, ProgressMeasurement.count,
            Option.bind_some]
          rw [if_pos ⟨trivial, trivial, hwithin⟩]
          exact hrun
        · rw [hiff, enrich, hdevice]
          simp

theorem publications_fits (abandon : Bool) (opened : Option (Opened RuntimePhase)) (ho : abandon ∨ opened = none)
    (devices : List Device) :
    ∃ opened', run abandon opened ((publications session devices).map (·.mark)) = some opened' ∧
      (opened' = none ↔ (enrich session devices).2.isSome) := by
  obtain ⟨opened', hrun, hiff⟩ := publicationsFrom_fits session abandon devices.length 0 0 devices (Nat.zero_add _)
    (le_refl 0)
  refine ⟨opened', ?_, hiff⟩
  unfold publications
  rw [List.map_cons, run_marks_cons]
  simp only [snmpStarted, Publication.mark, next]
  rw [if_pos ho]
  exact hrun

theorem publications_finished (devices : List Device) (h : (enrich session devices).2.isSome) :
    ((publications session devices).map (·.mark)).filterMap Mark.finished = [.snmpEnrichment] := by
  have hfrom : ∀ total responded index,
      ((publicationsFrom session total responded index devices).map (·.mark)).filterMap Mark.finished =
        [.snmpEnrichment] := by
    induction devices with
    | nil => exact fun _ _ _ => rfl
    | cons device devices ih =>
      intro total responded index
      rw [publicationsFrom]
      simp only [mergeResult_returns]
      rw [enrich] at h
      cases hdevice : enrichDevice session device with
      | mk enriched collected =>
        rw [hdevice] at h
        cases collected with
        | none => cases h
        | some collected => exact ih (by simpa using h) _ _ _
  exact hfrom _ _ _

end SnmpEnrichmentProvider

/-! ## The enrichment providers -/

/-- `SnmpVersion.V2C.value` -/
def snmpVersion : Str := str "v2c"

namespace SnmpProvider

/-- What the provider publishes at its place of a run. -/
def publications (σ : State) : SnmpProvider → List Publication
  | .system session => SnmpEnrichmentProvider.publications session σ.devices
  | .arp session => (SnmpArpNeighborProvider.enrichRun session snmpVersion (addresses σ.devices)).publications
  | .lldp session =>
    (SnmpLldpNeighborProvider.enrichRun session σ.observations snmpVersion (addresses σ.devices)).publications
  | .bridgeFdb session =>
    (SnmpBridgeFdbProvider.enrichRun session σ.observations snmpVersion (addresses σ.devices)).publications

/-- The provider does not raise: a system provider that is only told fields of the system group. -/
def Returns : SnmpProvider → Prop
  | .system session => ∀ ip, SnmpEnrichmentProvider.KnownFields (session.queryHost (SnmpHostResult.mk false []) ip)
  | _ => True

theorem publications_fit (σ : State) (p : SnmpProvider) (abandon : Bool) (opened : Option (Opened RuntimePhase))
    (ho : abandon ∨ opened = none) :
    ∃ opened', run abandon opened ((p.publications σ).map (·.mark)) = some opened' ∧ (p.Returns → opened' = none) := by
  have htable : ∀ {entry δ : Type} (session : SnmpSession (SnmpTableResult entry)) (walking : Str)
      (collect : Str → List entry → List Observation) (diagnose : SnmpTableResult entry → δ) (ips : List Str),
      run abandon opened ((tableEnrich session walking collect diagnose snmpVersion ips).publications.map (·.mark)) =
        some none := by
    intro entry δ session walking collect diagnose ips
    rw [tableEnrich_marks]
    apply run_phaseMarks _ _ _ _ ho
    · simp
    · simp [Count.Within, List.countP_le_length]
  cases p with
  | system session =>
    obtain ⟨opened', hrun, hiff⟩ := SnmpEnrichmentProvider.publications_fits session abandon opened ho σ.devices
    refine ⟨opened', hrun, fun hknown => hiff.mpr ?_⟩
    exact SnmpEnrichmentProvider.enrich_returns session hknown σ.devices
  | arp session => exact ⟨none, htable _ _ _ _ _, fun _ => rfl⟩
  | lldp session => exact ⟨none, htable _ _ _ _ _, fun _ => rfl⟩
  | bridgeFdb session => exact ⟨none, htable _ _ _ _ _, fun _ => rfl⟩

theorem publications_finished (σ : State) (p : SnmpProvider) (h : p.Returns) :
    ((p.publications σ).map (·.mark)).filterMap Mark.finished = [.snmpEnrichment] := by
  have htable : ∀ {entry δ : Type} (session : SnmpSession (SnmpTableResult entry)) (walking : Str)
      (collect : Str → List entry → List Observation) (diagnose : SnmpTableResult entry → δ) (ips : List Str),
      ((tableEnrich session walking collect diagnose snmpVersion ips).publications.map (·.mark)).filterMap
        Mark.finished = [.snmpEnrichment] := by
    intro entry δ session walking collect diagnose ips
    rw [tableEnrich_marks]
    exact finished_phaseMarks _ _ _ _
  cases p with
  | system session =>
    apply SnmpEnrichmentProvider.publications_finished
    exact SnmpEnrichmentProvider.enrich_returns session h σ.devices
  | arp session => exact htable _ _ _ _ _
  | lldp session => exact htable _ _ _ _ _
  | bridgeFdb session => exact htable _ _ _ _ _

/-- The providers of a run, one after the other. -/
def publicationsOf (σ : State) : List SnmpProvider → List Publication
  | [] => []
  | p :: snmp => p.publications σ ++ publicationsOf (p.step σ) snmp

theorem publicationsOf_fit (σ : State) (snmp : List SnmpProvider) (opened : Option (Opened RuntimePhase)) :
    ∃ opened', run true opened ((publicationsOf σ snmp).map (·.mark)) = some opened' := by
  -- A provider that raises leaves its phase to be abandoned by the next one.
  induction snmp generalizing σ opened with
  | nil => exact ⟨opened, rfl⟩
  | cons p snmp ih =>
    obtain ⟨opened', hrun, -⟩ := p.publications_fit σ true opened (Or.inl rfl)
    rw [publicationsOf, List.map_append, run_marks_append, hrun]
    exact ih (p.step σ) opened'

theorem publicationsOf_balanced (σ : State) (snmp : List SnmpProvider) (h : ∀ p ∈ snmp, p.Returns) :
    run false none ((publicationsOf σ snmp).map (·.mark)) = some none := by
  induction snmp generalizing σ with
  | nil => rfl
  | cons p snmp ih =>
    obtain ⟨hp, hrest⟩ := List.forall_mem_cons.mp h
    obtain ⟨opened', hrun, hnone⟩ := p.publications_fit σ false none (Or.inr rfl)
    rw [publicationsOf, List.map_append, run_marks_append, hrun, hnone hp]
    exact ih (p.step σ) hrest

theorem publicationsOf_finished (σ : State) (snmp : List SnmpProvider) (h : ∀ p ∈ snmp, p.Returns) :
    ((publicationsOf σ snmp).map (·.mark)).filterMap Mark.finished = snmp.map fun _ => .snmpEnrichment := by
  induction snmp generalizing σ with
  | nil => rfl
  | cons p snmp ih =>
    obtain ⟨hp, hrest⟩ := List.forall_mem_cons.mp h
    rw [publicationsOf, List.map_append, List.filterMap_append, p.publications_finished σ hp, ih (p.step σ) hrest]
    rfl

end SnmpProvider

/-! ## The application -/

namespace Application

def phase (p : RuntimePhase) (activity completed : Option Str) : List Publication :=
  [{ phase := p, kind := .phaseStarted, activity := activity },
    { phase := p, kind := .phaseCompleted, activity := completed }]

def devicesClassified (kind : RuntimeEventKind) (completed : Nat) : Publication where
  phase := .classification
  kind := kind
  progress := some { completed := completed, unitLabel := str "Devices Classified" }

/-- `_classify_devices` -/
def classification (devices : Nat) : List Publication :=
  { phase := .classification, kind := .phaseStarted,
    activity := some (str "Classifying " ++ natRepr devices ++ str " discovered device(s)...") } ::
    (List.range' 1 devices).map (devicesClassified .progress) ++ [devicesClassified .phaseCompleted devices]

variable (u : Unicode) (fl : Floats)

/-- What a run publishes that comes to its end. -/
def publications (scanProfile : ScanProfile) (scans : List NmapRun) (snmp : List SnmpProvider) : List Publication :=
  let found := scans.map fun scan => scan.discoverRun u fl
  let σ := discoverDevices (found.map (·.found))
  phase .applicationStartup (some (str "Parsing CLI arguments..."))
      (some (str "Scan profile: " ++ u.upper scanProfile.value)) ++
    found.flatMap (·.publications) ++
    SnmpProvider.publicationsOf σ snmp ++
    classification (snmp.foldl SnmpProvider.step σ).devices.length ++
    phase .reportGeneration (some (str "Generating Markdown and CSV reports...")) none ++
    phase .completion (some (str "Finalizing project persistence...")) none

/-- The phases of a run, in their order. -/
def phases (scans : List NmapRun) (snmp : List SnmpProvider) : List RuntimePhase :=
  .applicationStartup :: scans.flatMap (·.phases) ++ snmp.map (fun _ => .snmpEnrichment) ++
    [.classification, .reportGeneration, .completion]

variable {abandon : Bool}

theorem phase_marks (p : RuntimePhase) (activity completed : Option Str) :
    (phase p activity completed).map (·.mark) = phaseMarks p none 0 none := rfl

theorem run_phase (p : RuntimePhase) (activity completed : Option Str) (opened : Option (Opened RuntimePhase))
    (ho : abandon ∨ opened = none) : run abandon opened ((phase p activity completed).map (·.mark)) = some none := by
  rw [phase_marks]
  apply run_phaseMarks _ _ _ _ ho
  · intro total htotal
    cases htotal
  · intro count hcount
    cases hcount

theorem classification_marks (devices : Nat) : (classification devices).map (·.mark) =
    phaseMarks .classification none devices (some ⟨devices, none⟩) := by
  unfold classification phaseMarks
  rw [ticks_eq, List.map_append, List.map_cons, List.map_map]
  rfl

theorem run_classification (devices : Nat) (opened : Option (Opened RuntimePhase)) (ho : abandon ∨ opened = none) :
    run abandon opened ((classification devices).map (·.mark)) = some none := by
  rw [classification_marks]
  apply run_phaseMarks _ _ _ _ ho
  · intro total htotal
    cases htotal
  · rintro _ ⟨⟩ total htotal
    cases htotal

theorem run_scans (scans : List NmapRun) :
    run false none (((scans.map fun scan => scan.discoverRun u fl).flatMap (·.publications)).map (·.mark)) =
      some none := by
  induction scans with
  | nil => rfl
  | cons scan scans ih =>
    rw [List.map_cons, List.flatMap_cons, List.map_append, run_marks_append, scan.discoverRun_fits u fl]
    exact ih

theorem finished_scans (scans : List NmapRun) :
    (((scans.map fun scan => scan.discoverRun u fl).flatMap (·.publications)).map (·.mark)).filterMap Mark.finished =
      scans.flatMap (·.phases) := by
  induction scans with
  | nil => rfl
  | cons scan scans ih =>
    rw [List.map_cons, List.flatMap_cons, List.map_append, List.filterMap_append, scan.discoverRun_finished u fl, ih]
    rfl

theorem publications_fit (scanProfile : ScanProfile) (scans : List NmapRun) (snmp : List SnmpProvider) :
    run true none ((publications u fl scanProfile scans snmp).map (·.mark)) = some none := by
  -- A provider that raises is the only one to leave its phase open, and the next phase starts all the same.
  unfold publications
  simp only [List.map_append, run_marks_append]
  rw [run_phase _ _ _ _ (Or.inr rfl), Option.bind_some, run_abandon (run_scans u fl scans), Option.bind_some]
  obtain ⟨opened, hsnmp⟩ := SnmpProvider.publicationsOf_fit _ snmp none
  rw [hsnmp, Option.bind_some, run_classification _ _ (Or.inl rfl), Option.bind_some, run_phase _ _ _ _ (Or.inl rfl),
    Option.bind_some, run_phase _ _ _ _ (Or.inl rfl)]

theorem publications_balanced (scanProfile : ScanProfile) (scans : List NmapRun) (snmp : List SnmpProvider)
    (h : ∀ p ∈ snmp, p.Returns) : run false none ((publications u fl scanProfile scans snmp).map (·.mark)) = some none := by
  unfold publications
  simp only [List.map_append, run_marks_append]
  rw [run_phase _ _ _ _ (Or.inr rfl), Option.bind_some, run_scans u fl scans, Option.bind_some,
    SnmpProvider.publicationsOf_balanced _ snmp h, Option.bind_some, run_classification _ _ (Or.inr rfl),
    Option.bind_some, run_phase _ _ _ _ (Or.inr rfl), Option.bind_some, run_phase _ _ _ _ (Or.inr rfl)]

theorem publications_finished (scanProfile : ScanProfile) (scans : List NmapRun) (snmp : List SnmpProvider)
    (h : ∀ p ∈ snmp, p.Returns) :
    ((publications u fl scanProfile scans snmp).map (·.mark)).filterMap Mark.finished = phases scans snmp := by
  unfold publications phases
  simp only [List.map_append, List.filterMap_append]
  rw [finished_scans, SnmpProvider.publicationsOf_finished _ snmp h, classification_marks, finished_phaseMarks]
  simp only [phase_marks, finished_phaseMarks, List.append_assoc, List.cons_append, List.nil_append]

theorem snmpProviders_return (system : Option SystemSession)
    (arp : Option (SnmpSession (SnmpTableResult SnmpArpTableEntry)))
    (lldp : Option (SnmpSession (SnmpTableResult SnmpLldpNeighborEntry)))
    (bridgeFdb : Option (SnmpSession (SnmpTableResult SnmpBridgeFdbEntry))) :
    ∀ p ∈ snmpProviders (system.map (·.session)) arp lldp bridgeFdb, p.Returns := by
  intro p hp
  simp only [snmpProviders, List.mem_append, Option.mem_toList, Option.map_eq_some_iff] at hp
  rcases hp with ((⟨_, ⟨s, -, rfl⟩, rfl⟩ | ⟨_, -, rfl⟩) | ⟨_, -, rfl⟩) | ⟨_, -, rfl⟩
  · exact fun ip => SnmpEnrichmentProvider.getSystemGroup_known (s.responses ip)
  all_goals trivial

/-- With the clients of the application each phase of a run is completed before the next one starts, its
progress counts one by one and never past its total, and the telemetry holds all of them in their order. -/
theorem run_completes_its_phases (scanProfile : ScanProfile) (scans : List NmapRun) (system : Option SystemSession)
    (arp : Option (SnmpSession (SnmpTableResult SnmpArpTableEntry)))
    (lldp : Option (SnmpSession (SnmpTableResult SnmpLldpNeighborEntry)))
    (bridgeFdb : Option (SnmpSession (SnmpTableResult SnmpBridgeFdbEntry))) (now : Nat → DateTime) :
    let snmp := snmpProviders (system.map (·.session)) arp lldp bridgeFdb
    let events := stamped now (publications u fl scanProfile scans snmp)
    run false none (events.map (·.mark)) = some none ∧
      (events.foldl (eventBus fl).publish {}).telemetry.completedPhases.map (·.phase) = phases scans snmp := by
  intro snmp events
  have hreturn : ∀ p ∈ snmp, p.Returns := snmpProviders_return system arp lldp bridgeFdb
  have hmarks : events.map (·.mark) = (publications u fl scanProfile scans snmp).map (·.mark) := by
    rw [← stamped_publications now (publications u fl scanProfile scans snmp), List.map_map]
    rfl
  have hbalanced := publications_balanced u fl scanProfile scans snmp hreturn
  rw [← hmarks] at hbalanced
  refine ⟨hbalanced, ?_⟩
  rw [eventBus_telemetry, RuntimeTelemetryRecorder.record_completedPhases fl (run_abandon hbalanced),
    RuntimeTelemetryRecorder.completions_phases, hmarks]
  exact publications_finished u fl scanProfile scans snmp hreturn

/-- At every moment of a run, whatever its clients answer: each recorded phase is completed after it started,
they are disjoint and in order, and the spans between their timestamps are not longer than the run so far. -/
theorem telemetry_accounts (scanProfile : ScanProfile) (scans : List NmapRun) (snmp : List SnmpProvider)
    (now : Nat → DateTime) (hnow : ∀ i j, i ≤ j → (now i).clock ≤ (now j).clock) (moment : Nat) :
    let events := stamped now ((publications u fl scanProfile scans snmp).take moment)
    RuntimeTelemetryRecorder.Accounts fl events (events.foldl (eventBus fl).publish {}).telemetry := by
  intro events
  have hmarks : events.map (·.mark) = ((publications u fl scanProfile scans snmp).map (·.mark)).take moment := by
    rw [← List.map_take, ← stamped_publications now ((publications u fl scanProfile scans snmp).take moment),
      List.map_map]
    rfl
  obtain ⟨opened, hfits⟩ := run_take (publications_fit u fl scanProfile scans snmp) moment
  rw [← hmarks] at hfits
  rw [eventBus_telemetry]
  exact RuntimeTelemetryRecorder.record_accounts fl hfits (RuntimeTelemetryRecorder.stamped_chronological now hnow _)

theorem sampleClock_valid : 9 < 24 ∧ 16 < 60 ∧ 40 < 60 ∧ 0 < 1000000 := by omega

/-- A clock that moves once. -/
def sampleClock (i : Nat) : DateTime :=
  if i = 0 then (sampleProvenance "-sn").observedAt
  else ⟨2026, 10, 13, 9, 16, 40, 0, none, (sampleProvenance "-sn").observedAt.date_valid, sampleClock_valid⟩

theorem sampleClock_monotone (i j : Nat) (h : i ≤ j) : (sampleClock i).clock ≤ (sampleClock j).clock := by
  have hmoves : (sampleClock 0).clock ≤ (sampleClock 1).clock := by decide
  cases i with
  | zero =>
    cases j with
    | zero => exact le_refl _
    | succ j => exact hmoves
  | succ i =>
    cases j with
    | zero => omega
    | succ j => exact le_refl _

theorem telemetry_accounts_sample :
    let events := stamped sampleClock
      ((publications ascii sampleFloats .standard [sampleHosts] [sampleForwardingTable]).take 4)
    RuntimeTelemetryRecorder.Accounts sampleFloats events (events.foldl (eventBus sampleFloats).publish {}).telemetry :=
  telemetry_accounts ascii sampleFloats .standard [sampleHosts] [sampleForwardingTable] sampleClock sampleClock_monotone 4

end Application

end NetworkMapper
