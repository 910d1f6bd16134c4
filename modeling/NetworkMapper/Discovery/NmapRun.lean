import NetworkMapper.Discovery.RunDiagnostics
import NetworkMapper.Python.Floats
import NetworkMapper.Runtime.Events

/-!
# A run of the Nmap provider

The loops as they are, with the diagnostics and the events that they leave. Of the hosts
they find, `NmapProvider.discover` says the same.
-/

open Python Traces

namespace NetworkMapper

/-- A provider with the subnet that it scans, and how long each scan says that it took. -/
structure NmapRun extends NmapProvider where
  subnetCidr : Str
  discoveryElapsed : Option Str
  enrichmentElapsed : Option Str

/-- What `discover` returns, and what it leaves behind. -/
structure NmapOutcome where
  found : DiscoveryProvider
  runDiagnostics : RunDiagnostics
  publications : List Publication

namespace NmapRun

/-! ## Arguments -/

def classificationPorts : List Nat := [22, 53, 80, 161, 443, 445, 515, 631, 9100, 3389, 5060, 5061, 8080, 8443, 902, 903]

def standardEnrichmentScripts : List Str :=
  [str "http-title", str "ssl-cert", str "vmware-version", str "http-auth", str "rdp-ntlm-info"]

def standardHostEnrichmentScripts : List Str := [str "smb-os-discovery", str "smb-security-mode"]

def deepAdditionalEnrichmentScripts : List Str := [str "sip-methods"]

def deepTopPorts : Nat := 1000

def deepMaxRetries : Nat := 6

def deepHostTimeout : Str := str "15m"

/-- The arguments of a standard enrichment scan: the curated ports. -/
def standardEnrichmentArguments : Str :=
  str "-Pn -sV --version-light --script " ++
    [ch ','].intercalate (standardEnrichmentScripts ++ standardHostEnrichmentScripts) ++
    str " -p " ++ [ch ','].intercalate (classificationPorts.map natRepr)

/-- The arguments of a deep one: the top ports, with more patience. -/
def deepEnrichmentArguments : Str :=
  str "-Pn -sV --version-all --script " ++
    [ch ','].intercalate
      (standardEnrichmentScripts ++ standardHostEnrichmentScripts ++ deepAdditionalEnrichmentScripts) ++
    str " --top-ports " ++ natRepr deepTopPorts ++ str " --max-retries " ++ natRepr deepMaxRetries ++
    str " --host-timeout " ++ deepHostTimeout

/-- `_enrichment_arguments` -/
def enrichmentArguments (profile : ScanProfile) : Str :=
  if profile = .deep then deepEnrichmentArguments else standardEnrichmentArguments

/-- `_expanded_capabilities`: what a deep scan does beyond the standard one. -/
def expandedCapabilities (profile : ScanProfile) : List Str :=
  if profile ≠ .deep then []
  else
    [str "Expanded TCP port coverage: top " ++ natRepr deepTopPorts ++ str " ports (STANDARD scans a curated " ++
        natRepr classificationPorts.length ++ str "-port set).",
      str "Version detection intensity: --version-all, maximum (STANDARD uses --version-light).",
      str "Additional enrichment script: " ++ (str ", ").intercalate deepAdditionalEnrichmentScripts ++
        str " (STANDARD's script set plus this).",
      str "Retry/timeout patience: --max-retries " ++ natRepr deepMaxRetries ++ str " --host-timeout " ++
        deepHostTimeout ++ str " (STANDARD uses Nmap's built-in defaults)."]

/-! ## The loops -/

variable (u : Unicode) (fl : Floats) (scan : NmapRun)

/-- `_extract_elapsed_seconds`, of the `elapsed` of a scan. -/
def extractElapsedSeconds (elapsed : Option Str) : Option Str := elapsed.bind fl.ofText

/-- One host of the first scan. -/
def buildStep (found : DiscoveryProvider) (host : Str × HostData) : DiscoveryProvider where
  devices := found.devices ++ [NmapProvider.buildDevice host.1 host.2]
  observations := found.observations ++ scan.buildObservations host.1 host.2

/-- The loop over the hosts of the first scan. -/
def built : DiscoveryProvider := scan.discoveryScan.entries.foldl scan.buildStep ⟨[], []⟩

def hostDiscoveryStarted : Publication where
  phase := .hostDiscovery
  kind := .phaseStarted
  activity := some (str "Scanning " ++ scan.subnetCidr ++ str " for live hosts...")

def hostDiscoveryCompleted (hosts : Nat) : Publication where
  phase := .hostDiscovery
  kind := .phaseCompleted
  progress := some { completed := hosts, unitLabel := str "Hosts Found" }

/-- The `ScanPhase` of the first scan. -/
def hostDiscoveryPhase : ScanPhase where
  name := str "Host Discovery"
  arguments := str "-sn"
  elapsedSeconds := extractElapsedSeconds fl scan.discoveryElapsed

/-- `_discover_single_pass`, with its diagnostics and events. -/
def discoverSinglePassRun : NmapOutcome :=
  let found := scan.built
  { found := found
    runDiagnostics :=
      { scanProfile := scan.scanProfile
        hostsDiscovered := found.devices.length
        enrichmentEnabled := false
        phases := [scan.hostDiscoveryPhase fl] }
    publications := [scan.hostDiscoveryStarted, hostDiscoveryCompleted found.devices.length] }

/-- What the loop over the hosts of the second scan has done. -/
structure Enriched where
  devices : List Device := []
  observations : List Observation
  hostDiagnostics : Dict Str HostDiagnostics := .empty
  publications : List Publication

def hostsCompleted (kind : RuntimeEventKind) (completed total : Nat) : Publication where
  phase := .serviceEnrichment
  kind := kind
  progress := some { completed := completed, unitLabel := str "Hosts Completed", total := some total }

/-- One turn, for the device with this number. -/
def enrichTurn (total : Nat) (enriched : Enriched) (item : Device × Nat) : Enriched :=
  let hostData := scan.enrichmentData item.1.ipAddress
  let device := NmapProvider.enrichDevice u item.1 hostData
  { devices := enriched.devices ++ [device]
    observations := enriched.observations ++ scan.enrichObservations item.1.ipAddress hostData
    hostDiagnostics := enriched.hostDiagnostics.set item.1.ipAddress
      (RunDiagnostics.diagnoseHost u device.services (NmapProvider.extractSmbIdentity hostData)
        (NmapProvider.extractRdpIdentity hostData))
    publications := enriched.publications ++ [hostsCompleted .progress item.2 total] }

def serviceEnrichmentStarted (hosts : Nat) : Publication where
  phase := .serviceEnrichment
  kind := .phaseStarted
  activity := some (str "Enriching " ++ natRepr hosts ++ str " discovered host(s)...")

/-- `_discover_with_enrichment`, with its diagnostics and events. With no device there is no second phase. -/
def discoverWithEnrichmentRun : NmapOutcome :=
  let found := scan.built
  let total := found.devices.length
  let started := [scan.hostDiscoveryStarted, hostDiscoveryCompleted total]
  if found.devices = [] then
    { found := ⟨[], found.observations⟩
      runDiagnostics :=
        { scanProfile := scan.scanProfile
          hostsDiscovered := 0
          enrichmentEnabled := true
          enrichmentArguments := some (enrichmentArguments scan.scanProfile)
          phases := [scan.hostDiscoveryPhase fl]
          expandedCapabilities := expandedCapabilities scan.scanProfile }
      publications := started }
  else
    let enriched := (found.devices.zipIdx 1).foldl (scan.enrichTurn u total)
      { observations := found.observations, publications := started ++ [serviceEnrichmentStarted total] }
    { found := ⟨enriched.devices, enriched.observations⟩
      runDiagnostics :=
        { scanProfile := scan.scanProfile
          hostsDiscovered := total
          enrichmentEnabled := true
          enrichmentArguments := some (enrichmentArguments scan.scanProfile)
          phases := [scan.hostDiscoveryPhase fl,
            ⟨str "Service Enrichment", enrichmentArguments scan.scanProfile,
              extractElapsedSeconds fl scan.enrichmentElapsed⟩]
          hostDiagnostics := enriched.hostDiagnostics
          expandedCapabilities := expandedCapabilities scan.scanProfile }
      publications := enriched.publications ++ [hostsCompleted .phaseCompleted total total] }

/-- `discover`: a fast scan makes one pass. -/
def discoverRun : NmapOutcome :=
  match scan.scanProfile with
  | .fast => scan.discoverSinglePassRun fl
  | .standard | .deep => scan.discoverWithEnrichmentRun u fl

theorem discoverRun_fast (h : scan.scanProfile = .fast) : scan.discoverRun u fl = scan.discoverSinglePassRun fl := by
  unfold discoverRun
  rw [h]

theorem discoverRun_enrichment (h : scan.scanProfile ≠ .fast) :
    scan.discoverRun u fl = scan.discoverWithEnrichmentRun u fl := by
  unfold discoverRun
  cases hprofile : scan.scanProfile with
  | fast => exact absurd hprofile h
  | standard => rfl
  | deep => rfl

/-! ## What the loops come to -/

theorem built_eq : scan.built = scan.toNmapProvider.discoverSinglePass := by
  have hfold : ∀ (hosts : List (Str × HostData)) (found : DiscoveryProvider), hosts.foldl scan.buildStep found =
      ⟨found.devices ++ hosts.map (fun host => NmapProvider.buildDevice host.1 host.2),
        found.observations ++ hosts.flatMap fun host => scan.buildObservations host.1 host.2⟩ := by
    intro hosts
    induction hosts with
    | nil => simp
    | cons host hosts ih =>
      intro found
      rw [List.foldl_cons, ih]
      simp [buildStep]
  exact hfold _ _

theorem built_addresses : scan.built.devices.map (·.ipAddress) = scan.discoveryScan.keys := by
  rw [built_eq, NmapProvider.discoverSinglePass, List.map_map]
  rfl

/-- What the second scan makes of a device. -/
def enriched (device : Device) : Device :=
  NmapProvider.enrichDevice u device (scan.enrichmentData device.ipAddress)

/-- The diagnosis of a device, from what the enrichment scan says of its host. -/
def diagnosis (device : Device) : HostDiagnostics :=
  let hostData := scan.enrichmentData device.ipAddress
  RunDiagnostics.diagnoseHost u (NmapProvider.extractServices u hostData) (NmapProvider.extractSmbIdentity hostData)
    (NmapProvider.extractRdpIdentity hostData)

theorem foldl_enrichTurn (total : Nat) (devices : List Device) (n : Nat) (start : Enriched) :
    (devices.zipIdx n).foldl (scan.enrichTurn u total) start =
      { devices := start.devices ++ devices.map (scan.enriched u)
        observations := start.observations ++
          devices.flatMap fun d => scan.enrichObservations d.ipAddress (scan.enrichmentData d.ipAddress)
        hostDiagnostics := (devices.map fun d => (d.ipAddress, scan.diagnosis u d)).foldl
          (fun hosts host => hosts.set host.1 host.2) start.hostDiagnostics
        publications := start.publications ++
          (List.range' n devices.length).map fun i => hostsCompleted .progress i total } := by
  induction devices generalizing n start with
  | nil => simp
  | cons device devices ih =>
    rw [List.zipIdx_cons, List.foldl_cons, ih]
    simp [enrichTurn, enriched, diagnosis, NmapProvider.enrichDevice, List.range'_succ]

theorem enrichment_found :
    (scan.discoverWithEnrichmentRun u fl).found = ⟨scan.built.devices.map (scan.enriched u), scan.built.observations ++
      scan.built.devices.flatMap fun d => scan.enrichObservations d.ipAddress (scan.enrichmentData d.ipAddress)⟩ := by
  unfold discoverWithEnrichmentRun
  simp only [foldl_enrichTurn]
  split
  · rename_i hnone
    simp [hnone]
  · simp

theorem discoverRun_found : (scan.discoverRun u fl).found = scan.toNmapProvider.discover u := by
  have henrichment : (scan.discoverWithEnrichmentRun u fl).found = scan.toNmapProvider.discoverWithEnrichment u := by
    rw [enrichment_found, built_eq]
    simp only [NmapProvider.discoverSinglePass, NmapProvider.discoverWithEnrichment, List.map_map, List.flatMap_map]
    rfl
  unfold discoverRun NmapProvider.discover
  cases scan.scanProfile with
  | fast => exact scan.built_eq
  | standard => exact henrichment
  | deep => exact henrichment

theorem enrichment_hostDiagnostics :
    (scan.discoverWithEnrichmentRun u fl).runDiagnostics.hostDiagnostics.entries =
      scan.built.devices.map fun d => (d.ipAddress, scan.diagnosis u d) := by
  unfold discoverWithEnrichmentRun
  simp only [foldl_enrichTurn]
  split
  · rename_i hnone
    simp [hnone, Dict.empty]
  · refine Dict.ofPairs_entries _ ?_
    rw [List.map_map]
    have hkeys : scan.discoveryScan.keys.Nodup := scan.discoveryScan.keys_nodup
    rw [← built_addresses] at hkeys
    exact hkeys

/-! ## Events -/

theorem single_pass_marks : (scan.discoverSinglePassRun fl).publications.map (·.mark) =
    phaseMarks .hostDiscovery none 0 (some ⟨scan.built.devices.length, none⟩) := rfl

theorem enrichment_marks : (scan.discoverWithEnrichmentRun u fl).publications.map (·.mark) =
    let total := scan.built.devices.length
    phaseMarks .hostDiscovery none 0 (some ⟨total, none⟩) ++
      if total = 0 then [] else phaseMarks .serviceEnrichment (some total) total (some ⟨total, some total⟩) := by
  unfold discoverWithEnrichmentRun
  simp only [foldl_enrichTurn]
  by_cases hnone : scan.built.devices = []
  · rw [if_pos hnone, if_pos (List.length_eq_zero_iff.mpr hnone), hnone]
    rfl
  · rw [if_neg hnone, if_neg (mt List.length_eq_zero_iff.mp hnone)]
    simp only [List.map_append, List.map_map, phaseMarks, ticks_eq, Nat.zero_add, List.append_assoc]
    rfl

theorem discoverRun_fits : run false none ((scan.discoverRun u fl).publications.map (·.mark)) = some none := by
  by_cases hprofile : scan.scanProfile = .fast
  · rw [discoverRun_fast u fl scan hprofile, single_pass_marks]
    exact run_phaseMarks _ _ _ _ (Or.inr rfl) (by simp) (by simp [Count.Within])
  · rw [discoverRun_enrichment u fl scan hprofile, enrichment_marks, run_marks_append,
      run_phaseMarks _ _ _ _ (Or.inr rfl) (by simp) (by simp [Count.Within]), Option.bind_some]
    split
    · rfl
    · exact run_phaseMarks _ _ _ _ (Or.inr rfl) (by simp) (by simp [Count.Within])

/-- The phases of a scan. Hosts that are not there are not enriched. -/
def phases : List RuntimePhase :=
  if scan.scanProfile = .fast ∨ scan.built.devices = [] then [.hostDiscovery] else [.hostDiscovery, .serviceEnrichment]

theorem discoverRun_finished :
    ((scan.discoverRun u fl).publications.map (·.mark)).filterMap Mark.finished = scan.phases := by
  unfold phases
  by_cases hprofile : scan.scanProfile = .fast
  · rw [discoverRun_fast u fl scan hprofile, single_pass_marks, finished_phaseMarks, if_pos (Or.inl hprofile)]
  · rw [discoverRun_enrichment u fl scan hprofile, enrichment_marks, List.filterMap_append, finished_phaseMarks]
    by_cases hnone : scan.built.devices = []
    · rw [if_pos (List.length_eq_zero_iff.mpr hnone), if_pos (Or.inr hnone)]
      rfl
    · rw [if_neg (mt List.length_eq_zero_iff.mp hnone), finished_phaseMarks, if_neg (by simp [hprofile, hnone])]
      rfl

end NmapRun

/-! ## A run that finds two hosts -/

/-- For scans that do not say how long they took. -/
def sampleFloats : Floats := ⟨fun _ _ => zeroFloat, fun x _ => x, fun x _ => x, fun _ => none, fun _ => none, fun _ => none⟩

/-- The second scan names one of the hosts and finds nothing on the other. -/
def sampleHosts : NmapRun where
  scanProfile := .standard
  currentRunId := str "run-001"
  currentObservedAt := (sampleProvenance "-sn").observedAt
  discoveryScan := .ofPairs [(str "192.0.2.10", {}), (str "192.0.2.20", {})]
  enrichmentScan := .ofPairs [(str "192.0.2.10",
    { hostscript := [(some (str "smb-os-discovery"), some (str "Computer name: files"))] })]
  subnetCidr := str "192.0.2.0/24"
  discoveryElapsed := none
  enrichmentElapsed := none

end NetworkMapper
