import NetworkMapper.Discovery.Isolation
import NetworkMapper.Discovery.NeighborTables
import NetworkMapper.Discovery.SnmpRun
import NetworkMapper.Discovery.TableRuns
import Mathlib.Algebra.Order.BigOperators.Group.List

/-!
# The diagnostics of a table provider account for its evidence

Every edge that a provider adds is from the host it walked, so the edges can be counted
host by host.
-/

open Python

namespace NetworkMapper

/-- A relationship with the property. -/
def edge (q : RelationshipObservation → Bool) : Observation → Bool
  | .relationship r => q r
  | .identity _ => false

def anyEdge : Observation → Bool := edge fun _ => true

/-- A relationship with the property, reported by this host. -/
def edgeFrom (ip : Str) (q : RelationshipObservation → Bool) : Observation → Bool := edge fun r => r.subject = ip && q r

/-- The hosts of a run are all counted, each once. -/
structure TableRunDiagnostics.Balanced {δ : Type} (diagnostics : TableRunDiagnostics δ) (ips : List Str)
    (responded : δ → Bool) : Prop where
  hosts : diagnostics.hostDiagnostics.keys = ips
  eligible : diagnostics.hostsEligible = ips.length
  queried : diagnostics.hostsQueried = ips.length
  split : diagnostics.hostsResponded + diagnostics.hostsTimedOut = diagnostics.hostsQueried
  responded : diagnostics.hostsResponded = diagnostics.hostDiagnostics.values.countP responded

/-! ## Counting host by host -/

section Hosts

variable {entry δ : Type} (session : SnmpSession (SnmpTableResult entry)) (walking : Str)
  (collect : Str → List entry → List Observation) (diagnose : SnmpTableResult entry → δ) (version : Str)
  (ips : List Str)

/-- A host that does not respond returns no entries. -/
def Silent : Prop := ∀ ip, respondedTo session ip = false → (session.queryHost (SnmpTableResult.mk false []) ip).entries = []

/-- Every edge is from the host that was walked. -/
def Owned : Prop := ∀ ip entries r, .relationship r ∈ collect ip entries → r.subject = ip

/-- The entries of a host's answer. -/
def entriesOf (ip : Str) : List entry := (session.queryHost (SnmpTableResult.mk false []) ip).entries

/-- The edges that one host adds. -/
def edgesOf (q : RelationshipObservation → Bool) (ip : Str) : Nat :=
  if respondedTo session ip then (collect ip (entriesOf session ip)).countP (edge q) else 0

theorem tableEnrich_balanced (hn : ips.Nodup) (responded : δ → Bool)
    (h : ∀ ip, responded (diagnosisOf session diagnose ip) = respondedTo session ip) :
    (tableEnrich session walking collect diagnose version ips).runDiagnostics.Balanced ips responded := by
  have hhosts := tableEnrich_hosts session walking collect diagnose version ips hn
  refine ⟨?_, rfl, rfl, ?_, ?_⟩
  · unfold Dict.keys
    rw [hhosts, List.map_map]
    exact List.map_id ips
  · unfold tableEnrich
    simp only [foldl_tableTurn, Nat.zero_add]
    rw [List.length_eq_countP_add_countP (respondedTo session)]
    simp
  · unfold Dict.values
    rw [hhosts, List.map_map, List.countP_map]
    unfold tableEnrich
    simp only [foldl_tableTurn, Nat.zero_add]
    exact List.countP_congr fun ip _ => by simp only [Function.comp_apply, h]

theorem walkTables_cons (ip : Str) (rest : List Str) :
    walkTables session collect (ip :: rest) =
      (if respondedTo session ip then collect ip (entriesOf session ip) else []) ++ walkTables session collect rest :=
  List.flatMap_cons

theorem walkTables_edges (q : RelationshipObservation → Bool) :
    (walkTables session collect ips).countP (edge q) = (ips.map (edgesOf session collect q)).sum := by
  induction ips with
  | nil => rfl
  | cons ip ips ih =>
    rw [walkTables_cons, List.countP_append, ih, List.map_cons, List.sum_cons, edgesOf]
    split <;> rfl

theorem walkTables_edgesFrom (hown : Owned collect) (q : RelationshipObservation → Bool) (hn : ips.Nodup) {ip : Str}
    (hip : ip ∈ ips) : (walkTables session collect ips).countP (edgeFrom ip q) = edgesOf session collect q ip := by
  have hself : ∀ entries, (collect ip entries).countP (edgeFrom ip q) = (collect ip entries).countP (edge q) := by
    intro entries
    apply List.countP_congr
    intro o ho
    cases o with
    | identity i => rfl
    | relationship r => simp [edgeFrom, edge, hown ip entries r ho]
  have hother : ∀ ip', ip' ≠ ip → ∀ entries, (collect ip' entries).countP (edgeFrom ip q) = 0 := by
    intro ip' hne entries
    apply List.countP_eq_zero.mpr
    intro o ho
    cases o with
    | identity i => exact Bool.false_ne_true
    | relationship r => simp [edgeFrom, edge, hown ip' entries r ho, hne]
  have hnone : ∀ rest : List Str, ip ∉ rest → (walkTables session collect rest).countP (edgeFrom ip q) = 0 := by
    intro rest hrest
    induction rest with
    | nil => rfl
    | cons ip' rest ih =>
      rw [List.mem_cons, not_or] at hrest
      obtain ⟨hne, hrest⟩ := hrest
      rw [walkTables_cons, List.countP_append, ih hrest]
      split
      · rw [hother ip' (Ne.symm hne)]
      · rfl
  induction ips with
  | nil => exact absurd hip List.not_mem_nil
  | cons ip' ips ih =>
    obtain ⟨hfresh, hn⟩ := List.nodup_cons.mp hn
    rw [walkTables_cons, List.countP_append]
    rcases List.mem_cons.mp hip with rfl | hip
    · rw [hnone ips hfresh, edgesOf, Nat.add_zero]
      split
      · exact hself _
      · rfl
    · have hne : ip' ≠ ip := fun heq => hfresh (heq ▸ hip)
      rw [ih hn hip]
      split
      · rw [hother ip' hne, Nat.zero_add]
      · exact Nat.zero_add _

theorem tableEnrich_numbers (hn : ips.Nodup) (number : δ → Nat) (count : Str → Nat)
    (h : ∀ ip ∈ ips, number (diagnosisOf session diagnose ip) = count ip) :
    let diagnostics := (tableEnrich session walking collect diagnose version ips).runDiagnostics
    (∀ ip ∈ ips, ∃ host, diagnostics.hostDiagnostics.get? ip = some host ∧ number host = count ip) ∧
      (diagnostics.hostDiagnostics.values.map number).sum = (ips.map count).sum := by
  have hhosts := tableEnrich_hosts session walking collect diagnose version ips hn
  intro diagnostics
  constructor
  · intro ip hip
    refine ⟨diagnosisOf session diagnose ip, ?_, h ip hip⟩
    rw [Dict.get?_eq_some, hhosts]
    exact List.mem_map_of_mem hip
  · unfold Dict.values
    rw [hhosts, List.map_map, List.map_map]
    congr 1
    exact List.map_congr_left h

theorem tableEnrich_bounds (hn : ips.Nodup) (hown : Owned collect) (q : RelationshipObservation → Bool) (number : δ → Nat)
    (hnumber : ∀ ip, number (diagnosisOf session diagnose ip) = (entriesOf session ip).length)
    (hedges : ∀ ip entries, (collect ip entries).countP (edge q) ≤ entries.length) :
    let outcome := tableEnrich session walking collect diagnose version ips
    (∀ ip ∈ ips, ∃ host, outcome.runDiagnostics.hostDiagnostics.get? ip = some host ∧
        outcome.observations.countP (edgeFrom ip q) ≤ number host) ∧
      outcome.observations.countP (edge q) ≤ (outcome.runDiagnostics.hostDiagnostics.values.map number).sum := by
  intro outcome
  have hle : ∀ ip, edgesOf session collect q ip ≤ (entriesOf session ip).length := by
    intro ip
    unfold edgesOf
    split
    · exact hedges ip _
    · exact Nat.zero_le _
  have hobservations : outcome.observations = walkTables session collect ips :=
    tableEnrich_observations session walking collect diagnose version ips
  obtain ⟨hosts, hsum⟩ := tableEnrich_numbers session walking collect diagnose version ips hn number _
    fun ip _ => hnumber ip
  constructor
  · intro ip hip
    obtain ⟨host, hget, heq⟩ := hosts ip hip
    refine ⟨host, hget, ?_⟩
    rw [hobservations, walkTables_edgesFrom session collect ips hown q hn hip, heq]
    exact hle ip
  · rw [hobservations, walkTables_edges, hsum]
    exact List.sum_le_sum fun ip _ => hle ip

end Hosts

/-! ## ARP -/

namespace SnmpArpNeighborProvider

variable (session : SnmpSession (SnmpTableResult SnmpArpTableEntry))

theorem collect_owned (discoveredIps : List Str) : Owned (collect session discoveredIps) := by
  intro ip entries r hr
  unfold collect collectRelationshipObservations collectMacIdentityObservations at hr
  rw [List.mem_append, List.mem_map, List.mem_filterMap] at hr
  rcases hr with ⟨entry, -, heq⟩ | ⟨entry, -, heq⟩
  · rw [Observation.relationship.injEq] at heq
    rw [← heq]
  · split at heq <;> simp at heq

theorem collect_edges (discoveredIps : List Str) (ip : Str) (entries : List SnmpArpTableEntry) :
    (collect session discoveredIps ip entries).countP anyEdge = entries.length := by
  have hidentities : (collectMacIdentityObservations session discoveredIps entries).countP anyEdge = 0 := by
    apply List.countP_eq_zero.mpr
    intro o ho
    obtain ⟨entry, -, heq⟩ := List.mem_filterMap.mp ho
    split at heq
    · simp at heq
    · rw [← Option.some.inj heq]
      exact Bool.false_ne_true
  unfold collect collectRelationshipObservations
  rw [List.countP_append, hidentities, List.countP_map, Nat.add_zero]
  exact List.countP_eq_length.mpr fun _ _ => rfl

/-- Each host and the whole run return as many entries as there are edges from them. -/
structure Accounts (ips : List Str) (outcome : TableOutcome SnmpArpHostDiagnostics) : Prop where
  balanced : outcome.runDiagnostics.Balanced ips (·.responded)
  entries : ∀ ip ∈ ips, ∃ host, outcome.runDiagnostics.hostDiagnostics.get? ip = some host ∧
    host.entriesReturned = outcome.observations.countP (edgeFrom ip fun _ => true)
  total : totalEntries outcome.runDiagnostics = outcome.observations.countP anyEdge

theorem enrichRun_accounts (hsilent : Silent session) (version : Str) (ips : List Str) (hn : ips.Nodup) :
    Accounts ips (enrichRun session version ips) := by
  have hcount : ∀ ip ∈ ips, (diagnosisOf session diagnose ip).entriesReturned =
      edgesOf session (collect session ips) (fun _ => true) ip := by
    intro ip _
    unfold edgesOf
    cases hresponded : respondedTo session ip with
    | true => exact (collect_edges session ips ip _).symm
    | false => exact congrArg List.length (hsilent ip hresponded)
  obtain ⟨hosts, hsum⟩ := tableEnrich_numbers session (str "ARP tables") (collect session ips) diagnose version ips hn
    (·.entriesReturned) _ hcount
  refine ⟨tableEnrich_balanced _ _ _ _ _ _ hn _ fun _ => rfl, ?_, ?_⟩
  · intro ip hip
    obtain ⟨host, hget, hnumber⟩ := hosts ip hip
    refine ⟨host, hget, hnumber.trans ?_⟩
    unfold enrichRun
    rw [tableEnrich_observations, walkTables_edgesFrom session _ ips (collect_owned session ips) _ hn hip]
  · refine hsum.trans ?_
    unfold enrichRun
    rw [tableEnrich_observations]
    exact (walkTables_edges session _ ips _).symm

end SnmpArpNeighborProvider

/-! ## LLDP -/

namespace SnmpLldpNeighborProvider

variable (session : SnmpSession (SnmpTableResult SnmpLldpNeighborEntry)) (index : MacIndex)

/-- The edge is to a management address. -/
def managed (r : RelationshipObservation) : Bool := r.provenance.collectionMethod = methodManagementAddress

/-- An edge that names no management address. -/
def unmanaged (r : RelationshipObservation) : Bool := !managed r

theorem collect_owned (discoveredIps : List Str) : Owned (collect session index discoveredIps) := by
  intro ip entries r hr
  unfold collect at hr
  simp only [List.mem_flatMap, List.mem_cons] at hr
  obtain ⟨entry, -, resolved, -, heq | hhost⟩ := hr
  · rw [Observation.relationship.injEq] at heq
    rw [heq]
    rfl
  · unfold hostnameObservations at hhost
    split at hhost
    · simp at hhost
    · simp at hhost
    · split at hhost <;> simp at hhost

theorem collect_edges (q : RelationshipObservation → Bool) (discoveredIps : List Str) (ip : Str)
    (entries : List SnmpLldpNeighborEntry) :
    (collect session index discoveredIps ip entries).countP (edge q) =
      (entries.map fun entry => (resolveRelatedSubjects entry index).countP fun resolved =>
        q (relationshipObservation session ip resolved.1 resolved.2)).sum := by
  have hhosts : ∀ entry relatedSubject method,
      (hostnameObservations session discoveredIps entry relatedSubject method).countP (edge q) = 0 := by
    intro entry relatedSubject method
    unfold hostnameObservations
    split
    · rfl
    · rfl
    · split
      · rfl
      · rfl
  have hrow : ∀ entry (resolved : List (Str × Str)), (resolved.flatMap fun r =>
      .relationship (relationshipObservation session ip r.1 r.2) ::
        hostnameObservations session discoveredIps entry r.1 r.2).countP (edge q) =
      resolved.countP fun r => q (relationshipObservation session ip r.1 r.2) := by
    intro entry resolved
    induction resolved with
    | nil => rfl
    | cons r resolved ih =>
      rw [List.flatMap_cons, List.countP_append, ih, List.countP_cons, hhosts, List.countP_cons, Nat.zero_add]
      exact Nat.add_comm _ _
  unfold collect
  rw [List.countP_flatMap]
  congr 1
  exact List.map_congr_left fun entry _ => hrow entry _

theorem resolve_managed (ip : Str) (entry : SnmpLldpNeighborEntry) :
    ((resolveRelatedSubjects entry index).countP fun resolved =>
        managed (relationshipObservation session ip resolved.1 resolved.2)) = entry.managementAddresses.length ∧
      ((resolveRelatedSubjects entry index).countP fun resolved =>
        unmanaged (relationshipObservation session ip resolved.1 resolved.2)) ≤ 1 := by
  have hnetwork : methodChassisNetworkAddress ≠ methodManagementAddress := by decide
  have hmac : methodChassisMac ≠ methodManagementAddress := by decide
  by_cases haddresses : entry.managementAddresses = []
  · have hshort : resolveRelatedSubjects entry index = [] ∨ ∃ resolved,
        resolveRelatedSubjects entry index = [resolved] ∧ resolved.2 ≠ methodManagementAddress := by
      unfold resolveRelatedSubjects
      rw [if_neg (not_not.mpr haddresses)]
      split
      · split
        · exact Or.inl rfl
        · exact Or.inr ⟨_, rfl, hnetwork⟩
      · split
        · cases theOnly (index.subjects entry.chassisId) with
          | none => exact Or.inl rfl
          | some subject => exact Or.inr ⟨_, rfl, hmac⟩
        · exact Or.inl rfl
    rcases hshort with hnone | ⟨resolved, hone, hmethod⟩
    · rw [hnone, haddresses]
      exact ⟨rfl, Nat.zero_le _⟩
    · have hmanaged : managed (relationshipObservation session ip resolved.1 resolved.2) = false :=
        decide_eq_false hmethod
      rw [hone, haddresses, List.countP_singleton, hmanaged]
      exact ⟨rfl, List.countP_le_length⟩
  · have hmany : resolveRelatedSubjects entry index =
        entry.managementAddresses.map fun address => (address, methodManagementAddress) := by
      unfold resolveRelatedSubjects
      rw [if_pos haddresses]
    rw [hmany, List.countP_map, List.countP_map]
    constructor
    · exact List.countP_eq_length.mpr fun _ _ => rfl
    · exact (List.countP_eq_zero.mpr fun _ _ => Bool.false_ne_true).trans_le (Nat.zero_le 1)

/-- Each management address that a host returns is an edge from it, and each entry adds at most one other. -/
structure Accounts (ips : List Str) (outcome : TableOutcome SnmpLldpHostDiagnostics) : Prop where
  balanced : outcome.runDiagnostics.Balanced ips (·.responded)
  managementAddresses : ∀ ip ∈ ips, ∃ host, outcome.runDiagnostics.hostDiagnostics.get? ip = some host ∧
    host.managementAddressesReturned = outcome.observations.countP (edgeFrom ip managed)
  entries : ∀ ip ∈ ips, ∃ host, outcome.runDiagnostics.hostDiagnostics.get? ip = some host ∧
    outcome.observations.countP (edgeFrom ip unmanaged) ≤ host.entriesReturned
  totalAddresses : totalManagementAddresses outcome.runDiagnostics = outcome.observations.countP (edge managed)
  total : outcome.observations.countP (edge unmanaged) ≤ totalEntries outcome.runDiagnostics

theorem enrichRun_accounts (hsilent : Silent session) (received : List Observation) (version : Str) (ips : List Str)
    (hn : ips.Nodup) : Accounts ips (enrichRun session received version ips) := by
  have hmanaged : ∀ ip entries, (collect session (buildMacIndex received) ips ip entries).countP (edge managed) =
      (entries.map fun entry => entry.managementAddresses.length).sum := by
    intro ip entries
    rw [collect_edges]
    congr 1
    exact List.map_congr_left fun entry _ => (resolve_managed session _ ip entry).1
  have hunmanaged : ∀ ip entries, (collect session (buildMacIndex received) ips ip entries).countP (edge unmanaged) ≤
      entries.length := by
    intro ip entries
    rw [collect_edges]
    refine (List.sum_le_card_nsmul _ 1 ?_).trans (by simp)
    intro n hn
    obtain ⟨entry, -, rfl⟩ := List.mem_map.mp hn
    exact (resolve_managed session _ ip entry).2
  have hcount : ∀ ip ∈ ips, (diagnosisOf session diagnose ip).managementAddressesReturned =
      edgesOf session (collect session (buildMacIndex received) ips) managed ip := by
    intro ip _
    unfold edgesOf
    cases hresponded : respondedTo session ip with
    | true => exact (hmanaged ip _).symm
    | false =>
      have hnone : entriesOf session ip = [] := hsilent ip hresponded
      exact congrArg (fun entries => (entries.map fun entry => entry.managementAddresses.length).sum) hnone
  have howned := collect_owned session (buildMacIndex received) ips
  obtain ⟨addresses, haddresses⟩ := tableEnrich_numbers session (str "LLDP neighbor tables")
    (collect session (buildMacIndex received) ips) diagnose version ips hn (·.managementAddressesReturned) _ hcount
  obtain ⟨hosts, hsum⟩ := tableEnrich_bounds session (str "LLDP neighbor tables")
    (collect session (buildMacIndex received) ips) diagnose version ips hn howned unmanaged (·.entriesReturned)
    (fun _ => rfl) hunmanaged
  refine ⟨tableEnrich_balanced _ _ _ _ _ _ hn _ fun _ => rfl, ?_, hosts, ?_, hsum⟩
  · intro ip hip
    obtain ⟨host, hget, hnumber⟩ := addresses ip hip
    refine ⟨host, hget, hnumber.trans ?_⟩
    unfold enrichRun
    rw [tableEnrich_observations, walkTables_edgesFrom session _ ips howned _ hn hip]
  · refine haddresses.trans ?_
    unfold enrichRun
    rw [tableEnrich_observations]
    exact (walkTables_edges session _ ips _).symm

end SnmpLldpNeighborProvider

/-! ## Forwarding tables -/

namespace SnmpBridgeFdbProvider

variable (session : SnmpSession (SnmpTableResult SnmpBridgeFdbEntry)) (index : MacIndex)

theorem collect_owned : Owned (collect session index) := by
  intro ip entries r hr
  unfold collect at hr
  simp only [List.mem_filterMap, Option.map_eq_some_iff] at hr
  obtain ⟨entry, -, relatedSubject, -, heq⟩ := hr
  rw [Observation.relationship.injEq] at heq
  rw [← heq]
  rfl

/-- The diagnoses add up, and no host and no run has more edges than entries. -/
structure Accounts (ips : List Str) (outcome : TableOutcome SnmpBridgeFdbHostDiagnostics) : Prop where
  balanced : outcome.runDiagnostics.Balanced ips (·.responded)
  entries : ∀ ip ∈ ips, ∃ host, outcome.runDiagnostics.hostDiagnostics.get? ip = some host ∧
    outcome.observations.countP (edgeFrom ip fun _ => true) ≤ host.entriesReturned
  total : outcome.observations.countP anyEdge ≤ totalEntries outcome.runDiagnostics

theorem enrichRun_accounts (received : List Observation) (version : Str) (ips : List Str) (hn : ips.Nodup) :
    Accounts ips (enrichRun session received version ips) := by
  obtain ⟨hosts, hsum⟩ := tableEnrich_bounds session (str "Bridge-MIB forwarding tables")
    (collect session (buildMacIndex received)) diagnose version ips hn (collect_owned session _) (fun _ => true)
    (·.entriesReturned) (fun _ => rfl)
    fun ip entries => (List.countP_le_length).trans (List.length_filterMap_le _ entries)
  exact ⟨tableEnrich_balanced _ _ _ _ _ _ hn _ fun _ => rfl, hosts, hsum⟩

end SnmpBridgeFdbProvider

/-! ## The PySNMP client -/

/-- A call that asks the PySNMP client. It answers for every host. -/
def pysnmpSession {walks entry : Type} (runId : Str) (observedAt : DateTime)
    (table : Option walks → SnmpTableResult entry) (hosts : Str → Option walks) : SnmpSession (SnmpTableResult entry) :=
  ⟨runId, observedAt, fun host => some (table (hosts host))⟩

theorem pysnmpSession_silent {walks entry : Type} (runId : Str) (observedAt : DateTime)
    (table : Option walks → SnmpTableResult entry) (hosts : Str → Option walks)
    (h : ∀ walks, (table walks).responded = false → (table walks).entries = []) :
    Silent (pysnmpSession runId observedAt table hosts) := fun ip hresponded => h (hosts ip) hresponded

namespace PysnmpClient

variable (py : Interpreter)

theorem getArpTable_silent (walks : Option ArpWalks) (h : (getArpTable py walks).responded = false) :
    (getArpTable py walks).entries = [] := by
  cases walks with
  | none => rfl
  | some walks =>
    unfold getArpTable at h ⊢
    cases hwalk : walkColumn (parseIpv4ArpRow py) ipNetToPhysicalPhysAddressOid walks.physAddress with
    | none => simp only [hwalk]
    | some macByKey => simp [hwalk] at h

theorem getLldpNeighbors_silent (walks : Option LldpWalks) (h : (getLldpNeighbors py walks).responded = false) :
    (getLldpNeighbors py walks).entries = [] := by
  cases walks with
  | none => rfl
  | some walks =>
    unfold getLldpNeighbors at h ⊢
    cases hwalk : walkColumn (parseLldpRemRow py) lldpRemChassisIdSubtypeOid walks.chassisIdSubtype with
    | none => simp only [hwalk]
    | some subtypeByKey =>
      cases hwalk' : walkColumn (parseLldpRemRow py) lldpRemChassisIdOid walks.chassisId with
      | none => simp only [hwalk, hwalk']
      | some chassisIdByKey => simp [hwalk, hwalk'] at h

end PysnmpClient

/-! ## Runs -/

open DiscoveryEngine

variable (providers : List DiscoveryProvider) (before : List SnmpProvider) (version runId : Str) (observedAt : DateTime)
  (py : Interpreter)

/-- A run up to the moment when a provider is next. -/
def reached : State := before.foldl SnmpProvider.step (discoverDevices providers)

theorem reached_nodup : (addresses (reached providers before).devices).Nodup := by
  have haddresses : ∀ σ : State, addresses (before.foldl SnmpProvider.step σ).devices = addresses σ.devices := by
    induction before with
    | nil => exact fun σ => rfl
    | cons p before ih =>
      intro σ
      rw [List.foldl_cons, ih, SnmpProvider.step_addresses]
  unfold reached
  rw [haddresses]
  exact firsts_nodup providers

/-- In every run the ARP diagnostics account for each host and for each edge that the provider adds. -/
theorem arp_run_accounts (hosts : Str → Option PysnmpClient.ArpWalks) :
    let σ := reached providers before
    let session := pysnmpSession runId observedAt (PysnmpClient.getArpTable py) hosts
    let outcome := SnmpArpNeighborProvider.enrichRun session version (addresses σ.devices)
    outcome.observations = SnmpProvider.collected σ (.arp session) ∧
      SnmpArpNeighborProvider.Accounts (addresses σ.devices) outcome := by
  intro σ session outcome
  have hsilent : Silent session := pysnmpSession_silent _ _ _ _ (PysnmpClient.getArpTable_silent py)
  exact ⟨tableEnrich_observations _ _ _ _ _ _,
    SnmpArpNeighborProvider.enrichRun_accounts session hsilent version _ (reached_nodup providers before)⟩

/-- The LLDP diagnostics, of every run: each management address is an edge. -/
theorem lldp_run_accounts (hosts : Str → Option PysnmpClient.LldpWalks) :
    let σ := reached providers before
    let session := pysnmpSession runId observedAt (PysnmpClient.getLldpNeighbors py) hosts
    let outcome := SnmpLldpNeighborProvider.enrichRun session σ.observations version (addresses σ.devices)
    outcome.observations = SnmpProvider.collected σ (.lldp session) ∧
      SnmpLldpNeighborProvider.Accounts (addresses σ.devices) outcome := by
  intro σ session outcome
  have hsilent : Silent session := pysnmpSession_silent _ _ _ _ (PysnmpClient.getLldpNeighbors_silent py)
  exact ⟨tableEnrich_observations _ _ _ _ _ _,
    SnmpLldpNeighborProvider.enrichRun_accounts session hsilent _ version _ (reached_nodup providers before)⟩

/-- The forwarding table diagnostics, of every run: no more edges than entries. -/
theorem bridge_fdb_run_accounts (hosts : Str → Option PysnmpClient.BridgeFdbWalks) :
    let σ := reached providers before
    let session := pysnmpSession runId observedAt (PysnmpClient.getBridgeFdb py) hosts
    let outcome := SnmpBridgeFdbProvider.enrichRun session σ.observations version (addresses σ.devices)
    outcome.observations = SnmpProvider.collected σ (.bridgeFdb session) ∧
      SnmpBridgeFdbProvider.Accounts (addresses σ.devices) outcome := by
  intro σ session outcome
  exact ⟨tableEnrich_observations _ _ _ _ _ _,
    SnmpBridgeFdbProvider.enrichRun_accounts session _ version _ (reached_nodup providers before)⟩

end NetworkMapper
