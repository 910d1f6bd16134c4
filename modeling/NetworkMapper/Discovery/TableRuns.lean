import NetworkMapper.Discovery.NeighborProviders
import NetworkMapper.Python.Json.Value
import NetworkMapper.Runtime.Events
import Mathlib.Algebra.BigOperators.Ring.Finset

/-!
# Runs of the table providers

The loop of the three `enrich` methods, with the diagnostics and the events that it
leaves. Of the observations it collects, `walkTables` says the same.
-/

open Python Traces

namespace NetworkMapper

/-- What the walk of one host's ARP table did and did not find. -/
structure SnmpArpHostDiagnostics where
  responded : Bool
  entriesReturned : Nat := 0
  failureReason : Option Str := none

/-- What the walk of one host's neighbors did and did not find. -/
structure SnmpLldpHostDiagnostics where
  responded : Bool
  entriesReturned : Nat := 0
  managementAddressesReturned : Nat := 0
  failureReason : Option Str := none

/-- What the walk of one host's forwarding table did and did not find. -/
structure SnmpBridgeFdbHostDiagnostics where
  responded : Bool
  entriesReturned : Nat := 0
  failureReason : Option Str := none

/-- `SnmpArpRunDiagnostics`, `SnmpLldpRunDiagnostics` and `SnmpBridgeFdbRunDiagnostics`. -/
structure TableRunDiagnostics (δ : Type) where
  hostsEligible : Nat
  hostsQueried : Nat
  hostsResponded : Nat
  hostsTimedOut : Nat
  version : Str
  hostDiagnostics : Dict Str δ

/-! ## The events of the SNMP providers -/

def snmpStarted (activity : Str) : Publication where
  phase := .snmpEnrichment
  kind := .phaseStarted
  activity := some activity

def hostsQueried (completed total : Nat) : Publication where
  phase := .snmpEnrichment
  kind := .progress
  progress := some { completed := completed, unitLabel := str "Hosts Queried", total := some total }

def hostsResponded (completed total : Nat) : Publication where
  phase := .snmpEnrichment
  kind := .phaseCompleted
  progress := some { completed := completed, unitLabel := str "Hosts Responded", total := some total }

/-! ## The loop -/

/-- What a call has done so far. -/
structure TableLoop (δ : Type) where
  hostsResponded : Nat := 0
  hostsTimedOut : Nat := 0
  hostDiagnostics : Dict Str δ := .empty
  observations : List Observation := []
  publications : List Publication

/-- What a call leaves behind. -/
structure TableOutcome (δ : Type) where
  observations : List Observation
  runDiagnostics : TableRunDiagnostics δ
  publications : List Publication

section Loop

variable {entry δ : Type} (session : SnmpSession (SnmpTableResult entry)) (walking : Str)
  (collect : Str → List entry → List Observation) (diagnose : SnmpTableResult entry → δ)

/-- One host of the loop: query it, diagnose it, collect from it if it responded. -/
def tableTurn (total : Nat) (loop : TableLoop δ) (item : Str × Nat) : TableLoop δ :=
  let result := session.queryHost (SnmpTableResult.mk false []) item.1
  { hostsResponded := loop.hostsResponded + if result.responded then 1 else 0
    hostsTimedOut := loop.hostsTimedOut + if result.responded then 0 else 1
    hostDiagnostics := loop.hostDiagnostics.set item.1 (diagnose result)
    observations := loop.observations ++ if result.responded then collect item.1 result.entries else []
    publications := loop.publications ++ [hostsQueried item.2 total] }

/-- `enrich` of a provider over a table, with its diagnostics and events. -/
def tableEnrich (version : Str) (ips : List Str) : TableOutcome δ :=
  let total := ips.length
  let start := snmpStarted (str "Walking " ++ walking ++ str " via SNMP for " ++ natRepr total ++ str " host(s)...")
  let loop := (ips.zipIdx 1).foldl (tableTurn session collect diagnose total) { publications := [start] }
  { observations := loop.observations
    runDiagnostics := ⟨total, total, loop.hostsResponded, loop.hostsTimedOut, version, loop.hostDiagnostics⟩
    publications := loop.publications ++ [hostsResponded loop.hostsResponded total] }

/-! ## What the loop comes to -/

def respondedTo (ip : Str) : Bool := (session.queryHost (SnmpTableResult.mk false []) ip).responded

def diagnosisOf (ip : Str) : δ := diagnose (session.queryHost (SnmpTableResult.mk false []) ip)

theorem foldl_tableTurn (total n : Nat) (ips : List Str) (loop : TableLoop δ) :
    (ips.zipIdx n).foldl (tableTurn session collect diagnose total) loop =
      { hostsResponded := loop.hostsResponded + ips.countP (respondedTo session)
        hostsTimedOut := loop.hostsTimedOut + ips.countP fun ip => !respondedTo session ip
        hostDiagnostics := (ips.map fun ip => (ip, diagnosisOf session diagnose ip)).foldl
          (fun hosts host => hosts.set host.1 host.2) loop.hostDiagnostics
        observations := loop.observations ++ walkTables session collect ips
        publications := loop.publications ++ (List.range' n ips.length).map fun i => hostsQueried i total } := by
  induction ips generalizing n loop with
  | nil => simp [walkTables]
  | cons ip ips ih =>
    rw [List.zipIdx_cons, List.foldl_cons, ih]
    cases h : (session.queryHost (SnmpTableResult.mk false []) ip).responded with
    | true => simp [tableTurn, respondedTo, diagnosisOf, walkTables, List.range'_succ, h, Nat.add_comm 1, Nat.add_assoc]
    | false => simp [tableTurn, respondedTo, diagnosisOf, walkTables, List.range'_succ, h, Nat.add_comm 1, Nat.add_assoc]

variable (version : Str) (ips : List Str)

theorem tableEnrich_observations :
    (tableEnrich session walking collect diagnose version ips).observations = walkTables session collect ips := by
  unfold tableEnrich
  simp only [foldl_tableTurn, List.nil_append]

theorem tableEnrich_hosts (hn : ips.Nodup) :
    (tableEnrich session walking collect diagnose version ips).runDiagnostics.hostDiagnostics.entries =
      ips.map fun ip => (ip, diagnosisOf session diagnose ip) := by
  unfold tableEnrich
  simp only [foldl_tableTurn]
  apply Dict.ofPairs_entries
  rw [List.map_map]
  exact (List.map_id ips).symm ▸ hn

theorem tableEnrich_marks :
    (tableEnrich session walking collect diagnose version ips).publications.map (·.mark) =
      phaseMarks .snmpEnrichment (some ips.length) ips.length
        (some ⟨ips.countP (respondedTo session), some ips.length⟩) := by
  unfold tableEnrich
  simp only [foldl_tableTurn, List.map_append, List.map_map, phaseMarks, ticks_eq, Nat.zero_add]
  rfl

end Loop

/-! ## The three providers -/

namespace SnmpArpNeighborProvider

variable (session : SnmpSession (SnmpTableResult SnmpArpTableEntry))

def diagnose (result : SnmpTableResult SnmpArpTableEntry) : SnmpArpHostDiagnostics :=
  ⟨result.responded, result.entries.length, result.failureReason⟩

def enrichRun (version : Str) (ips : List Str) : TableOutcome SnmpArpHostDiagnostics :=
  tableEnrich session (str "ARP tables") (collect session ips) diagnose version ips

/-- `total_entries` of `_print_arp_diagnostics`. -/
def totalEntries (diagnostics : TableRunDiagnostics SnmpArpHostDiagnostics) : Nat :=
  (diagnostics.hostDiagnostics.values.map (·.entriesReturned)).sum

end SnmpArpNeighborProvider

namespace SnmpLldpNeighborProvider

variable (session : SnmpSession (SnmpTableResult SnmpLldpNeighborEntry))

def diagnose (result : SnmpTableResult SnmpLldpNeighborEntry) : SnmpLldpHostDiagnostics :=
  ⟨result.responded, result.entries.length, (result.entries.map fun entry => entry.managementAddresses.length).sum,
    result.failureReason⟩

def enrichRun (received : List Observation) (version : Str) (ips : List Str) : TableOutcome SnmpLldpHostDiagnostics :=
  tableEnrich session (str "LLDP neighbor tables") (collect session (buildMacIndex received) ips) diagnose version ips

/-- `total_entries` of `_print_lldp_diagnostics`. -/
def totalEntries (diagnostics : TableRunDiagnostics SnmpLldpHostDiagnostics) : Nat :=
  (diagnostics.hostDiagnostics.values.map (·.entriesReturned)).sum

/-- The printed total of management addresses. -/
def totalManagementAddresses (diagnostics : TableRunDiagnostics SnmpLldpHostDiagnostics) : Nat :=
  (diagnostics.hostDiagnostics.values.map (·.managementAddressesReturned)).sum

end SnmpLldpNeighborProvider

namespace SnmpBridgeFdbProvider

variable (session : SnmpSession (SnmpTableResult SnmpBridgeFdbEntry))

def diagnose (result : SnmpTableResult SnmpBridgeFdbEntry) : SnmpBridgeFdbHostDiagnostics :=
  ⟨result.responded, result.entries.length, result.failureReason⟩

def enrichRun (received : List Observation) (version : Str) (ips : List Str) :
    TableOutcome SnmpBridgeFdbHostDiagnostics :=
  tableEnrich session (str "Bridge-MIB forwarding tables") (collect session (buildMacIndex received)) diagnose version ips

/-- `total_entries` of `_print_bridge_fdb_diagnostics`. -/
def totalEntries (diagnostics : TableRunDiagnostics SnmpBridgeFdbHostDiagnostics) : Nat :=
  (diagnostics.hostDiagnostics.values.map (·.entriesReturned)).sum

end SnmpBridgeFdbProvider

end NetworkMapper
