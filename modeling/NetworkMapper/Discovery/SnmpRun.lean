import NetworkMapper.Discovery.NeighborProviders
import NetworkMapper.Discovery.SnmpProvider

/-!
# Runs of the four SNMP providers

One step adds the observations of one provider and leaves the addresses as they were.
-/

open Python

namespace NetworkMapper

/-- One place of a run, with all that its client answers there. -/
inductive SnmpProvider where
  | system (session : SnmpSession SnmpHostResult)
  | arp (session : SnmpSession (SnmpTableResult SnmpArpTableEntry))
  | lldp (session : SnmpSession (SnmpTableResult SnmpLldpNeighborEntry))
  | bridgeFdb (session : SnmpSession (SnmpTableResult SnmpBridgeFdbEntry))

namespace SnmpProvider

open DiscoveryEngine

/-- The provider that the engine sees. -/
def provider : SnmpProvider → EnrichmentProvider
  | .system session => SnmpEnrichmentProvider.provider session
  | .arp session => SnmpArpNeighborProvider.provider session
  | .lldp session => SnmpLldpNeighborProvider.provider session
  | .bridgeFdb session => SnmpBridgeFdbProvider.provider session

/-- What the provider adds to `engine.observations`. -/
def collected (σ : State) : SnmpProvider → List Observation
  | .system session => (SnmpEnrichmentProvider.enrich session σ.devices).2.getD []
  | .arp session =>
    walkTables session (SnmpArpNeighborProvider.collect session (addresses σ.devices)) (addresses σ.devices)
  | .lldp session =>
    walkTables session
      (SnmpLldpNeighborProvider.collect session (buildMacIndex σ.observations) (addresses σ.devices))
      (addresses σ.devices)
  | .bridgeFdb session =>
    walkTables session (SnmpBridgeFdbProvider.collect session (buildMacIndex σ.observations)) (addresses σ.devices)

/-- The turn of one provider. -/
def step (σ : State) (p : SnmpProvider) : State := enrichStep σ p.provider

theorem step_observations (σ : State) (p : SnmpProvider) :
    (p.step σ).observations = σ.observations ++ p.collected σ := by
  cases p with
  | system session =>
    unfold step enrichStep provider
    simp only [SnmpEnrichmentProvider.provider, collected]
    cases (SnmpEnrichmentProvider.enrich session σ.devices).2 <;> simp
  | _ => rfl

theorem step_addresses (σ : State) (p : SnmpProvider) : addresses (p.step σ).devices = addresses σ.devices := by
  cases p with
  | system session =>
    have h := SnmpEnrichmentProvider.enrich_addresses session σ.devices
    unfold step enrichStep provider
    simp only [SnmpEnrichmentProvider.provider]
    split <;> exact h
  | _ => rfl

theorem step_devices (p : SnmpProvider) {σ σ' : State} (h : σ.devices = σ'.devices) :
    (p.step σ).devices = (p.step σ').devices := by
  cases p with
  | system session =>
    unfold step enrichStep provider
    simp only [SnmpEnrichmentProvider.provider, h]
    split <;> rfl
  | _ => exact h

/-- An ARP cache that the provider reads gives the MAC address to a discovered IP address. -/
def CachesMac (ips : List Str) (mac ip : Str) : SnmpProvider → Prop
  | .arp session => ip ∈ ips ∧ ∃ host ∈ ips,
      (session.queryHost (SnmpTableResult.mk false []) host).responded = true ∧
        ∃ entry ∈ (session.queryHost (SnmpTableResult.mk false []) host).entries,
          entry.ipAddress = ip ∧ entry.macAddress = mac
  | _ => False

theorem mem_walkTables {entry β : Type} (session : SnmpSession (SnmpTableResult entry))
    (collect : Str → List entry → List β) (ips : List Str) (b : β) :
    b ∈ walkTables session collect ips ↔ ∃ ip ∈ ips,
      (session.queryHost (SnmpTableResult.mk false []) ip).responded = true ∧
        b ∈ collect ip (session.queryHost (SnmpTableResult.mk false []) ip).entries := by
  unfold walkTables
  simp only [List.mem_flatMap, List.mem_ite_nil_right]

theorem identity_collected (σ : State) (p : SnmpProvider) (i : IdentityObservation)
    (hi : .identity i ∈ p.collected σ) : i.subject ∈ addresses σ.devices ∧
      (i.propertyName = str "hostname" ∨
        i.propertyName = macAddressProperty ∧ p.CachesMac (addresses σ.devices) i.value i.subject) := by
  cases p with
  | system session =>
    simp only [collected] at hi
    cases h : (SnmpEnrichmentProvider.enrich session σ.devices).2 with
    | none => simp [h] at hi
    | some observations =>
      rw [h, Option.getD_some] at hi
      obtain ⟨i', heq, hsubject, hname⟩ := SnmpEnrichmentProvider.enrich_observations session _ _ h _ hi
      rw [Observation.identity.injEq] at heq
      subst heq
      exact ⟨hsubject, Or.inl hname⟩
  | arp session =>
    unfold collected at hi
    rw [mem_walkTables] at hi
    obtain ⟨host, hhost, hresponded, hi⟩ := hi
    simp only [SnmpArpNeighborProvider.collect, SnmpArpNeighborProvider.collectRelationshipObservations,
      SnmpArpNeighborProvider.collectMacIdentityObservations, List.mem_append, List.mem_map, List.mem_filterMap,
      reduceCtorEq, and_false, exists_false, false_or] at hi
    obtain ⟨entry, hentry, hgate⟩ := hi
    split at hgate
    · simp at hgate
    · rename_i hip
      rw [not_not] at hip
      rw [Option.some.injEq, Observation.identity.injEq] at hgate
      subst hgate
      exact ⟨hip, Or.inr ⟨rfl, hip, host, hhost, hresponded, entry, hentry, rfl, rfl⟩⟩
  | lldp session =>
    unfold collected at hi
    rw [mem_walkTables] at hi
    obtain ⟨host, -, -, hi⟩ := hi
    simp only [SnmpLldpNeighborProvider.collect, List.mem_flatMap, List.mem_cons, reduceCtorEq, false_or] at hi
    obtain ⟨entry, -, resolved, -, hi⟩ := hi
    simp only [SnmpLldpNeighborProvider.hostnameObservations] at hi
    split at hi
    · simp at hi
    · simp at hi
    · rw [List.mem_ite_nil_right, List.mem_singleton, Observation.identity.injEq] at hi
      obtain ⟨hip, rfl⟩ := hi
      exact ⟨hip, Or.inl rfl⟩
  | bridgeFdb session =>
    unfold collected at hi
    rw [mem_walkTables] at hi
    obtain ⟨host, -, -, hi⟩ := hi
    simp only [SnmpBridgeFdbProvider.collect, List.mem_filterMap, Option.map_eq_some_iff, reduceCtorEq, and_false,
      exists_false] at hi

theorem claims_collected (σ : State) (p : SnmpProvider) (mac subject : Str) :
    Claims (p.collected σ) mac subject ↔ p.CachesMac (addresses σ.devices) mac subject := by
  -- Only ARP caches add claims to MAC addresses.
  constructor
  · rintro ⟨i, hi, hname, rfl, rfl⟩
    rcases (identity_collected σ p i hi).2 with hhost | ⟨-, hcached⟩
    · rw [hname] at hhost
      exact absurd hhost (by decide)
    · exact hcached
  · intro h
    cases p with
    | arp session =>
      obtain ⟨hip, host, hhost, hresponded, entry, hentry, rfl, rfl⟩ := h
      refine ⟨⟨entry.ipAddress, macAddressProperty, entry.macAddress,
        session.provenance SnmpArpNeighborProvider.collectionMethod⟩, ?_, rfl, rfl, rfl⟩
      unfold collected
      rw [mem_walkTables]
      refine ⟨host, hhost, hresponded, List.mem_append_right _ (List.mem_filterMap.mpr ⟨entry, hentry, ?_⟩)⟩
      rw [if_neg (not_not.mpr hip)]
    | _ => exact h.elim

end SnmpProvider

/-! ## A sample run -/

/-- A scan that found a switch and two hosts, and the MAC address of the first host. -/
def sampleScan : DiscoveryProvider where
  devices := [{ ipAddress := str "192.0.2.1" }, { ipAddress := str "192.0.2.10" }, { ipAddress := str "192.0.2.11" }]
  observations := [sampleIdentity "192.0.2.10" "02:00:5E:00:53:0B"]

def sampleSession {entry : Type} (entries : List entry) : SnmpSession (SnmpTableResult entry) where
  runId := str "run-002"
  observedAt := (sampleProvenance "ipNetToPhysicalTable").observedAt
  client host := if host = str "192.0.2.1" then some ⟨true, entries, none⟩ else none

def sampleForwardingTable : SnmpProvider :=
  .bridgeFdb (sampleSession [⟨str "02:00:5E:00:53:0B", 3, some (str "learned")⟩])

/-- The MAC address of the first host, for the second host and for an address that was not found. -/
def sampleArpCache : SnmpProvider :=
  .arp (sampleSession [⟨1, str "192.0.2.11", str "02:00:5E:00:53:0B", none⟩,
    ⟨1, str "192.0.2.99", str "02:00:5E:00:53:0B", none⟩])

end NetworkMapper
