import NetworkMapper.Discovery.SnmpRun
import NetworkMapper.Resolution.Order

/-!
# Every subject is a discovered device

A run starts with observations about the devices of the discovery providers. Each
SNMP provider keeps to the addresses that it is given.
-/

open Python

namespace NetworkMapper

open DiscoveryEngine

/-- Every identity observation is about a discovered device. -/
def SubjectsDiscovered (σ : State) : Prop :=
  ∀ i, .identity i ∈ σ.observations → i.subject ∈ addresses σ.devices

theorem SubjectsDiscovered.step {σ : State} (h : SubjectsDiscovered σ) (p : SnmpProvider) :
    SubjectsDiscovered (p.step σ) := by
  intro i hi
  rw [SnmpProvider.step_addresses]
  rw [SnmpProvider.step_observations, List.mem_append] at hi
  rcases hi with hi | hi
  · exact h i hi
  · exact (p.identity_collected σ i hi).1

theorem SubjectsDiscovered.run {σ : State} (h : SubjectsDiscovered σ) (snmp : List SnmpProvider) :
    SubjectsDiscovered (enrichAll σ (snmp.map SnmpProvider.provider)) := by
  induction snmp generalizing σ with
  | nil => exact h
  | cons p snmp ih => exact ih (h.step p)

theorem subjectsDiscovered_discoverDevices (providers : List DiscoveryProvider)
    (hown : ∀ p ∈ providers, ∀ i, .identity i ∈ p.observations → ∃ q ∈ providers, i.subject ∈ addresses q.devices) :
    SubjectsDiscovered (discoverDevices providers) := by
  intro i hi
  rw [discoverDevices_observations, List.mem_flatMap] at hi
  obtain ⟨p, hp, hi⟩ := hi
  rw [mem_discoverDevices]
  exact hown p hp i hi

/-- Whatever the remote tables report, an identity observation names a device of the graph, and so do
the identities and the endpoints of the relationships resolved from the run. -/
theorem subjects_name_devices (classify : Device → DeviceType) (providers : List DiscoveryProvider)
    (hown : ∀ p ∈ providers, ∀ i, .identity i ∈ p.observations → ∃ q ∈ providers, i.subject ∈ addresses q.devices)
    (snmp : List SnmpProvider) (policy : CardinalityPolicy) :
    let run := discover classify providers (snmp.map SnmpProvider.provider)
    (∀ i, .identity i ∈ run.observations → i.subject ∈ run.graph.addresses) ∧
      ∃ identities relationships, Application.resolve policy run.observations = .ok (identities, relationships) ∧
        (∀ i ∈ identities, i.subject ∈ run.graph.addresses) ∧
        ∀ r ∈ relationships, r.subject ∈ run.graph.addresses ∧ r.relatedSubject ∈ run.graph.addresses := by
  intro run
  have hsubjects : ∀ i, .identity i ∈ run.observations → i.subject ∈ run.graph.addresses := by
    intro i hi
    exact (mem_classifyDevices classify _ _).mpr ((subjectsDiscovered_discoverDevices providers hown).run snmp i hi)
  obtain ⟨relationships, hresolve, hids, hrels⟩ := Application.resolve_ok policy run.observations
  have hidentities : ∀ i ∈ IdentityResolver.resolve run.observations, i.subject ∈ run.graph.addresses := by
    intro i hi
    obtain ⟨o, ho, hs⟩ := (hids.mem_subjects i.subject).mp (List.mem_map_of_mem hi)
    rw [← hs]
    exact hsubjects o ho
  refine ⟨hsubjects, _, relationships, hresolve, hidentities, ?_⟩
  intro r hr
  -- The endpoints of an edge are subjects of identities.
  obtain ⟨o, -, ⟨⟨i, hi, hs⟩, ⟨j, hj, ht⟩, -⟩, hedge⟩ := (hrels.mem_edges r.edge).mp (List.mem_map_of_mem hr)
  unfold RelationshipObservation.edge CanonicalRelationship.edge at hedge
  simp only [List.cons.injEq, and_true] at hedge
  obtain ⟨hsubject, -, hrelated⟩ := hedge
  rw [← hsubject, ← hrelated, ← hs, ← ht]
  exact ⟨hidentities i hi, hidentities j hj⟩

theorem subjects_name_devices_sample :
    ∃ identities relationships,
      Application.resolve categoryCardinality (discover (fun _ => .unknown) [sampleScan]
        ([sampleForwardingTable, sampleArpCache].map SnmpProvider.provider)).observations =
          .ok (identities, relationships) ∧
        (∀ i ∈ identities, i.subject ∈ (discover (fun _ => .unknown) [sampleScan]
          ([sampleForwardingTable, sampleArpCache].map SnmpProvider.provider)).graph.addresses) ∧
        ∀ r ∈ relationships,
          r.subject ∈ (discover (fun _ => .unknown) [sampleScan]
            ([sampleForwardingTable, sampleArpCache].map SnmpProvider.provider)).graph.addresses ∧
          r.relatedSubject ∈ (discover (fun _ => .unknown) [sampleScan]
            ([sampleForwardingTable, sampleArpCache].map SnmpProvider.provider)).graph.addresses := by
  have hown : ∀ p ∈ [sampleScan], ∀ i, .identity i ∈ p.observations →
      ∃ q ∈ [sampleScan], i.subject ∈ addresses q.devices := by
    intro p hp i hi
    rw [List.mem_singleton.mp hp, sampleScan, List.mem_singleton, sampleIdentity, Observation.identity.injEq] at hi
    rw [hi]
    exact ⟨sampleScan, List.mem_singleton_self _, by decide⟩
  exact (subjects_name_devices (fun _ => .unknown) [sampleScan] hown [sampleForwardingTable, sampleArpCache]
    categoryCardinality).2

end NetworkMapper
