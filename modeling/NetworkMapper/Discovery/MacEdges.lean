import NetworkMapper.Discovery.SnmpRun

/-!
# Relationships that were resolved from a MAC address

The index is built from the evidence so far. What an ARP cache reports later can
make such a relationship wrong, and nothing else can.
-/

open Python

namespace NetworkMapper

open DiscoveryEngine

/-- A relationship that was drawn from a MAC address, with that address. -/
structure MacEdge where
  observation : RelationshipObservation
  mac : Str
  deriving DecidableEq

namespace SnmpLldpNeighborProvider

/-- What `collect` emits through the index. -/
def macEdges (session : SnmpSession (SnmpTableResult SnmpLldpNeighborEntry)) (index : MacIndex) (ipAddress : Str)
    (entries : List SnmpLldpNeighborEntry) : List MacEdge :=
  entries.flatMap fun entry =>
    (resolveRelatedSubjects entry index).filterMap fun (relatedSubject, method) =>
      if method = methodChassisMac then
        some ⟨relationshipObservation session ipAddress relatedSubject method, entry.chassisId⟩
      else none

theorem resolve_cases (entry : SnmpLldpNeighborEntry) (index : MacIndex) (subject method : Str)
    (h : (subject, method) ∈ resolveRelatedSubjects entry index) :
    method = methodManagementAddress ∨ method = methodChassisNetworkAddress ∨
      (method = methodChassisMac ∧ index.subjects entry.chassisId = {subject}) := by
  -- The method tells how a subject was found. For the chassis MAC address it is the only subject in the
  -- index.
  unfold resolveRelatedSubjects at h
  split_ifs at h
  · obtain ⟨address, -, heq⟩ := List.mem_map.mp h
    exact Or.inl (Prod.mk.inj heq).2.symm
  · simp at h
  · exact Or.inr (Or.inl (Prod.mk.inj (List.mem_singleton.mp h)).2)
  · split at h
    · rename_i t ht
      obtain ⟨rfl, rfl⟩ := Prod.mk.inj (List.mem_singleton.mp h)
      exact Or.inr (Or.inr ⟨rfl, (theOnly_eq_some _ _).mp ht⟩)
    · simp at h
  · simp at h

theorem mem_collect (session : SnmpSession (SnmpTableResult SnmpLldpNeighborEntry)) (index : MacIndex)
    (discoveredIps : List Str) (ipAddress : Str) (entries : List SnmpLldpNeighborEntry) (o : RelationshipObservation) :
    .relationship o ∈ collect session index discoveredIps ipAddress entries ↔
      ∃ entry ∈ entries, ∃ subject method, (subject, method) ∈ resolveRelatedSubjects entry index ∧
        o = relationshipObservation session ipAddress subject method := by
  have hhostname : ∀ entry subject method,
      .relationship o ∉ hostnameObservations session discoveredIps entry subject method := by
    intro entry subject method
    unfold hostnameObservations
    split
    · simp
    · simp
    · split <;> simp
  unfold collect
  simp only [List.mem_flatMap, List.mem_cons, Observation.relationship.injEq, hhostname, or_false, Prod.exists]

end SnmpLldpNeighborProvider

namespace SnmpBridgeFdbProvider

/-- What `collect` emits: all of it comes through the index. -/
def macEdges (session : SnmpSession (SnmpTableResult SnmpBridgeFdbEntry)) (index : MacIndex) (ipAddress : Str)
    (entries : List SnmpBridgeFdbEntry) : List MacEdge :=
  entries.filterMap fun entry =>
    (resolveRelatedSubject entry index).map fun relatedSubject =>
      ⟨relationshipObservation session ipAddress relatedSubject, entry.macAddress⟩

theorem resolve_learned (entry : SnmpBridgeFdbEntry) (index : MacIndex) (subject : Str)
    (h : resolveRelatedSubject entry index = some subject) : index.subjects entry.macAddress = {subject} := by
  unfold resolveRelatedSubject at h
  split at h
  · simp at h
  · exact (theOnly_eq_some _ _).mp h

end SnmpBridgeFdbProvider

namespace SnmpProvider

/-- The relationships that one provider resolves through the index. -/
def macEdges (σ : State) : SnmpProvider → List MacEdge
  | .system _ | .arp _ => []
  | .lldp session =>
    walkTables session (SnmpLldpNeighborProvider.macEdges session (buildMacIndex σ.observations))
      (addresses σ.devices)
  | .bridgeFdb session =>
    walkTables session (SnmpBridgeFdbProvider.macEdges session (buildMacIndex σ.observations)) (addresses σ.devices)

theorem mem_macEdges (σ : State) (p : SnmpProvider) (o : RelationshipObservation) :
    (∃ e ∈ p.macEdges σ, e.observation = o) ↔ .relationship o ∈ p.collected σ ∧
      (o.provenance.collectionMethod = SnmpLldpNeighborProvider.methodChassisMac ∨
        o.provenance.collectionMethod = SnmpBridgeFdbProvider.methodDot1dTpFdb) := by
  cases p with
  | system session =>
    unfold macEdges
    simp only [List.not_mem_nil, false_and, exists_false, false_iff, not_and]
    intro ho
    simp only [collected] at ho
    cases h : (SnmpEnrichmentProvider.enrich session σ.devices).2 with
    | none => simp [h] at ho
    | some observations =>
      rw [h, Option.getD_some] at ho
      obtain ⟨i, heq, -⟩ := SnmpEnrichmentProvider.enrich_observations session _ _ h _ ho
      exact absurd heq (by simp)
  | arp session =>
    have hmac : SnmpArpNeighborProvider.collectionMethod ≠ SnmpLldpNeighborProvider.methodChassisMac := by decide
    have hfdb : SnmpArpNeighborProvider.collectionMethod ≠ SnmpBridgeFdbProvider.methodDot1dTpFdb := by decide
    unfold macEdges
    simp only [List.not_mem_nil, false_and, exists_false, false_iff, not_and, collected, mem_walkTables]
    rintro ⟨host, -, -, ho⟩
    rcases List.mem_append.mp ho with ho | ho
    · simp only [SnmpArpNeighborProvider.collectRelationshipObservations, List.mem_map,
        Observation.relationship.injEq] at ho
      obtain ⟨entry, -, rfl⟩ := ho
      simp [SnmpSession.provenance, hmac, hfdb]
    · simp only [SnmpArpNeighborProvider.collectMacIdentityObservations, List.mem_filterMap] at ho
      obtain ⟨entry, -, hgate⟩ := ho
      split at hgate <;> simp at hgate
  | lldp session =>
    simp only [macEdges, collected, mem_walkTables, SnmpLldpNeighborProvider.macEdges, List.mem_flatMap,
      List.mem_filterMap, Option.ite_none_right_eq_some, Option.some.injEq, SnmpLldpNeighborProvider.mem_collect]
    constructor
    · rintro ⟨_, ⟨host, hhost, hresponded, entry, hentry, ⟨subject, _⟩, hresolved, rfl, rfl⟩, rfl⟩
      exact ⟨⟨host, hhost, hresponded, entry, hentry, subject, _, hresolved, rfl⟩, Or.inl rfl⟩
    · rintro ⟨⟨host, hhost, hresponded, entry, hentry, subject, method, hresolved, rfl⟩, hmethod⟩
      refine ⟨_, ⟨host, hhost, hresponded, entry, hentry, (subject, method), hresolved, ?_, rfl⟩, rfl⟩
      -- No LLDP method is the one of the forwarding table.
      rcases hmethod with hmethod | hmethod
      · exact hmethod
      · simp only [SnmpLldpNeighborProvider.relationshipObservation, SnmpSession.provenance] at hmethod
        subst hmethod
        rcases SnmpLldpNeighborProvider.resolve_cases entry _ subject _ hresolved with h | h | ⟨h, -⟩ <;>
          exact absurd h (by decide)
  | bridgeFdb session =>
    simp only [macEdges, collected, mem_walkTables, SnmpBridgeFdbProvider.macEdges, SnmpBridgeFdbProvider.collect,
      List.mem_filterMap, Option.map_eq_some_iff, Observation.relationship.injEq]
    constructor
    · rintro ⟨_, ⟨host, hhost, hresponded, entry, hentry, subject, hresolved, rfl⟩, rfl⟩
      exact ⟨⟨host, hhost, hresponded, entry, hentry, subject, hresolved, rfl⟩, Or.inr rfl⟩
    · rintro ⟨⟨host, hhost, hresponded, entry, hentry, subject, hresolved, rfl⟩, -⟩
      exact ⟨_, ⟨host, hhost, hresponded, entry, hentry, subject, hresolved, rfl⟩, rfl⟩

end SnmpProvider

/-! ## One step -/

/-- The observations give the MAC address to this subject and to no other. -/
def OnlyClaim (observations : List Observation) (mac subject : Str) : Prop :=
  ∀ s, Claims observations mac s ↔ s = subject

/-- Each MAC address is claimed by exactly the subject that it was resolved to. -/
def MacEdgesTrue (observations : List Observation) (edges : List MacEdge) : Prop :=
  ∀ e ∈ edges, OnlyClaim observations e.mac e.observation.relatedSubject

/-- No ARP cache that the provider reads gives a resolved MAC address to another discovered device. -/
def Agrees (edges : List MacEdge) (ips : List Str) (p : SnmpProvider) : Prop :=
  ∀ e ∈ edges, ∀ ip, p.CachesMac ips e.mac ip → ip = e.observation.relatedSubject

theorem onlyClaim_append {observations : List Observation} {mac subject : Str}
    (h : OnlyClaim observations mac subject) (more : List Observation) :
    OnlyClaim (observations ++ more) mac subject ↔ ∀ s, Claims more mac s → s = subject := by
  unfold OnlyClaim
  simp only [claims_append, h _]
  constructor
  · intro hall s hs
    exact (hall s).mp (Or.inr hs)
  · intro hall s
    constructor
    · rintro (rfl | hs)
      · rfl
      · exact hall s hs
    · exact Or.inl

namespace SnmpProvider

theorem macEdges_true (σ : State) (p : SnmpProvider) : MacEdgesTrue σ.observations (p.macEdges σ) := by
  have hindex : ∀ mac subject, (buildMacIndex σ.observations).subjects mac = {subject} →
      OnlyClaim σ.observations mac subject := by
    intro mac subject h s
    rw [← mem_subjects, h, Finset.mem_singleton]
  intro e he
  cases p with
  | lldp session =>
    unfold macEdges at he
    rw [mem_walkTables] at he
    obtain ⟨host, -, -, he⟩ := he
    simp only [SnmpLldpNeighborProvider.macEdges, List.mem_flatMap, List.mem_filterMap, Option.ite_none_right_eq_some,
      Option.some.injEq] at he
    obtain ⟨entry, -, ⟨subject, method⟩, hresolved, rfl, rfl⟩ := he
    rcases SnmpLldpNeighborProvider.resolve_cases entry _ subject _ hresolved with hother | hother | ⟨-, honly⟩
    · exact absurd hother (by decide)
    · exact absurd hother (by decide)
    · exact hindex _ _ honly
  | bridgeFdb session =>
    unfold macEdges at he
    rw [mem_walkTables] at he
    obtain ⟨host, -, -, he⟩ := he
    simp only [SnmpBridgeFdbProvider.macEdges, List.mem_filterMap, Option.map_eq_some_iff] at he
    obtain ⟨entry, -, subject, hresolved, rfl⟩ := he
    exact hindex _ _ (SnmpBridgeFdbProvider.resolve_learned entry _ subject hresolved)
  | _ => simp [macEdges] at he

theorem step_edges_true {σ : State} {edges : List MacEdge} (h : MacEdgesTrue σ.observations edges) (p : SnmpProvider) :
    MacEdgesTrue (p.step σ).observations edges ↔ Agrees edges (addresses σ.devices) p := by
  rw [step_observations]
  apply forall₂_congr
  intro e he
  rw [onlyClaim_append (h e he)]
  simp only [claims_collected]

/-- The edges of a step are true after it: a provider that resolves MAC addresses claims none. -/
theorem step_macEdges_true (σ : State) (p : SnmpProvider) : MacEdgesTrue (p.step σ).observations (p.macEdges σ) := by
  rw [step_edges_true (macEdges_true σ p)]
  intro e he ip hip
  cases p with
  | arp session => simp [macEdges] at he
  | _ => exact hip.elim

end SnmpProvider

/-! ## Runs -/

/-- The engine's second loop over the SNMP providers. -/
def runFrom (σ : State) (snmp : List SnmpProvider) : State := enrichAll σ (snmp.map SnmpProvider.provider)

/-- The relationships of a run that were resolved through the index. -/
def runEdges (σ : State) : List SnmpProvider → List MacEdge
  | [] => []
  | p :: snmp => p.macEdges σ ++ runEdges (p.step σ) snmp

/-- At its turn, each provider agrees with the edges that were drawn before it. -/
def RunAgrees (edges : List MacEdge) (σ : State) : List SnmpProvider → Prop
  | [] => True
  | p :: snmp => Agrees edges (addresses σ.devices) p ∧ RunAgrees (edges ++ p.macEdges σ) (p.step σ) snmp

theorem claims_runFrom {σ : State} {mac subject : Str} (h : Claims σ.observations mac subject)
    (snmp : List SnmpProvider) : Claims (runFrom σ snmp).observations mac subject := by
  induction snmp generalizing σ with
  | nil => exact h
  | cons p snmp ih =>
    apply ih
    rw [← SnmpProvider.step, SnmpProvider.step_observations, claims_append]
    exact Or.inl h

theorem MacEdgesTrue.of_run (σ : State) (snmp : List SnmpProvider) (edges : List MacEdge)
    (h : MacEdgesTrue (runFrom σ snmp).observations edges)
    (hclaimed : ∀ e ∈ edges, Claims σ.observations e.mac e.observation.relatedSubject) :
    MacEdgesTrue σ.observations edges := by
  intro e he s
  constructor
  · intro hs
    exact (h e he s).mp (claims_runFrom hs snmp)
  · rintro rfl
    exact hclaimed e he

theorem run_edges_true (edges : List MacEdge) (σ : State) (snmp : List SnmpProvider)
    (h : MacEdgesTrue σ.observations edges) :
    MacEdgesTrue (runFrom σ snmp).observations (edges ++ runEdges σ snmp) ↔ RunAgrees edges σ snmp := by
  induction snmp generalizing edges σ with
  | nil =>
    unfold runEdges
    rw [List.append_nil]
    exact iff_of_true h trivial
  | cons p snmp ih =>
    have hadd : MacEdgesTrue (p.step σ).observations edges ↔
        MacEdgesTrue (p.step σ).observations (edges ++ p.macEdges σ) :=
      ⟨fun he => List.forall_mem_append.mpr ⟨he, p.step_macEdges_true σ⟩, fun he => (List.forall_mem_append.mp he).1⟩
    unfold runEdges RunAgrees
    rw [← SnmpProvider.step_edges_true h p, ← List.append_assoc]
    constructor
    · intro hrun
      have hedges : MacEdgesTrue (p.step σ).observations edges := by
        apply MacEdgesTrue.of_run _ snmp
        · intro e he
          exact hrun e (List.mem_append_left _ (List.mem_append_left _ he))
        · intro e he
          rw [SnmpProvider.step_observations, claims_append]
          exact Or.inl ((h e he _).mpr rfl)
      exact ⟨hedges, (ih _ _ (hadd.mp hedges)).mp hrun⟩
    · rintro ⟨hedges, hagrees⟩
      exact (ih _ _ (hadd.mp hedges)).mpr hagrees

/-! ## The order of the application -/

/-- The enrichment providers of `Application.run`. Each flag of the command line adds one. -/
def Application.snmpProviders (system : Option (SnmpSession SnmpHostResult))
    (arp : Option (SnmpSession (SnmpTableResult SnmpArpTableEntry)))
    (lldp : Option (SnmpSession (SnmpTableResult SnmpLldpNeighborEntry)))
    (bridgeFdb : Option (SnmpSession (SnmpTableResult SnmpBridgeFdbEntry))) : List SnmpProvider :=
  (system.map .system).toList ++ (arp.map .arp).toList ++ (lldp.map .lldp).toList ++
    (bridgeFdb.map .bridgeFdb).toList

theorem runAgrees_of_no_arp (edges : List MacEdge) (σ : State) (snmp : List SnmpProvider)
    (h : ∀ p ∈ snmp, ∀ ips mac ip, ¬ p.CachesMac ips mac ip) : RunAgrees edges σ snmp := by
  induction snmp generalizing edges σ with
  | nil => trivial
  | cons p snmp ih =>
    refine ⟨?_, ih _ _ fun q hq => h q (List.mem_cons_of_mem _ hq)⟩
    intro e _ ip hip
    exact absurd hip (h p List.mem_cons_self _ _ _)

theorem runAgrees_of_no_edges (σ : State) (before after : List SnmpProvider)
    (hbefore : ∀ p ∈ before, ∀ σ, p.macEdges σ = []) (hafter : ∀ σ, RunAgrees [] σ after) :
    RunAgrees [] σ (before ++ after) := by
  induction before generalizing σ with
  | nil => exact hafter σ
  | cons p before ih =>
    refine ⟨by simp [Agrees], ?_⟩
    rw [hbefore p List.mem_cons_self σ, List.append_nil]
    exact ih _ fun q hq => hbefore q (List.mem_cons_of_mem _ hq)

theorem application_order_agrees (σ : State) (system : Option (SnmpSession SnmpHostResult))
    (arp : Option (SnmpSession (SnmpTableResult SnmpArpTableEntry)))
    (lldp : Option (SnmpSession (SnmpTableResult SnmpLldpNeighborEntry)))
    (bridgeFdb : Option (SnmpSession (SnmpTableResult SnmpBridgeFdbEntry))) :
    RunAgrees [] σ (Application.snmpProviders system arp lldp bridgeFdb) := by
  unfold Application.snmpProviders
  rw [List.append_assoc]
  apply runAgrees_of_no_edges
  · intro p hp σ
    simp only [List.mem_append, Option.mem_toList, Option.map_eq_some_iff] at hp
    rcases hp with ⟨_, -, rfl⟩ | ⟨_, -, rfl⟩ <;> rfl
  · intro σ
    apply runAgrees_of_no_arp
    intro p hp ips mac ip
    simp only [List.mem_append, Option.mem_toList, Option.map_eq_some_iff] at hp
    rcases hp with ⟨_, -, rfl⟩ | ⟨_, -, rfl⟩ <;> exact not_false

/-! ## Every order -/

/-- At the end of a run each resolved MAC address is claimed by exactly the related subject, if and only
if no ARP cache that was read after a resolution gives the address to another discovered device. -/
theorem mac_edges_true_iff (classify : Device → DeviceType) (providers : List DiscoveryProvider)
    (snmp : List SnmpProvider) :
    MacEdgesTrue (discover classify providers (snmp.map SnmpProvider.provider)).observations
        (runEdges (discoverDevices providers) snmp) ↔
      RunAgrees [] (discoverDevices providers) snmp :=
  run_edges_true [] (discoverDevices providers) snmp (by simp [MacEdgesTrue])

/-- The forwarding table first: its relationship stands when the ARP cache gives the MAC address to
another host. -/
theorem forwarding_table_before_arp :
    ¬ ∀ (classify : Device → DeviceType) (providers : List DiscoveryProvider) (snmp : List SnmpProvider),
      MacEdgesTrue (discover classify providers (snmp.map SnmpProvider.provider)).observations
        (runEdges (discoverDevices providers) snmp) := by
  intro h
  have hrun := h (fun _ => .unknown) [sampleScan] [sampleForwardingTable, sampleArpCache]
  obtain ⟨e, he, hmac, hrelated⟩ : ∃ e ∈ runEdges (discoverDevices [sampleScan]) [sampleForwardingTable, sampleArpCache],
      e.mac = str "02:00:5E:00:53:0B" ∧ e.observation.relatedSubject = str "192.0.2.10" := by decide
  have hclaim : Claims (discover (fun _ => .unknown) [sampleScan]
      ([sampleForwardingTable, sampleArpCache].map SnmpProvider.provider)).observations e.mac (str "192.0.2.11") := by
    refine ⟨⟨str "192.0.2.11", macAddressProperty, str "02:00:5E:00:53:0B",
      (sampleSession ([] : List SnmpArpTableEntry)).provenance SnmpArpNeighborProvider.collectionMethod⟩, ?_, rfl,
      hmac.symm, rfl⟩
    decide
  have hsame := (hrun e he _).mp hclaim
  rw [hrelated] at hsame
  exact absurd hsame (by decide)

end NetworkMapper
