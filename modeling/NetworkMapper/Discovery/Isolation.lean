import NetworkMapper.Discovery.DiscoveryEngine

/-!
# Runs in which enrichment providers fail

Each provider gets its turn, whatever happened before. The engine keeps the
observations of a turn only when all three methods of the provider returned.
-/

open Python

namespace NetworkMapper

namespace DiscoveryEngine

/-- The engine between two runs. -/
structure Engine where
  observations : List Observation

/-- What the providers of an engine do in one run. -/
structure Providers where
  discovery : List DiscoveryProvider
  enrichment : List EnrichmentProvider

/-- `discover` on an engine that may have run before. -/
def Engine.discover (classify : Device → DeviceType) (engine : Engine) (providers : Providers) :
    NetworkGraph × Engine :=
  let engine := { engine with observations := [] }
  let found := providers.discovery.foldl discoverStep ⟨engine.observations, .empty⟩
  let σ := enrichAll ⟨found.observations, found.byIp.values⟩ providers.enrichment
  (classifyDevices classify σ.devices, { engine with observations := σ.observations })

/-! ## Turns -/

/-- The turn of one enrichment provider: what it is handed. -/
structure Turn where
  provider : EnrichmentProvider
  handed : List Observation
  devices : List Device

/-- The list that the provider collected, if none of its three methods raised. -/
def Turn.completed (turn : Turn) : Option (List Observation) := do
  let self ← turn.provider.receiveObservations turn.handed
  let self ← (turn.provider.enrich self turn.devices).2
  turn.provider.collectObservations self

/-- The devices as the turn leaves them. -/
def Turn.devicesAfter (turn : Turn) : List Device :=
  match turn.provider.receiveObservations turn.handed with
  | none => turn.devices
  | some self => (turn.provider.enrich self turn.devices).1

/-- What the engine keeps of a turn: nothing, where the provider failed. -/
def Turn.contribution (turn : Turn) : List Observation := turn.completed.getD []

/-- The turns of a run: each provider with the observations and devices that it finds. -/
def turns (σ : State) : List EnrichmentProvider → List Turn
  | [] => []
  | provider :: providers => ⟨provider, σ.observations, σ.devices⟩ :: turns (enrichStep σ provider) providers

/-- A provider that treats the device sequence as read-only and leaves `ip_address` alone. -/
def ReadOnly (provider : EnrichmentProvider) : Prop :=
  ∀ self devices, addresses (provider.enrich self devices).1 = addresses devices

theorem enrichStep_eq (σ : State) (provider : EnrichmentProvider) :
    enrichStep σ provider = ⟨σ.observations ++ Turn.contribution ⟨provider, σ.observations, σ.devices⟩,
      Turn.devicesAfter ⟨provider, σ.observations, σ.devices⟩⟩ := by
  unfold enrichStep Turn.contribution Turn.completed Turn.devicesAfter
  cases hreceive : provider.receiveObservations σ.observations with
  | none => simp
  | some self =>
    simp only [Option.bind_eq_bind, Option.bind_some]
    cases (provider.enrich self σ.devices).2.bind provider.collectObservations <;> simp

theorem turn_addresses {turn : Turn} (h : ReadOnly turn.provider) :
    addresses turn.devicesAfter = addresses turn.devices := by
  unfold Turn.devicesAfter
  split
  · rfl
  · exact h _ _

/-! ## The first device of each address -/

/-- `firsts` has one device for each address of `devices`, in the order of discovery: the first. -/
structure FirstPerAddress (devices firsts : List Device) : Prop where
  addresses : addresses firsts = (addresses devices).eraseDups
  first : ∀ d ∈ firsts, devices.find? (fun e => e.ipAddress = d.ipAddress) = some d

theorem foldl_discoverStep (providers : List DiscoveryProvider) :
    (providers.foldl discoverStep ⟨[], .empty⟩).byIp =
      Dict.empty.setDefaults Device.ipAddress (providers.flatMap (·.devices)) := by
  induction providers using List.reverseRecOn with
  | nil => rfl
  | append_singleton providers provider ih =>
    rw [List.foldl_append, List.foldl_cons, List.foldl_nil, List.flatMap_append, List.flatMap_singleton]
    unfold discoverStep Dict.setDefaults at *
    rw [List.foldl_append, ← ih]

theorem firsts_nodup (providers : List DiscoveryProvider) : (addresses (discoverDevices providers).devices).Nodup := by
  have hkeys : addresses (discoverDevices providers).devices = _ := (foundBy providers).keyed.keys_eq
  rw [hkeys]
  exact Dict.keys_nodup _

theorem firstPerAddress (providers : List DiscoveryProvider) :
    FirstPerAddress (providers.flatMap (·.devices)) (discoverDevices providers).devices := by
  have hkeyed := (foundBy providers).keyed
  constructor
  · have hkeys : addresses (discoverDevices providers).devices = _ := hkeyed.keys_eq
    rw [hkeys, foldl_discoverStep, Dict.keys_setDefaults]
    rfl
  · intro d hd
    rw [← Dict.get?_setDefaults, ← foldl_discoverStep, Dict.get?_eq_some, ← hkeyed.mem_values]
    exact hd

/-! ## Runs -/

/-- What the discovery providers collect, before any enrichment. -/
def discoveryObservations (providers : Providers) : List Observation :=
  providers.discovery.flatMap (·.observations)

/-- What the enrichment providers add, in their order. -/
def kept (turns : List Turn) : List Observation := turns.flatMap Turn.contribution

/-- A run in which each enrichment provider has one turn, in order. Discovery found `firsts`, and
enrichment left `enriched`. -/
structure Isolated (classify : Device → DeviceType) (providers : Providers) (turns : List Turn)
    (firsts enriched : List Device) (graph : NetworkGraph) (engine : Engine) : Prop where
  order : turns.map (·.provider) = providers.enrichment
  handed : ∀ i turn, turns[i]? = some turn → turn.handed = discoveryObservations providers ++ kept (turns.take i)
  found : FirstPerAddress (providers.discovery.flatMap (·.devices)) firsts
  devices : turns.map (·.devices) ++ [enriched] = firsts :: turns.map Turn.devicesAfter
  addresses : addresses enriched = DiscoveryEngine.addresses firsts
  graph : graph.allDevices = enriched.map fun device => { device with deviceType := classify device }
  observations : engine.observations = discoveryObservations providers ++ kept turns

theorem turns_cons (σ : State) (p : EnrichmentProvider) (providers : List EnrichmentProvider) :
    turns σ (p :: providers) = ⟨p, σ.observations, σ.devices⟩ :: turns (enrichStep σ p) providers := rfl

theorem enrichAll_cons (σ : State) (p : EnrichmentProvider) (providers : List EnrichmentProvider) :
    enrichAll σ (p :: providers) = enrichAll (enrichStep σ p) providers := rfl

theorem turns_order (σ : State) (providers : List EnrichmentProvider) :
    (turns σ providers).map (·.provider) = providers := by
  induction providers generalizing σ with
  | nil => rfl
  | cons p providers ih => rw [turns_cons, List.map_cons, ih]

theorem turns_handed (σ : State) (providers : List EnrichmentProvider) (i : Nat) (turn : Turn)
    (h : (turns σ providers)[i]? = some turn) :
    turn.handed = σ.observations ++ kept ((turns σ providers).take i) := by
  induction providers generalizing σ i with
  | nil => simp [turns] at h
  | cons p providers ih =>
    rw [turns_cons] at h ⊢
    cases i with
    | zero =>
      rw [List.getElem?_cons_zero, Option.some.injEq] at h
      simp [← h, kept]
    | succ i =>
      rw [List.getElem?_cons_succ] at h
      rw [ih _ i h, enrichStep_eq, List.take_succ_cons]
      simp only [kept, List.flatMap_cons, List.append_assoc]

theorem turns_devices (σ : State) (providers : List EnrichmentProvider) :
    (turns σ providers).map (·.devices) ++ [(enrichAll σ providers).devices] =
      σ.devices :: (turns σ providers).map Turn.devicesAfter := by
  induction providers generalizing σ with
  | nil => rfl
  | cons p providers ih =>
    rw [turns_cons, enrichAll_cons, List.map_cons, List.cons_append, ih, enrichStep_eq]
    rfl

theorem enrichAll_observations (σ : State) (providers : List EnrichmentProvider) :
    (enrichAll σ providers).observations = σ.observations ++ kept (turns σ providers) := by
  induction providers generalizing σ with
  | nil => simp [enrichAll, turns, kept]
  | cons p providers ih =>
    rw [turns_cons, enrichAll_cons, ih, enrichStep_eq]
    simp only [kept, List.flatMap_cons, List.append_assoc]

theorem enrichAll_addresses (σ : State) (providers : List EnrichmentProvider) (h : ∀ p ∈ providers, ReadOnly p) :
    addresses (enrichAll σ providers).devices = addresses σ.devices := by
  induction providers generalizing σ with
  | nil => rfl
  | cons p providers ih =>
    rw [List.forall_mem_cons] at h
    rw [enrichAll_cons, ih _ h.2, enrichStep_eq]
    exact turn_addresses h.1

theorem classifyDevices_allDevices (classify : Device → DeviceType) (devices : List Device)
    (hn : (addresses devices).Nodup) : (classifyDevices classify devices).allDevices =
      devices.map fun device => { device with deviceType := classify device } := by
  unfold classifyDevices
  apply NetworkGraph.allDevices_addDevices
  rw [List.map_map]
  exact hn

theorem discover_eq (classify : Device → DeviceType) (engine : Engine) (providers : Providers) :
    engine.discover classify providers =
      (classifyDevices classify (enrichAll (discoverDevices providers.discovery) providers.enrichment).devices,
        ⟨(enrichAll (discoverDevices providers.discovery) providers.enrichment).observations⟩) := rfl

/-- Every run isolates the failures of its enrichment providers. What the engine observed before makes
no difference. -/
theorem discover_isolates (classify : Device → DeviceType) (engine : Engine) (providers : Providers)
    (hreadOnly : ∀ p ∈ providers.enrichment, ReadOnly p) :
    (∃ turns firsts enriched, Isolated classify providers turns firsts enriched
      (engine.discover classify providers).1 (engine.discover classify providers).2) ∧
    ∀ fresh : Engine, engine.discover classify providers = fresh.discover classify providers := by
  refine ⟨?_, fun _ => rfl⟩
  have hobservations := discoverDevices_observations providers.discovery
  have haddresses := enrichAll_addresses (discoverDevices providers.discovery) providers.enrichment hreadOnly
  have hnodup := firsts_nodup providers.discovery
  rw [← haddresses] at hnodup
  rw [discover_eq]
  refine ⟨turns (discoverDevices providers.discovery) providers.enrichment, _, _, turns_order _ _, ?_,
    firstPerAddress providers.discovery, turns_devices _ _, haddresses, classifyDevices_allDevices classify _ hnodup, ?_⟩
  · intro i turn h
    rw [turns_handed _ _ i turn h, hobservations]
    rfl
  · simp only [enrichAll_observations, hobservations]
    rfl

/-- A provider that does nothing to the devices. `step` is the method that raises. -/
def sampleEnrichment (step : Option (Fin 3)) (observations : List Observation) : EnrichmentProvider where
  Self := Unit
  receiveObservations _ := if step = some 0 then none else some ()
  enrich _ devices := (devices, if step = some 1 then none else some ())
  collectObservations _ := if step = some 2 then none else some observations

/-- Two scans that find one address, and a failure in each of the three methods. -/
def sampleProviders : Providers where
  discovery := [⟨[{ ipAddress := str "192.0.2.1" }, { ipAddress := str "192.0.2.10" }], []⟩,
    ⟨[{ ipAddress := str "192.0.2.10", hostname := some (str "second") }], [sampleIdentity "192.0.2.10" "0B"]⟩]
  enrichment := [sampleEnrichment (some 0) [], sampleEnrichment none [sampleIdentity "192.0.2.1" "0A"],
    sampleEnrichment (some 2) [sampleIdentity "192.0.2.1" "0C"], sampleEnrichment (some 1) []]

theorem discover_isolates_sample :
    ∃ turns firsts enriched, Isolated (fun _ => .unknown) sampleProviders turns firsts enriched
      ((Engine.mk [sampleIdentity "192.0.2.99" "FF"]).discover (fun _ => .unknown) sampleProviders).1
      ((Engine.mk [sampleIdentity "192.0.2.99" "FF"]).discover (fun _ => .unknown) sampleProviders).2 := by
  refine (discover_isolates (fun _ => .unknown) ⟨[sampleIdentity "192.0.2.99" "FF"]⟩ sampleProviders ?_).1
  intro p hp self devices
  unfold sampleProviders at hp
  simp only [List.mem_cons, List.not_mem_nil, or_false] at hp
  rcases hp with rfl | rfl | rfl | rfl <;> rfl

end DiscoveryEngine

end NetworkMapper
