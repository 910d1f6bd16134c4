import NetworkMapper.Core.NetworkGraph
import NetworkMapper.Observations.Models
import Mathlib.Data.List.Induction

/-!
# The discovery engine

Discovery providers find the devices. Enrichment providers then add evidence to
them, one after the other. Classification comes last.
-/

open Python

namespace NetworkMapper

/-- What `discover` of a provider returns, and its `collect_observations` after it. -/
structure DiscoveryProvider where
  devices : List Device
  observations : List Observation

/-- The three methods at one place of the run. `none` is an exception. What `enrich` did to the
devices before its exception stays done. -/
structure EnrichmentProvider where
  Self : Type
  receiveObservations : List Observation → Option Self
  enrich : Self → List Device → List Device × Option Self
  collectObservations : Self → Option (List Observation)

namespace DiscoveryEngine

/-- The engine between two providers: what it has collected, and the devices. -/
structure State where
  observations : List Observation
  devices : List Device

/-- `self.observations` and `devices_by_ip`, while the discovery providers run. -/
structure Found where
  observations : List Observation
  byIp : Dict Str Device

/-- One discovery provider. The first device of an address is the one that is kept. -/
def discoverStep (found : Found) (provider : DiscoveryProvider) : Found :=
  ⟨found.observations ++ provider.observations, found.byIp.setDefaults Device.ipAddress provider.devices⟩

/-- The first loop of `discover`. The devices are the values of `devices_by_ip`. -/
def discoverDevices (providers : List DiscoveryProvider) : State :=
  let found := providers.foldl discoverStep ⟨[], .empty⟩
  ⟨found.observations, found.byIp.values⟩

/-- One enrichment provider. An exception loses its observations and nothing else. -/
def enrichStep (σ : State) (provider : EnrichmentProvider) : State :=
  match provider.receiveObservations σ.observations with
  | none => σ
  | some self =>
    let (devices, enriched) := provider.enrich self σ.devices
    match enriched.bind provider.collectObservations with
    | none => { σ with devices := devices }
    | some collected => ⟨σ.observations ++ collected, devices⟩

def enrichAll (σ : State) (providers : List EnrichmentProvider) : State := providers.foldl enrichStep σ

/-- `_classify_devices`. All that the classifier changes is the type. -/
def classifyDevices (classify : Device → DeviceType) (devices : List Device) : NetworkGraph :=
  NetworkGraph.empty.addDevices (devices.map fun device => { device with deviceType := classify device })

/-- The graph that `discover` returns, and `engine.observations` after it. -/
structure Discovery where
  graph : NetworkGraph
  observations : List Observation

/-- `DiscoveryEngine.discover`: find, enrich, classify. -/
def discover (classify : Device → DeviceType) (providers : List DiscoveryProvider)
    (enrichmentProviders : List EnrichmentProvider) : Discovery :=
  let σ := enrichAll (discoverDevices providers) enrichmentProviders
  ⟨classifyDevices classify σ.devices, σ.observations⟩

/-! ## Addresses -/

/-- `{device.ip_address for device in devices}` -/
def addresses (devices : List Device) : List Str := devices.map (·.ipAddress)

theorem mem_classifyDevices (classify : Device → DeviceType) (devices : List Device) (ip : Str) :
    ip ∈ (classifyDevices classify devices).addresses ↔ ip ∈ addresses devices := by
  unfold classifyDevices
  rw [NetworkGraph.mem_addresses_addDevices]
  simp [addresses, NetworkGraph.addresses, NetworkGraph.empty, Dict.keys, Dict.empty]

/-- What the first loop has of the providers so far: every observation, and one device for each address. -/
structure FoundBy (providers : List DiscoveryProvider) (found : Found) : Prop where
  observations : found.observations = providers.flatMap (·.observations)
  keyed : Dict.Keyed Device.ipAddress found.byIp
  keys : ∀ ip, ip ∈ found.byIp.keys ↔ ∃ provider ∈ providers, ip ∈ addresses provider.devices

theorem FoundBy.step {providers : List DiscoveryProvider} {found : Found} (h : FoundBy providers found)
    (provider : DiscoveryProvider) : FoundBy (providers ++ [provider]) (discoverStep found provider) := by
  refine ⟨?_, h.keyed.setDefaults _, ?_⟩
  · simp [discoverStep, h.observations]
  · intro ip
    unfold discoverStep
    rw [Dict.mem_keys_setDefaults, h.keys]
    simp [addresses, or_and_right, exists_or]

theorem foundBy (providers : List DiscoveryProvider) :
    FoundBy providers (providers.foldl discoverStep ⟨[], .empty⟩) := by
  induction providers using List.reverseRecOn with
  | nil => exact ⟨rfl, Dict.keyed_empty _, by simp [Dict.keys, Dict.empty]⟩
  | append_singleton providers provider ih =>
    rw [List.foldl_append]
    exact ih.step provider

theorem discoverDevices_observations (providers : List DiscoveryProvider) :
    (discoverDevices providers).observations = providers.flatMap (·.observations) :=
  (foundBy providers).observations

theorem mem_discoverDevices (providers : List DiscoveryProvider) (ip : Str) :
    ip ∈ addresses (discoverDevices providers).devices ↔ ∃ provider ∈ providers, ip ∈ addresses provider.devices := by
  have hkeys : addresses (discoverDevices providers).devices = _ := (foundBy providers).keyed.keys_eq
  rw [hkeys, (foundBy providers).keys]

end DiscoveryEngine

end NetworkMapper
