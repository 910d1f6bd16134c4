import NetworkMapper.Discovery.DiscoveryEngine
import NetworkMapper.Discovery.SnmpClient

/-! # The system group -/

open Python

namespace NetworkMapper

/-- The attributes of a device that the system group can fill. -/
inductive SnmpAttribute where
  | hostname
  | snmpSysDescr
  | snmpSysObjectId
  | snmpSysUptime
  | snmpSysContact
  | snmpSysLocation
  deriving DecidableEq

/-- `getattr(device, attribute)` -/
def SnmpAttribute.get (device : Device) : SnmpAttribute → Option Str
  | .hostname => device.hostname
  | .snmpSysDescr => device.snmpSysDescr
  | .snmpSysObjectId => device.snmpSysObjectId
  | .snmpSysUptime => device.snmpSysUptime
  | .snmpSysContact => device.snmpSysContact
  | .snmpSysLocation => device.snmpSysLocation

/-- `setattr(device, attribute, value)` -/
def SnmpAttribute.set (device : Device) (value : Str) : SnmpAttribute → Device
  | .hostname => { device with hostname := some value }
  | .snmpSysDescr => { device with snmpSysDescr := some value }
  | .snmpSysObjectId => { device with snmpSysObjectId := some value }
  | .snmpSysUptime => { device with snmpSysUptime := some value }
  | .snmpSysContact => { device with snmpSysContact := some value }
  | .snmpSysLocation => { device with snmpSysLocation := some value }

namespace SnmpEnrichmentProvider

/-- `_FIELD_TO_DEVICE_ATTRIBUTE` -/
def fieldToDeviceAttribute : List (Str × SnmpAttribute) :=
  [(str "sysName", .hostname), (str "sysDescr", .snmpSysDescr), (str "sysObjectID", .snmpSysObjectId),
    (str "sysUpTime", .snmpSysUptime), (str "sysContact", .snmpSysContact), (str "sysLocation", .snmpSysLocation)]

/-- `_IDENTITY_FIELD_TO_PROPERTY` -/
def identityFieldToProperty : List (Str × Str) := [(str "sysName", str "hostname")]

/-- `_merge`. A value that is there stays. `false` is the `KeyError` for a field that is not in the
table, after the fields before it. -/
def merge (device : Device) : List (Str × Str) → Device × Bool
  | [] => (device, true)
  | (name, value) :: fields =>
    match fieldToDeviceAttribute.lookup name with
    | none => (device, false)
    | some target => merge (if (target.get device).isNone then target.set device value else device) fields

/-- `"snmp"` is among the sources once. -/
def addSource (device : Device) : Device :=
  if str "snmp" ∈ device.discoverySources then device
  else { device with discoverySources := device.discoverySources ++ [str "snmp"] }

variable (session : SnmpSession SnmpHostResult)

/-- `_collect_identity_observations`. An empty value is none. -/
def collectIdentityObservations (ipAddress : Str) (fields : List (Str × Str)) : List Observation :=
  identityFieldToProperty.filterMap fun (fieldName, propertyName) =>
    match fields.lookup fieldName with
    | none | some [] => none
    | some value => some (.identity ⟨ipAddress, propertyName, value, session.provenance fieldName⟩)

/-- One device: what becomes of it, and its observations, or `none` if this raises. -/
def enrichDevice (device : Device) : Device × Option (List Observation) :=
  let result := session.queryHost (SnmpHostResult.mk false []) device.ipAddress
  if result.responded then
    match merge device result.fields with
    | (merged, true) =>
      (addSource merged, some (collectIdentityObservations session device.ipAddress result.fields))
    | (merged, false) => (merged, none)
  else (device, some [])

/-- `enrich`. An exception leaves the rest of the devices as they are. -/
def enrich : List Device → List Device × Option (List Observation)
  | [] => ([], some [])
  | device :: devices =>
    match enrichDevice session device with
    | (enriched, none) => (enriched :: devices, none)
    | (enriched, some collected) =>
      let (rest, observations) := enrich devices
      (enriched :: rest, observations.map (collected ++ ·))

def provider : EnrichmentProvider where
  Self := List Observation
  receiveObservations _ := some []
  enrich _ devices := enrich session devices
  collectObservations observations := some observations

/-! ## What enrichment cannot do -/

/-- The fields have names of the system group. -/
def KnownFields (result : SnmpHostResult) : Prop :=
  ∀ field ∈ result.fields, (fieldToDeviceAttribute.lookup field.1).isSome = true

theorem getSystemGroup_known (response : SystemGroupResponse) : KnownFields (PysnmpClient.getSystemGroup response) := by
  have hknown : ∀ name ∈ PysnmpClient.systemGroupOids.map Prod.fst,
      (fieldToDeviceAttribute.lookup name).isSome = true := by decide
  intro field hfield
  exact hknown field.1 ((PysnmpClient.systemGroup_names response).subset (List.mem_map_of_mem hfield))

theorem merge_total (device : Device) (fields : List (Str × Str))
    (h : ∀ field ∈ fields, (fieldToDeviceAttribute.lookup field.1).isSome = true) : (merge device fields).2 = true := by
  -- No name of the system group is a `KeyError`.
  induction fields generalizing device with
  | nil => rfl
  | cons field fields ih =>
    obtain ⟨hknown, hrest⟩ := List.forall_mem_cons.mp h
    obtain ⟨target, htarget⟩ := Option.isSome_iff_exists.mp hknown
    unfold merge
    simp only [htarget]
    exact ih _ hrest

theorem merge_ipAddress (device : Device) (fields : List (Str × Str)) :
    (merge device fields).1.ipAddress = device.ipAddress := by
  induction fields generalizing device with
  | nil => rfl
  | cons field fields ih =>
    unfold merge
    split
    · rfl
    · rename_i target _
      rw [ih]
      split
      · cases target <;> rfl
      · rfl

theorem enrichDevice_ipAddress (device : Device) : (enrichDevice session device).1.ipAddress = device.ipAddress := by
  have hsource : ∀ d : Device, (addSource d).ipAddress = d.ipAddress := by
    intro d
    unfold addSource
    split <;> rfl
  unfold enrichDevice
  simp only
  split
  · split <;> rename_i hmerge
    · rw [hsource, ← merge_ipAddress device, hmerge]
    · rw [← merge_ipAddress device, hmerge]
  · rfl

theorem enrich_addresses (devices : List Device) :
    DiscoveryEngine.addresses (enrich session devices).1 = DiscoveryEngine.addresses devices := by
  simp only [DiscoveryEngine.addresses]
  induction devices with
  | nil => rfl
  | cons device devices ih =>
    have hdevice := enrichDevice_ipAddress session device
    unfold enrich
    split <;> rename_i henrich <;> rw [henrich] at hdevice <;> simp only at hdevice
    · simp [hdevice]
    · simp [hdevice, ih]

/-- An identity observation about one of the devices, and not about its MAC address. -/
def HostnameClaim (devices : List Device) (o : Observation) : Prop :=
  ∃ i, o = .identity i ∧ i.subject ∈ DiscoveryEngine.addresses devices ∧ i.propertyName = str "hostname"

theorem collected_claim (device : Device) (fields : List (Str × Str)) (o : Observation)
    (ho : o ∈ collectIdentityObservations session device.ipAddress fields) : HostnameClaim [device] o := by
  unfold collectIdentityObservations identityFieldToProperty at ho
  simp only [List.mem_filterMap, List.mem_singleton] at ho
  obtain ⟨_, rfl, ho⟩ := ho
  simp only at ho
  split at ho
  · simp at ho
  · simp at ho
  · rw [Option.some.injEq] at ho
    exact ⟨_, ho.symm, by simp [DiscoveryEngine.addresses], rfl⟩

theorem enrichDevice_observations (device : Device) (observations : List Observation)
    (h : (enrichDevice session device).2 = some observations) (o : Observation) (ho : o ∈ observations) :
    HostnameClaim [device] o := by
  unfold enrichDevice at h
  simp only at h
  split at h
  · split at h
    · rw [Option.some.injEq] at h
      exact collected_claim session device _ o (h ▸ ho)
    · simp at h
  · rw [Option.some.injEq] at h
    simp [← h] at ho

theorem enrich_observations (devices : List Device) (observations : List Observation)
    (h : (enrich session devices).2 = some observations) (o : Observation) (ho : o ∈ observations) :
    HostnameClaim devices o := by
  induction devices generalizing observations with
  | nil =>
    unfold enrich at h
    rw [Option.some.injEq] at h
    simp [← h] at ho
  | cons device devices ih =>
    have hdevice := enrichDevice_observations session device
    unfold enrich at h
    split at h <;> rename_i henrich <;> rw [henrich] at hdevice
    · simp at h
    · obtain ⟨rest, hrest, rfl⟩ := Option.map_eq_some_iff.mp h
      rcases List.mem_append.mp ho with ho | ho
      · obtain ⟨i, rfl, hi, hname⟩ := hdevice _ rfl o ho
        exact ⟨i, rfl, List.mem_append_left _ hi, hname⟩
      · obtain ⟨i, rfl, hi, hname⟩ := ih rest hrest ho
        exact ⟨i, rfl, List.mem_cons_of_mem _ hi, hname⟩

end SnmpEnrichmentProvider

end NetworkMapper
