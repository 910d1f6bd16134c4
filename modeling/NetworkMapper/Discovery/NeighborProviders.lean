import NetworkMapper.Discovery.DiscoveryEngine
import NetworkMapper.Discovery.SnmpClient
import NetworkMapper.Identity.MacIndex
import NetworkMapper.Python.IpAddress

/-!
# The table providers: ARP caches, LLDP neighbours and forwarding tables

Each asks every device once, in order, and never changes one.
-/

open Python

namespace NetworkMapper

/-- The loop of the three `enrich` methods. A host that does not respond adds nothing. -/
def walkTables {entry β : Type} (session : SnmpSession (SnmpTableResult entry))
    (collect : Str → List entry → List β) (ips : List Str) : List β :=
  ips.flatMap fun ipAddress =>
    let result := session.queryHost (SnmpTableResult.mk false []) ipAddress
    if result.responded then collect ipAddress result.entries else []

/-- The attributes of a provider: the observations it was handed, and those it made. -/
structure TableProviderSelf where
  received : List Observation
  observations : List Observation

/-- What the three providers do alike. `collect` gets the snapshot and the discovered addresses. -/
def tableProvider {entry : Type} (session : SnmpSession (SnmpTableResult entry))
    (collect : List Observation → List Str → Str → List entry → List Observation) : EnrichmentProvider where
  Self := TableProviderSelf
  receiveObservations observations := some ⟨observations, []⟩
  enrich self devices :=
    let discoveredIps := DiscoveryEngine.addresses devices
    (devices, some ⟨self.received, walkTables session (collect self.received discoveredIps) discoveredIps⟩)
  collectObservations self := some self.observations

/-! ## ARP -/

namespace SnmpArpNeighborProvider

def arpNeighborCategory : Str := str "arp_neighbor"

def collectionMethod : Str := str "ipNetToPhysicalTable"

variable (session : SnmpSession (SnmpTableResult SnmpArpTableEntry))

/-- `_collect_relationship_observations`: an edge for each entry, also where its address was not discovered. -/
def collectRelationshipObservations (ipAddress : Str) (entries : List SnmpArpTableEntry) : List Observation :=
  entries.map fun entry =>
    .relationship ⟨ipAddress, entry.ipAddress, arpNeighborCategory, session.provenance collectionMethod⟩

/-- `_collect_mac_identity_observations`: only a discovered host becomes a subject. -/
def collectMacIdentityObservations (discoveredIps : List Str) (entries : List SnmpArpTableEntry) : List Observation :=
  entries.filterMap fun entry =>
    if entry.ipAddress ∉ discoveredIps then none
    else some (.identity ⟨entry.ipAddress, macAddressProperty, entry.macAddress, session.provenance collectionMethod⟩)

/-- What the provider collects from one host that responded. -/
def collect (discoveredIps : List Str) (ipAddress : Str) (entries : List SnmpArpTableEntry) : List Observation :=
  collectRelationshipObservations session ipAddress entries ++
    collectMacIdentityObservations session discoveredIps entries

/-- It does not read the snapshot. -/
def provider : EnrichmentProvider := tableProvider session fun _ discoveredIps => collect session discoveredIps

end SnmpArpNeighborProvider

/-! ## LLDP -/

namespace SnmpLldpNeighborProvider

def lldpNeighborCategory : Str := str "connected_to"

def chassisIdSubtypeMacAddress : Int := 4

def chassisIdSubtypeNetworkAddress : Int := 5

def methodManagementAddress : Str := str "lldp-management-address"

def methodChassisNetworkAddress : Str := str "lldp-chassis-network-address"

def methodChassisMac : Str := str "lldp-chassis-mac"

/-- `_resolve_related_subjects`: management addresses first, then the chassis. -/
def resolveRelatedSubjects (entry : SnmpLldpNeighborEntry) (index : MacIndex) : List (Str × Str) :=
  if entry.managementAddresses ≠ [] then entry.managementAddresses.map fun address => (address, methodManagementAddress)
  else if entry.chassisIdSubtype = chassisIdSubtypeNetworkAddress then
    if (ipv4Address entry.chassisId).isNone then [] else [(entry.chassisId, methodChassisNetworkAddress)]
  else if entry.chassisIdSubtype = chassisIdSubtypeMacAddress then
    match theOnly (index.subjects entry.chassisId) with
    | some subject => [(subject, methodChassisMac)]
    | none => []
  else []

variable (session : SnmpSession (SnmpTableResult SnmpLldpNeighborEntry))

/-- An edge, with the method that resolved its subject. -/
def relationshipObservation (ipAddress relatedSubject method : Str) : RelationshipObservation :=
  ⟨ipAddress, relatedSubject, lldpNeighborCategory, session.provenance method⟩

/-- The system name of the neighbour, if the neighbour was discovered. An empty name is none. -/
def hostnameObservations (discoveredIps : List Str) (entry : SnmpLldpNeighborEntry) (relatedSubject method : Str) :
    List Observation :=
  match entry.sysName with
  | none | some [] => []
  | some sysName =>
    if relatedSubject ∈ discoveredIps then
      [.identity ⟨relatedSubject, str "hostname", sysName, session.provenance method⟩]
    else []

/-- `_collect_observations_for_host`: for each subject of an entry its edge, then its host name. -/
def collect (index : MacIndex) (discoveredIps : List Str) (ipAddress : Str) (entries : List SnmpLldpNeighborEntry) :
    List Observation :=
  entries.flatMap fun entry =>
    (resolveRelatedSubjects entry index).flatMap fun (relatedSubject, method) =>
      .relationship (relationshipObservation session ipAddress relatedSubject method) ::
        hostnameObservations session discoveredIps entry relatedSubject method

def provider : EnrichmentProvider :=
  tableProvider session fun received => collect session (buildMacIndex received)

theorem collect_congr {index index' : MacIndex} (h : index.subjects = index'.subjects) :
    collect session index = collect session index' := by
  -- The index is only asked for the subjects of MAC addresses.
  funext discoveredIps ipAddress entries
  simp only [collect, resolveRelatedSubjects, h]

end SnmpLldpNeighborProvider

/-! ## Forwarding tables -/

namespace SnmpBridgeFdbProvider

def bridgeFdbCategory : Str := str "bridge_fdb"

def qualifyingStatus : Str := str "learned"

def methodDot1dTpFdb : Str := str "dot1dTpFdbTable"

variable (session : SnmpSession (SnmpTableResult SnmpBridgeFdbEntry))

/-- The observation of one learned entry. -/
def relationshipObservation (ipAddress relatedSubject : Str) : RelationshipObservation :=
  ⟨ipAddress, relatedSubject, bridgeFdbCategory, session.provenance methodDot1dTpFdb⟩

/-- The subject of an entry: it was learned, and its MAC address has one subject. -/
def resolveRelatedSubject (entry : SnmpBridgeFdbEntry) (index : MacIndex) : Option Str :=
  if entry.status ≠ some qualifyingStatus then none else theOnly (index.subjects entry.macAddress)

/-- `_collect_observations_for_host`: an entry without a subject gives no edge. -/
def collect (index : MacIndex) (ipAddress : Str) (entries : List SnmpBridgeFdbEntry) : List Observation :=
  entries.filterMap fun entry =>
    (resolveRelatedSubject entry index).map fun relatedSubject =>
      .relationship (relationshipObservation session ipAddress relatedSubject)

def provider : EnrichmentProvider :=
  tableProvider session fun received _ => collect session (buildMacIndex received)

theorem collect_congr {index index' : MacIndex} (h : index.subjects = index'.subjects) :
    collect session index = collect session index' := by
  funext ipAddress entries
  simp only [collect, resolveRelatedSubject, h]

end SnmpBridgeFdbProvider

end NetworkMapper
