import NetworkMapper.Discovery.MacEdges
import NetworkMapper.Discovery.RowKeys
import NetworkMapper.Resolution.Order
import Mathlib.Data.List.Perm.Basic

/-!
# The MAC addresses of an ARP table

The client formats a physical address of any length. When it has six octets, the
evidence is a MAC address. When it has not, the evidence is a text that no other
source can agree with.
-/

open Python

namespace NetworkMapper

open DiscoveryEngine PysnmpClient

/-! ## MAC addresses as text -/

def isUpperHex (c : CodePoint) : Bool := (48 ≤ c.val ∧ c.val ≤ 57) ∨ (65 ≤ c.val ∧ c.val ≤ 70)

/-- Six groups of two hexadecimal digits, with a colon between them. -/
def IsMac (text : Str) : Prop :=
  (text.splitOn (ch ':')).length = 6 ∧
    ∀ group ∈ text.splitOn (ch ':'), group.length = 2 ∧ ∀ c ∈ group, isUpperHex c = true

theorem hexByte_hex (b : Byte) : (hexByte b).length = 2 ∧ ∀ c ∈ hexByte b, isUpperHex c = true := by
  have hdigit : ∀ n < 16, isUpperHex (upperHexDigit n) = true := by decide
  refine ⟨rfl, ?_⟩
  unfold hexByte
  simp only [List.forall_mem_cons]
  exact ⟨hdigit _ (by omega), hdigit _ (by omega), List.forall_mem_nil _⟩

theorem isMac_formatMac (bytes : Bytes) : IsMac (formatMac bytes) ↔ bytes.length = 6 := by
  cases hbytes : bytes with
  | nil =>
    have hsplit : (formatMac []).splitOn (ch ':') = [[]] := rfl
    simp [IsMac, hsplit]
  | cons b rest =>
    unfold IsMac
    rw [splitOn_formatMac _ (by simp), List.length_map, List.forall_mem_map]
    exact and_iff_left fun b _ => hexByte_hex b

/-! ## What a walk keeps -/

/-- A row of the column of MAC addresses: its OID and what it says. -/
abbrev ArpRow := Oid × Option Bytes

/-- The rows of the walk of the physical addresses, `none` when it fails. -/
def PysnmpClient.ArpWalks.rows (walks : ArpWalks) : Option (List ArpRow) := do
  let rows ← walks.physAddress.mapM id
  return rows.flatten

section Rows

variable (py : Interpreter)

/-- The rows that `_parse_ipv4_arp_row` takes and that have a value, with their keys. -/
def acceptedRows (rows : List ArpRow) : List ((Int × Str) × Bytes) :=
  rows.filterMap (acceptedRow (parseIpv4ArpRow py) ipNetToPhysicalPhysAddressOid)

/-- `mac_by_key`: the last accepted row of a key is what stays. -/
def macByKey (rows : List ArpRow) : List ((Int × Str) × Bytes) :=
  (Dict.empty.setAll Prod.fst (acceptedRows py rows)).values

/-- The physical address of the last row with the key. -/
def keptAddress (rows : List ArpRow) (key : Int × Str) : Option Bytes :=
  (Dict.lastWith Prod.fst key (acceptedRows py rows)).map Prod.snd

theorem keptAddress_eq_some (rows : List ArpRow) (key : Int × Str) (mac : Bytes) :
    keptAddress py rows key = some mac ↔ Dict.lastWith Prod.fst key (acceptedRows py rows) = some (key, mac) :=
  Dict.lastWith_snd key (acceptedRows py rows) mac

theorem mem_macByKey (rows : List ArpRow) (key : Int × Str) (mac : Bytes) :
    (key, mac) ∈ macByKey py rows ↔ keptAddress py rows key = some mac := by
  unfold macByKey
  rw [Dict.mem_setAll_values, keptAddress_eq_some]

theorem macByKey_nodup (rows : List ArpRow) : (macByKey py rows).Nodup := Dict.setAll_values_nodup _ _

/-- The physical address that a row gives to a key. -/
def ownAddress (key : Int × Str) (row : ArpRow) : Option Bytes :=
  match acceptedRow (parseIpv4ArpRow py) ipNetToPhysicalPhysAddressOid row with
  | some (k, mac) => if k = key then some mac else none
  | none => none

theorem ownAddress_eq_some (key : Int × Str) (row : ArpRow) (mac : Bytes) (h : ownAddress py key row = some mac) :
    row.2 = some mac := by
  unfold ownAddress at h
  split at h
  · rename_i k mac' hrow
    have hvalue := ((acceptedRow_eq_some _ _ _ _ _).mp hrow).1
    split at h
    · rw [hvalue, h]
    · cases h
  · cases h

theorem keptAddress_cons (row : ArpRow) (rows : List ArpRow) (key : Int × Str) :
    keptAddress py (row :: rows) key = (keptAddress py rows key).or (ownAddress py key row) := by
  unfold keptAddress acceptedRows ownAddress
  rw [List.filterMap_cons]
  cases acceptedRow (parseIpv4ArpRow py) ipNetToPhysicalPhysAddressOid row with
  | none => rw [Option.or_none]
  | some item =>
    simp only [Dict.lastWith, Option.map_or]
    split <;> rfl

theorem walkColumn_eq (walks : ArpWalks) :
    walkColumn (parseIpv4ArpRow py) ipNetToPhysicalPhysAddressOid walks.physAddress =
      walks.rows.map (macByKey py) := by
  unfold walkColumn ArpWalks.rows macByKey acceptedRows
  cases walks.physAddress.mapM (m := Option) id <;> rfl

theorem getArpTable_ok (walks : Option ArpWalks) (rows : List ArpRow) (h : walks.bind ArpWalks.rows = some rows) :
    (getArpTable py walks).responded = true ∧
      ∃ entryType : Int × Str → Option Str, (getArpTable py walks).entries =
        (macByKey py rows).map fun e => ⟨e.1.1, e.1.2, formatMac e.2, entryType e.1⟩ := by
  obtain ⟨w, rfl, hrows⟩ := Option.bind_eq_some_iff.mp h
  have hwalk := walkColumn_eq py w
  rw [hrows, Option.map_some] at hwalk
  let typeByKey := (walkColumn (parseIpv4ArpRow py) ipNetToPhysicalTypeOid w.type).getD []
  simp only [getArpTable, hwalk, true_and]
  exact ⟨fun key => arpEntryTypeNames.lookup (asInt (typeByKey.lookup key)), rfl⟩

theorem getArpTable_fails (walks : Option ArpWalks) (h : walks.bind ArpWalks.rows = none) :
    (getArpTable py walks).responded = false := by
  cases walks with
  | none => rfl
  | some walks =>
    have hwalk := walkColumn_eq py walks
    rw [Option.bind_some] at h
    rw [h, Option.map_none] at hwalk
    simp only [getArpTable, hwalk]

end Rows

/-! ## More rows -/

/-- The second list is the first with rows added, and none of their physical addresses has six octets. -/
inductive AddsRows : List ArpRow → List ArpRow → Prop where
  | nil : AddsRows [] []
  | keep {rows rows' : List ArpRow} (row : ArpRow) (h : AddsRows rows rows') : AddsRows (row :: rows) (row :: rows')
  | add {rows rows' : List ArpRow} (name : Oid) (mac : Bytes) (hmac : mac.length ≠ 6) (h : AddsRows rows rows') :
      AddsRows rows ((name, some mac) :: rows')

theorem AddsRows.keptAddress {py : Interpreter} {rows rows' : List ArpRow} (h : AddsRows rows rows') {key : Int × Str}
    (hsix : ∀ mac, keptAddress py rows' key = some mac → mac.length = 6) :
    NetworkMapper.keptAddress py rows key = NetworkMapper.keptAddress py rows' key := by
  -- When what is kept has six octets, it was there before.
  induction h with
  | nil => rfl
  | @keep rows rows' row _ ih =>
    rw [keptAddress_cons, keptAddress_cons, ih]
    intro mac hmac
    exact hsix mac (by rw [keptAddress_cons, hmac, Option.some_or])
  | @add rows rows' name mac hmac _ ih =>
    have hrest : NetworkMapper.keptAddress py rows key = NetworkMapper.keptAddress py rows' key := by
      apply ih
      intro mac' hmac'
      exact hsix mac' (by rw [keptAddress_cons, hmac', Option.some_or])
    rw [keptAddress_cons] at hsix ⊢
    rw [hrest]
    cases hkept : NetworkMapper.keptAddress py rows' key with
    | some mac' => rw [Option.some_or]
    | none =>
      -- The added row cannot be the one that is kept.
      rw [hkept, Option.none_or] at hsix
      rw [Option.none_or, eq_comm, Option.eq_none_iff_forall_ne_some]
      intro mac' hmac'
      have hown := ownAddress_eq_some py key (name, some mac) mac' hmac'
      rw [Option.some.injEq] at hown
      exact hmac (hown ▸ hsix mac' hmac')

/-! ## The provider -/

/-- One `enrich` call of the ARP provider on the PySNMP client. -/
structure ArpSession where
  runId : Str
  observedAt : DateTime
  walks : Str → Option ArpWalks

namespace ArpSession

/-- The client of a session, as the provider sees it. -/
def session (py : Interpreter) (s : ArpSession) : SnmpSession (SnmpTableResult SnmpArpTableEntry) :=
  ⟨s.runId, s.observedAt, fun host => some (getArpTable py (s.walks host))⟩

def rows (s : ArpSession) (host : Str) : Option (List ArpRow) := (s.walks host).bind ArpWalks.rows

/-- The observation that an entry becomes where its address was discovered. -/
def macObservation (s : ArpSession) (item : (Int × Str) × Bytes) : IdentityObservation :=
  ⟨item.1.2, macAddressProperty, formatMac item.2, ⟨str "snmp", SnmpArpNeighborProvider.collectionMethod, s.observedAt,
    s.runId⟩⟩

/-- The identity observations of one host's table. -/
def hostIdentities (py : Interpreter) (s : ArpSession) (ips : List Str) (host : Str) : List IdentityObservation :=
  match s.rows host with
  | some rows => ((macByKey py rows).filter fun item => item.1.2 ∈ ips).map s.macObservation
  | none => []

theorem identityObservations_entries (py : Interpreter) (s : ArpSession) (ips : List Str) (host : Str)
    (items : List ((Int × Str) × Bytes)) (entryType : Int × Str → Option Str) :
    (SnmpArpNeighborProvider.collect (s.session py) ips host
      (items.map fun e => ⟨e.1.1, e.1.2, formatMac e.2, entryType e.1⟩)).filterMap Observation.identity? =
        (items.filter fun item => item.1.2 ∈ ips).map s.macObservation := by
  have hrelationships : ∀ entries, (SnmpArpNeighborProvider.collectRelationshipObservations (s.session py) host
      entries).filterMap Observation.identity? = [] := by
    intro entries
    unfold SnmpArpNeighborProvider.collectRelationshipObservations
    rw [List.filterMap_map]
    exact List.filterMap_eq_nil_iff.mpr fun _ _ => rfl
  unfold SnmpArpNeighborProvider.collect SnmpArpNeighborProvider.collectMacIdentityObservations
  rw [List.filterMap_append, hrelationships, List.nil_append]
  induction items with
  | nil => rfl
  | cons item items ih =>
    simp only [List.map_cons, List.filterMap_cons, List.filter_cons]
    by_cases hip : item.1.2 ∈ ips
    · simp only [hip, not_true_eq_false, if_false, List.filterMap_cons, ih]
      rfl
    · simp only [hip, not_false_eq_true, if_true, ih]
      rfl

theorem identityObservations_collect (py : Interpreter) (s : ArpSession) (ips : List Str) :
    identityObservations (walkTables (s.session py) (SnmpArpNeighborProvider.collect (s.session py) ips) ips) =
      ips.flatMap (s.hostIdentities py ips) := by
  unfold walkTables identityObservations
  rw [List.filterMap_flatMap]
  congr 1
  funext host
  have hquery : (s.session py).queryHost (SnmpTableResult.mk false []) host = getArpTable py (s.walks host) := rfl
  simp only [hquery]
  unfold hostIdentities
  cases hrows : s.rows host with
  | none =>
    rw [getArpTable_fails py _ hrows]
    rfl
  | some rows =>
    obtain ⟨hresponded, entryType, hentries⟩ := getArpTable_ok py _ rows hrows
    rw [if_pos hresponded, hentries]
    exact identityObservations_entries py s ips host _ entryType

theorem mem_hostIdentities (py : Interpreter) (s : ArpSession) (ips : List Str) (host : Str) (o : IdentityObservation) :
    o ∈ s.hostIdentities py ips host ↔ ∃ rows, s.rows host = some rows ∧ ∃ key mac, key.2 ∈ ips ∧
      keptAddress py rows key = some mac ∧ s.macObservation (key, mac) = o := by
  unfold hostIdentities
  cases s.rows host with
  | none => simp
  | some rows =>
    simp only [List.mem_map, List.mem_filter, decide_eq_true_eq, Option.some.injEq, exists_eq_left']
    constructor
    · rintro ⟨⟨key, mac⟩, ⟨hmac, hip⟩, ho⟩
      exact ⟨key, mac, hip, (mem_macByKey py rows key mac).mp hmac, ho⟩
    · rintro ⟨key, mac, hip, hmac, ho⟩
      exact ⟨(key, mac), ⟨(mem_macByKey py rows key mac).mpr hmac, hip⟩, ho⟩

/-- Each physical address that a walk keeps for a discovered address has six octets. -/
def SixOctets (py : Interpreter) (ips : List Str) (s : ArpSession) : Prop :=
  ∀ host ∈ ips, ∀ rows, s.rows host = some rows → ∀ key mac, key.2 ∈ ips → keptAddress py rows key = some mac →
    mac.length = 6

theorem macs_iff (py : Interpreter) (s : ArpSession) (ips : List Str) :
    (∀ o ∈ ips.flatMap (s.hostIdentities py ips), IsMac o.value) ↔ s.SixOctets py ips := by
  unfold SixOctets
  simp only [List.mem_flatMap, mem_hostIdentities]
  constructor
  · intro h host hhost rows hrows key mac hip hmac
    exact (isMac_formatMac mac).mp (h _ ⟨host, hhost, rows, hrows, key, mac, hip, hmac, rfl⟩)
  · rintro h _ ⟨host, hhost, rows, hrows, key, mac, hip, hmac, rfl⟩
    exact (isMac_formatMac mac).mpr (h host hhost rows hrows key mac hip hmac)

/-- The answers of the hosts with more rows, none of them with six octets. -/
structure Adds (s s' : ArpSession) : Prop where
  runId : s.runId = s'.runId
  observedAt : s.observedAt = s'.observedAt
  rows : ∀ host, Option.Rel AddsRows (s.rows host) (s'.rows host)

theorem Adds.hostIdentities {py : Interpreter} {ips : List Str} {s s' : ArpSession} (h : s.Adds s')
    (hsix : s'.SixOctets py ips) (host : Str) (hhost : host ∈ ips) :
    (s.hostIdentities py ips host).Perm (s'.hostIdentities py ips host) := by
  have hobservation : s.macObservation = s'.macObservation := by
    unfold macObservation
    rw [h.runId, h.observedAt]
  have hrows := h.rows host
  have hkept := hsix host hhost
  unfold ArpSession.hostIdentities
  cases hs : s.rows host with
  | none =>
    cases hs' : s'.rows host with
    | none => exact List.Perm.refl _
    | some rows' => rw [hs, hs'] at hrows; cases hrows
  | some rows =>
    cases hs' : s'.rows host with
    | none => rw [hs, hs'] at hrows; cases hrows
    | some rows' =>
      rw [hs, hs'] at hrows
      cases hrows with
      | some hadds =>
        -- A key of a discovered address keeps what it had.
        rw [hobservation]
        apply List.Perm.map
        rw [List.perm_ext_iff_of_nodup ((macByKey_nodup py rows).filter _) ((macByKey_nodup py rows').filter _)]
        rintro ⟨key, mac⟩
        simp only [List.mem_filter, decide_eq_true_eq, mem_macByKey]
        apply and_congr_left
        intro hip
        rw [hadds.keptAddress fun mac => hkept rows' hs' key mac hip]

end ArpSession

/-! ## Runs -/

/-- One provider of a run, and for an ARP provider the rows that its hosts answer. -/
inductive Enrichment where
  | system (session : SnmpSession SnmpHostResult)
  | arp (session : ArpSession)
  | lldp (session : SnmpSession (SnmpTableResult SnmpLldpNeighborEntry))
  | bridgeFdb (session : SnmpSession (SnmpTableResult SnmpBridgeFdbEntry))

namespace Enrichment

def snmp (py : Interpreter) : Enrichment → SnmpProvider
  | .system session => .system session
  | .arp s => .arp (s.session py)
  | .lldp session => .lldp session
  | .bridgeFdb session => .bridgeFdb session

/-- The same provider, or the same ARP provider with more rows. -/
inductive Adds : Enrichment → Enrichment → Prop where
  | refl (p : Enrichment) : Adds p p
  | arp {s s' : ArpSession} (h : s.Adds s') : Adds (.arp s) (.arp s')

/-- The provider is over no ARP tables, or what its walks keep has six octets. -/
def SixOctets (py : Interpreter) (ips : List Str) (p : Enrichment) : Prop := ∀ s, p = .arp s → s.SixOctets py ips

end Enrichment

/-- The same devices, and the same identity observations in some order. -/
structure SameIdentities (σ σ' : State) : Prop where
  devices : σ.devices = σ'.devices
  identities : (identityObservations σ.observations).Perm (identityObservations σ'.observations)

theorem SameIdentities.subjects {σ σ' : State} (h : SameIdentities σ σ') :
    (buildMacIndex σ.observations).subjects = (buildMacIndex σ'.observations).subjects := by
  funext mac
  ext subject
  simp only [mem_subjects, Claims, ← mem_identityObservations, h.identities.mem_iff]

theorem SameIdentities.collected {σ σ' : State} (h : SameIdentities σ σ') (p : SnmpProvider) :
    p.collected σ = p.collected σ' := by
  -- What a provider collects depends on the devices and on the subjects of the MAC addresses.
  unfold SnmpProvider.collected
  cases p with
  | lldp session => simp only [h.devices, SnmpLldpNeighborProvider.collect_congr session h.subjects]
  | bridgeFdb session => simp only [h.devices, SnmpBridgeFdbProvider.collect_congr session h.subjects]
  | _ => rw [h.devices]

theorem SameIdentities.step {py : Interpreter} {σ σ' : State} (h : SameIdentities σ σ') {p p' : Enrichment}
    (hadds : p.Adds p') (hsix : p'.SixOctets py (addresses σ'.devices)) :
    SameIdentities ((p.snmp py).step σ) ((p'.snmp py).step σ') := by
  cases hadds with
  | refl =>
    refine ⟨SnmpProvider.step_devices _ h.devices, ?_⟩
    rw [SnmpProvider.step_observations, SnmpProvider.step_observations, identityObservations_append,
      identityObservations_append, h.collected]
    exact h.identities.append_right _
  | @arp s s' hs =>
    refine ⟨h.devices, ?_⟩
    rw [SnmpProvider.step_observations, SnmpProvider.step_observations, identityObservations_append,
      identityObservations_append]
    apply h.identities.append
    unfold Enrichment.snmp SnmpProvider.collected
    rw [ArpSession.identityObservations_collect, ArpSession.identityObservations_collect, h.devices]
    exact List.Perm.flatMap_left _ fun host hhost => hs.hostIdentities (hsix s' rfl) host hhost

/-- The state after some of the providers. -/
def runEnrichments (py : Interpreter) (σ : State) (places : List Enrichment) : State :=
  runFrom σ (places.map (Enrichment.snmp py))

theorem runEnrichments_addresses (py : Interpreter) (σ : State) (places : List Enrichment) :
    addresses (runEnrichments py σ places).devices = addresses σ.devices := by
  induction places generalizing σ with
  | nil => rfl
  | cons p places ih =>
    have hrest := ih ((p.snmp py).step σ)
    rw [SnmpProvider.step_addresses] at hrest
    exact hrest

theorem SameIdentities.run {py : Interpreter} {σ σ' : State} (h : SameIdentities σ σ') {places places' : List Enrichment}
    (hadds : List.Forall₂ Enrichment.Adds places places')
    (hsix : ∀ p ∈ places', p.SixOctets py (addresses σ'.devices)) :
    SameIdentities (runEnrichments py σ places) (runEnrichments py σ' places') := by
  induction hadds generalizing σ σ' with
  | nil => exact h
  | @cons p p' places places' hp _ ih =>
    rw [List.forall_mem_cons] at hsix
    apply ih (h.step hp hsix.1)
    rw [SnmpProvider.step_addresses]
    exact hsix.2

theorem SameIdentities.resolve {σ σ' : State} (h : SameIdentities σ σ') :
    IdentityResolver.resolve σ.observations = IdentityResolver.resolve σ'.observations := by
  have hown : ∀ observations, IdentityResolver.resolve observations =
      IdentityResolver.resolve ((identityObservations observations).map .identity) := by
    intro observations
    have hidentity : ∀ identities : List IdentityObservation,
        identityObservations (identities.map .identity) = identities := by
      intro identities
      unfold identityObservations
      rw [List.filterMap_map]
      exact List.filterMap_some
    unfold IdentityResolver.resolve
    rw [hidentity]
  rw [hown, hown σ'.observations]
  exact identities_of_perm (h.identities.map _)

/-- The values of the emitted MAC addresses are MAC addresses, and rows with other physical addresses change no
identity, exactly when the walks keep six octets for each discovered address. -/
theorem arp_macs_well_formed_iff (py : Interpreter) (classify : Device → DeviceType)
    (providers : List DiscoveryProvider) (places : List Enrichment) :
    ((∀ before s after, places = before ++ .arp s :: after →
        ∀ o, .identity o ∈ ((Enrichment.arp s).snmp py).collected
          (runEnrichments py (discoverDevices providers) before) →
            o.propertyName = macAddressProperty → IsMac o.value) ∧
      ∀ fewer, List.Forall₂ Enrichment.Adds fewer places →
        IdentityResolver.resolve
            (discover classify providers ((fewer.map (Enrichment.snmp py)).map SnmpProvider.provider)).observations =
          IdentityResolver.resolve
            (discover classify providers ((places.map (Enrichment.snmp py)).map SnmpProvider.provider)).observations) ↔
      ∀ s, .arp s ∈ places → s.SixOctets py (addresses (discoverDevices providers).devices) := by
  -- What an ARP provider emits does not depend on the providers before it.
  have hcollected : ∀ before (s : ArpSession) o,
      .identity o ∈ ((Enrichment.arp s).snmp py).collected (runEnrichments py (discoverDevices providers) before) ↔
        o ∈ (addresses (discoverDevices providers).devices).flatMap
          (s.hostIdentities py (addresses (discoverDevices providers).devices)) := by
    intro before s o
    rw [← mem_identityObservations, ← ArpSession.identityObservations_collect,
      ← runEnrichments_addresses py (discoverDevices providers) before]
    rfl
  constructor
  · rintro ⟨hmacs, -⟩ s hs
    obtain ⟨before, after, hplaces⟩ := List.append_of_mem hs
    rw [← ArpSession.macs_iff]
    intro o ho
    obtain ⟨host, -, hhost⟩ := List.mem_flatMap.mp ho
    obtain ⟨rows, -, key, mac, -, -, rfl⟩ := (ArpSession.mem_hostIdentities py s _ host o).mp hhost
    exact hmacs before s after hplaces _ ((hcollected before s _).mpr ho) rfl
  · intro hsix
    constructor
    · rintro before s after rfl o ho -
      have hs := hsix s (List.mem_append_right _ List.mem_cons_self)
      exact (ArpSession.macs_iff py s _).mpr hs o ((hcollected before s o).mp ho)
    · intro fewer hfewer
      have hstart : SameIdentities (discoverDevices providers) (discoverDevices providers) := ⟨rfl, List.Perm.refl _⟩
      refine (hstart.run hfewer ?_).resolve
      rintro p hp s rfl
      exact hsix s hp

/-- The switch of the sample scan, with the rows of its ARP table. -/
def sampleArpAnswer (rows : List ArpRow) : Enrichment :=
  .arp
    { runId := str "run-002"
      observedAt := (sampleProvenance "ipNetToPhysicalTable").observedAt
      walks := fun host => if host = str "192.0.2.1" then some ⟨[some rows], [some []]⟩ else none }

/-- An incomplete entry has no octets. Its MAC address is the empty text, and the identity conflicts. -/
theorem incomplete_entry_conflicts :
    Enrichment.Adds (sampleArpAnswer []) (sampleArpAnswer [(sampleRow [], some [])]) ∧
      (∃ o, .identity o ∈ ((sampleArpAnswer [(sampleRow [], some [])]).snmp cpython).collected
        (discoverDevices [sampleScan]) ∧ o.propertyName = macAddressProperty ∧ ¬ IsMac o.value) ∧
      (IdentityResolver.resolve (discover (fun _ => .unknown) [sampleScan]
        [((sampleArpAnswer []).snmp cpython).provider]).observations).map (·.state) = [.weak] ∧
      (IdentityResolver.resolve (discover (fun _ => .unknown) [sampleScan]
        [((sampleArpAnswer [(sampleRow [], some [])]).snmp cpython).provider]).observations).map (·.state) =
          [.conflicting] := by
  refine ⟨?_, ?_, by decide +kernel, by decide +kernel⟩
  · apply Enrichment.Adds.arp
    refine ⟨rfl, rfl, fun host => ?_⟩
    unfold ArpSession.rows
    by_cases hhost : host = str "192.0.2.1"
    · simp only [hhost, if_true]
      exact Option.Rel.some (AddsRows.add _ _ (by decide) AddsRows.nil)
    · simp only [hhost, if_false]
      exact Option.Rel.none
  · refine ⟨⟨str "192.0.2.10", macAddressProperty, [], ⟨str "snmp", SnmpArpNeighborProvider.collectionMethod,
      (sampleProvenance "ipNetToPhysicalTable").observedAt, str "run-002"⟩⟩, by decide +kernel, rfl, ?_⟩
    intro hmac
    exact absurd ((isMac_formatMac []).mp hmac) (by decide)

end NetworkMapper
