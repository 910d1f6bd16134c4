import NetworkMapper.Discovery.LldpChassis
import Mathlib.Data.Set.List

/-!
# One spelling of a MAC address

The ARP table formats octets, the forwarding table reads its index back from decimal
arcs, and LLDP formats the octets of a chassis. All three look each other up by text.
-/

open Python

namespace NetworkMapper

open PysnmpClient

/-! ## Spellings -/

theorem parseBridgeFdbRow_arcs (py : Interpreter) (mac : Octets 6) (column oid : Oid)
    (h : oid.arcs = column.arcs ++ mac.arcs) :
    parseBridgeFdbRow py oid.render column.render = some (formatMac mac.bytes) := by
  have hreads : ∀ n : Nat, n ∈ fdbFormat.encode mac ++ [] → py.reads n := by
    intro n hn
    rw [List.append_nil] at hn
    exact octet_reads py n (mac.arcs_lt n hn)
  rw [parseBridgeFdbRow_accepts]
  exact ⟨mac, [], by rw [List.append_nil, h]; rfl, Or.inr rfl, hreads, rfl⟩

/-- A subject, with the octets of a MAC address that was reported for it. -/
structure MacReport where
  subject : Str
  mac : Bytes
  provenance : ObservationProvenance

/-- The observation of a report, with the address spelled by `_format_mac`. -/
def MacReport.observation (report : MacReport) : IdentityObservation :=
  ⟨report.subject, macAddressProperty, formatMac report.mac, report.provenance⟩

/-- An observation. Where it is of a MAC address, one of the paths has formatted it. -/
inductive SpelledObservation where
  | mac (report : MacReport)
  | identity (o : IdentityObservation) (h : o.propertyName ≠ macAddressProperty)
  | relationship (o : RelationshipObservation)

/-- The observation as a provider hands it on. -/
def SpelledObservation.observation : SpelledObservation → Observation
  | .mac report => .identity report.observation
  | .identity o _ => .identity o
  | .relationship o => .relationship o

/-- Some report gives these octets to the subject. -/
def Reports (spelled : List SpelledObservation) (mac : Bytes) (subject : Str) : Prop :=
  ∃ provenance, .mac ⟨subject, mac, provenance⟩ ∈ spelled

/-- The subject, and no other, reported these octets. -/
def OnlyReporter (spelled : List SpelledObservation) (mac : Bytes) (subject : Str) : Prop :=
  Reports spelled mac subject ∧ ∀ other, Reports spelled mac other → other = subject

theorem arp_macAddress (py : Interpreter) (walks : Option ArpWalks) (entry : SnmpArpTableEntry)
    (h : entry ∈ (getArpTable py walks).entries) : ∃ mac, entry.macAddress = formatMac mac := by
  unfold getArpTable at h
  split at h
  · cases h
  · split at h
    · cases h
    · obtain ⟨⟨key, mac⟩, -, rfl⟩ := List.mem_map.mp h
      exact ⟨mac, rfl⟩

theorem arp_spelled (session : SnmpSession (SnmpTableResult SnmpArpTableEntry)) (discoveredIps : List Str)
    (ipAddress : Str) (py : Interpreter) (walks : Option ArpWalks) :
    ∃ spelled : List SpelledObservation, spelled.map SpelledObservation.observation =
      SnmpArpNeighborProvider.collect session discoveredIps ipAddress (getArpTable py walks).entries := by
  rw [← Set.mem_range, Set.range_list_map]
  intro o ho
  rcases List.mem_append.mp ho with ho | ho
  · obtain ⟨entry, -, rfl⟩ := List.mem_map.mp ho
    exact ⟨.relationship _, rfl⟩
  · obtain ⟨entry, hentry, ho⟩ := List.mem_filterMap.mp ho
    obtain ⟨mac, hmac⟩ := arp_macAddress py walks entry hentry
    split at ho
    · cases ho
    · refine ⟨.mac ⟨entry.ipAddress, mac, session.provenance SnmpArpNeighborProvider.collectionMethod⟩, ?_⟩
      rw [← Option.some.inj ho, hmac]
      rfl

/-- The index holds the octets that were reported, each with exactly the subjects that reported it. -/
structure Indexes (spelled : List SpelledObservation) (index : MacIndex) : Prop where
  keys_nodup : (index.map Prod.fst).Nodup
  mem_keys : ∀ text, text ∈ index.map Prod.fst ↔ ∃ mac s, formatMac mac = text ∧ Reports spelled mac s
  members : ∀ mac subjects, (formatMac mac, subjects) ∈ index → ∀ s, s ∈ subjects ↔ Reports spelled mac s

section Index

variable (spelled : List SpelledObservation)

/-- The index over observations whose MAC addresses were all spelled by the formatter. -/
def spelledIndex : MacIndex := buildMacIndex (spelled.map SpelledObservation.observation)

theorem claims_spelled (text subject : Str) :
    Claims (spelled.map SpelledObservation.observation) text subject ↔
      ∃ mac, formatMac mac = text ∧ Reports spelled mac subject := by
  unfold Claims Reports
  constructor
  · rintro ⟨o, ho, hproperty, rfl, rfl⟩
    obtain ⟨x, hx, heq⟩ := List.mem_map.mp ho
    cases x with
    | mac report =>
      obtain rfl : report.observation = o := Observation.identity.inj heq
      exact ⟨report.mac, rfl, report.provenance, hx⟩
    | identity o' h =>
      obtain rfl : o' = o := Observation.identity.inj heq
      exact absurd hproperty h
    | relationship o' => cases heq
  · rintro ⟨mac, rfl, provenance, hmem⟩
    exact ⟨_, List.mem_map.mpr ⟨_, hmem, rfl⟩, rfl, rfl, rfl⟩

theorem claims_formatMac (mac : Bytes) (subject : Str) :
    Claims (spelled.map SpelledObservation.observation) (formatMac mac) subject ↔ Reports spelled mac subject := by
  -- A text stands for the octets it was formatted from, and for no others.
  rw [claims_spelled]
  constructor
  · rintro ⟨mac', hmac, h⟩
    exact formatMac_injective hmac ▸ h
  · intro h
    exact ⟨mac, rfl, h⟩

theorem spelledIndex_subjects (mac : Bytes) (subject : Str) :
    (spelledIndex spelled).subjects (formatMac mac) = {subject} ↔ OnlyReporter spelled mac subject := by
  unfold spelledIndex OnlyReporter
  simp only [Finset.eq_singleton_iff_unique_mem, mem_subjects, claims_formatMac]

end Index

/-! ## Lookups -/

theorem spelledIndex_indexes (spelled : List SpelledObservation) : Indexes spelled (spelledIndex spelled) where
  keys_nodup := buildMacIndex_keys_nodup _
  mem_keys text := by
    unfold spelledIndex
    rw [mem_buildMacIndex_keys]
    simp only [claims_spelled]
    constructor
    · rintro ⟨s, mac, hmac, h⟩
      exact ⟨mac, s, hmac, h⟩
    · rintro ⟨mac, s, hmac, h⟩
      exact ⟨s, mac, hmac, h⟩
  members mac subjects h s := by
    rw [((mem_buildMacIndex _ _).mp h).2, claims_formatMac]

theorem spelledIndex_perm {spelled spelled' : List SpelledObservation} (h : spelled'.Perm spelled)
    (g : Str × Finset Str) : g ∈ spelledIndex spelled' ↔ g ∈ spelledIndex spelled := by
  have hclaims : ∀ mac subject, Claims (spelled'.map SpelledObservation.observation) mac subject ↔
      Claims (spelled.map SpelledObservation.observation) mac subject := by
    intro mac subject
    have hperm := h.map SpelledObservation.observation
    constructor
    · exact Claims.of_subset hperm.subset
    · exact Claims.of_subset hperm.symm.subset
  unfold spelledIndex
  simp only [mem_buildMacIndex, hclaims]

/-- The three paths spell alike, and the index is asked with that spelling. -/
theorem mac_spellings_agree (py : Interpreter) (spelled : List SpelledObservation) :
    (∀ (mac : Octets 6) (column oid : Oid), oid.arcs = column.arcs ++ mac.arcs →
      parseBridgeFdbRow py oid.render column.render = some (formatMac mac.bytes) ∧
      formatLldpChassisId lldpChassisIdSubtypeMacAddress mac.bytes = some (formatMac mac.bytes)) ∧
    Function.Injective formatMac ∧
    Indexes spelled (spelledIndex spelled) ∧
    (∀ spelled' : List SpelledObservation, spelled'.Perm spelled →
      ∀ g, g ∈ spelledIndex spelled' ↔ g ∈ spelledIndex spelled) ∧
    (∀ (mac : Octets 6) (column oid : Oid) (entry : SnmpBridgeFdbEntry), oid.arcs = column.arcs ++ mac.arcs →
      parseBridgeFdbRow py oid.render column.render = some entry.macAddress →
      entry.status = some SnmpBridgeFdbProvider.qualifyingStatus → ∀ s,
        (SnmpBridgeFdbProvider.resolveRelatedSubject entry (spelledIndex spelled) = some s ↔
          OnlyReporter spelled mac.bytes s)) ∧
    ∀ (mac : Octets 6) (entry : SnmpLldpNeighborEntry),
      entry.chassisIdSubtype = lldpChassisIdSubtypeMacAddress →
      formatLldpChassisId lldpChassisIdSubtypeMacAddress mac.bytes = some entry.chassisId →
      entry.managementAddresses = [] → ∀ s,
        (SnmpLldpNeighborProvider.resolveRelatedSubjects entry (spelledIndex spelled) =
          [(s, SnmpLldpNeighborProvider.methodChassisMac)] ↔ OnlyReporter spelled mac.bytes s) := by
  have hspell := fun mac : Octets 6 => (formatLldpChassisId_mac mac.bytes _).mpr ⟨mac, rfl, rfl⟩
  refine ⟨?_, formatMac_injective, spelledIndex_indexes spelled, fun _ => spelledIndex_perm, ?_, ?_⟩
  · intro mac column oid hoid
    exact ⟨parseBridgeFdbRow_arcs py mac column oid hoid, hspell mac⟩
  · intro mac column oid entry hoid hparse hstatus s
    have hmac := Option.some.inj ((parseBridgeFdbRow_arcs py mac column oid hoid).symm.trans hparse)
    unfold SnmpBridgeFdbProvider.resolveRelatedSubject
    rw [if_neg (not_not.mpr hstatus), theOnly_eq_some, ← hmac, spelledIndex_subjects]
  · intro mac entry hsubtype hid hnone s
    have hmac := Option.some.inj ((hspell mac).symm.trans hid)
    rw [SnmpLldpNeighborProvider.resolved_eq_singleton hnone,
      SnmpLldpNeighborProvider.mem_resolved_mac hnone hsubtype, ← spelledIndex_subjects, hmac]
    constructor
    · rintro ⟨subject, hsubject, heq⟩
      rw [hsubject, (Prod.mk.inj heq).1]
    · intro hsubject
      exact ⟨s, hsubject, rfl⟩

end NetworkMapper
