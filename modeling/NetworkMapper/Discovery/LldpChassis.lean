import NetworkMapper.Discovery.NeighborProviders
import NetworkMapper.Discovery.NeighborTables
import NetworkMapper.Discovery.RowKeys
import NetworkMapper.Python.Ipv4Text

/-!
# What a chassis id resolves to

The client turns the bytes into a text, and the provider reads the text again. A text
that the provider takes for an address or for a MAC address was written as one.
-/

open Python

namespace NetworkMapper

namespace PysnmpClient

/-! ## The client -/

/-- The bytes have a length that their subtype allows. -/
def ChassisWellFormed (subtype : Int) (raw : Bytes) : Prop :=
  (subtype = lldpChassisIdSubtypeMacAddress → raw.length = 6) ∧
    (subtype = lldpChassisIdSubtypeNetworkAddress →
      raw ≠ [] ∧ ∀ addressOctets, raw = byte 1 :: addressOctets → addressOctets.length = 4)

theorem byte_eq_one (b : Byte) : (b.val : Int) = ianaIpv4AddressFamily ↔ b = byte 1 := by
  unfold ianaIpv4AddressFamily
  rw [Fin.ext_iff, byte_val 1 (by omega)]
  omega

theorem formatLldpChassisId_isSome (subtype : Int) (raw : Bytes) :
    (formatLldpChassisId subtype raw).isSome = true ↔ ChassisWellFormed subtype raw := by
  unfold formatLldpChassisId ChassisWellFormed
  by_cases hmac : subtype = lldpChassisIdSubtypeMacAddress
  · subst hmac
    rw [if_pos rfl]
    simp [lldpChassisIdSubtypeMacAddress, lldpChassisIdSubtypeNetworkAddress]
  by_cases hnetwork : subtype = lldpChassisIdSubtypeNetworkAddress
  · subst hnetwork
    rw [if_neg hmac, if_pos rfl]
    simp only [hmac, false_implies, true_and, true_implies]
    cases raw with
    | nil => simp
    | cons family addressOctets =>
      simp only [byte_eq_one, List.cons.injEq, and_imp, ne_eq, reduceCtorEq, not_false_eq_true, true_and]
      split
      · rename_i hfamily
        simp [hfamily]
      · rename_i hfamily
        simp [hfamily]
  · simp [hmac, hnetwork]

/-! ## Texts that are addresses -/

theorem ipv4Address_joinNumbers (a b c d : Byte) :
    ipv4Address (joinNumbers (ch '.') ([a, b, c, d].map fun octet => (octet.val : Int))) =
      some (((256 * a.val + b.val) * 256 + c.val) * 256 + d.val) := by
  have hsplit := splitOn_joinNumbers [a.val, b.val, c.val, d.val] (by simp)
  unfold ipv4Address
  simp only [List.map_cons, List.map_nil, Int.ofNat_eq_natCast] at hsplit ⊢
  rw [hsplit]
  simp [parseOctet_natRepr]

theorem hexText_no_dot (raw : Bytes) : ch '.' ∉ hexText raw := by
  have hdigit : ∀ n < 16, ch '.' ≠ hexDigit n := by decide
  unfold hexText
  rw [List.mem_flatMap]
  rintro ⟨b, -, h⟩
  simp only [List.mem_cons, List.not_mem_nil, or_false] at h
  rcases h with h | h
  · exact hdigit _ (by omega) h
  · exact hdigit _ (by omega) h

theorem ipv4Address_hexText (raw : Bytes) : ipv4Address (hexText raw) = none := by
  unfold ipv4Address
  rw [List.splitOn_eq_singleton (hexText_no_dot raw)]

theorem lldpEntry_isSome (columns : LldpColumns) (key : LldpKey) (subtypeValue : Option Int) (raw : Bytes) :
    (lldpEntry columns key subtypeValue raw).isSome = true ↔ ChassisWellFormed (asInt (some subtypeValue)) raw := by
  unfold lldpEntry
  rw [Option.isSome_map, formatLldpChassisId_isSome]

theorem formatLldpChassisId_mac (raw : Bytes) (chassisId : Str) :
    formatLldpChassisId lldpChassisIdSubtypeMacAddress raw = some chassisId ↔
      ∃ mac : Octets 6, mac.bytes = raw ∧ formatMac raw = chassisId := by
  unfold formatLldpChassisId
  rw [if_pos rfl]
  constructor
  · intro h
    split at h
    · rename_i hlen
      exact ⟨⟨raw, hlen⟩, rfl, Option.some.inj h⟩
    · cases h
  · rintro ⟨mac, rfl, rfl⟩
    rw [if_pos mac.length_eq]

theorem formatLldpChassisId_ipv4 (raw : Bytes) (chassisId : Str) :
    formatLldpChassisId lldpChassisIdSubtypeNetworkAddress raw = some chassisId ∧
        (ipv4Address chassisId).isSome = true ↔
      ∃ a b c d, raw = [byte 1, a, b, c, d] ∧ chassisId = address ⟨[a, b, c, d], rfl⟩ := by
  -- The text is an address only where the bytes are one.
  unfold formatLldpChassisId
  rw [if_neg (by decide), if_pos rfl]
  constructor
  · rintro ⟨h, hipv4⟩
    cases raw with
    | nil => cases h
    | cons family addressOctets =>
      simp only [byte_eq_one] at h
      split at h
      · rename_i hfamily
        subst hfamily
        split at h
        · cases h
        · rename_i hlen
          obtain ⟨a, b, c, d, rfl⟩ := List.length_eq_four.mp (not_not.mp hlen)
          exact ⟨a, b, c, d, rfl, (Option.some.inj h).symm⟩
      · rw [← Option.some.inj h, ipv4Address_hexText] at hipv4
        cases hipv4
  · rintro ⟨a, b, c, d, rfl, rfl⟩
    refine ⟨rfl, ?_⟩
    rw [address, Octets.arcs, List.map_map]
    exact Option.isSome_iff_exists.mpr ⟨_, ipv4Address_joinNumbers a b c d⟩

end PysnmpClient

/-! ## The provider -/

namespace SnmpLldpNeighborProvider

open PysnmpClient

/-- What a chassis names, and the method that the provider gives for it. -/
inductive ChassisNames (index : MacIndex) : Int → Bytes → Str × Str → Prop where
  | networkAddress (a b c d : Byte) :
      ChassisNames index lldpChassisIdSubtypeNetworkAddress [byte 1, a, b, c, d]
        (address ⟨[a, b, c, d], rfl⟩, methodChassisNetworkAddress)
  | macAddress (mac : Octets 6) (subject : Str) (h : index.subjects (formatMac mac.bytes) = {subject}) :
      ChassisNames index lldpChassisIdSubtypeMacAddress mac.bytes (subject, methodChassisMac)

section Entry

variable {index : MacIndex} {entry : SnmpLldpNeighborEntry} {raw : Bytes}

/-- The entry has the chassis id that the client makes of these bytes. -/
def Decoded (entry : SnmpLldpNeighborEntry) (raw : Bytes) : Prop :=
  formatLldpChassisId entry.chassisIdSubtype raw = some entry.chassisId

theorem resolved_management (h : entry.managementAddresses ≠ []) :
    resolveRelatedSubjects entry index = entry.managementAddresses.map fun a => (a, methodManagementAddress) := by
  unfold resolveRelatedSubjects
  rw [if_pos h]

theorem mem_resolved_network (hnone : entry.managementAddresses = [])
    (hsubtype : entry.chassisIdSubtype = chassisIdSubtypeNetworkAddress) (p : Str × Str) :
    p ∈ resolveRelatedSubjects entry index ↔
      (ipv4Address entry.chassisId).isSome = true ∧ p = (entry.chassisId, methodChassisNetworkAddress) := by
  unfold resolveRelatedSubjects
  rw [if_neg (not_not.mpr hnone), if_pos hsubtype]
  cases ipv4Address entry.chassisId with
  | none => simp
  | some value => simp

theorem mem_resolved_mac (hnone : entry.managementAddresses = [])
    (hsubtype : entry.chassisIdSubtype = chassisIdSubtypeMacAddress) (p : Str × Str) :
    p ∈ resolveRelatedSubjects entry index ↔
      ∃ subject, index.subjects entry.chassisId = {subject} ∧ p = (subject, methodChassisMac) := by
  unfold resolveRelatedSubjects
  rw [if_neg (not_not.mpr hnone), hsubtype, if_neg (by decide), if_pos rfl]
  simp only [← theOnly_eq_some]
  cases theOnly (index.subjects entry.chassisId) with
  | none => simp
  | some subject => simp

theorem resolved_other (hnone : entry.managementAddresses = [])
    (hnetwork : entry.chassisIdSubtype ≠ chassisIdSubtypeNetworkAddress)
    (hmac : entry.chassisIdSubtype ≠ chassisIdSubtypeMacAddress) : resolveRelatedSubjects entry index = [] := by
  unfold resolveRelatedSubjects
  rw [if_neg (not_not.mpr hnone), if_neg hnetwork, if_neg hmac]

theorem resolved_length (hnone : entry.managementAddresses = []) : (resolveRelatedSubjects entry index).length ≤ 1 := by
  unfold resolveRelatedSubjects
  rw [if_neg (not_not.mpr hnone)]
  repeat' split
  all_goals simp

theorem resolved_eq_singleton (hnone : entry.managementAddresses = []) (p : Str × Str) :
    resolveRelatedSubjects entry index = [p] ↔ p ∈ resolveRelatedSubjects entry index := by
  constructor
  · intro h
    rw [h]
    exact List.mem_singleton_self p
  · intro h
    have hlen := le_antisymm (resolved_length hnone) (List.length_pos_of_mem h)
    obtain ⟨q, hq⟩ := List.length_eq_one_iff.mp hlen
    rw [hq, List.mem_singleton] at h
    rw [hq, h]

theorem Decoded.mem_resolved (h : Decoded entry raw) (hnone : entry.managementAddresses = []) (p : Str × Str) :
    p ∈ resolveRelatedSubjects entry index ↔ ChassisNames index entry.chassisIdSubtype raw p := by
  unfold Decoded at h
  constructor
  · intro hp
    by_cases hnetwork : entry.chassisIdSubtype = chassisIdSubtypeNetworkAddress
    · rw [mem_resolved_network hnone hnetwork] at hp
      rw [hnetwork] at h ⊢
      obtain ⟨a, b, c, d, rfl, hid⟩ := (formatLldpChassisId_ipv4 raw _).mp ⟨h, hp.1⟩
      rw [hp.2, hid]
      exact ChassisNames.networkAddress a b c d
    · by_cases hmac : entry.chassisIdSubtype = chassisIdSubtypeMacAddress
      · obtain ⟨subject, hsubject, rfl⟩ := (mem_resolved_mac hnone hmac p).mp hp
        rw [hmac] at h ⊢
        obtain ⟨mac, rfl, hid⟩ := (formatLldpChassisId_mac raw _).mp h
        exact ChassisNames.macAddress mac subject (hid ▸ hsubject)
      · rw [resolved_other hnone hnetwork hmac] at hp
        cases hp
  · intro hnames
    generalize hsubtype : entry.chassisIdSubtype = subtype at h hnames
    cases hnames with
    | networkAddress a b c d =>
      obtain ⟨hdecoded, hipv4⟩ := (formatLldpChassisId_ipv4 _ _).mpr ⟨a, b, c, d, rfl, rfl⟩
      have hid := Option.some.inj (h.symm.trans hdecoded)
      rw [mem_resolved_network hnone hsubtype, hid]
      exact ⟨hipv4, rfl⟩
    | macAddress mac subject hsubject =>
      obtain ⟨mac', -, hid⟩ := (formatLldpChassisId_mac _ _).mp h
      rw [mem_resolved_mac hnone hsubtype]
      exact ⟨subject, hid ▸ hsubject, rfl⟩

end Entry

/-! ## The relationships of a row -/

section Row

variable (session : SnmpSession (SnmpTableResult SnmpLldpNeighborEntry)) (index : MacIndex) (discoveredIps : List Str)
  (ipAddress : Str)

theorem hostname_relationships (entry : SnmpLldpNeighborEntry) (relatedSubject method : Str) :
    relationshipObservations (hostnameObservations session discoveredIps entry relatedSubject method) = [] := by
  unfold hostnameObservations
  repeat' split
  all_goals rfl

theorem relationships_collect (entries : List SnmpLldpNeighborEntry) :
    relationshipObservations (collect session index discoveredIps ipAddress entries) =
      entries.flatMap fun entry =>
        (resolveRelatedSubjects entry index).map fun p => relationshipObservation session ipAddress p.1 p.2 := by
  have hpair : ∀ entry (p : Str × Str), relationshipObservations
      (.relationship (relationshipObservation session ipAddress p.1 p.2) ::
        hostnameObservations session discoveredIps entry p.1 p.2) =
      [relationshipObservation session ipAddress p.1 p.2] := by
    intro entry p
    have hrest := hostname_relationships session discoveredIps entry p.1 p.2
    unfold relationshipObservations at hrest ⊢
    rw [List.filterMap_cons, hrest]
    rfl
  unfold relationshipObservations at hpair ⊢
  simp only [collect, List.filterMap_flatMap, hpair, List.map_eq_flatMap]

theorem lldpEntry_some {columns : LldpColumns} {key : LldpKey} {subtypeValue : Option Int} {raw : Bytes}
    {entry : SnmpLldpNeighborEntry} (h : lldpEntry columns key subtypeValue raw = some entry) :
    entry.chassisIdSubtype = asInt (some subtypeValue) ∧
      entry.managementAddresses = (columns.managementAddressesByKey.lookup key).getD [] ∧ Decoded entry raw := by
  unfold lldpEntry at h
  obtain ⟨chassisId, hid, rfl⟩ := Option.map_eq_some_iff.mp h
  exact ⟨rfl, rfl, hid⟩

/-- What a host reports of one row, as the client decodes it. -/
def rowRelationships (columns : LldpColumns) (key : LldpKey) (subtypeValue : Option Int) (raw : Bytes) :
    List RelationshipObservation :=
  relationshipObservations
    (collect session index discoveredIps ipAddress (lldpEntry columns key subtypeValue raw).toList)

theorem rowRelationships_resolves (columns : LldpColumns) (key : LldpKey) (subtypeValue : Option Int) (raw : Bytes) :
    let subtype := asInt (some subtypeValue)
    let addresses := (columns.managementAddressesByKey.lookup key).getD []
    let reported := rowRelationships session index discoveredIps ipAddress columns key subtypeValue raw
    (¬ ChassisWellFormed subtype raw → reported = []) ∧
    (ChassisWellFormed subtype raw → addresses ≠ [] →
      reported = addresses.map fun a => relationshipObservation session ipAddress a methodManagementAddress) ∧
    (ChassisWellFormed subtype raw → addresses = [] →
      (∀ p, ChassisNames index subtype raw p → reported = [relationshipObservation session ipAddress p.1 p.2]) ∧
      ((∀ p, ¬ ChassisNames index subtype raw p) → reported = [])) ∧
    ∀ o ∈ reported, o.provenance.collectionMethod ≠ methodManagementAddress →
      ChassisNames index subtype raw (o.relatedSubject, o.provenance.collectionMethod) := by
  intro subtype addresses reported
  have hwellFormed := lldpEntry_isSome columns key subtypeValue raw
  have hreported : reported = _ := relationships_collect session index discoveredIps ipAddress _
  rw [← hwellFormed, hreported]
  cases hentry : lldpEntry columns key subtypeValue raw with
  | none => simp
  | some entry =>
    obtain ⟨hsubtype, haddresses, hdecoded⟩ :
      entry.chassisIdSubtype = subtype ∧ entry.managementAddresses = addresses ∧ _ := lldpEntry_some hentry
    rw [← hsubtype, ← haddresses]
    simp only [Option.isSome_some, not_true_eq_false, false_implies, true_implies, true_and, Option.toList_some,
      List.flatMap_singleton]
    refine ⟨?_, fun hnone => ⟨?_, ?_⟩, ?_⟩
    · intro hsome
      rw [resolved_management hsome, List.map_map]
      rfl
    · intro p hp
      rw [(resolved_eq_singleton hnone p).mpr ((hdecoded.mem_resolved hnone p).mpr hp), List.map_singleton]
    · intro hnothing
      rw [List.map_eq_nil_iff, List.eq_nil_iff_forall_not_mem]
      intro p hp
      exact hnothing p ((hdecoded.mem_resolved hnone p).mp hp)
    · rw [List.forall_mem_map]
      intro p hp hmethod
      by_cases hnone : entry.managementAddresses = []
      · exact (hdecoded.mem_resolved hnone p).mp hp
      · rw [resolved_management hnone] at hp
        obtain ⟨a, -, rfl⟩ := List.mem_map.mp hp
        exact absurd rfl hmethod

end Row

end SnmpLldpNeighborProvider

end NetworkMapper
