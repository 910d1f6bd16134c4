import NetworkMapper.Discovery.LldpChassis
import Mathlib.Data.List.Forall2

/-!
# Columns joined by key

A table is put together from the walks of its columns. Some columns the table cannot do
without, and the others fail alone.
-/

open Python

namespace NetworkMapper

open PysnmpClient

/-! ## One column -/

section Column

variable {κ value : Type} (parse : Str → Str → Option κ) (column : Str) (responses : List (WalkResponse value))

/-- The walk ended in an error. -/
def Failed (responses : List (WalkResponse value)) : Prop := none ∈ responses

/-- Some row of the walk has the value, and the key in its name. -/
def HasRow (k : κ) (v : value) : Prop :=
  ∃ rows, some rows ∈ responses ∧ ∃ row ∈ rows, row.2 = some v ∧ parse row.1.render column = some k

/-- Some answered row of the column has the key. -/
def Accepted (k : κ) : Prop := ∃ v, HasRow parse column responses k v

/-- What a column has for a key: the value of the last row, and nothing after an error. -/
def columnValue [DecidableEq κ] (k : κ) : Option value :=
  (responses.mapM (m := Option) id).bind fun rows =>
    (Dict.lastWith Prod.fst k (rows.flatten.filterMap (acceptedRow parse column))).map Prod.snd

variable {parse column responses}

theorem allRows_eq_none : responses.mapM (m := Option) id = none ↔ Failed responses := by
  unfold Failed
  induction responses with
  | nil => simp
  | cons response responses ih =>
    rw [List.mem_cons, ← ih, List.mapM_cons]
    cases response with
    | none => simp
    | some rows => cases responses.mapM (m := Option) id <;> simp

theorem allRows_eq_some {rows : List (List (Oid × Option value))} (h : responses.mapM (m := Option) id = some rows) :
    responses = rows.map some := by
  induction responses generalizing rows with
  | nil =>
    obtain rfl := Option.some.inj h
    rfl
  | cons response responses ih =>
    rw [List.mapM_cons] at h
    obtain ⟨first, hfirst, h⟩ := Option.bind_eq_some_iff.mp h
    obtain ⟨rest, hrest, h⟩ := Option.bind_eq_some_iff.mp h
    obtain rfl := Option.some.inj h
    obtain rfl : response = some first := hfirst
    rw [ih hrest, List.map_cons]

theorem mem_acceptedRows {rows : List (List (Oid × Option value))} (h : responses.mapM (m := Option) id = some rows)
    (k : κ) (v : value) :
    (k, v) ∈ rows.flatten.filterMap (acceptedRow parse column) ↔ HasRow parse column responses k v := by
  unfold HasRow
  rw [allRows_eq_some h]
  simp only [List.mem_map, List.mem_filterMap, List.mem_flatten, Option.some.injEq, exists_eq_right,
    acceptedRow_eq_some]
  constructor
  · rintro ⟨row, ⟨rows', hrows', hrow⟩, haccepted⟩
    exact ⟨rows', hrows', row, hrow, haccepted⟩
  · rintro ⟨rows', hrows', row, hrow, haccepted⟩
    exact ⟨row, ⟨rows', hrows', hrow⟩, haccepted⟩

theorem mem_acceptedKeys {rows : List (List (Oid × Option value))} (h : responses.mapM (m := Option) id = some rows)
    (k : κ) :
    k ∈ (rows.flatten.filterMap (acceptedRow parse column)).map Prod.fst ↔ Accepted parse column responses k := by
  unfold Accepted
  simp only [List.mem_map, Prod.exists, exists_and_right, exists_eq_right, mem_acceptedRows h]

variable [DecidableEq κ]

variable (parse column responses) in
theorem walkColumn_cases :
    (Failed responses ∧ walkColumn parse column responses = none) ∨
      (¬ Failed responses ∧ ∃ items, walkColumn parse column responses = some items) := by
  rw [← allRows_eq_none]
  unfold walkColumn
  cases responses.mapM (m := Option) id <;> simp

theorem walkColumn_items {items : List (κ × value)} (h : walkColumn parse column responses = some items) :
    (items.map Prod.fst).Nodup ∧ (∀ k, k ∈ items.map Prod.fst ↔ Accepted parse column responses k) ∧
      ∀ k v, (k, v) ∈ items ↔ columnValue parse column responses k = some v := by
  unfold walkColumn at h
  obtain ⟨rows, hrows, h⟩ := Option.bind_eq_some_iff.mp h
  obtain rfl := Option.some.inj h
  have hkeyed := (Dict.keyed_empty Prod.fst).setAll (rows.flatten.filterMap (acceptedRow parse column))
  refine ⟨?_, fun k => ?_, fun k v => ?_⟩
  · rw [hkeyed.keys_eq]
    exact Dict.keys_nodup _
  · rw [hkeyed.keys_eq, Dict.mem_keys_setAll, ← mem_acceptedKeys hrows]
    simp [Dict.empty, Dict.keys]
  · rw [Dict.mem_setAll_values]
    unfold columnValue
    rw [hrows, Option.bind_some, Dict.lastWith_snd]

theorem columnValue_row {k : κ} {v : value} (h : columnValue parse column responses k = some v) :
    ¬ Failed responses ∧ HasRow parse column responses k v := by
  obtain ⟨rows, hrows, hlast⟩ := Option.bind_eq_some_iff.mp h
  have hmem := Dict.lastWith_mem ((Dict.lastWith_snd _ _ _).mp hlast)
  refine ⟨?_, (mem_acceptedRows hrows k v).mp hmem⟩
  rw [← allRows_eq_none, hrows]
  simp

theorem walkColumn_failed (h : Failed responses) : walkColumn parse column responses = none :=
  ((walkColumn_cases parse column responses).resolve_right fun hno => hno.1 h).2

theorem lookup_walkColumn [BEq κ] [LawfulBEq κ] (k : κ) :
    ((walkColumn parse column responses).getD []).lookup k = columnValue parse column responses k := by
  rcases walkColumn_cases parse column responses with ⟨hfailed, hwalk⟩ | ⟨-, items, hwalk⟩
  · rw [hwalk, Option.getD_none, List.lookup_nil]
    unfold columnValue
    rw [allRows_eq_none.mpr hfailed, Option.bind_none]
  · obtain ⟨hn, -, hvalues⟩ := walkColumn_items hwalk
    rw [hwalk, Option.getD_some]
    refine Option.ext fun v => ?_
    rw [← hvalues]
    constructor
    · exact mem_of_lookup items k v
    · exact lookup_of_mem items hn k v

end Column

/-! ## Tables -/

/-- The result is a join: one entry for each key that is accepted, and each entry made of what the columns have
for its key. -/
structure Joins {κ entry : Type} (result : SnmpTableResult entry) (failed : Prop) (accepted : κ → Prop)
    (entryAt : κ → entry → Prop) : Prop where
  responded : result.responded = false ↔ failed
  entries : ¬ failed → ∃ keys : List κ, keys.Nodup ∧ (∀ k, k ∈ keys ↔ accepted k) ∧
    List.Forall₂ entryAt keys result.entries

/-- The same answer with its entries changed. -/
def SnmpTableResult.mapEntries {entry : Type} (f : entry → entry) (result : SnmpTableResult entry) :
    SnmpTableResult entry :=
  { result with entries := result.entries.map f }

/-- An error in the column that `set` puts there takes the column's field out of every entry, and does no more. -/
def Degrades {walks value entry : Type} (get : walks → SnmpTableResult entry)
    (set : walks → List (WalkResponse value) → walks) (absent : entry → entry) : Prop :=
  ∀ w responses, Failed responses → get (set w responses) = (get w).mapEntries absent

section Items

variable {κ value entry : Type} {parse : Str → Str → Option κ} {column : Str} {responses : List (WalkResponse value)}

theorem forall₂_filterMap (items : List (κ × value)) (build : κ → value → Option entry) (R : κ → entry → Prop)
    (h : ∀ item ∈ items, ∀ e, build item.1 item.2 = some e → R item.1 e) :
    List.Forall₂ R ((items.filter fun item => (build item.1 item.2).isSome).map Prod.fst)
      (items.filterMap fun item => build item.1 item.2) := by
  induction items with
  | nil => exact .nil
  | cons item items ih =>
    have hrest := ih fun x hx => h x (List.mem_cons_of_mem _ hx)
    rw [List.filter_cons, List.filterMap_cons]
    cases hbuild : build item.1 item.2 with
    | none => exact hrest
    | some e => exact .cons (h item List.mem_cons_self e hbuild) hrest

variable [DecidableEq κ]

/-- Entries that are built from the items of a column stand for its keys. -/
theorem joins_of_items {items : List (κ × value)} (hwalk : walkColumn parse column responses = some items)
    (build : κ → value → Option entry) :
    ∃ keys : List κ, keys.Nodup ∧
      (∀ k, k ∈ keys ↔ ∃ v, columnValue parse column responses k = some v ∧ (build k v).isSome = true) ∧
      List.Forall₂ (fun k e => ∃ v, columnValue parse column responses k = some v ∧ build k v = some e) keys
        (items.filterMap fun item => build item.1 item.2) := by
  obtain ⟨hn, -, hvalues⟩ := walkColumn_items hwalk
  refine ⟨(items.filter fun item => (build item.1 item.2).isSome).map Prod.fst, ?_, ?_, ?_⟩
  · exact hn.sublist (List.filter_sublist.map Prod.fst)
  · intro k
    simp only [List.mem_map, List.mem_filter, Prod.exists, exists_and_right, exists_eq_right, hvalues]
  · apply forall₂_filterMap
    intro item hitem e hbuild
    exact ⟨item.2, (hvalues item.1 item.2).mp hitem, hbuild⟩

theorem accepted_iff (h : ¬ Failed responses) (k : κ) :
    Accepted parse column responses k ↔ ∃ v, columnValue parse column responses k = some v := by
  obtain ⟨items, hwalk⟩ := ((walkColumn_cases parse column responses).resolve_left fun hfailed => h hfailed.1).2
  obtain ⟨-, hkeys, hvalues⟩ := walkColumn_items hwalk
  simp only [← hkeys, ← hvalues, List.mem_map, Prod.exists, exists_and_right, exists_eq_right]

theorem joins_of_map {items : List (κ × value)} (hfailed : ¬ Failed responses)
    (hwalk : walkColumn parse column responses = some items) (build : κ → value → entry) :
    ∃ keys : List κ, keys.Nodup ∧ (∀ k, k ∈ keys ↔ Accepted parse column responses k) ∧
      List.Forall₂ (fun k e => ∃ v, columnValue parse column responses k = some v ∧ e = build k v) keys
        (items.map fun item => build item.1 item.2) := by
  obtain ⟨keys, hn, hkeys, hentries⟩ := joins_of_items hwalk fun k v => some (build k v)
  refine ⟨keys, hn, fun k => ?_, ?_⟩
  · rw [hkeys, accepted_iff hfailed]
    simp
  · simpa only [Option.some.injEq, eq_comm (b := build _ _), List.filterMap_eq_map'] using hentries

end Items

/-! ## ARP -/

section Arp

variable (py : Interpreter)

/-- The entry of a key, where the table of physical addresses has it. -/
def ArpEntryAt (walks : ArpWalks) (key : Int × Str) (entry : SnmpArpTableEntry) : Prop :=
  ∃ mac, columnValue (parseIpv4ArpRow py) ipNetToPhysicalPhysAddressOid walks.physAddress key = some mac ∧
    entry = ⟨key.1, key.2, formatMac mac,
      arpEntryTypeNames.lookup (asInt (columnValue (parseIpv4ArpRow py) ipNetToPhysicalTypeOid walks.type key))⟩

theorem arp_joins (walks : ArpWalks) :
    Joins (getArpTable py (some walks)) (Failed walks.physAddress)
      (Accepted (parseIpv4ArpRow py) ipNetToPhysicalPhysAddressOid walks.physAddress) (ArpEntryAt py walks) := by
  rcases walkColumn_cases (parseIpv4ArpRow py) ipNetToPhysicalPhysAddressOid walks.physAddress with
    ⟨hfailed, hwalk⟩ | ⟨hfailed, items, hwalk⟩
  · exact ⟨by simp [getArpTable, hwalk, hfailed], fun h => absurd hfailed h⟩
  · refine ⟨by simp [getArpTable, hwalk, hfailed], fun _ => ?_⟩
    simp only [getArpTable, hwalk, lookup_walkColumn]
    exact joins_of_map hfailed hwalk fun key mac => _

theorem arp_degrades :
    Degrades (fun walks => getArpTable py (some walks)) (fun walks responses => { walks with type := responses })
      (fun entry => { entry with entryType := none }) := by
  intro walks responses h
  simp only [getArpTable, SnmpTableResult.mapEntries]
  cases walkColumn (parseIpv4ArpRow py) ipNetToPhysicalPhysAddressOid walks.physAddress with
  | none => rfl
  | some items =>
    simp only [walkColumn_failed h, Option.getD_none, List.lookup_nil, List.map_map]
    rfl

end Arp

/-! ## Forwarding tables -/

section BridgeFdb

variable (py : Interpreter)

/-- The entry of a MAC address, where the table of ports has it. -/
def BridgeFdbEntryAt (walks : BridgeFdbWalks) (mac : Str) (entry : SnmpBridgeFdbEntry) : Prop :=
  ∃ port, columnValue (parseBridgeFdbRow py) dot1dTpFdbPortOid walks.port mac = some port ∧
    entry = ⟨mac, asInt (some port),
      bridgeFdbStatusNames.lookup (asInt (columnValue (parseBridgeFdbRow py) dot1dTpFdbStatusOid walks.status mac))⟩

theorem bridgeFdb_joins (walks : BridgeFdbWalks) :
    Joins (getBridgeFdb py (some walks)) (Failed walks.port)
      (Accepted (parseBridgeFdbRow py) dot1dTpFdbPortOid walks.port) (BridgeFdbEntryAt py walks) := by
  rcases walkColumn_cases (parseBridgeFdbRow py) dot1dTpFdbPortOid walks.port with
    ⟨hfailed, hwalk⟩ | ⟨hfailed, items, hwalk⟩
  · exact ⟨by simp [getBridgeFdb, hwalk, hfailed], fun h => absurd hfailed h⟩
  · refine ⟨by simp [getBridgeFdb, hwalk, hfailed], fun _ => ?_⟩
    simp only [getBridgeFdb, hwalk, lookup_walkColumn]
    exact joins_of_map hfailed hwalk fun mac port => _

theorem bridgeFdb_degrades :
    Degrades (fun walks => getBridgeFdb py (some walks)) (fun walks responses => { walks with status := responses })
      (fun entry => { entry with status := none }) := by
  intro walks responses h
  simp only [getBridgeFdb, SnmpTableResult.mapEntries]
  cases walkColumn (parseBridgeFdbRow py) dot1dTpFdbPortOid walks.port with
  | none => rfl
  | some items =>
    simp only [walkColumn_failed h, Option.getD_none, List.lookup_nil, List.map_map]
    rfl

end BridgeFdb

/-! ## LLDP -/

section Lldp

variable (py : Interpreter)

/-- What a column of the neighbour table has for a key. -/
def lldpValue {value : Type} (column : Str) (responses : List (WalkResponse value)) (key : LldpKey) : Option value :=
  columnValue (parseLldpRemRow py) column responses key

/-- The addresses of the rows with a key, in order, and nothing after an error. -/
def managementAddresses (responses : List (WalkResponse (Option Int))) (key : LldpKey) : List Str :=
  match responses.mapM (m := Option) id with
  | none => []
  | some rows =>
    ((rows.flatten.filterMap (acceptedRow (parseLldpManAddrRow py) lldpRemManAddrIfSubtypeOid)).filter
      fun a => a.1.1 = key).map fun a => a.1.2

/-- A key is in both columns of the chassis, and its bytes are well formed for its subtype. -/
def LldpAccepted (walks : LldpWalks) (key : LldpKey) : Prop :=
  ∃ subtypeValue raw,
    lldpValue py lldpRemChassisIdSubtypeOid walks.chassisIdSubtype key = some subtypeValue ∧
    lldpValue py lldpRemChassisIdOid walks.chassisId key = some raw ∧
    ChassisWellFormed (asInt (some subtypeValue)) raw

/-- The entry of a key, each field from its own column. -/
def LldpEntryAt (walks : LldpWalks) (key : LldpKey) (entry : SnmpLldpNeighborEntry) : Prop :=
  ∃ subtypeValue raw chassisId,
    lldpValue py lldpRemChassisIdSubtypeOid walks.chassisIdSubtype key = some subtypeValue ∧
    lldpValue py lldpRemChassisIdOid walks.chassisId key = some raw ∧
    formatLldpChassisId (asInt (some subtypeValue)) raw = some chassisId ∧
    entry = {
      localPortNum := key.2.1
      remIndex := key.2.2
      chassisIdSubtype := asInt (some subtypeValue)
      chassisId := chassisId
      portIdSubtype := asInt (lldpValue py lldpRemPortIdSubtypeOid walks.portIdSubtype key)
      portId := asOptionalText (lldpValue py lldpRemPortIdOid walks.portId key)
      portDesc := asOptionalText (lldpValue py lldpRemPortDescOid walks.portDesc key)
      sysName := asOptionalText (lldpValue py lldpRemSysNameOid walks.sysName key)
      sysDesc := asOptionalText (lldpValue py lldpRemSysDescOid walks.sysDesc key)
      sysCapSupported := asOptionalText (lldpValue py lldpRemSysCapSupportedOid walks.sysCapSupported key)
      sysCapEnabled := asOptionalText (lldpValue py lldpRemSysCapEnabledOid walks.sysCapEnabled key)
      managementAddresses := managementAddresses py walks.manAddr key }

theorem lookup_lldpColumn {value : Type} (column : Str) (responses : List (WalkResponse value)) (key : LldpKey) :
    (lldpColumn py column responses).lookup key = lldpValue py column responses key := by
  unfold lldpColumn lldpValue
  rw [lookup_walkColumn]

theorem managementAddresses_row {responses : List (WalkResponse (Option Int))} {key : LldpKey} {address : Str}
    (h : address ∈ managementAddresses py responses key) :
    ¬ Failed responses ∧ Accepted (parseLldpManAddrRow py) lldpRemManAddrIfSubtypeOid responses (key, address) := by
  unfold managementAddresses at h
  split at h
  · cases h
  · rename_i rows hrows
    obtain ⟨⟨⟨key', address'⟩, v⟩, hmem, rfl⟩ := List.mem_map.mp h
    obtain ⟨hitem, hkey⟩ := List.mem_filter.mp hmem
    obtain rfl : key' = key := by simpa using hkey
    refine ⟨?_, v, (mem_acceptedRows hrows _ _).mp hitem⟩
    rw [← allRows_eq_none, hrows]
    simp

theorem lookup_walkLldpManAddrTable (responses : List (WalkResponse (Option Int))) (key : LldpKey) :
    ((walkLldpManAddrTable py responses).lookup key).getD [] = managementAddresses py responses key := by
  unfold walkLldpManAddrTable managementAddresses
  cases responses.mapM (m := Option) id with
  | none => rfl
  | some rows =>
    let addresses := fun members : List ((LldpKey × Str) × Option Int) => members.map fun a => a.1.2
    have hempty : ([] : List Str) = addresses [] := rfl
    simp only
    rw [lookup_map_snd _ addresses, hempty, Option.getD_map, lookup_groupBy]

theorem lldp_joins (walks : LldpWalks) :
    Joins (getLldpNeighbors py (some walks)) (Failed walks.chassisIdSubtype ∨ Failed walks.chassisId)
      (LldpAccepted py walks) (LldpEntryAt py walks) := by
  rcases walkColumn_cases (parseLldpRemRow py) lldpRemChassisIdSubtypeOid walks.chassisIdSubtype with
    ⟨hfailed, hwalk⟩ | ⟨hfailed, subtypes, hwalk⟩
  · exact ⟨by simp [getLldpNeighbors, hwalk, hfailed], fun h => absurd (Or.inl hfailed) h⟩
  rcases walkColumn_cases (parseLldpRemRow py) lldpRemChassisIdOid walks.chassisId with
    ⟨hfailed', hwalk'⟩ | ⟨hfailed', chassisIds, hwalk'⟩
  · exact ⟨by simp [getLldpNeighbors, hwalk, hwalk', hfailed'], fun h => absurd (Or.inr hfailed') h⟩
  · refine ⟨by simp [getLldpNeighbors, hwalk, hwalk', hfailed, hfailed'], fun _ => ?_⟩
    obtain ⟨keys, hn, hkeys, hentries⟩ := joins_of_items hwalk fun key subtypeValue =>
      (chassisIds.lookup key).bind (lldpEntry (lldpColumns py walks) key subtypeValue)
    have hlookup : ∀ key, chassisIds.lookup key = lldpValue py lldpRemChassisIdOid walks.chassisId key := by
      intro key
      unfold lldpValue
      rw [← lookup_walkColumn, hwalk', Option.getD_some]
    refine ⟨keys, hn, fun k => ?_, ?_⟩
    · rw [hkeys]
      refine exists_congr fun subtypeValue => ?_
      rw [hlookup]
      cases lldpValue py lldpRemChassisIdOid walks.chassisId k with
      | none => simp
      | some raw => simp [lldpValue, lldpEntry_isSome]
    · simp only [getLldpNeighbors, hwalk, hwalk']
      refine hentries.imp ?_
      rintro key entry ⟨subtypeValue, hsubtype, hentry⟩
      obtain ⟨raw, hraw, hentry⟩ := Option.bind_eq_some_iff.mp hentry
      obtain ⟨chassisId, hid, rfl⟩ := Option.map_eq_some_iff.mp hentry
      refine ⟨subtypeValue, raw, chassisId, hsubtype, hlookup key ▸ hraw, hid, ?_⟩
      simp only [lldpColumns, lookup_lldpColumn, lookup_walkLldpManAddrTable]

theorem lldpColumn_failed {value : Type} {column : Str} {responses : List (WalkResponse value)}
    (h : Failed responses) : lldpColumn py column responses = [] := by
  unfold lldpColumn
  rw [walkColumn_failed h, Option.getD_none]

theorem walkLldpManAddrTable_failed {responses : List (WalkResponse (Option Int))} (h : Failed responses) :
    walkLldpManAddrTable py responses = [] := by
  unfold walkLldpManAddrTable
  rw [allRows_eq_none.mpr h]

theorem degrades_of_entry {value : Type} (set : LldpWalks → List (WalkResponse value) → LldpWalks)
    (absent : SnmpLldpNeighborEntry → SnmpLldpNeighborEntry)
    (hchassis : ∀ w responses, (set w responses).chassisIdSubtype = w.chassisIdSubtype ∧
      (set w responses).chassisId = w.chassisId)
    (hentry : ∀ w responses, Failed responses → ∀ key subtypeValue raw,
      lldpEntry (lldpColumns py (set w responses)) key subtypeValue raw =
        (lldpEntry (lldpColumns py w) key subtypeValue raw).map absent) :
    Degrades (fun walks => getLldpNeighbors py (some walks)) set absent := by
  intro w responses h
  obtain ⟨hsubtype, hid⟩ := hchassis w responses
  simp only [getLldpNeighbors, SnmpTableResult.mapEntries, hsubtype, hid]
  split
  · rfl
  · split
    · rfl
    · simp only [List.map_filterMap, SnmpTableResult.mk.injEq, true_and, and_true]
      refine List.filterMap_congr fun item _ => ?_
      rw [Option.map_bind]
      refine congrArg _ (funext fun raw => ?_)
      exact hentry w responses h item.1 item.2 raw

/-- Each of the eight columns that the table can do without fails alone. -/
structure LldpDegrades : Prop where
  portIdSubtype : Degrades (fun walks => getLldpNeighbors py (some walks))
    (fun walks responses => { walks with portIdSubtype := responses }) fun entry => { entry with portIdSubtype := -1 }
  portId : Degrades (fun walks => getLldpNeighbors py (some walks))
    (fun walks responses => { walks with portId := responses }) fun entry => { entry with portId := none }
  portDesc : Degrades (fun walks => getLldpNeighbors py (some walks))
    (fun walks responses => { walks with portDesc := responses }) fun entry => { entry with portDesc := none }
  sysName : Degrades (fun walks => getLldpNeighbors py (some walks))
    (fun walks responses => { walks with sysName := responses }) fun entry => { entry with sysName := none }
  sysDesc : Degrades (fun walks => getLldpNeighbors py (some walks))
    (fun walks responses => { walks with sysDesc := responses }) fun entry => { entry with sysDesc := none }
  sysCapSupported : Degrades (fun walks => getLldpNeighbors py (some walks))
    (fun walks responses => { walks with sysCapSupported := responses })
    fun entry => { entry with sysCapSupported := none }
  sysCapEnabled : Degrades (fun walks => getLldpNeighbors py (some walks))
    (fun walks responses => { walks with sysCapEnabled := responses }) fun entry => { entry with sysCapEnabled := none }
  manAddr : Degrades (fun walks => getLldpNeighbors py (some walks))
    (fun walks responses => { walks with manAddr := responses }) fun entry => { entry with managementAddresses := [] }

theorem lldp_degrades : LldpDegrades py := by
  constructor
  case manAddr =>
    refine degrades_of_entry py _ _ (fun _ _ => ⟨rfl, rfl⟩) fun w responses h key subtypeValue raw => ?_
    simp only [lldpEntry, lldpColumns, walkLldpManAddrTable_failed py h, Option.map_map]
    rfl
  all_goals
    refine degrades_of_entry py _ _ (fun _ _ => ⟨rfl, rfl⟩) fun w responses h key subtypeValue raw => ?_
    simp only [lldpEntry, lldpColumns, lldpColumn_failed py h, Option.map_map]
    rfl

end Lldp

/-! ## The three queries -/

/-- A result stands for the keys of the columns it cannot do without, each field comes from a row with the same key,
and any other column fails alone. -/
theorem table_queries_join (py : Interpreter) :
    (∀ walks, Joins (getArpTable py (some walks)) (Failed walks.physAddress)
      (Accepted (parseIpv4ArpRow py) ipNetToPhysicalPhysAddressOid walks.physAddress) (ArpEntryAt py walks)) ∧
    Degrades (fun walks => getArpTable py (some walks)) (fun walks responses => { walks with type := responses })
      (fun entry => { entry with entryType := none }) ∧
    (∀ walks, Joins (getLldpNeighbors py (some walks)) (Failed walks.chassisIdSubtype ∨ Failed walks.chassisId)
      (LldpAccepted py walks) (LldpEntryAt py walks)) ∧
    LldpDegrades py ∧
    (∀ walks, Joins (getBridgeFdb py (some walks)) (Failed walks.port)
      (Accepted (parseBridgeFdbRow py) dot1dTpFdbPortOid walks.port) (BridgeFdbEntryAt py walks)) ∧
    Degrades (fun walks => getBridgeFdb py (some walks)) (fun walks responses => { walks with status := responses })
      (fun entry => { entry with status := none }) ∧
    (∀ (κ value : Type) (_ : DecidableEq κ) (parse : Str → Str → Option κ) (column : Str)
      (responses : List (WalkResponse value)) (k : κ) (v : value), columnValue parse column responses k = some v →
      ¬ Failed responses ∧ HasRow parse column responses k v) ∧
    ∀ responses key address, address ∈ managementAddresses py responses key →
      ¬ Failed responses ∧
        Accepted (parseLldpManAddrRow py) lldpRemManAddrIfSubtypeOid responses (key, address) :=
  ⟨arp_joins py, arp_degrades py, lldp_joins py, lldp_degrades py, bridgeFdb_joins py, bridgeFdb_degrades py,
    fun _ _ _ _ _ _ _ _ => columnValue_row, fun _ _ _ => managementAddresses_row py⟩

end NetworkMapper
