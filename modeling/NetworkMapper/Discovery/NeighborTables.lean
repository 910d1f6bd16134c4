import NetworkMapper.Discovery.SnmpTables
import NetworkMapper.Python.Grouping
import NetworkMapper.Python.Json.Value

/-!
# The LLDP and forwarding table walks of the PySNMP client

They share the loop of the ARP table. An LLDP neighbour takes ten walks, and two of
them have to succeed.
-/

open Python

namespace NetworkMapper

namespace PysnmpClient

/-! ## Values -/

/-- `_as_optional_text`, of the text of a value. -/
def asOptionalText (value : Option Str) : Option Str := truthy (value.map strip)

/-- `raw.hex()` -/
def hexText (raw : Bytes) : Str := raw.flatMap fun b => [hexDigit (b.val / 16), hexDigit (b.val % 16)]

def lldpChassisIdSubtypeMacAddress : Int := 4

def lldpChassisIdSubtypeNetworkAddress : Int := 5

/-- `_format_lldp_chassis_id`. A length that the subtype does not allow is `none`. -/
def formatLldpChassisId (subtype : Int) (raw : Bytes) : Option Str :=
  if subtype = lldpChassisIdSubtypeMacAddress then
    if raw.length = 6 then some (formatMac raw) else none
  else if subtype = lldpChassisIdSubtypeNetworkAddress then
    match raw with
    | [] => none
    | family :: addressOctets =>
      if (family.val : Int) = ianaIpv4AddressFamily then
        if addressOctets.length ≠ 4 then none
        else some (joinNumbers (ch '.') (addressOctets.map fun octet => (octet.val : Int)))
      else some (hexText raw)
  else some (hexText raw)

/-! ## LLDP -/

def lldpRemChassisIdSubtypeOid : Str := str "1.0.8802.1.1.2.1.4.1.1.4"

def lldpRemChassisIdOid : Str := str "1.0.8802.1.1.2.1.4.1.1.5"

def lldpRemPortIdSubtypeOid : Str := str "1.0.8802.1.1.2.1.4.1.1.6"

def lldpRemPortIdOid : Str := str "1.0.8802.1.1.2.1.4.1.1.7"

def lldpRemPortDescOid : Str := str "1.0.8802.1.1.2.1.4.1.1.8"

def lldpRemSysNameOid : Str := str "1.0.8802.1.1.2.1.4.1.1.9"

def lldpRemSysDescOid : Str := str "1.0.8802.1.1.2.1.4.1.1.10"

def lldpRemSysCapSupportedOid : Str := str "1.0.8802.1.1.2.1.4.1.1.11"

def lldpRemSysCapEnabledOid : Str := str "1.0.8802.1.1.2.1.4.1.1.12"

def lldpRemManAddrIfSubtypeOid : Str := str "1.0.8802.1.1.2.1.4.2.1.3"

/-- `(TimeMark, LocalPortNum, RemIndex)` -/
abbrev LldpKey := Int × Int × Int

/-- What the ten walks of a host give. A column that is read as text has the text of its values, and the
values of the last one are not read. -/
structure LldpWalks where
  chassisIdSubtype : List (WalkResponse (Option Int))
  chassisId : List (WalkResponse Bytes)
  portIdSubtype : List (WalkResponse (Option Int))
  portId : List (WalkResponse Str)
  portDesc : List (WalkResponse Str)
  sysName : List (WalkResponse Str)
  sysDesc : List (WalkResponse Str)
  sysCapSupported : List (WalkResponse Str)
  sysCapEnabled : List (WalkResponse Str)
  manAddr : List (WalkResponse (Option Int))

/-- The rows of `_walk_lldp_man_addr_table` under their keys, none after an error. -/
def walkLldpManAddrTable (py : Interpreter) (responses : List (WalkResponse (Option Int))) :
    List (LldpKey × List Str) :=
  match responses.mapM (m := Option) id with
  | none => []
  | some rows =>
    let addresses := rows.flatten.filterMap (acceptedRow (parseLldpManAddrRow py) lldpRemManAddrIfSubtypeOid)
    (groupBy (fun a => a.1.1) addresses).map fun g => (g.1, g.2.map fun a => a.1.2)

/-- `await self._walk_lldp_column(...) or {}` -/
def lldpColumn {value : Type} (py : Interpreter) (column : Str) (responses : List (WalkResponse value)) :
    List (LldpKey × value) :=
  (walkColumn (parseLldpRemRow py) column responses).getD []

/-- The columns that the table can do without. -/
structure LldpColumns where
  portIdSubtypeByKey : List (LldpKey × Option Int)
  portIdByKey : List (LldpKey × Str)
  portDescByKey : List (LldpKey × Str)
  sysNameByKey : List (LldpKey × Str)
  sysDescByKey : List (LldpKey × Str)
  sysCapSupportedByKey : List (LldpKey × Str)
  sysCapEnabledByKey : List (LldpKey × Str)
  managementAddressesByKey : List (LldpKey × List Str)

/-- The best-effort columns: one whose walk failed is empty. -/
def lldpColumns (py : Interpreter) (walks : LldpWalks) : LldpColumns where
  portIdSubtypeByKey := lldpColumn py lldpRemPortIdSubtypeOid walks.portIdSubtype
  portIdByKey := lldpColumn py lldpRemPortIdOid walks.portId
  portDescByKey := lldpColumn py lldpRemPortDescOid walks.portDesc
  sysNameByKey := lldpColumn py lldpRemSysNameOid walks.sysName
  sysDescByKey := lldpColumn py lldpRemSysDescOid walks.sysDesc
  sysCapSupportedByKey := lldpColumn py lldpRemSysCapSupportedOid walks.sysCapSupported
  sysCapEnabledByKey := lldpColumn py lldpRemSysCapEnabledOid walks.sysCapEnabled
  managementAddressesByKey := walkLldpManAddrTable py walks.manAddr

/-- One turn of the loop over the subtypes, for a key that has a chassis id too. -/
def lldpEntry (columns : LldpColumns) (key : LldpKey) (subtypeValue : Option Int) (chassisIdValue : Bytes) :
    Option SnmpLldpNeighborEntry :=
  let subtype := asInt (some subtypeValue)
  (formatLldpChassisId subtype chassisIdValue).map fun formattedChassisId =>
    { localPortNum := key.2.1
      remIndex := key.2.2
      chassisIdSubtype := subtype
      chassisId := formattedChassisId
      portIdSubtype := asInt (columns.portIdSubtypeByKey.lookup key)
      portId := asOptionalText (columns.portIdByKey.lookup key)
      portDesc := asOptionalText (columns.portDescByKey.lookup key)
      sysName := asOptionalText (columns.sysNameByKey.lookup key)
      sysDesc := asOptionalText (columns.sysDescByKey.lookup key)
      sysCapSupported := asOptionalText (columns.sysCapSupportedByKey.lookup key)
      sysCapEnabled := asOptionalText (columns.sysCapEnabledByKey.lookup key)
      managementAddresses := (columns.managementAddressesByKey.lookup key).getD [] }

/-- `none` is an exception on the way. -/
def getLldpNeighbors (py : Interpreter) : Option LldpWalks → SnmpTableResult SnmpLldpNeighborEntry
  | none => { responded := false, failureReason := some (str "malformed response") }
  | some walks =>
    match walkColumn (parseLldpRemRow py) lldpRemChassisIdSubtypeOid walks.chassisIdSubtype with
    | none => { responded := false, failureReason := some (str "timeout") }
    | some subtypeByKey =>
      match walkColumn (parseLldpRemRow py) lldpRemChassisIdOid walks.chassisId with
      | none => { responded := false, failureReason := some (str "timeout") }
      | some chassisIdByKey =>
        let columns := lldpColumns py walks
        { responded := true
          entries := subtypeByKey.filterMap fun (key, subtypeValue) =>
            (chassisIdByKey.lookup key).bind (lldpEntry columns key subtypeValue) }

/-! ## Forwarding tables -/

def dot1dTpFdbPortOid : Str := str "1.3.6.1.2.1.17.4.3.1.2"

def dot1dTpFdbStatusOid : Str := str "1.3.6.1.2.1.17.4.3.1.3"

/-- `_BRIDGE_FDB_STATUS_NAMES` -/
def bridgeFdbStatusNames : List (Int × Str) :=
  [(1, str "other"), (2, str "invalid"), (3, str "learned"), (4, str "self"), (5, str "mgmt")]

/-- The answers of the two walks of `dot1dTpFdbTable`. -/
structure BridgeFdbWalks where
  port : List (WalkResponse (Option Int))
  status : List (WalkResponse (Option Int))

/-- `get_bridge_fdb`: only the walk of the ports can fail it. `none` is an exception in either. -/
def getBridgeFdb (py : Interpreter) : Option BridgeFdbWalks → SnmpTableResult SnmpBridgeFdbEntry
  | none => { responded := false, failureReason := some (str "malformed response") }
  | some walks =>
    match walkColumn (parseBridgeFdbRow py) dot1dTpFdbPortOid walks.port with
    | none => { responded := false, failureReason := some (str "timeout") }
    | some portByMac =>
      let statusByMac := (walkColumn (parseBridgeFdbRow py) dot1dTpFdbStatusOid walks.status).getD []
      { responded := true
        entries := portByMac.map fun (macAddress, port) =>
          ⟨macAddress, asInt (some port), bridgeFdbStatusNames.lookup (asInt (statusByMac.lookup macAddress))⟩ }

end PysnmpClient

end NetworkMapper
