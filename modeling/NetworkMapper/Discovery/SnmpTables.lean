import NetworkMapper.Discovery.SnmpClient
import NetworkMapper.Python.Dict
import NetworkMapper.Python.Numerals
import NetworkMapper.Python.Utf8

/-!
# The table walks of the PySNMP client

A row of a table is a name and a value. The key of the row is in its name, after the
name of the column.
-/

open Python

namespace NetworkMapper

/-- The name of a row or of a column. -/
structure Oid where
  arcs : List Nat
  nonempty : arcs ≠ []

/-- `str(name)` -/
def Oid.render (oid : Oid) : Str := joinNumbers (ch '.') (oid.arcs.map Int.ofNat)

theorem Oid.ext {oid oid' : Oid} (h : oid.arcs = oid'.arcs) : oid = oid' := by
  cases oid
  cases oid'
  simp only at h
  subst h
  rfl

namespace PysnmpClient

/-! ## Row keys -/

def ipv4AddressType : Int := 1

def ianaIpv4AddressFamily : Int := 1

/-- How each of the four parsers begins: the numbers after the name of the column. -/
def rowComponents (py : Interpreter) (oidStr columnOid : Str) : Option (List Int) :=
  let start := columnOid ++ [ch '.']
  if start.isPrefixOf oidStr then ((oidStr.drop start.length).splitOn (ch '.')).mapM (intOf py) else none

/-- `0 <= octet <= 255` -/
def isOctet (octet : Int) : Bool := 0 ≤ octet ∧ octet ≤ 255

def upperHexDigit (n : Nat) : CodePoint := codePoint (if n < 10 then 48 + n else 55 + n)

/-- `f"{byte:02X}"` -/
def hexByte (byte : Byte) : Str := [upperHexDigit (byte.val / 16), upperHexDigit (byte.val % 16)]

/-- `_format_mac`: any number of octets, none included. -/
def formatMac (value : Bytes) : Str := [ch ':'].intercalate (value.map hexByte)

/-- The address in the first four of the components that are left. What comes after them is not looked at. -/
def addressOctets (rest : List Int) : Option Str :=
  if (rest.take 4).length ≠ 4 ∨ (rest.take 4).any (fun octet => !isOctet octet) then none
  else some (joinNumbers (ch '.') (rest.take 4))

/-- `_parse_ipv4_arp_row`: what stands after the four octets is not looked at. -/
def parseIpv4ArpRow (py : Interpreter) (oidStr columnOid : Str) : Option (Int × Str) := do
  match ← rowComponents py oidStr columnOid with
  | ifIndex :: addressType :: addressLength :: rest =>
    if addressType ≠ ipv4AddressType ∨ addressLength ≠ 4 then none
    else (addressOctets rest).map fun address => (ifIndex, address)
  | _ => none

/-- `_parse_lldp_rem_row` -/
def parseLldpRemRow (py : Interpreter) (oidStr columnOid : Str) : Option (Int × Int × Int) := do
  match ← rowComponents py oidStr columnOid with
  | [timeMark, localPortNum, remIndex] => some (timeMark, localPortNum, remIndex)
  | _ => none

/-- `_parse_lldp_man_addr_row` -/
def parseLldpManAddrRow (py : Interpreter) (oidStr columnOid : Str) : Option ((Int × Int × Int) × Str) := do
  match ← rowComponents py oidStr columnOid with
  | timeMark :: localPortNum :: remIndex :: addrSubtype :: addrLen :: rest =>
    if addrSubtype ≠ ianaIpv4AddressFamily ∨ addrLen ≠ 4 then none
    else (addressOctets rest).map fun address => ((timeMark, localPortNum, remIndex), address)
  | _ => none

/-- `_parse_bridge_fdb_row` -/
def parseBridgeFdbRow (py : Interpreter) (oidStr columnOid : Str) : Option Str := do
  let octets ← rowComponents py oidStr columnOid
  if octets.length ≠ 6 ∨ octets.any (fun octet => !isOctet octet) then none
  else some (formatMac (octets.map fun octet => byte octet.toNat))

/-! ## Walks -/

/-- One response of a walk: `none` for an error, else its rows. A value that is not resolved is `none`. -/
abbrev WalkResponse (value : Type) := Option (List (Oid × Option value))

/-- A row with a value, under the key that the parser reads from its OID. -/
def acceptedRow {κ value : Type} (parse : Str → Str → Option κ) (columnOid : Str) (row : Oid × Option value) :
    Option (κ × value) := do
  let value ← row.2
  let key ← parse row.1.render columnOid
  return (key, value)

theorem acceptedRow_eq_some {κ value : Type} (parse : Str → Str → Option κ) (columnOid : Str)
    (row : Oid × Option value) (k : κ) (v : value) :
    acceptedRow parse columnOid row = some (k, v) ↔ row.2 = some v ∧ parse row.1.render columnOid = some k := by
  unfold acceptedRow
  simp only [Option.bind_eq_bind, Option.bind_eq_some_iff, Option.pure_def, Option.some.injEq, Prod.mk.injEq]
  constructor
  · rintro ⟨v', hv, k', hk, rfl, rfl⟩
    exact ⟨hv, hk⟩
  · rintro ⟨hv, hk⟩
    exact ⟨v, hv, k, hk, rfl, rfl⟩

/-- The loop of `_walk_column`, `_walk_lldp_column` and `_walk_bridge_fdb_column`: the items of the `dict`,
`none` after an error. -/
def walkColumn {κ value : Type} [DecidableEq κ] (parse : Str → Str → Option κ) (columnOid : Str)
    (responses : List (WalkResponse value)) : Option (List (κ × value)) := do
  let rows ← responses.mapM id
  return (Dict.empty.setAll Prod.fst (rows.flatten.filterMap (acceptedRow parse columnOid))).values

/-! ## The ARP table -/

def ipNetToPhysicalPhysAddressOid : Str := str "1.3.6.1.2.1.4.35.1.4"

def ipNetToPhysicalTypeOid : Str := str "1.3.6.1.2.1.4.35.1.6"

/-- `_ARP_ENTRY_TYPE_NAMES` -/
def arpEntryTypeNames : List (Int × Str) :=
  [(1, str "other"), (2, str "invalid"), (3, str "dynamic"), (4, str "static"), (5, str "local")]

/-- `_as_int`, of a value that `int` may not take. -/
def asInt (value : Option (Option Int)) : Int := value.join.getD (-1)

/-- What the two walks of a host give. -/
structure ArpWalks where
  physAddress : List (WalkResponse Bytes)
  type : List (WalkResponse (Option Int))

/-- `none` is an exception on the way. -/
def getArpTable (py : Interpreter) : Option ArpWalks → SnmpTableResult SnmpArpTableEntry
  | none => { responded := false, failureReason := some (str "malformed response") }
  | some walks =>
    match walkColumn (parseIpv4ArpRow py) ipNetToPhysicalPhysAddressOid walks.physAddress with
    | none => { responded := false, failureReason := some (str "timeout") }
    | some macByKey =>
      let typeByKey := (walkColumn (parseIpv4ArpRow py) ipNetToPhysicalTypeOid walks.type).getD []
      { responded := true
        entries := macByKey.map fun (key, mac) =>
          ⟨key.1, key.2, formatMac mac, arpEntryTypeNames.lookup (asInt (typeByKey.lookup key))⟩ }

end PysnmpClient

end NetworkMapper
