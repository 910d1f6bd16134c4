import NetworkMapper.Python.Text

/-! # Devices -/

open Python

namespace NetworkMapper

/-- The types that a device can be given. -/
inductive DeviceType where
  | unknown
  | router
  | switch
  | firewall
  | server
  | workstation
  | printer
  | phone
  | accessPoint
  | hypervisor
  | camera
  deriving DecidableEq

/-- What files and reports say for a type. -/
def DeviceType.value : DeviceType → Str
  | .unknown => str "unknown"
  | .router => str "router"
  | .switch => str "switch"
  | .firewall => str "firewall"
  | .server => str "server"
  | .workstation => str "workstation"
  | .printer => str "printer"
  | .phone => str "phone"
  | .accessPoint => str "access_point"
  | .hypervisor => str "hypervisor"
  | .camera => str "camera"

def DeviceType.all : List DeviceType :=
  [.unknown, .router, .switch, .firewall, .server, .workstation, .printer, .phone, .accessPoint, .hypervisor, .camera]

/-- `DeviceType(value)` -/
def DeviceType.ofValue (value : Str) : Option DeviceType := DeviceType.all.find? fun type => type.value = value

theorem DeviceType.ofValue_value (type : DeviceType) : ofValue type.value = some type := by
  cases type <;> decide

/-- What benchmarks say for a type. -/
def DeviceType.name : DeviceType → Str
  | .unknown => str "UNKNOWN"
  | .router => str "ROUTER"
  | .switch => str "SWITCH"
  | .firewall => str "FIREWALL"
  | .server => str "SERVER"
  | .workstation => str "WORKSTATION"
  | .printer => str "PRINTER"
  | .phone => str "PHONE"
  | .accessPoint => str "ACCESS_POINT"
  | .hypervisor => str "HYPERVISOR"
  | .camera => str "CAMERA"

/-- `DeviceType[name]` -/
def DeviceType.ofName (name : Str) : Option DeviceType := DeviceType.all.find? fun type => type.name = name

theorem DeviceType.ofName_name (type : DeviceType) : ofName type.name = some type := by
  cases type <;> decide

theorem DeviceType.name_injective (type type' : DeviceType) (h : type.name = type'.name) : type = type' := by
  have hname := ofName_name type
  rw [h, ofName_name] at hname
  exact (Option.some.inj hname).symm

/-- How much a scan asks of each host. -/
inductive ScanProfile where
  | fast
  | standard
  | deep
  deriving DecidableEq

def ScanProfile.value : ScanProfile → Str
  | .fast => str "fast"
  | .standard => str "standard"
  | .deep => str "deep"

/-- What a scan knows of one open port. -/
structure ServiceEvidence where
  port : Int
  protocol : Str
  service : Option Str := none
  product : Option Str := none
  version : Option Str := none
  httpTitle : Option Str := none
  tlsSubject : Option Str := none
  tlsIssuer : Option Str := none
  httpAuthRealm : Option Str := none
  deriving DecidableEq

/-- A host of the network, with everything any source has said about it. -/
structure Device where
  ipAddress : Str
  hostname : Option Str := none
  macAddress : Option Str := none
  vendor : Option Str := none
  operatingSystem : Option Str := none
  computerName : Option Str := none
  domain : Option Str := none
  smbSigning : Option Str := none
  snmpSysDescr : Option Str := none
  snmpSysObjectId : Option Str := none
  snmpSysUptime : Option Str := none
  snmpSysContact : Option Str := none
  snmpSysLocation : Option Str := none
  services : List ServiceEvidence := []
  deviceType : DeviceType := .unknown
  discoverySources : List Str := []
  deriving DecidableEq

end NetworkMapper
