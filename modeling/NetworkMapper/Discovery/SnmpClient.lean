import NetworkMapper.Observations.Models
import NetworkMapper.Python.StrMethods

/-! # What the SNMP client answers -/

open Python

namespace NetworkMapper

/-- The system group: the fields that came back, in the order of the `dict`. -/
structure SnmpHostResult where
  responded : Bool
  fields : List (Str × Str) := []
  failureReason : Option Str := none

/-- One row of a host's ARP table. -/
structure SnmpArpTableEntry where
  interfaceIndex : Int
  ipAddress : Str
  macAddress : Str
  entryType : Option Str := none

/-- One neighbor of a host, joined from its columns. -/
structure SnmpLldpNeighborEntry where
  localPortNum : Int
  remIndex : Int
  chassisIdSubtype : Int
  chassisId : Str
  portIdSubtype : Int := -1
  portId : Option Str := none
  portDesc : Option Str := none
  sysName : Option Str := none
  sysDesc : Option Str := none
  sysCapSupported : Option Str := none
  sysCapEnabled : Option Str := none
  managementAddresses : List Str := []

/-- One row of a host's forwarding table. -/
structure SnmpBridgeFdbEntry where
  macAddress : Str
  port : Int
  status : Option Str := none

/-- A walk of one table: `SnmpArpTableResult`, `SnmpLldpTableResult` and `SnmpBridgeFdbResult`. -/
structure SnmpTableResult (entry : Type) where
  responded : Bool
  entries : List entry := []
  failureReason : Option Str := none

/-- One `enrich` call: its run id, its clock, and the answer of the client for each host. `none` is
an exception of the client. -/
structure SnmpSession (result : Type) where
  runId : Str
  observedAt : DateTime
  client : Str → Option result

namespace SnmpSession

/-- `_query_host`: an exception of the client is a host that did not respond. -/
def queryHost {result : Type} (session : SnmpSession result) (failed : Option Str → result) (ipAddress : Str) :
    result :=
  (session.client ipAddress).getD (failed (some (str "malformed response")))

/-- The provenance of every observation of a session, but for its method. -/
def provenance {result : Type} (session : SnmpSession result) (collectionMethod : Str) : ObservationProvenance :=
  ⟨str "snmp", collectionMethod, session.observedAt, session.runId⟩

end SnmpSession

/-! ## The system group -/

/-- How a GET of the system group ends. A value that is not resolved is `none`, and any other is its text. -/
inductive SystemGroupResponse where
  | raised
  | errorIndication
  | errorStatus
  | varBinds (values : List (Option Str))

namespace PysnmpClient

/-- `SYSTEM_GROUP_OIDS` -/
def systemGroupOids : List (Str × Str) :=
  [(str "sysDescr", str "1.3.6.1.2.1.1.1.0"), (str "sysObjectID", str "1.3.6.1.2.1.1.2.0"),
    (str "sysUpTime", str "1.3.6.1.2.1.1.3.0"), (str "sysContact", str "1.3.6.1.2.1.1.4.0"),
    (str "sysName", str "1.3.6.1.2.1.1.5.0"), (str "sysLocation", str "1.3.6.1.2.1.1.6.0")]

/-- The fields that are resolved and not blank, with the names of the OIDs asked for. -/
def systemGroupFields (values : List (Option Str)) : List (Str × Str) :=
  (systemGroupOids.zip values).filterMap fun (oid, value) =>
    (truthy (value.map strip)).map fun text => (oid.1, text)

/-- `get_system_group` -/
def getSystemGroup : SystemGroupResponse → SnmpHostResult
  | .raised => { responded := false, failureReason := some (str "malformed response") }
  | .errorIndication => { responded := false, failureReason := some (str "timeout") }
  | .errorStatus => { responded := false, failureReason := some (str "protocol error") }
  | .varBinds values =>
    if systemGroupFields values = [] then { responded := false, failureReason := some (str "empty response") }
    else { responded := true, fields := systemGroupFields values }

theorem systemGroup_names (response : SystemGroupResponse) :
    ((getSystemGroup response).fields.map Prod.fst).Sublist (systemGroupOids.map Prod.fst) := by
  have hzip : ∀ (oids : List (Str × Str)) (values : List (Option Str)),
      (((oids.zip values).filterMap fun item => (truthy (item.2.map strip)).map fun text => (item.1.1, text)).map
        Prod.fst).Sublist (oids.map Prod.fst) := by
    intro oids
    induction oids with
    | nil => simp
    | cons oid oids ih =>
      intro values
      cases values with
      | nil => simp
      | cons value values =>
        rw [List.zip_cons_cons, List.filterMap_cons, List.map_cons]
        cases htext : truthy (value.map strip) with
        | none =>
          simp only [Option.map_none]
          exact (ih values).cons _
        | some text =>
          simp only [Option.map_some]
          exact (ih values).cons_cons _
  cases response with
  | varBinds values =>
    unfold getSystemGroup
    simp only
    split
    · exact List.nil_sublist _
    · exact hzip _ _
  | _ => exact List.nil_sublist _

end PysnmpClient

/-- One `enrich` call of the system provider on the PySNMP client. -/
structure SystemSession where
  runId : Str
  observedAt : DateTime
  responses : Str → SystemGroupResponse

/-- The client of a session, as the provider sees it. -/
def SystemSession.session (s : SystemSession) : SnmpSession SnmpHostResult :=
  ⟨s.runId, s.observedAt, fun ip => some (PysnmpClient.getSystemGroup (s.responses ip))⟩

end NetworkMapper
