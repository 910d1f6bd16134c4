import NetworkMapper.Core.Models
import NetworkMapper.Python.Dict

/-! # The network graph: devices by IP address -/

open Python

namespace NetworkMapper

/-- Devices by address, each under its own. -/
structure NetworkGraph where
  devices : Dict Str Device
  keyed : Dict.Keyed Device.ipAddress devices

namespace NetworkGraph

def empty : NetworkGraph := ⟨.empty, Dict.keyed_empty _⟩

/-- `add_device`. The first device of an address stays. -/
def addDevice (graph : NetworkGraph) (device : Device) : NetworkGraph :=
  ⟨graph.devices.setDefault device.ipAddress device, graph.keyed.setDefault device⟩

def getDevice (graph : NetworkGraph) (ipAddress : Str) : Option Device := graph.devices.get? ipAddress

/-- In the order in which they were added. -/
def allDevices (graph : NetworkGraph) : List Device := graph.devices.values

def addresses (graph : NetworkGraph) : List Str := graph.devices.keys

/-- One call of `add_device` after the other. -/
def addDevices (graph : NetworkGraph) (devices : List Device) : NetworkGraph := devices.foldl addDevice graph

theorem mem_addresses_addDevices (graph : NetworkGraph) (devices : List Device) (ip : Str) :
    ip ∈ (graph.addDevices devices).addresses ↔ ip ∈ graph.addresses ∨ ∃ d ∈ devices, d.ipAddress = ip := by
  induction devices generalizing graph with
  | nil => simp [addDevices]
  | cons d devices ih =>
    unfold addDevices
    rw [List.foldl_cons, ← addDevices, ih]
    simp only [addDevice, addresses, Dict.mem_keys_setDefault, List.mem_cons, exists_eq_or_imp, or_assoc,
      @eq_comm _ ip]

theorem addDevices_devices (graph : NetworkGraph) (devices : List Device) :
    (graph.addDevices devices).devices = graph.devices.setDefaults Device.ipAddress devices := by
  induction devices generalizing graph with
  | nil => rfl
  | cons d devices ih => exact ih (graph.addDevice d)

theorem mem_of_mem_addDevices (devices : List Device) (d : Device) (h : d ∈ (empty.addDevices devices).allDevices) :
    d ∈ devices := by
  have hentry := ((empty.addDevices devices).keyed.mem_values d).mp h
  rw [← Dict.get?_eq_some, addDevices_devices] at hentry
  exact List.mem_of_find?_eq_some ((Dict.get?_setDefaults Device.ipAddress devices _).symm.trans hentry)

theorem allDevices_addDevices (devices : List Device) (hn : (devices.map (·.ipAddress)).Nodup) :
    (empty.addDevices devices).allDevices = devices := by
  unfold allDevices Dict.values
  rw [addDevices_devices, empty, Dict.setDefaults_entries _ devices hn]
  simp [Function.comp_def]

theorem allDevices_addresses (graph : NetworkGraph) : graph.allDevices.map (·.ipAddress) = graph.addresses :=
  graph.keyed.keys_eq

theorem addDevices_allDevices (graph : NetworkGraph) : empty.addDevices graph.allDevices = graph := by
  have hn : (graph.allDevices.map (·.ipAddress)).Nodup := by
    rw [allDevices_addresses]
    exact graph.devices.keys_nodup
  have hentries : (empty.addDevices graph.allDevices).devices.entries = graph.devices.entries := by
    rw [addDevices_devices, empty, Dict.setDefaults_entries _ _ hn, allDevices, Dict.values, List.map_map]
    refine (List.map_congr_left fun e he => ?_).trans (List.map_id _)
    exact Prod.ext (graph.keyed e he).symm rfl
  obtain ⟨⟨entries, hkeys⟩, hkeyed⟩ := graph
  generalize hadded : empty.addDevices _ = added at hentries
  obtain ⟨⟨entries', hkeys'⟩, hkeyed'⟩ := added
  simp only at hentries
  subst hentries
  rfl

end NetworkGraph

end NetworkMapper
