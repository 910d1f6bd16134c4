import NetworkMapper.Project.Serializer
import NetworkMapper.Python.StrMethods
import NetworkMapper.Python.Tally

/-! # The summary of a project -/

open Python

namespace NetworkMapper

structure ProjectSummary where
  customerName : Str
  createdAt : DateTime
  updatedAt : DateTime
  totalDevices : Nat
  deviceTypeCounts : Dict DeviceType Nat
  vendorCounts : Dict Str Nat
  discoveredNetworks : List Str := []

/-- `(device.vendor or "").strip()` -/
def vendorName (device : Device) : Str := strip (device.vendor.getD [])

def ProjectSummary.fromProject (project : SavedProject) : ProjectSummary where
  customerName := project.customerName
  createdAt := project.createdDate
  updatedAt := project.modifiedDate
  totalDevices := project.networkGraph.allDevices.length
  deviceTypeCounts := tally (project.networkGraph.allDevices.map (·.deviceType))
  vendorCounts := tally ((project.networkGraph.allDevices.map vendorName).filter (· ≠ []))

end NetworkMapper
