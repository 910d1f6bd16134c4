import NetworkMapper.Exporters.MarkdownExporter

/-!
# The counts of the report

Each device has one section of the inventory, and every total of the report can be
counted on the devices.
-/

open Python

namespace NetworkMapper

namespace MarkdownExporter

/-! ## The sections -/

variable (project : SavedProject)

def total {κ : Type} (counts : Dict κ Nat) : Nat := (counts.entries.map Prod.snd).sum

/-- What the numbers of the report say. -/
structure Accounts (project : SavedProject) : Prop where
  devices : ((inventory project.toProject).flatMap Prod.snd).Perm project.networkGraph.allDevices
  sections : ∀ g ∈ inventory project.toProject,
    g.2 = (sortedBy inventoryKey project.networkGraph.allDevices).filter (fun d => d.deviceType = g.1) ∧ g.2 ≠ []
  headings : (inventory project.toProject).Pairwise fun g g' => pluralTitle g.1 < pluralTitle g'.1
  totals : ((inventory project.toProject).map fun g => (g.1, g.2.length)).Perm
    (ProjectSummary.fromProject project).deviceTypeCounts.entries
  summary : total (ProjectSummary.fromProject project).deviceTypeCounts = (ProjectSummary.fromProject project).totalDevices
  manufacturers : ∀ g ∈ inventory project.toProject,
    total (tally (g.2.map fun d => displayValue d.vendor)) = g.2.length
  vendors : total (ProjectSummary.fromProject project).vendorCounts =
    project.networkGraph.allDevices.countP fun d => vendorName d ≠ []
  unknownVendors : total (MarkdownExporter.unknownVendors project.toProject) =
    total (MarkdownExporter.unknownSystems project.toProject)
  unknownDevices : total (MarkdownExporter.unknownVendors project.toProject) =
    CountTable.count (ProjectSummary.fromProject project).deviceTypeCounts .unknown
  services : total (serviceCounts project.toProject) =
    ((inventory project.toProject).flatMap fun g => g.2.flatMap (·.services)).countP fun e => (truthy e.service).isSome

end MarkdownExporter

end NetworkMapper
