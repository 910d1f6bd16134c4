import NetworkMapper.Discovery.NmapRun

/-! # The discovery summary -/

open Python

namespace NetworkMapper

structure DiscoverySummary where
  hostsDiscovered : Nat
  hostsEnriched : Nat
  hostsWithServiceEvidence : Nat
  hostsWithSmbIdentity : Nat
  hostsWithRdpIdentity : Nat
  hostsWithHttpTitles : Nat
  hostsWithTlsCertificates : Nat
  hostsWithHttpAuthRealms : Nat

def DiscoverySummary.fromRunDiagnostics (runDiagnostics : RunDiagnostics) : DiscoverySummary :=
  let hostDiagnostics := runDiagnostics.hostDiagnostics.values
  { hostsDiscovered := runDiagnostics.hostsDiscovered
    hostsEnriched := hostDiagnostics.countP (·.enriched)
    hostsWithServiceEvidence := hostDiagnostics.countP (·.hasServiceEvidence)
    hostsWithSmbIdentity := hostDiagnostics.countP (·.hasSmbIdentity)
    hostsWithRdpIdentity := hostDiagnostics.countP (·.hasRdpIdentity)
    hostsWithHttpTitles := hostDiagnostics.countP (·.hasHttpTitle)
    hostsWithTlsCertificates := hostDiagnostics.countP (·.hasTlsCertificate)
    hostsWithHttpAuthRealms := hostDiagnostics.countP (·.hasHttpAuthRealm) }

/-- The hosts that `_print_discovery_diagnostics` lists with their reasons. -/
def darkHosts (runDiagnostics : RunDiagnostics) : List (Str × List Str) :=
  (runDiagnostics.hostDiagnostics.entries.filter fun host => !host.2.enriched).map fun host =>
    (host.1, host.2.missingEvidenceReasons)

end NetworkMapper
