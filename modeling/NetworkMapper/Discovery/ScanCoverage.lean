import NetworkMapper.Reporting.DiscoverySummary

/-!
# What the diagnostics say is what the devices have

The extractors never give an empty text, so a value that is there counts.
-/

open Python

namespace NetworkMapper

namespace NmapProvider

/-! ## Texts -/

theorem orNone_truthy (value : Str) : isTruthy (orNone value) = (orNone value).isSome := by
  unfold isTruthy orNone
  cases value <;> rfl

theorem bind_orNone_truthy {α : Type} (a : Option α) (f : α → Str) :
    isTruthy (a.bind fun v => orNone (f v)) = (a.bind fun v => orNone (f v)).isSome := by
  cases a with
  | none => rfl
  | some v => exact orNone_truthy (f v)

theorem extractLabeledField_truthy (output : Option Str) (label : Str) :
    isTruthy (extractLabeledField output label) = (extractLabeledField output label).isSome := by
  unfold extractLabeledField
  cases truthy output with
  | none => rfl
  | some output => exact bind_orNone_truthy _ _

theorem cleanScriptOutput_truthy (output : Option Str) :
    isTruthy (cleanScriptOutput output) = (cleanScriptOutput output).isSome := bind_orNone_truthy _ _

theorem extractHttpAuthRealm_truthy (u : Unicode) (output : Option Str) :
    isTruthy (extractHttpAuthRealm u output) = (extractHttpAuthRealm u output).isSome := by
  unfold extractHttpAuthRealm
  cases truthy output with
  | none => rfl
  | some output => exact bind_orNone_truthy _ _

/-- What a scan reports of a service: no text is there and empty. -/
structure Reported (entry : ServiceEvidence) : Prop where
  service : isTruthy entry.service = entry.service.isSome
  httpTitle : isTruthy entry.httpTitle = entry.httpTitle.isSome
  tlsSubject : isTruthy entry.tlsSubject = entry.tlsSubject.isSome
  httpAuthRealm : isTruthy entry.httpAuthRealm = entry.httpAuthRealm.isSome

theorem extractServices_reported (u : Unicode) (hostData : HostData) (entry : ServiceEvidence)
    (h : entry ∈ extractServices u hostData) : Reported entry := by
  unfold extractServices at h
  simp only [mem_sortedBy, List.mem_flatMap, List.mem_map] at h
  obtain ⟨_, -, port, -, rfl⟩ := h
  exact ⟨orNone_truthy _, cleanScriptOutput_truthy _, extractLabeledField_truthy _ _, extractHttpAuthRealm_truthy _ _⟩

theorem orElse_isSome (a b : Option Str) (h : isTruthy a = a.isSome) : (orElse a b).isSome = (a.isSome || b.isSome) := by
  unfold orElse
  unfold isTruthy at h
  rw [h]
  cases a <;> simp

theorem orElse_truthy (a b : Option Str) (h : isTruthy a = a.isSome) (h' : isTruthy b = b.isSome) :
    isTruthy (orElse a b) = (orElse a b).isSome := by
  unfold orElse
  split
  · exact h
  · exact h'

/-- No text of an identity is there and empty. -/
structure HostIdentity.Stated (identity : HostIdentity) : Prop where
  operatingSystem : isTruthy identity.operatingSystem = identity.operatingSystem.isSome
  computerName : isTruthy identity.computerName = identity.computerName.isSome
  domain : isTruthy identity.domain = identity.domain.isSome
  smbSigning : isTruthy identity.smbSigning = identity.smbSigning.isSome

theorem extractSmbIdentity_stated (hostData : HostData) : (extractSmbIdentity hostData).Stated where
  operatingSystem := extractLabeledField_truthy _ _
  computerName := extractLabeledField_truthy _ _
  domain := orElse_truthy _ _ (extractLabeledField_truthy _ _) (extractLabeledField_truthy _ _)
  smbSigning := extractLabeledField_truthy _ _

theorem extractRdpIdentity_stated (hostData : HostData) : (extractRdpIdentity hostData).Stated where
  operatingSystem := extractLabeledField_truthy _ _
  computerName := extractLabeledField_truthy _ _
  domain := extractLabeledField_truthy _ _
  smbSigning := rfl

/-- One of the fields is there. -/
def HostIdentity.present (identity : HostIdentity) : Bool :=
  identity.operatingSystem.isSome || identity.computerName.isSome || identity.domain.isSome ||
    identity.smbSigning.isSome

theorem HostIdentity.Stated.reported_eq {identity : HostIdentity} (h : identity.Stated) :
    identity.reported = identity.present := by
  unfold HostIdentity.reported HostIdentity.present
  simp only [List.any_cons, List.any_nil, Bool.or_false, h.operatingSystem, h.computerName, h.domain, h.smbSigning,
    Bool.or_assoc]

theorem reported_merged {smbIdentity rdpIdentity : HostIdentity} (hsmb : smbIdentity.Stated) (hrdp : rdpIdentity.Stated)
    (hsigning : rdpIdentity.smbSigning = none) :
    (smbIdentity.reported || rdpIdentity.reported) =
      ((orElse smbIdentity.operatingSystem rdpIdentity.operatingSystem).isSome ||
        (orElse smbIdentity.computerName rdpIdentity.computerName).isSome ||
        (orElse smbIdentity.domain rdpIdentity.domain).isSome || smbIdentity.smbSigning.isSome) := by
  rw [hsmb.reported_eq, hrdp.reported_eq]
  unfold HostIdentity.present
  rw [hsigning, orElse_isSome _ _ hsmb.operatingSystem, orElse_isSome _ _ hsmb.computerName,
    orElse_isSome _ _ hsmb.domain, Option.isSome_none, Bool.or_false]
  ac_rfl

end NmapProvider

/-! ## One host -/

/-- The device has something that only the second scan finds. -/
def hasEvidence (device : Device) : Bool :=
  device.services ≠ [] || device.operatingSystem.isSome || device.computerName.isSome || device.domain.isSome ||
    device.smbSigning.isSome

/-- Why a host without evidence is dark. -/
def darkReasons : List Str :=
  [str "No curated ports open.", str "SMB unreachable (port 445 not open).",
    str "RDP unreachable (port 3389 not open).", str "HTTP service not present."]

/-- What the diagnostics of a host say about its device, and about what the second scan tells of it. -/
structure Diagnosed (hostData : HostData) (device : Device) (host : HostDiagnostics) : Prop where
  enriched : host.enriched = hasEvidence device
  smbIdentity : host.hasSmbIdentity = (NmapProvider.extractSmbIdentity hostData).present
  rdpIdentity : host.hasRdpIdentity = (NmapProvider.extractRdpIdentity hostData).present
  identity : (host.hasSmbIdentity || host.hasRdpIdentity) =
    (device.operatingSystem.isSome || device.computerName.isSome || device.domain.isSome || device.smbSigning.isSome)
  serviceEvidence : host.hasServiceEvidence = decide (device.services ≠ [])
  httpTitle : host.hasHttpTitle = device.services.any (·.httpTitle.isSome)
  tlsCertificate : host.hasTlsCertificate = device.services.any (·.tlsSubject.isSome)
  httpAuthRealm : host.hasHttpAuthRealm = device.services.any (·.httpAuthRealm.isSome)
  parts : host.enriched = (host.hasServiceEvidence || (host.hasSmbIdentity || host.hasRdpIdentity))
  dark : host.enriched = false → host.missingEvidenceReasons = darkReasons

namespace NmapRun

open NmapProvider RunDiagnostics

variable (u : Unicode) (fl : Floats) (scan : NmapRun)

theorem any_reported {entries : List ServiceEvidence} (h : ∀ e ∈ entries, Reported e)
    {field : ServiceEvidence → Option Str} (hfield : ∀ e, Reported e → isTruthy (field e) = (field e).isSome) :
    (entries.any fun e => isTruthy (field e)) = entries.any fun e => (field e).isSome := by
  induction entries with
  | nil => rfl
  | cons entry entries ih =>
    obtain ⟨hentry, hrest⟩ := List.forall_mem_cons.mp h
    rw [List.any_cons, List.any_cons, hfield entry hentry, ih hrest]

theorem diagnosed (device : Device) :
    Diagnosed (scan.enrichmentData device.ipAddress) (scan.enriched u device) (scan.diagnosis u device) := by
  have hservices := extractServices_reported u (scan.enrichmentData device.ipAddress)
  have hidentity : ((extractSmbIdentity (scan.enrichmentData device.ipAddress)).reported ||
      (extractRdpIdentity (scan.enrichmentData device.ipAddress)).reported) =
      ((scan.enriched u device).operatingSystem.isSome || (scan.enriched u device).computerName.isSome ||
        (scan.enriched u device).domain.isSome || (scan.enriched u device).smbSigning.isSome) :=
    reported_merged (extractSmbIdentity_stated _) (extractRdpIdentity_stated _) rfl
  have henriched : (scan.diagnosis u device).enriched = hasEvidence (scan.enriched u device) := by
    have hparts : (scan.diagnosis u device).enriched = (decide ((scan.enriched u device).services ≠ []) ||
      ((extractSmbIdentity (scan.enrichmentData device.ipAddress)).reported ||
        (extractRdpIdentity (scan.enrichmentData device.ipAddress)).reported)) := Bool.or_assoc _ _ _
    rw [hparts, hidentity, hasEvidence]
    simp only [Bool.or_assoc]
  refine ⟨henriched, (extractSmbIdentity_stated _).reported_eq, (extractRdpIdentity_stated _).reported_eq, hidentity,
    rfl, ?_, ?_, ?_, Bool.or_assoc _ _ _, ?_⟩
  · exact any_reported hservices fun e he => he.httpTitle
  · exact any_reported hservices fun e he => he.tlsSubject
  · exact any_reported hservices fun e he => he.httpAuthRealm
  · intro hdark
    simp only [diagnosis, diagnoseHost, Bool.or_eq_false_iff, decide_eq_false_iff_not, not_not] at hdark
    simp only [diagnosis, diagnoseHost, hdark.1.1]
    rfl

/-! ## All hosts -/

theorem built_dark (device : Device) (h : device ∈ scan.built.devices) : hasEvidence device = false := by
  -- Without a second scan there is nothing to diagnose, and nothing that it would have found.
  rw [built_eq, NmapProvider.discoverSinglePass, List.mem_map] at h
  obtain ⟨host, -, rfl⟩ := h
  rfl

/-- Each device that a run returns has the diagnostics under its address that say what it has. -/
theorem hosts_diagnosed (hprofile : scan.scanProfile ≠ .fast) :
    List.Forall₂
      (fun device host => host.1 = device.ipAddress ∧ Diagnosed (scan.enrichmentData device.ipAddress) device host.2)
      (scan.toNmapProvider.discover u).devices (scan.discoverRun u fl).runDiagnostics.hostDiagnostics.entries := by
  rw [← discoverRun_found u fl scan, discoverRun_enrichment u fl scan hprofile, enrichment_found, enrichment_hostDiagnostics]
  apply List.forall₂_map_left_iff.mpr
  apply List.forall₂_map_right_iff.mpr
  apply List.forall₂_same.mpr
  intro device _
  exact ⟨rfl, scan.diagnosed u device⟩

theorem sampleHosts_diagnosed : sampleHosts.scanProfile ≠ .fast ∧
    List.Forall₂
      (fun device host =>
        host.1 = device.ipAddress ∧ Diagnosed (sampleHosts.enrichmentData device.ipAddress) device host.2)
      (sampleHosts.toNmapProvider.discover ascii).devices
      (sampleHosts.discoverRun ascii sampleFloats).runDiagnostics.hostDiagnostics.entries :=
  ⟨by decide, hosts_diagnosed ascii sampleFloats sampleHosts (by decide)⟩

/-- What the summary and the list of dark hosts say about the devices of a run. A FAST scan has no second
scan, so it diagnoses no host and lists none. -/
structure Summarizes (profile : ScanProfile) (enrichmentData : Str → HostData) (devices : List Device)
    (summary : DiscoverySummary) (dark : List (Str × List Str)) : Prop where
  discovered : summary.hostsDiscovered = devices.length
  enriched : summary.hostsEnriched = devices.countP hasEvidence
  serviceEvidence : summary.hostsWithServiceEvidence = devices.countP fun d => d.services ≠ []
  httpTitles : summary.hostsWithHttpTitles = devices.countP fun d => d.services.any (·.httpTitle.isSome)
  tlsCertificates : summary.hostsWithTlsCertificates = devices.countP fun d => d.services.any (·.tlsSubject.isSome)
  httpAuthRealms : summary.hostsWithHttpAuthRealms = devices.countP fun d => d.services.any (·.httpAuthRealm.isSome)
  smbIdentity : summary.hostsWithSmbIdentity = if profile = .fast then 0
    else devices.countP fun d => (extractSmbIdentity (enrichmentData d.ipAddress)).present
  rdpIdentity : summary.hostsWithRdpIdentity = if profile = .fast then 0
    else devices.countP fun d => (extractRdpIdentity (enrichmentData d.ipAddress)).present
  parts : summary.hostsEnriched ≤
    summary.hostsWithServiceEvidence + summary.hostsWithSmbIdentity + summary.hostsWithRdpIdentity
  smb_le : summary.hostsWithSmbIdentity ≤ summary.hostsEnriched
  rdp_le : summary.hostsWithRdpIdentity ≤ summary.hostsEnriched
  dark : dark = if profile = .fast then []
    else (devices.filter fun d => !hasEvidence d).map fun d => (d.ipAddress, darkReasons)

theorem enrichment_counts (f : HostDiagnostics → Bool) (g : Device → Bool)
    (h : ∀ d, f (scan.diagnosis u d) = g (scan.enriched u d)) :
    (scan.discoverWithEnrichmentRun u fl).runDiagnostics.hostDiagnostics.values.countP f =
      (scan.discoverWithEnrichmentRun u fl).found.devices.countP g := by
  unfold Dict.values
  rw [enrichment_hostDiagnostics, enrichment_found, List.map_map, List.countP_map, List.countP_map]
  exact List.countP_congr fun d _ => by simp only [Function.comp_apply, h]

theorem enrichment_discovered :
    (scan.discoverWithEnrichmentRun u fl).runDiagnostics.hostsDiscovered =
      (scan.discoverWithEnrichmentRun u fl).found.devices.length := by
  rw [enrichment_found, List.length_map]
  unfold discoverWithEnrichmentRun
  simp only
  split
  · rename_i hnone
    rw [hnone]
    rfl
  · rfl

theorem enrichment_dark :
    darkHosts (scan.discoverWithEnrichmentRun u fl).runDiagnostics =
      ((scan.discoverWithEnrichmentRun u fl).found.devices.filter fun d => !hasEvidence d).map fun d =>
        (d.ipAddress, darkReasons) := by
  unfold darkHosts
  rw [enrichment_hostDiagnostics, enrichment_found, List.filter_map, List.filter_map, List.map_map, List.map_map]
  have hfilter : (scan.built.devices.filter ((fun host : Str × HostDiagnostics => !host.2.enriched) ∘
      fun d => (d.ipAddress, scan.diagnosis u d))) =
      scan.built.devices.filter ((fun d => !hasEvidence d) ∘ scan.enriched u) := by
    apply List.filter_congr
    intro d _
    simp only [Function.comp_apply, (scan.diagnosed u d).enriched]
  rw [hfilter]
  apply List.map_congr_left
  intro d hd
  have hdark := (List.mem_filter.mp hd).2
  simp only [Function.comp_apply, Bool.not_eq_eq_eq_not, Bool.not_true] at hdark ⊢
  rw [(scan.diagnosed u d).dark (by rw [(scan.diagnosed u d).enriched, hdark])]
  rfl

theorem countP_parts (hosts : List HostDiagnostics)
    (h : ∀ host ∈ hosts, host.enriched = (host.hasServiceEvidence || (host.hasSmbIdentity || host.hasRdpIdentity))) :
    hosts.countP (·.enriched) ≤ hosts.countP (·.hasServiceEvidence) + hosts.countP (·.hasSmbIdentity) +
        hosts.countP (·.hasRdpIdentity) ∧
      hosts.countP (·.hasSmbIdentity) ≤ hosts.countP (·.enriched) ∧
      hosts.countP (·.hasRdpIdentity) ≤ hosts.countP (·.enriched) := by
  refine ⟨?_, ?_, ?_⟩
  · induction hosts with
    | nil => exact le_refl _
    | cons host hosts ih =>
      obtain ⟨hhost, hrest⟩ := List.forall_mem_cons.mp h
      have hle := ih hrest
      simp only [List.countP_cons, hhost]
      cases host.hasServiceEvidence <;> cases host.hasSmbIdentity <;> cases host.hasRdpIdentity <;> simp <;> omega
  · exact List.countP_mono_left fun host hhost hsmb => by simp [h host hhost, hsmb]
  · exact List.countP_mono_left fun host hhost hrdp => by simp [h host hhost, hrdp]

theorem enrichment_summarizes (hprofile : scan.scanProfile ≠ .fast) :
    Summarizes scan.scanProfile scan.enrichmentData (scan.discoverWithEnrichmentRun u fl).found.devices
      (DiscoverySummary.fromRunDiagnostics (scan.discoverWithEnrichmentRun u fl).runDiagnostics)
      (darkHosts (scan.discoverWithEnrichmentRun u fl).runDiagnostics) := by
  have hparts : ∀ host ∈ (scan.discoverWithEnrichmentRun u fl).runDiagnostics.hostDiagnostics.values,
      host.enriched = (host.hasServiceEvidence || (host.hasSmbIdentity || host.hasRdpIdentity)) := by
    unfold Dict.values
    rw [enrichment_hostDiagnostics, List.map_map]
    intro host hhost
    obtain ⟨d, -, rfl⟩ := List.mem_map.mp hhost
    exact (scan.diagnosed u d).parts
  obtain ⟨hsum, hsmb, hrdp⟩ := countP_parts _ hparts
  exact {
    discovered := scan.enrichment_discovered u fl
    enriched := scan.enrichment_counts u fl _ _ fun d => (scan.diagnosed u d).enriched
    serviceEvidence := scan.enrichment_counts u fl _ _ fun d => (scan.diagnosed u d).serviceEvidence
    httpTitles := scan.enrichment_counts u fl _ _ fun d => (scan.diagnosed u d).httpTitle
    tlsCertificates := scan.enrichment_counts u fl _ _ fun d => (scan.diagnosed u d).tlsCertificate
    httpAuthRealms := scan.enrichment_counts u fl _ _ fun d => (scan.diagnosed u d).httpAuthRealm
    smbIdentity := by
      rw [if_neg hprofile]
      exact scan.enrichment_counts u fl _ _ fun d => (scan.diagnosed u d).smbIdentity
    rdpIdentity := by
      rw [if_neg hprofile]
      exact scan.enrichment_counts u fl _ _ fun d => (scan.diagnosed u d).rdpIdentity
    parts := hsum
    smb_le := hsmb
    rdp_le := hrdp
    dark := by rw [if_neg hprofile, enrichment_dark] }

theorem single_pass_summarizes (hprofile : scan.scanProfile = .fast) :
    Summarizes scan.scanProfile scan.enrichmentData (scan.discoverSinglePassRun fl).found.devices
      (DiscoverySummary.fromRunDiagnostics (scan.discoverSinglePassRun fl).runDiagnostics)
      (darkHosts (scan.discoverSinglePassRun fl).runDiagnostics) := by
  have hbare : ∀ d ∈ scan.built.devices, d.services = [] := by
    intro d hd
    rw [built_eq, NmapProvider.discoverSinglePass, List.mem_map] at hd
    obtain ⟨host, -, rfl⟩ := hd
    rfl
  have hnone : ∀ g : Device → Bool, (∀ d ∈ scan.built.devices, g d = false) → 0 = scan.built.devices.countP g := by
    intro g hg
    exact (List.countP_eq_zero.mpr fun d hd => by rw [hg d hd]; exact Bool.false_ne_true).symm
  exact {
    discovered := rfl
    enriched := hnone _ (scan.built_dark)
    serviceEvidence := hnone _ fun d hd => by simp [hbare d hd]
    httpTitles := hnone _ fun d hd => by simp [hbare d hd]
    tlsCertificates := hnone _ fun d hd => by simp [hbare d hd]
    httpAuthRealms := hnone _ fun d hd => by simp [hbare d hd]
    smbIdentity := by rw [if_pos hprofile]; rfl
    rdpIdentity := by rw [if_pos hprofile]; rfl
    parts := Nat.zero_le _
    smb_le := le_refl _
    rdp_le := le_refl _
    dark := by rw [if_pos hprofile]; rfl }

/-- What the operator is told about a run is what can be counted on the devices that it returns. -/
theorem summary_summarizes :
    Summarizes scan.scanProfile scan.enrichmentData (scan.toNmapProvider.discover u).devices
      (DiscoverySummary.fromRunDiagnostics (scan.discoverRun u fl).runDiagnostics)
      (darkHosts (scan.discoverRun u fl).runDiagnostics) := by
  rw [← discoverRun_found u fl scan]
  by_cases hprofile : scan.scanProfile = .fast
  · rw [discoverRun_fast u fl scan hprofile]
    exact scan.single_pass_summarizes fl hprofile
  · rw [discoverRun_enrichment u fl scan hprofile]
    exact scan.enrichment_summarizes u fl hprofile

end NmapRun

end NetworkMapper
