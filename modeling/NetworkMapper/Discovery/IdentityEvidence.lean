import NetworkMapper.Discovery.Isolation
import NetworkMapper.Discovery.NmapProvider
import NetworkMapper.Discovery.SnmpProvider
import NetworkMapper.Identity.Spec
import NetworkMapper.Python.Raising

/-!
# The evidence of what is displayed

A provider writes an attribute and appends an observation at two places. The
two must agree, and a value that lost to another source must not be lost.
-/

open Python

namespace NetworkMapper

namespace IdentityEvidence

/-- An observation of the value, about the subject. -/
def Retained (observations : List Observation) (subject propertyName value : Str) : Prop :=
  ∃ provenance, .identity ⟨subject, propertyName, value, provenance⟩ ∈ observations

/-- The value is among those that the resolver shows for the property of the subject. -/
def Shown (identities : List CanonicalIdentity) (subject propertyName value : Str) : Prop :=
  ∃ i ∈ identities, i.subject = subject ∧ ∃ p ∈ i.properties, p.propertyName = propertyName ∧
    ∃ o ∈ p.observations, o.value = value

/-- The attributes of a device that identity observations are emitted for. -/
def identityAttributes (device : Device) : List (Str × Option Str) :=
  [(str "hostname", device.hostname), (str "mac_address", device.macAddress),
    (str "computer_name", device.computerName), (str "domain", device.domain)]

/-- What the first scan says about a host: the address, the property and the value. -/
def hostReports (ip : Str) (hostData : HostData) : List (Str × Str × Option Str) :=
  [(ip, str "hostname", NmapProvider.extractHostname hostData),
    (ip, str "mac_address", NmapProvider.extractMacAddress hostData)]

/-- What the second scan says about a host, SMB and RDP each for itself. -/
def enrichmentReports (ip : Str) (hostData : HostData) : List (Str × Str × Option Str) :=
  let smbIdentity := NmapProvider.extractSmbIdentity hostData
  let rdpIdentity := NmapProvider.extractRdpIdentity hostData
  [(ip, str "computer_name", smbIdentity.computerName), (ip, str "computer_name", rdpIdentity.computerName),
    (ip, str "domain", smbIdentity.domain), (ip, str "domain", rdpIdentity.domain)]

/-- Every subject, property and value that the scans report, in the order they are asked. -/
def nmapReports (provider : NmapProvider) : List (Str × Str × Option Str) :=
  (provider.discoveryScan.entries.flatMap fun (ip, hostData) => hostReports ip hostData) ++
  match provider.scanProfile with
  | .fast => []
  | .standard | .deep => provider.discoveryScan.entries.flatMap fun (ip, _) =>
    enrichmentReports ip (provider.enrichmentData ip)

/-- What the agent at an address answers. -/
def sysName (session : SystemSession) (ip : Str) : Option Str :=
  (PysnmpClient.getSystemGroup (session.responses ip)).fields.lookup (str "sysName")

theorem Retained.mono {observations observations' : List Observation} {subject propertyName value : Str}
    (h : Retained observations subject propertyName value) (hsub : observations ⊆ observations') :
    Retained observations' subject propertyName value := by
  obtain ⟨provenance, hmem⟩ := h
  exact ⟨provenance, hsub hmem⟩

theorem Retained.shown {observations : List Observation} {subject propertyName value : Str}
    (h : Retained observations subject propertyName value) :
    Shown (IdentityResolver.resolve observations) subject propertyName value := by
  obtain ⟨provenance, hmem⟩ := h
  obtain ⟨i, hi, hsubject, p, hp, hname, ho⟩ := IdentityResolver.resolve_retains observations _ hmem
  exact ⟨i, hi, hsubject, p, hp, hname, _, ho, rfl⟩

/-! ## Nmap -/

theorem emit_retained (provider : NmapProvider) (subject propertyName collectionMethod value : Str) (hv : value ≠ []) :
    Retained (provider.emitIdentityObservation subject propertyName (some value) collectionMethod) subject
      propertyName value := by
  unfold NmapProvider.emitIdentityObservation
  cases value with
  | nil => exact absurd rfl hv
  | cons c value => exact ⟨_, List.mem_singleton.mpr rfl⟩

theorem hostReports_retained (provider : NmapProvider) {ip subject propertyName value : Str} {hostData : HostData}
    (h : (subject, propertyName, some value) ∈ hostReports ip hostData) (hv : value ≠ []) :
    Retained (provider.buildObservations ip hostData) subject propertyName value := by
  unfold hostReports at h
  unfold NmapProvider.buildObservations
  simp only [List.mem_cons, List.not_mem_nil, or_false, Prod.mk.injEq] at h
  rcases h with ⟨rfl, rfl, h⟩ | ⟨rfl, rfl, h⟩
  · rw [← h]
    exact (emit_retained provider _ _ _ _ hv).mono (List.subset_append_left _ _)
  · rw [← h]
    exact (emit_retained provider _ _ _ _ hv).mono (List.subset_append_right _ _)

theorem enrichmentReports_retained (provider : NmapProvider) {ip subject propertyName value : Str}
    {hostData : HostData} (h : (subject, propertyName, some value) ∈ enrichmentReports ip hostData) (hv : value ≠ []) :
    Retained (provider.enrichObservations ip hostData) subject propertyName value := by
  unfold enrichmentReports at h
  unfold NmapProvider.enrichObservations
  simp only [List.mem_cons, List.not_mem_nil, or_false, Prod.mk.injEq] at h
  have hemit := fun name method => emit_retained provider ip name method value hv
  rcases h with ⟨rfl, rfl, h⟩ | ⟨rfl, rfl, h⟩ | ⟨rfl, rfl, h⟩ | ⟨rfl, rfl, h⟩ <;> simp only [← h]
  · exact (hemit _ (str "smb-os-discovery")).mono fun o ho => by simp [ho]
  · exact (hemit _ (str "rdp-ntlm-info")).mono fun o ho => by simp [ho]
  · exact (hemit _ (str "smb-os-discovery")).mono fun o ho => by simp [ho]
  · exact (hemit _ (str "rdp-ntlm-info")).mono fun o ho => by simp [ho]

theorem nmapReports_retained (u : Unicode) (provider : NmapProvider) {ip propertyName value : Str}
    (h : (ip, propertyName, some value) ∈ nmapReports provider) (hv : value ≠ []) :
    Retained (provider.discover u).observations ip propertyName value := by
  have hfirst : ∀ subject hostData, (subject, hostData) ∈ provider.discoveryScan.entries →
      (ip, propertyName, some value) ∈ hostReports subject hostData →
      Retained (provider.discoveryScan.entries.flatMap fun (ip, hostData) => provider.buildObservations ip hostData) ip
        propertyName value := by
    intro subject hostData hmem hreport
    exact (hostReports_retained provider hreport hv).mono fun o ho => List.mem_flatMap.mpr ⟨_, hmem, ho⟩
  have hsecond : ∀ subject hostData, (subject, hostData) ∈ provider.discoveryScan.entries →
      (ip, propertyName, some value) ∈ enrichmentReports subject (provider.enrichmentData subject) →
      Retained (provider.discoveryScan.entries.flatMap fun (ip, _) =>
        provider.enrichObservations ip (provider.enrichmentData ip)) ip propertyName value := by
    intro subject hostData hmem hreport
    exact (enrichmentReports_retained provider hreport hv).mono fun o ho => List.mem_flatMap.mpr ⟨_, hmem, ho⟩
  unfold nmapReports at h
  rw [List.mem_append, List.mem_flatMap] at h
  unfold NmapProvider.discover
  rcases h with ⟨⟨subject, hostData⟩, hmem, hreport⟩ | h
  · have := hfirst subject hostData hmem hreport
    cases provider.scanProfile
    · exact this
    · exact this.mono (List.subset_append_left _ _)
    · exact this.mono (List.subset_append_left _ _)
  · cases hprofile : provider.scanProfile with
    | fast =>
      rw [hprofile] at h
      cases h
    | standard | deep =>
      rw [hprofile, List.mem_flatMap] at h
      obtain ⟨⟨subject, hostData⟩, hmem, hreport⟩ := h
      exact (hsecond subject hostData hmem hreport).mono (List.subset_append_right _ _)

theorem orElse_cases (a b : Option Str) : orElse a b = a ∨ orElse a b = b := by
  unfold orElse
  split
  · exact Or.inl rfl
  · exact Or.inr rfl

theorem attributes_reported (u : Unicode) (provider : NmapProvider) (device : Device)
    (hd : device ∈ (provider.discover u).devices) {propertyName value : Str}
    (h : (propertyName, some value) ∈ identityAttributes device) :
    (device.ipAddress, propertyName, some value) ∈ nmapReports provider := by
  have hfirst : ∀ ip hostData, (propertyName, some value) ∈
      [(str "hostname", NmapProvider.extractHostname hostData),
        (str "mac_address", NmapProvider.extractMacAddress hostData)] →
      (ip, propertyName, some value) ∈ hostReports ip hostData := by
    intro ip hostData hmem
    exact List.mem_map_of_mem (f := fun a => (ip, a)) hmem
  have hsecond : ∀ ip hostData, (propertyName, some value) ∈
      identityAttributes (NmapProvider.enrichDevice u (NmapProvider.buildDevice ip hostData)
        (provider.enrichmentData ip)) →
      (ip, propertyName, some value) ∈ hostReports ip hostData ∨
        (ip, propertyName, some value) ∈ enrichmentReports ip (provider.enrichmentData ip) := by
    intro ip hostData hmem
    unfold identityAttributes NmapProvider.enrichDevice NmapProvider.buildDevice at hmem
    have hname := orElse_cases (NmapProvider.extractSmbIdentity (provider.enrichmentData ip)).computerName
      (NmapProvider.extractRdpIdentity (provider.enrichmentData ip)).computerName
    have hdomain := orElse_cases (NmapProvider.extractSmbIdentity (provider.enrichmentData ip)).domain
      (NmapProvider.extractRdpIdentity (provider.enrichmentData ip)).domain
    unfold hostReports enrichmentReports
    simp only [List.mem_cons, List.not_mem_nil, or_false, Prod.mk.injEq, true_and] at hmem ⊢
    rcases hmem with hmem | hmem | ⟨rfl, hmem⟩ | ⟨rfl, hmem⟩
    · exact Or.inl (Or.inl hmem)
    · exact Or.inl (Or.inr hmem)
    · right
      rcases hname with hname | hname <;> rw [hname] at hmem <;> simp [hmem]
    · right
      rcases hdomain with hdomain | hdomain <;> rw [hdomain] at hmem <;> simp [hmem]
  unfold nmapReports
  rw [List.mem_append, List.mem_flatMap]
  unfold NmapProvider.discover at hd
  cases hprofile : provider.scanProfile with
  | fast =>
    rw [hprofile] at hd
    obtain ⟨⟨ip, hostData⟩, hmem, rfl⟩ := List.mem_map.mp hd
    refine Or.inl ⟨_, hmem, hfirst ip hostData ?_⟩
    unfold identityAttributes NmapProvider.buildDevice at h
    simpa using h
  | standard | deep =>
    rw [hprofile] at hd
    obtain ⟨⟨ip, hostData⟩, hmem, rfl⟩ := List.mem_map.mp hd
    exact (hsecond ip hostData h).imp (fun hreport => ⟨_, hmem, hreport⟩) fun hreport =>
      List.mem_flatMap.mpr ⟨_, hmem, hreport⟩

/-! ## The system group -/

open SnmpEnrichmentProvider

theorem set_attributes (device : Device) (target : SnmpAttribute) (written : Str) {propertyName value : Str}
    (h : (propertyName, some value) ∈ identityAttributes (target.set device written)) :
    (propertyName, some value) ∈ identityAttributes device ∨
      (target = .hostname ∧ propertyName = str "hostname" ∧ value = written) := by
  unfold identityAttributes at *
  cases target with
  | hostname =>
    rcases List.mem_cons.mp h with h | h
    · rw [Prod.mk.injEq] at h
      exact Or.inr ⟨rfl, h.1, Option.some.inj h.2⟩
    · exact Or.inl (List.mem_cons_of_mem _ h)
  | _ => exact Or.inl h

theorem merge_attributes (device : Device) (fields : List (Str × Str)) {propertyName value : Str}
    (h : (propertyName, some value) ∈ identityAttributes (merge device fields).1) :
    (propertyName, some value) ∈ identityAttributes device ∨
      (propertyName = str "hostname" ∧ (str "sysName", value) ∈ fields) := by
  -- All that a merge writes is the system name, into the hostname.
  induction fields generalizing device with
  | nil => exact Or.inl h
  | cons field fields ih =>
    obtain ⟨name, written⟩ := field
    unfold merge at h
    cases htarget : fieldToDeviceAttribute.lookup name with
    | none =>
      simp only [htarget] at h
      exact Or.inl h
    | some target =>
      simp only [htarget] at h
      rcases ih _ h with h | ⟨hname, hmem⟩
      · split_ifs at h
        · rcases set_attributes device target written h with h | ⟨rfl, hname, rfl⟩
          · exact Or.inl h
          · have hsysName := mem_of_lookup _ _ _ htarget
            unfold fieldToDeviceAttribute at hsysName
            simp only [List.mem_cons, List.not_mem_nil, or_false, Prod.mk.injEq, reduceCtorEq, and_true, and_false]
              at hsysName
            rw [hsysName]
            exact Or.inr ⟨hname, List.mem_cons_self⟩
        · exact Or.inl h
      · exact Or.inr ⟨hname, List.mem_cons_of_mem _ hmem⟩

/-- What the system provider does to a device. -/
structure Enriched (session : SystemSession) (device enriched : Device) (collected : List Observation) : Prop where
  ipAddress : enriched.ipAddress = device.ipAddress
  attributes : ∀ propertyName value, (propertyName, some value) ∈ identityAttributes enriched →
    (propertyName, some value) ∈ identityAttributes device ∨
      (propertyName = str "hostname" ∧ sysName session device.ipAddress = some value)
  retained : ∀ value, sysName session device.ipAddress = some value → value ≠ [] →
    Retained collected device.ipAddress (str "hostname") value

theorem collect_retained (session : SnmpSession SnmpHostResult) (ip : Str) (fields : List (Str × Str)) {value : Str}
    (h : fields.lookup (str "sysName") = some value) (hv : value ≠ []) :
    Retained (collectIdentityObservations session ip fields) ip (str "hostname") value := by
  refine ⟨session.provenance (str "sysName"), ?_⟩
  unfold collectIdentityObservations identityFieldToProperty
  rw [List.mem_filterMap]
  refine ⟨_, List.mem_singleton.mpr rfl, ?_⟩
  cases value with
  | nil => exact absurd rfl hv
  | cons c value => simp only [h]

theorem enrichDevice_enriched (session : SystemSession) (device : Device) :
    ∃ collected, (enrichDevice session.session device).2 = some collected ∧
      Enriched session device (enrichDevice session.session device).1 collected := by
  have hip := enrichDevice_ipAddress session.session device
  have hresult : session.session.queryHost (SnmpHostResult.mk false []) device.ipAddress =
      PysnmpClient.getSystemGroup (session.responses device.ipAddress) := rfl
  have hnodup := (PysnmpClient.systemGroup_names (session.responses device.ipAddress)).nodup
    (show (PysnmpClient.systemGroupOids.map Prod.fst).Nodup by decide)
  have htotal := merge_total device _ (getSystemGroup_known (session.responses device.ipAddress))
  have hsource : ∀ d : Device, identityAttributes (addSource d) = identityAttributes d := by
    intro d
    unfold addSource
    split <;> rfl
  by_cases hresponded : (PysnmpClient.getSystemGroup (session.responses device.ipAddress)).responded = true
  · have henrich : enrichDevice session.session device =
        (addSource (merge device (PysnmpClient.getSystemGroup (session.responses device.ipAddress)).fields).1,
          some (collectIdentityObservations session.session device.ipAddress
            (PysnmpClient.getSystemGroup (session.responses device.ipAddress)).fields)) := by
      unfold enrichDevice
      rw [hresult]
      simp only [hresponded, if_true]
      cases hmerge : merge device (PysnmpClient.getSystemGroup (session.responses device.ipAddress)).fields with
      | mk merged total =>
        rw [hmerge] at htotal
        simp only at htotal
        rw [htotal]
    rw [henrich] at hip ⊢
    refine ⟨_, rfl, hip, ?_, ?_⟩
    · intro propertyName value h
      rw [hsource] at h
      refine (merge_attributes device _ h).imp_right fun h => ⟨h.1, ?_⟩
      exact lookup_of_mem _ hnodup _ _ h.2
    · intro value hvalue hv
      exact collect_retained session.session device.ipAddress _ hvalue hv
  · have hfields : (PysnmpClient.getSystemGroup (session.responses device.ipAddress)).fields = [] := by
      cases hresponse : session.responses device.ipAddress with
      | varBinds values =>
        rw [hresponse] at hresponded
        unfold PysnmpClient.getSystemGroup at hresponded ⊢
        simp only at hresponded ⊢
        split_ifs at hresponded ⊢ with hempty
        · rfl
        · exact absurd rfl hresponded
      | _ => rfl
    have henrich : enrichDevice session.session device = (device, some []) := by
      unfold enrichDevice
      rw [hresult]
      simp only [hresponded, Bool.false_eq_true, if_false]
    rw [henrich]
    refine ⟨[], rfl, rfl, fun _ _ => Or.inl, ?_⟩
    intro value hvalue
    unfold sysName at hvalue
    rw [hfields] at hvalue
    cases hvalue

theorem enrich_enriched (session : SystemSession) (devices : List Device) :
    ∃ observations, (enrich session.session devices).2 = some observations ∧
      List.Forall₂ (fun device enriched => ∃ collected ⊆ observations, Enriched session device enriched collected) devices
        (enrich session.session devices).1 := by
  induction devices with
  | nil => exact ⟨[], rfl, .nil⟩
  | cons device devices ih =>
    obtain ⟨collected, hcollected, henriched⟩ := enrichDevice_enriched session device
    obtain ⟨observations, hobservations, hall⟩ := ih
    have henrich : enrich session.session (device :: devices) =
        ((enrichDevice session.session device).1 :: (enrich session.session devices).1,
          some (collected ++ observations)) := by
      cases hdevice : enrichDevice session.session device with
      | mk enriched result =>
        rw [hdevice] at hcollected
        simp only at hcollected
        rw [enrich, hdevice, hcollected]
        simp only [hobservations, Option.map_some]
    rw [henrich]
    refine ⟨_, rfl, .cons ⟨collected, List.subset_append_left _ _, henriched⟩ (hall.imp ?_)⟩
    rintro d e ⟨kept, hkept, h⟩
    exact ⟨kept, List.Subset.trans hkept (List.subset_append_right _ _), h⟩

/-! ## Runs -/

/-- Every identity attribute of a device has its evidence. -/
def Evident (observations : List Observation) (devices : List Device) : Prop :=
  ∀ device ∈ devices, ∀ propertyName value, (propertyName, some value) ∈ identityAttributes device → value ≠ [] →
    Retained observations device.ipAddress propertyName value

theorem enrichStep_evident (σ : DiscoveryEngine.State) (session : SystemSession)
    (h : Evident σ.observations σ.devices) : ∃ collected,
    DiscoveryEngine.enrichStep σ (provider session.session) =
      ⟨σ.observations ++ collected, (enrich session.session σ.devices).1⟩ ∧
    Evident (σ.observations ++ collected) (enrich session.session σ.devices).1 ∧
    ∀ ip ∈ DiscoveryEngine.addresses σ.devices, ∀ value, sysName session ip = some value → value ≠ [] →
      Retained (σ.observations ++ collected) ip (str "hostname") value := by
  obtain ⟨observations, hobservations, hall⟩ := enrich_enriched session σ.devices
  refine ⟨observations, ?_, ?_, ?_⟩
  · unfold DiscoveryEngine.enrichStep provider
    simp only [hobservations, Option.bind_some]
  · intro enriched hmem propertyName value hattribute hv
    obtain ⟨device, hdevice, collected, hsub, henriched⟩ := forall₂_mem_right hall enriched hmem
    rw [henriched.ipAddress]
    rcases henriched.attributes propertyName value hattribute with hattribute | ⟨rfl, hname⟩
    · exact (h device hdevice propertyName value hattribute hv).mono (List.subset_append_left _ _)
    · exact (henriched.retained value hname hv).mono (List.Subset.trans hsub (List.subset_append_right _ _))
  · intro ip hip value hname hv
    obtain ⟨device, hdevice, rfl⟩ := List.mem_map.mp hip
    obtain ⟨enriched, -, collected, hsub, henriched⟩ := forall₂_mem_left hall device hdevice
    exact (henriched.retained value hname hv).mono (List.Subset.trans hsub (List.subset_append_right _ _))

/-- The enrichment providers that query the system group, one for each session. -/
def systemProviders (sessions : List SystemSession) : List EnrichmentProvider :=
  sessions.map fun session => provider session.session

theorem systemProvider_readOnly (session : SystemSession) : DiscoveryEngine.ReadOnly (provider session.session) :=
  fun _ devices => enrich_addresses session.session devices

theorem enrichAll_evident (σ : DiscoveryEngine.State) (sessions : List SystemSession)
    (h : Evident σ.observations σ.devices) :
    σ.observations ⊆ (DiscoveryEngine.enrichAll σ (systemProviders sessions)).observations ∧
    Evident (DiscoveryEngine.enrichAll σ (systemProviders sessions)).observations
      (DiscoveryEngine.enrichAll σ (systemProviders sessions)).devices ∧
    ∀ session ∈ sessions, ∀ ip ∈ DiscoveryEngine.addresses σ.devices, ∀ value, sysName session ip = some value →
      value ≠ [] →
      Retained (DiscoveryEngine.enrichAll σ (systemProviders sessions)).observations ip (str "hostname") value := by
  induction sessions generalizing σ with
  | nil => exact ⟨List.Subset.refl _, h, by simp⟩
  | cons session sessions ih =>
    obtain ⟨collected, hstep, hevident, hretained⟩ := enrichStep_evident σ session h
    have hrun : DiscoveryEngine.enrichAll σ (systemProviders (session :: sessions)) =
        DiscoveryEngine.enrichAll (DiscoveryEngine.enrichStep σ (provider session.session))
          (systemProviders sessions) := rfl
    rw [hrun, hstep]
    obtain ⟨hsub, hlater, hnames⟩ := ih ⟨σ.observations ++ collected, (enrich session.session σ.devices).1⟩ hevident
    refine ⟨List.Subset.trans (List.subset_append_left _ _) hsub, hlater, ?_⟩
    intro s hs ip hip value hname hv
    rcases List.mem_cons.mp hs with rfl | hs
    · exact (hretained ip hip value hname hv).mono hsub
    · refine hnames s hs ip ?_ value hname hv
      show ip ∈ DiscoveryEngine.addresses (enrich session.session σ.devices).1
      rw [enrich_addresses]
      exact hip

/-- The run of an engine with Nmap providers and system providers. -/
def run (u : Unicode) (classify : Device → DeviceType) (providers : List NmapProvider)
    (sessions : List SystemSession) : DiscoveryEngine.Discovery :=
  DiscoveryEngine.discover classify (providers.map (·.discover u)) (systemProviders sessions)

theorem discoverDevices_evident (u : Unicode) (providers : List NmapProvider) :
    Evident (DiscoveryEngine.discoverDevices (providers.map (·.discover u))).observations
      (DiscoveryEngine.discoverDevices (providers.map (·.discover u))).devices := by
  intro device hdevice propertyName value hattribute hv
  have hfound := (DiscoveryEngine.firstPerAddress (providers.map (·.discover u))).first device hdevice
  have hmem := List.mem_of_find?_eq_some hfound
  simp only [List.flatMap_map, List.mem_flatMap] at hmem
  obtain ⟨provider, hprovider, hmem⟩ := hmem
  have hreported := attributes_reported u provider device hmem hattribute
  rw [DiscoveryEngine.discoverDevices_observations]
  refine (nmapReports_retained u provider hreported hv).mono fun o ho => ?_
  exact List.mem_flatMap.mpr ⟨_, List.mem_map_of_mem hprovider, ho⟩

/-- The value has its evidence in the observations, and the resolver shows it. -/
def Evidence (observations : List Observation) (subject propertyName value : Str) : Prop :=
  Retained observations subject propertyName value ∧
    Shown (IdentityResolver.resolve observations) subject propertyName value

/-- Whatever is displayed as the identity of a device has its evidence. So has every other value that was
reported, also where another source was preferred. -/
theorem identities_have_evidence (u : Unicode) (classify : Device → DeviceType) (providers : List NmapProvider)
    (sessions : List SystemSession) :
    (∀ device ∈ (run u classify providers sessions).graph.allDevices, ∀ propertyName value,
      (propertyName, some value) ∈ identityAttributes device → value ≠ [] →
      Evidence (run u classify providers sessions).observations device.ipAddress propertyName value) ∧
    (∀ provider ∈ providers, ∀ ip propertyName value, (ip, propertyName, some value) ∈ nmapReports provider →
      value ≠ [] → Evidence (run u classify providers sessions).observations ip propertyName value) ∧
    ∀ session ∈ sessions, ∀ ip ∈ (run u classify providers sessions).graph.addresses, ∀ value,
      sysName session ip = some value → value ≠ [] →
      Evidence (run u classify providers sessions).observations ip (str "hostname") value := by
  obtain ⟨hsub, hevident, hnames⟩ := enrichAll_evident (DiscoveryEngine.discoverDevices (providers.map (·.discover u)))
    sessions (discoverDevices_evident u providers)
  have haddresses := DiscoveryEngine.enrichAll_addresses
    (DiscoveryEngine.discoverDevices (providers.map (·.discover u))) (systemProviders sessions) fun p hp => by
      obtain ⟨session, -, rfl⟩ := List.mem_map.mp hp
      exact systemProvider_readOnly session
  have hnodup := DiscoveryEngine.firsts_nodup (providers.map (·.discover u))
  rw [← haddresses] at hnodup
  have hgraph := DiscoveryEngine.classifyDevices_allDevices classify _ hnodup
  refine ⟨?_, ?_, ?_⟩
  · intro device hdevice propertyName value hattribute hv
    have hretained : Retained (run u classify providers sessions).observations device.ipAddress propertyName value := by
      unfold run DiscoveryEngine.discover at hdevice
      rw [hgraph] at hdevice
      obtain ⟨d, hd, rfl⟩ := List.mem_map.mp hdevice
      exact hevident d hd propertyName value hattribute hv
    exact ⟨hretained, hretained.shown⟩
  · intro provider hprovider ip propertyName value hreport hv
    have hretained : Retained (run u classify providers sessions).observations ip propertyName value := by
      refine (nmapReports_retained u provider hreport hv).mono fun o ho => hsub ?_
      rw [DiscoveryEngine.discoverDevices_observations]
      exact List.mem_flatMap.mpr ⟨_, List.mem_map_of_mem hprovider, ho⟩
    exact ⟨hretained, hretained.shown⟩
  · intro session hsession ip hip value hname hv
    have hretained : Retained (run u classify providers sessions).observations ip (str "hostname") value := by
      refine hnames session hsession ip ?_ value hname hv
      rw [← haddresses, ← DiscoveryEngine.mem_classifyDevices classify]
      exact hip
    exact ⟨hretained, hretained.shown⟩

end IdentityEvidence

end NetworkMapper
