import NetworkMapper.Classification.Matching
import NetworkMapper.Discovery.SnmpProvider

/-!
# More evidence

No rule tests that some evidence is missing. A device that gets more of it keeps
its rule, or gets an earlier one.
-/

open Python

namespace NetworkMapper

/-- A value that is there stays. -/
def Fills (a b : Option Str) : Prop := ∀ v, a = some v → b = some v

/-- `e` has all the evidence of `d`, and may have more. -/
structure Extends (d e : Device) : Prop where
  hostname : Fills d.hostname e.hostname
  macAddress : Fills d.macAddress e.macAddress
  vendor : Fills d.vendor e.vendor
  operatingSystem : Fills d.operatingSystem e.operatingSystem
  computerName : Fills d.computerName e.computerName
  domain : Fills d.domain e.domain
  smbSigning : Fills d.smbSigning e.smbSigning
  snmpSysDescr : Fills d.snmpSysDescr e.snmpSysDescr
  snmpSysObjectId : Fills d.snmpSysObjectId e.snmpSysObjectId
  snmpSysUptime : Fills d.snmpSysUptime e.snmpSysUptime
  snmpSysContact : Fills d.snmpSysContact e.snmpSysContact
  snmpSysLocation : Fills d.snmpSysLocation e.snmpSysLocation
  services : d.services ⊆ e.services

/-- A condition that more evidence does not end. -/
def Grows (P : Device → Prop) : Prop := ∀ d e, Extends d e → P d → P e

/-! ## Evidence -/

theorem grows_field (field : Device → Option Str) (hfield : ∀ d e, Extends d e → Fills (field d) (field e))
    (P : Option Str → Prop) (hnone : ¬ P none) : Grows fun d => P (field d) := by
  intro d e h hp
  cases hd : field d with
  | none =>
    rw [hd] at hp
    exact absurd hp hnone
  | some v =>
    rw [hfield d e h v hd, ← hd]
    exact hp

section Evidence

variable (u : Unicode)

theorem findSome?_mono {α β : Type} {f : α → Option β} {items items' : List α} (h : items ⊆ items')
    (hsome : items.findSome? f ≠ none) : items'.findSome? f ≠ none := by
  simp only [← Option.isSome_iff_ne_none, List.isSome_findSome?, List.any_eq_true] at *
  obtain ⟨item, hitem, hfound⟩ := hsome
  exact ⟨item, h hitem, hfound⟩

theorem normalizeText_none (stripped : Bool) : normalizeText u stripped none = [] := by
  unfold normalizeText
  cases stripped
  · exact u.lower_nil
  · exact u.lower_nil

theorem grows_vendor (stripped : Bool) (P : Str → Prop) (hnil : ¬ P []) :
    Grows fun d => P (normalizeVendor u d.vendor stripped) :=
  grows_field Device.vendor (fun _ _ h => h.vendor) (fun v => P (normalizeText u stripped v))
    (by rw [normalizeText_none]; exact hnil)

theorem grows_hostname (stripped : Bool) (P : Str → Prop) (hnil : ¬ P []) :
    Grows fun d => P (normalizeHostname u d.hostname stripped) :=
  grows_field Device.hostname (fun _ _ h => h.hostname) (fun v => P (normalizeText u stripped v))
    (by rw [normalizeText_none]; exact hnil)

theorem grows_operatingSystem (P : Str → Prop) (hnil : ¬ P []) :
    Grows fun d => P (normalizeOperatingSystem u d.operatingSystem) :=
  grows_field Device.operatingSystem (fun _ _ h => h.operatingSystem) (fun v => P (normalizeText u true v))
    (by rw [normalizeText_none]; exact hnil)

theorem firstContaining_mono {values values' : List (Option Str)} (keywords : List Str)
    (h : ∀ v, some v ∈ values → some v ∈ values') (hsome : (firstContaining u values keywords).isSome) :
    (firstContaining u values' keywords).isSome := by
  rw [firstContaining_isSome] at *
  obtain ⟨v, hv, hkeyword⟩ := hsome
  exact ⟨v, h v hv, hkeyword⟩

theorem firstMatchingIdentifier_mono {services services' : List ServiceEvidence} {sysDescr sysDescr' : Option Str}
    (keywords : List Str) (hservices : services ⊆ services') (hsysDescr : Fills sysDescr sysDescr')
    (hsome : (firstMatchingIdentifier u services keywords sysDescr).isSome) :
    (firstMatchingIdentifier u services' keywords sysDescr').isSome := by
  rw [firstMatchingIdentifier_isSome] at *
  obtain ⟨v, hv, hkeyword⟩ := hsome
  refine ⟨v, ?_, hkeyword⟩
  unfold identifierTexts at *
  rw [List.mem_append, List.mem_singleton] at *
  rcases hv with hv | hv
  · obtain ⟨e, he, hv⟩ := List.mem_flatMap.mp hv
    exact .inl (List.mem_flatMap.mpr ⟨e, hservices he, hv⟩)
  · exact .inr (hsysDescr v hv.symm).symm

theorem grows_identifier (keywords : List Str) :
    Grows fun d => (firstMatchingIdentifier u d.services keywords d.snmpSysDescr).isSome :=
  fun _ _ h => firstMatchingIdentifier_mono u keywords h.services h.snmpSysDescr

theorem grows_port (ports : List Int) : Grows fun d => firstMatchingPort (servicePorts d.services) ports ≠ none := by
  intro d e h
  unfold firstMatchingPort servicePorts
  simp only [← Option.isSome_iff_ne_none, List.find?_isSome]
  rintro ⟨port, hport, hmatch⟩
  exact ⟨port, List.map_subset _ h.services hport, hmatch⟩

theorem grows_service (names : List Str) (returnLower : Bool) :
    Grows fun d => firstMatchingService u (serviceNames d.services) names returnLower ≠ none :=
  fun _ _ h => findSome?_mono (List.filterMap_subset _ h.services)

theorem grows_apHostname (P : Str → Prop) :
    Grows fun d => strip (d.hostname.getD []) ≠ [] ∧ P (normalizeHostname u d.hostname true) :=
  grows_field Device.hostname (fun _ _ h => h.hostname)
    (fun v => strip (v.getD []) ≠ [] ∧ P (normalizeHostname u v true)) (fun h => h.1 rfl)

theorem grows_guestPortal : Grows fun d => (UbiquitiAccessPointRule.findGuestPortalIdentifier u d).isSome := by
  intro d e h
  apply firstContaining_mono
  intro v hv
  exact List.map_subset _ (List.filterMap_subset _ h.services) hv

theorem grows_printerIdentifier : Grows fun d => (PrinterVendorRule.findPrinterVendorIdentifier u d).isSome :=
  fun _ _ h => firstMatchingIdentifier_mono u _ (List.map_subset _ h.services) h.snmpSysDescr

theorem extends_keepsEvidence : KeepsEvidence u Extends where
  vendor := grows_vendor u
  hostname := grows_hostname u
  strippedHostname := grows_apHostname u
  operatingSystem := grows_operatingSystem u
  identifier := grows_identifier u
  port := grows_port
  service := grows_service u
  guestPortal := grows_guestPortal u
  printerIdentifier := grows_printerIdentifier u
  printerPort := fun _ _ h => findSome?_mono h.services
  printerService := fun _ _ h => findSome?_mono h.services

end Evidence

/-! ## Verdicts -/

section Growth

variable (u : Unicode)

/-- What `d` was classified as is not lost on `e`, and an earlier rule or the same one decides about `e`. -/
structure KeepsVerdict (d e : Device) : Prop where
  earlier : firstMatching u e ≤ firstMatching u d
  decided : ∀ classifier : DeviceClassifier, (classifier.classify u d).2.deviceType ≠ .unknown →
    (classifier.classify u e).2.deviceType ≠ .unknown
  verdict : ∀ classifier : DeviceClassifier, (classifier.classify u e).2.deviceType =
    (classificationRules[firstMatching u e]?.bind fun rule => (rule.classify u e).suggestedDeviceType).getD .unknown

theorem keepsVerdict {d e : Device} (h : Extends d e) : KeepsVerdict u d e := by
  have hgrow : ∀ rule ∈ classificationRules, (rule.classify u d).matched = true →
      (rule.classify u e).matched = true := fun rule hrule => rules_kept (extends_keepsEvidence u) rule hrule d e h
  refine ⟨List.findIdx_le_findIdx hgrow, ?_, fun classifier => classify_verdict u classifier e⟩
  intro classifier
  rw [known_iff, known_iff]
  rintro ⟨rule, hrule, hmatched⟩
  exact ⟨rule, hrule, hgrow rule hrule hmatched⟩

end Growth

/-! ## The system group -/

theorem Fills.refl (a : Option Str) : Fills a a := fun _ => id

theorem Extends.refl (d : Device) : Extends d d :=
  ⟨.refl _, .refl _, .refl _, .refl _, .refl _, .refl _, .refl _, .refl _, .refl _, .refl _, .refl _, .refl _,
    List.Subset.refl _⟩

theorem Fills.trans {a b c : Option Str} (hab : Fills a b) (hbc : Fills b c) : Fills a c :=
  fun v h => hbc v (hab v h)

theorem Extends.trans {d e f : Device} (hde : Extends d e) (hef : Extends e f) : Extends d f where
  hostname := hde.hostname.trans hef.hostname
  macAddress := hde.macAddress.trans hef.macAddress
  vendor := hde.vendor.trans hef.vendor
  operatingSystem := hde.operatingSystem.trans hef.operatingSystem
  computerName := hde.computerName.trans hef.computerName
  domain := hde.domain.trans hef.domain
  smbSigning := hde.smbSigning.trans hef.smbSigning
  snmpSysDescr := hde.snmpSysDescr.trans hef.snmpSysDescr
  snmpSysObjectId := hde.snmpSysObjectId.trans hef.snmpSysObjectId
  snmpSysUptime := hde.snmpSysUptime.trans hef.snmpSysUptime
  snmpSysContact := hde.snmpSysContact.trans hef.snmpSysContact
  snmpSysLocation := hde.snmpSysLocation.trans hef.snmpSysLocation
  services := List.Subset.trans hde.services hef.services

namespace SnmpEnrichmentProvider

theorem set_extends {device : Device} {target : SnmpAttribute} (value : Str)
    (hnone : (target.get device).isNone = true) : Extends device (target.set device value) := by
  rw [Option.isNone_iff_eq_none] at hnone
  have hfills : ∀ a : Option Str, a = none → Fills a (some value) := by
    rintro a rfl v hv
    cases hv
  cases target
  · exact { Extends.refl device with hostname := hfills _ hnone }
  · exact { Extends.refl device with snmpSysDescr := hfills _ hnone }
  · exact { Extends.refl device with snmpSysObjectId := hfills _ hnone }
  · exact { Extends.refl device with snmpSysUptime := hfills _ hnone }
  · exact { Extends.refl device with snmpSysContact := hfills _ hnone }
  · exact { Extends.refl device with snmpSysLocation := hfills _ hnone }

theorem merge_extends (device : Device) (fields : List (Str × Str)) : Extends device (merge device fields).1 := by
  induction fields generalizing device with
  | nil => exact .refl device
  | cons field fields ih =>
    unfold merge
    split
    · exact .refl device
    · split_ifs with hnone
      · exact (set_extends field.2 hnone).trans (ih _)
      · exact ih device

theorem enrichDevice_extends (session : SnmpSession SnmpHostResult) (device : Device) :
    Extends device (enrichDevice session device).1 := by
  have hsource : ∀ d : Device, Extends d (addSource d) := by
    intro d
    unfold addSource
    split
    · exact .refl d
    · exact { Extends.refl d with }
  have hmerge := merge_extends device (session.queryHost (SnmpHostResult.mk false []) device.ipAddress).fields
  unfold enrichDevice
  simp only
  split
  · split <;> rename_i h <;> rw [h] at hmerge
    · exact hmerge.trans (hsource _)
    · exact hmerge
  · exact .refl device

end SnmpEnrichmentProvider

/-- More evidence never takes the classification of a device away, and all that the system group does to a
device is to add evidence. -/
theorem enrichment_keeps_verdict (u : Unicode) :
    (∀ d e, Extends d e → KeepsVerdict u d e) ∧
    ∀ session device, Extends device (SnmpEnrichmentProvider.enrichDevice session device).1 ∧
      KeepsVerdict u device (SnmpEnrichmentProvider.enrichDevice session device).1 :=
  ⟨fun _ _ h => keepsVerdict u h, fun session device =>
    ⟨SnmpEnrichmentProvider.enrichDevice_extends session device,
      keepsVerdict u (SnmpEnrichmentProvider.enrichDevice_extends session device)⟩⟩

/-- A switch by its vendor. -/
def sampleSwitch : Device := { ipAddress := str "192.0.2.20", vendor := some (str "Cisco Systems") }

/-- The same device with the name and the service of a server. -/
def sampleNamed : Device :=
  { sampleSwitch with hostname := some (str "SRV-01"), services := [{ port := 443, protocol := str "tcp" }] }

theorem enrichment_keeps_verdict_sample : KeepsVerdict ascii sampleSwitch sampleNamed := by
  refine (enrichment_keeps_verdict ascii).1 sampleSwitch sampleNamed
    { Extends.refl sampleSwitch with hostname := ?_, services := List.nil_subset _ }
  intro v hv
  cases hv

end NetworkMapper
