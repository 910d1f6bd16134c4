import NetworkMapper.Classification.Explanation

/-!
# The rule that decides

When each rule matches, in terms of the evidence, and which rule a verdict comes from.
-/

open Python

namespace NetworkMapper

/-! ## Identifiers -/

theorem truthy_eq_some (a : Option Str) (v : Str) : truthy a = some v ↔ a = some v ∧ v ≠ [] := by
  unfold truthy
  split
  · constructor
    · intro h
      cases h
    · rintro ⟨h, hne⟩
      exact absurd (Option.some.inj h).symm hne
  · rename_i hempty
    constructor
    · rintro rfl
      exact ⟨rfl, fun hnil => hempty (by rw [hnil])⟩
    · exact And.left

/-- The texts that an identifier is looked for in. -/
def identifierTexts (services : List ServiceEvidence) (snmpSysDescr : Option Str) : List (Option Str) :=
  (services.flatMap fun e => [e.product, e.httpTitle, e.tlsSubject, e.tlsIssuer, e.httpAuthRealm]) ++ [snmpSysDescr]

section Identifiers

variable (u : Unicode)

theorem firstContaining_isSome (values : List (Option Str)) (keywords : List Str) :
    (firstContaining u values keywords).isSome ↔
      ∃ v, some v ∈ values ∧ v ≠ [] ∧ containsAny keywords (u.lower v) = true := by
  unfold firstContaining
  simp only [List.find?_isSome, List.mem_filterMap, truthy_eq_some]
  constructor
  · rintro ⟨v, ⟨a, ha, rfl, hne⟩, hkeyword⟩
    exact ⟨v, ha, hne, hkeyword⟩
  · rintro ⟨v, hv, hne, hkeyword⟩
    exact ⟨v, ⟨some v, hv, rfl, hne⟩, hkeyword⟩

theorem firstMatchingIdentifier_isSome (services : List ServiceEvidence) (keywords : List Str)
    (snmpSysDescr : Option Str) : (firstMatchingIdentifier u services keywords snmpSysDescr).isSome ↔
      ∃ v, some v ∈ identifierTexts services snmpSysDescr ∧ v ≠ [] ∧ containsAny keywords (u.lower v) = true := by
  -- Which text is found first depends on the order of the checks, whether one is found does not.
  have hfield : ∀ (field : ServiceEvidence → Option Str) (v : Str),
      some v ∈ (services.filterMap fun e => truthy (field e)).map some ↔
        (∃ e ∈ services, field e = some v) ∧ v ≠ [] := by
    intro field v
    simp only [List.mem_map, List.mem_filterMap, truthy_eq_some, Option.some.injEq, exists_eq_right]
    tauto
  have hproduct : ∀ v, some v ∈ services.map (·.product) ↔ ∃ e ∈ services, e.product = some v :=
    fun v => List.mem_map
  unfold firstMatchingIdentifier identifierChecks identifierTexts serviceHttpTitles serviceTlsSubjects
    serviceTlsIssuers serviceHttpAuthRealms
  simp only [List.isSome_findSome?, List.any_cons, List.any_nil, Option.isSome_map, Bool.or_false, Bool.or_eq_true,
    firstContaining_isSome, hfield, hproduct, List.mem_append, List.mem_flatMap, List.mem_cons, List.not_mem_nil,
    or_false]
  constructor
  · rintro (⟨v, ⟨e, he, hv⟩, h⟩ | ⟨v, ⟨⟨e, he, hv⟩, -⟩, h⟩ | ⟨v, ⟨⟨e, he, hv⟩, -⟩, h⟩ | ⟨v, ⟨⟨e, he, hv⟩, -⟩, h⟩ |
      ⟨v, ⟨⟨e, he, hv⟩, -⟩, h⟩ | ⟨v, hv, h⟩)
    · exact ⟨v, .inl ⟨e, he, .inl hv.symm⟩, h⟩
    · exact ⟨v, .inl ⟨e, he, .inr (.inl hv.symm)⟩, h⟩
    · exact ⟨v, .inl ⟨e, he, .inr (.inr (.inl hv.symm))⟩, h⟩
    · exact ⟨v, .inl ⟨e, he, .inr (.inr (.inr (.inl hv.symm)))⟩, h⟩
    · exact ⟨v, .inl ⟨e, he, .inr (.inr (.inr (.inr hv.symm)))⟩, h⟩
    · exact ⟨v, .inr hv, h⟩
  · rintro ⟨v, ⟨e, he, hv | hv | hv | hv | hv⟩ | hv, h⟩
    · exact .inl ⟨v, ⟨e, he, hv.symm⟩, h⟩
    · exact .inr (.inl ⟨v, ⟨⟨e, he, hv.symm⟩, h.1⟩, h⟩)
    · exact .inr (.inr (.inl ⟨v, ⟨⟨e, he, hv.symm⟩, h.1⟩, h⟩))
    · exact .inr (.inr (.inr (.inl ⟨v, ⟨⟨e, he, hv.symm⟩, h.1⟩, h⟩)))
    · exact .inr (.inr (.inr (.inr (.inl ⟨v, ⟨⟨e, he, hv.symm⟩, h.1⟩, h⟩))))
    · exact .inr (.inr (.inr (.inr (.inr ⟨v, hv, h⟩))))

end Identifiers

/-! ## When each rule matches -/

theorem threeWays_matched {p q : Prop} [Decidable p] [Decidable q] (found : Option (Str × Str))
    (vendor signals missed : Str) (identifier : Str → Str → Str) (deviceType : DeviceType) :
    (if p then RuleResult.hit vendor deviceType
    else match found with
      | some (label, value) => RuleResult.hit (identifier label value) deviceType
      | none => if q then RuleResult.hit signals deviceType else RuleResult.miss missed).matched = true ↔
        p ∨ found.isSome ∨ q := by
  -- The rules that ask for a vendor, then for an identifier, and last for signals.
  by_cases hp : p
  · simp [hp, RuleResult.hit]
  · cases found with
    | some identified => simp [hp, RuleResult.hit]
    | none => by_cases hq : q <;> simp [hp, hq, RuleResult.hit, RuleResult.miss]

section Rules

variable (u : Unicode) (d : Device)

theorem serverHostname_matched : (ServerHostnameRule.classify u d).matched = true ↔
    (contains (str "dc") (normalizeHostname u d.hostname false) = true ∨
      contains (str "cam") (normalizeHostname u d.hostname false) = true) ∨
    containsAny ServerHostnameRule.serverHostnameKeywords (normalizeHostname u d.hostname false) = true := by
  unfold ServerHostnameRule.classify
  simp only
  split_ifs with hnamed hkeyword
  · simp [RuleResult.hit, hnamed]
  · simp [RuleResult.hit, hkeyword]
  · simp [RuleResult.miss, hnamed, hkeyword]

theorem networkAppliance_matched : (NetworkApplianceRule.classify u d).matched = true ↔
    (firstMatchingIdentifier u d.services NetworkApplianceRule.networkApplianceIdentifierKeywords
      d.snmpSysDescr).isSome := by
  unfold NetworkApplianceRule.classify
  split <;> rename_i hidentifier <;> simp [RuleResult.hit, RuleResult.miss, hidentifier]

theorem hypervisorHostname_matched : (HypervisorHostnameRule.classify u d).matched = true ↔
    containsAny HypervisorHostnameRule.hypervisorHostnameKeywords (normalizeHostname u d.hostname false) = true := by
  unfold HypervisorHostnameRule.classify
  simp only
  split <;> rename_i hhostname
  · simpa [RuleResult.miss] using hhostname
  · simpa [RuleResult.hit] using hhostname

theorem ubiquitiAccessPoint_matched : (UbiquitiAccessPointRule.classify u d).matched = true ↔
    normalizeVendor u d.vendor false = str "ubiquiti" ∧
    ((strip (d.hostname.getD []) ≠ [] ∧
      (UbiquitiAccessPointRule.hostnamePrefix (normalizeHostname u d.hostname true) ∈
        UbiquitiAccessPointRule.ubiquitiApHostnamePrefixes ∨
      containsAny UbiquitiAccessPointRule.ubiquitiApHostnameKeywords (normalizeHostname u d.hostname true) = true)) ∨
    (UbiquitiAccessPointRule.findGuestPortalIdentifier u d).isSome) := by
  unfold UbiquitiAccessPointRule.classify
  simp only
  split_ifs with hvendor hstart hkeyword
  · simp [UbiquitiAccessPointRule.notMatched, RuleResult.miss, hvendor]
  · simp only [ne_eq, not_not] at hvendor
    simp [RuleResult.hit, hvendor, hstart.1, hstart.2]
  · simp only [ne_eq, not_not] at hvendor
    simp [RuleResult.hit, hvendor, hkeyword.1, hkeyword.2]
  · simp only [ne_eq, not_not] at hvendor
    split <;> rename_i htitle
    · simp [RuleResult.hit, hvendor, htitle]
    · have hhostname : ¬ (strip (d.hostname.getD []) ≠ [] ∧
          (UbiquitiAccessPointRule.hostnamePrefix (normalizeHostname u d.hostname true) ∈
            UbiquitiAccessPointRule.ubiquitiApHostnamePrefixes ∨
          containsAny UbiquitiAccessPointRule.ubiquitiApHostnameKeywords
            (normalizeHostname u d.hostname true) = true)) := by
        rintro ⟨hne, h | h⟩
        · exact hstart ⟨hne, h⟩
        · exact hkeyword ⟨hne, h⟩
      simp [UbiquitiAccessPointRule.notMatched, RuleResult.miss, htitle, hhostname]

theorem identifierRule_matched (keywords : List Str) (identifier : Str) (deviceType : DeviceType) :
    (identifierRule u d keywords identifier deviceType).matched = true ↔
    (firstMatchingIdentifier u d.services keywords d.snmpSysDescr).isSome := by
  unfold identifierRule
  split <;> rename_i hidentifier <;> simp [RuleResult.hit, RuleResult.miss, hidentifier]

theorem sonicWallFirewall_matched : (SonicWallFirewallRule.classify u d).matched = true ↔
    normalizeVendor u d.vendor true = str "sonicwall" ∨
    (firstMatchingIdentifier u d.services SonicWallFirewallRule.firewallIdentifierKeywords d.snmpSysDescr).isSome ∨
    (SonicWallFirewallRule.hostnameLooksLikeSonicwall (normalizeHostname u d.hostname true) = true ∧
      (firstMatchingPort (servicePorts d.services) SonicWallFirewallRule.firewallManagementPorts ≠ none ∨
        firstMatchingService u (serviceNames d.services) SonicWallFirewallRule.firewallManagementServices true ≠
          none)) := by
  unfold SonicWallFirewallRule.classify
  exact threeWays_matched _ _ _ _ _ _

theorem matchByHostnameAndSignals_matched (hostname : Str) :
    (VoiceVendorRule.matchByHostnameAndSignals u d hostname).matched = true ↔
    containsAny VoiceVendorRule.voiceHostnameKeywords hostname = true ∧
      (firstMatchingPort (servicePorts d.services) VoiceVendorRule.voiceSignalPorts ≠ none ∨
        firstMatchingService u (serviceNames d.services) VoiceVendorRule.voiceSignalServices false ≠ none) := by
  unfold VoiceVendorRule.matchByHostnameAndSignals
  simp only
  split_ifs with hhostname hsignals
  · simp only [Bool.not_eq_true'] at hhostname
    simp [RuleResult.miss, hhostname]
  · simp [RuleResult.miss, hsignals.1, hsignals.2]
  · simp only [Bool.not_eq_true', Bool.not_eq_false] at hhostname
    simp only [RuleResult.hit, hhostname, true_and, true_iff]
    rw [not_and_or] at hsignals
    exact hsignals

theorem voiceVendor_matched : (VoiceVendorRule.classify u d).matched = true ↔
    containsAny VoiceVendorRule.supportedVoiceVendorKeywords (normalizeVendor u d.vendor true) = true ∨
    (containsAny VoiceVendorRule.voiceHostnameKeywords (normalizeHostname u d.hostname true) = true ∧
      (firstMatchingPort (servicePorts d.services) VoiceVendorRule.voiceSignalPorts ≠ none ∨
        firstMatchingService u (serviceNames d.services) VoiceVendorRule.voiceSignalServices false ≠ none)) := by
  rw [← matchByHostnameAndSignals_matched]
  unfold VoiceVendorRule.classify
  simp only
  split_ifs with hnone hvendor
  · -- No vendor is none of the vendors.
    have hempty : containsAny VoiceVendorRule.supportedVoiceVendorKeywords [] = false := by decide
    rw [hnone, hempty]
    simp
  · simp [RuleResult.hit, hvendor]
  · simp [hvendor]

theorem switchVendor_matched : (SwitchVendorRule.classify u d).matched = true ↔
    SwitchVendorRule.isSwitchVendor (normalizeVendor u d.vendor false) = true ∨
    (firstMatchingIdentifier u d.services SwitchVendorRule.switchIdentifierKeywords d.snmpSysDescr).isSome ∨
    (containsAny SwitchVendorRule.switchHostnameHints (normalizeHostname u d.hostname false) = true ∧
      (firstMatchingPort (servicePorts d.services) SwitchVendorRule.switchManagementPorts ≠ none ∨
        firstMatchingService u (serviceNames d.services) SwitchVendorRule.switchManagementServices true ≠ none)) := by
  unfold SwitchVendorRule.classify
  exact threeWays_matched _ _ _ _ _ _

theorem cameraVendor_matched : (CameraVendorRule.classify u d).matched = true ↔
    (normalizeVendor u d.vendor true ≠ [] ∧
      containsAny CameraVendorRule.supportedCameraVendorKeywords (normalizeVendor u d.vendor true) = true) ∧
    (firstMatchingIdentifier u d.services CameraVendorRule.cameraProductIdentifierKeywords d.snmpSysDescr).isSome := by
  unfold CameraVendorRule.classify
  simp only
  split <;> rename_i hvendor
  · simp only [RuleResult.miss, hvendor, false_and, Bool.false_eq_true]
  · rw [not_not] at hvendor
    split <;> rename_i hidentifier
    · simp [RuleResult.miss, hidentifier]
    · simp [RuleResult.hit, hvendor, hidentifier]

theorem windowsServer_matched : (WindowsServerRule.classify u d).matched = true ↔
    contains WindowsServerRule.windowsServerCaptionKeyword (normalizeOperatingSystem u d.operatingSystem) = true ∨
    normalizeOperatingSystem u d.operatingSystem = WindowsServerRule.windowsServer2022Build := by
  unfold WindowsServerRule.classify
  simp only
  split_ifs with hcaption hbuild
  · simp [RuleResult.hit, hcaption]
  · simp [RuleResult.hit, hbuild]
  · simp [RuleResult.miss, hcaption, hbuild]

theorem printerVendor_matched : (PrinterVendorRule.classify u d).matched = true ↔
    (normalizeVendor u d.vendor true ≠ [] ∧
      containsAny PrinterVendorRule.supportedPrinterVendorKeywords (normalizeVendor u d.vendor true) = true) ∨
    (PrinterVendorRule.findPrinterVendorIdentifier u d).isSome ∨
    (PrinterVendorRule.findPrinterPort u d.services ≠ none ∨
      PrinterVendorRule.findPrinterService u d.services ≠ none) := by
  unfold PrinterVendorRule.classify
  exact threeWays_matched _ _ _ _ _ _

theorem dellWorkstation_matched : (DellWorkstationRule.classify u d).matched = true ↔
    contains (str "dell") (normalizeVendor u d.vendor false) = true ∨
    containsAny DellWorkstationRule.dellWorkstationHostnameKeywords (normalizeHostname u d.hostname false) = true := by
  unfold DellWorkstationRule.classify
  simp only
  split_ifs with hvendor hhostname
  · simp [RuleResult.hit, hvendor]
  · simp [RuleResult.hit, hhostname]
  · simp [RuleResult.miss, hvendor, hhostname]

theorem windowsWorkstation_matched : (WindowsWorkstationRule.classify u d).matched = true ↔
    containsAny WindowsWorkstationRule.windowsClientEditionKeywords
      (normalizeOperatingSystem u d.operatingSystem) = true := by
  unfold WindowsWorkstationRule.classify
  simp only
  split <;> rename_i hedition <;> simp [RuleResult.hit, RuleResult.miss, hedition]

end Rules

/-! ## Relations that keep evidence -/

/-- A condition that holds of the second device where it holds of the first. -/
def Kept (R : Device → Device → Prop) (P : Device → Prop) : Prop := ∀ d e, R d e → P d → P e

theorem Kept.and {R : Device → Device → Prop} {P Q : Device → Prop} (hp : Kept R P) (hq : Kept R Q) :
    Kept R fun d => P d ∧ Q d := fun d e h => And.imp (hp d e h) (hq d e h)

theorem Kept.or {R : Device → Device → Prop} {P Q : Device → Prop} (hp : Kept R P) (hq : Kept R Q) :
    Kept R fun d => P d ∨ Q d := fun d e h => Or.imp (hp d e h) (hq d e h)

/-- Everything that a rule can ask of a device. No rule asks for an empty text. -/
structure KeepsEvidence (u : Unicode) (R : Device → Device → Prop) : Prop where
  vendor : ∀ (stripped : Bool) (P : Str → Prop), ¬ P [] → Kept R fun d => P (normalizeVendor u d.vendor stripped)
  hostname : ∀ (stripped : Bool) (P : Str → Prop), ¬ P [] →
    Kept R fun d => P (normalizeHostname u d.hostname stripped)
  strippedHostname : ∀ P : Str → Prop,
    Kept R fun d => strip (d.hostname.getD []) ≠ [] ∧ P (normalizeHostname u d.hostname true)
  operatingSystem : ∀ P : Str → Prop, ¬ P [] → Kept R fun d => P (normalizeOperatingSystem u d.operatingSystem)
  identifier : ∀ keywords, Kept R fun d => (firstMatchingIdentifier u d.services keywords d.snmpSysDescr).isSome
  port : ∀ ports, Kept R fun d => firstMatchingPort (servicePorts d.services) ports ≠ none
  service : ∀ names returnLower, Kept R fun d =>
    firstMatchingService u (serviceNames d.services) names returnLower ≠ none
  guestPortal : Kept R fun d => (UbiquitiAccessPointRule.findGuestPortalIdentifier u d).isSome
  printerIdentifier : Kept R fun d => (PrinterVendorRule.findPrinterVendorIdentifier u d).isSome
  printerPort : Kept R fun d => PrinterVendorRule.findPrinterPort u d.services ≠ none
  printerService : Kept R fun d => PrinterVendorRule.findPrinterService u d.services ≠ none

section Keeping

variable {u : Unicode} {R : Device → Device → Prop}

theorem kept_matched {classify : Device → RuleResult} {P : Device → Prop}
    (h : ∀ d, (classify d).matched = true ↔ P d) (hp : Kept R P) : Kept R fun d => (classify d).matched = true :=
  fun d e hr hmatched => (h e).mpr (hp d e hr ((h d).mp hmatched))

theorem KeepsEvidence.signals (h : KeepsEvidence u R) (ports : List Int) (names : List Str) (returnLower : Bool) :
    Kept R fun d => firstMatchingPort (servicePorts d.services) ports ≠ none ∨
      firstMatchingService u (serviceNames d.services) names returnLower ≠ none :=
  (h.port ports).or (h.service names returnLower)

/-- No rule tests that some evidence is missing. -/
theorem rules_kept (h : KeepsEvidence u R) (rule : ClassificationRule) (hrule : rule ∈ classificationRules) :
    Kept R fun d => (rule.classify u d).matched = true := by
  unfold classificationRules at hrule
  simp only [List.mem_cons, List.not_mem_nil, or_false] at hrule
  rcases hrule with rfl | rfl | rfl | rfl | rfl | rfl | rfl | rfl | rfl | rfl | rfl | rfl | rfl | rfl
  · refine kept_matched (serverHostname_matched u) ?_
    exact h.hostname false (fun s => (contains (str "dc") s = true ∨ contains (str "cam") s = true) ∨
      containsAny ServerHostnameRule.serverHostnameKeywords s = true) (by decide)
  · exact kept_matched (networkAppliance_matched u) (h.identifier _)
  · refine kept_matched (hypervisorHostname_matched u) ?_
    exact h.hostname false (fun s => containsAny HypervisorHostnameRule.hypervisorHostnameKeywords s = true)
      (by decide)
  · refine kept_matched (ubiquitiAccessPoint_matched u) (.and ?_ (.or ?_ h.guestPortal))
    · exact h.vendor false (fun s => s = str "ubiquiti") (by decide)
    · exact h.strippedHostname fun s => UbiquitiAccessPointRule.hostnamePrefix s ∈
        UbiquitiAccessPointRule.ubiquitiApHostnamePrefixes ∨
          containsAny UbiquitiAccessPointRule.ubiquitiApHostnameKeywords s = true
  · exact kept_matched (fun d => identifierRule_matched u d _ _ _) (h.identifier _)
  · refine kept_matched (sonicWallFirewall_matched u) (.or ?_ ((h.identifier _).or (.and ?_ (h.signals _ _ _))))
    · exact h.vendor true (fun s => s = str "sonicwall") (by decide)
    · exact h.hostname true (fun s => SonicWallFirewallRule.hostnameLooksLikeSonicwall s = true) (by decide)
  · exact kept_matched (fun d => identifierRule_matched u d _ _ _) (h.identifier _)
  · refine kept_matched (voiceVendor_matched u) (.or ?_ (.and ?_ (h.signals _ _ _)))
    · exact h.vendor true (fun s => containsAny VoiceVendorRule.supportedVoiceVendorKeywords s = true) (by decide)
    · exact h.hostname true (fun s => containsAny VoiceVendorRule.voiceHostnameKeywords s = true) (by decide)
  · refine kept_matched (switchVendor_matched u) (.or ?_ ((h.identifier _).or (.and ?_ (h.signals _ _ _))))
    · exact h.vendor false (fun s => SwitchVendorRule.isSwitchVendor s = true) (by decide)
    · exact h.hostname false (fun s => containsAny SwitchVendorRule.switchHostnameHints s = true) (by decide)
  · refine kept_matched (cameraVendor_matched u) (.and ?_ (h.identifier _))
    exact h.vendor true (fun s => s ≠ [] ∧
      containsAny CameraVendorRule.supportedCameraVendorKeywords s = true) (by decide)
  · refine kept_matched (windowsServer_matched u) ?_
    exact h.operatingSystem (fun s => contains WindowsServerRule.windowsServerCaptionKeyword s = true ∨
      s = WindowsServerRule.windowsServer2022Build) (by decide)
  · refine kept_matched (printerVendor_matched u) (.or ?_ (h.printerIdentifier.or
      (h.printerPort.or h.printerService)))
    exact h.vendor true (fun s => s ≠ [] ∧
      containsAny PrinterVendorRule.supportedPrinterVendorKeywords s = true) (by decide)
  · refine kept_matched (dellWorkstation_matched u) (.or ?_ ?_)
    · exact h.vendor false (fun s => contains (str "dell") s = true) (by decide)
    · exact h.hostname false (fun s => containsAny DellWorkstationRule.dellWorkstationHostnameKeywords s = true)
        (by decide)
  · refine kept_matched (windowsWorkstation_matched u) ?_
    exact h.operatingSystem (fun s => containsAny WindowsWorkstationRule.windowsClientEditionKeywords s = true)
      (by decide)

end Keeping

/-! ## The first rule that matches -/

section Verdict

variable (u : Unicode)

/-- The place of the first rule that matches, or the number of rules. -/
def firstMatching (d : Device) : Nat := classificationRules.findIdx fun rule => (rule.classify u d).matched

theorem firstMatching_le {d : Device} {i : Nat} (hi : i < classificationRules.length)
    (h : (classificationRules[i].classify u d).matched = true) : firstMatching u d ≤ i := by
  unfold firstMatching
  by_contra hlt
  have hnot := List.not_of_lt_findIdx (not_le.mp hlt)
  rw [h] at hnot
  cases hnot

theorem firstMatching_eq {d : Device} {i : Nat} (hi : i < classificationRules.length) : firstMatching u d = i ↔
    (classificationRules[i].classify u d).matched = true ∧
      ∀ j (hj : j < i), (classificationRules[j].classify u d).matched = false := by
  unfold firstMatching
  rw [List.findIdx_eq hi]

theorem verdict_isSome {rule : ClassificationRule} (hrule : rule ∈ classificationRules) (d : Device) :
    (rule.classify u d).verdict.isSome = (rule.classify u d).matched := by
  have hnone := verdict_none_iff (rules_decided u rule hrule d)
  cases hverdict : (rule.classify u d).verdict with
  | none => exact (hnone.mp hverdict).symm
  | some deviceType => exact (verdict_some (rules_decided u rule hrule d) hverdict).1.symm

theorem firstMatching_position (d : Device) :
    FirstMatch.position RuleResult.verdict d (evaluations u) = firstMatching u d := by
  unfold FirstMatch.position evaluations firstMatching
  rw [List.findIdx_map]
  apply Nat.le_antisymm
  · apply List.findIdx_le_findIdx
    intro rule hrule hmatched
    exact (verdict_isSome u hrule d).trans hmatched
  · apply List.findIdx_le_findIdx
    intro rule hrule hsome
    exact (verdict_isSome u hrule d).symm.trans hsome

theorem classify_verdict (classifier : DeviceClassifier) (d : Device) : (classifier.classify u d).2.deviceType =
    (classificationRules[firstMatching u d]?.bind fun rule => (rule.classify u d).suggestedDeviceType).getD
      .unknown := by
  have htype : (classifier.classify u d).2.deviceType = (outcome u d).2.getD .unknown := rfl
  rw [htype]
  unfold outcome
  rw [FirstMatch.run_verdict, firstMatching_position]
  unfold evaluations
  rw [List.getElem?_map]
  cases hrule : classificationRules[firstMatching u d]? with
  | none => rfl
  | some rule =>
    have hlt := (List.getElem?_eq_some_iff.mp hrule).1
    have hmatched : (rule.classify u d).matched = true := by
      rw [← (List.getElem?_eq_some_iff.mp hrule).2]
      exact List.findIdx_getElem (p := fun rule : ClassificationRule => (rule.classify u d).matched)
    unfold RuleResult.verdict
    simp [hmatched]

theorem known_iff (classifier : DeviceClassifier) (d : Device) :
    (classifier.classify u d).2.deviceType ≠ .unknown ↔
      ∃ rule ∈ classificationRules, (rule.classify u d).matched = true := by
  have htype : (classifier.classify u d).2.deviceType = (outcome u d).2.getD .unknown := rfl
  rw [htype]
  cases hverdict : (outcome u d).2 with
  | none =>
    have hmissed := (outcome_none u).mp hverdict
    simp only [Option.getD_none, ne_eq, not_true, false_iff]
    rintro ⟨rule, hrule, hmatched⟩
    rw [hmissed rule hrule] at hmatched
    cases hmatched
  | some deviceType =>
    obtain ⟨-, -, -, -, hne⟩ := outcome_some u hverdict
    simp only [Option.getD_some, ne_eq, hne, not_false_iff, true_iff]
    by_contra hmissed
    rw [(outcome_none u).mpr fun rule hrule => Bool.eq_false_iff.mpr fun h => hmissed ⟨rule, hrule, h⟩] at hverdict
    cases hverdict

theorem classify_suggested (classifier : DeviceClassifier) (d : Device) :
    (classifier.classify u d).2.deviceType = suggestedTypes[firstMatching u d]?.getD .unknown := by
  rw [classify_verdict]
  have hlength := (rules_suggest u).length_eq
  by_cases hlt : firstMatching u d < classificationRules.length
  · have hmatched : (classificationRules[firstMatching u d].classify u d).matched = true :=
      List.findIdx_getElem (p := fun rule : ClassificationRule => (rule.classify u d).matched)
    have hsuggests := (rules_suggest u).get hlt (hlength ▸ hlt) d
    unfold RuleResult.Suggests at hsuggests
    rw [List.get_eq_getElem, if_pos hmatched] at hsuggests
    rw [List.getElem?_eq_getElem hlt, List.getElem?_eq_getElem (hlength ▸ hlt), Option.bind_some, hsuggests]
    rfl
  · rw [List.getElem?_eq_none (by omega), List.getElem?_eq_none (by omega)]
    rfl

end Verdict

end NetworkMapper
