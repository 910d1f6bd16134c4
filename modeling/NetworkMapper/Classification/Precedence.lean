import NetworkMapper.Classification.Matching

/-!
# Servers and hypervisors in the cascade

The rule for Windows Server comes before those for printers and workstations, and
two rules for servers come before the one rule for hypervisors.
-/

open Python

namespace NetworkMapper

section Precedence

variable (u : Unicode)

/-- What `WindowsServerRule` looks for. -/
def WindowsServerEvidence (d : Device) : Prop :=
  contains (str "windows server") (u.lower (strip (d.operatingSystem.getD []))) = true ∨
    u.lower (strip (d.operatingSystem.getD [])) = str "10.0.20348"

/-- Named like a hypervisor and not like a server, and nothing on it calls itself a ReadyNAS. -/
structure HypervisorEvidence (d : Device) : Prop where
  named : ∃ keyword ∈ HypervisorHostnameRule.hypervisorHostnameKeywords,
    contains keyword (u.lower (d.hostname.getD [])) = true
  not_server : ∀ keyword ∈ [str "dc", str "cam", str "srv", str "server"],
    contains keyword (u.lower (d.hostname.getD [])) = false
  not_readynas : ∀ text, some text ∈ identifierTexts d.services d.snmpSysDescr →
    contains (str "readynas") (u.lower text) = false

/-! ## Windows Server -/

theorem windowsServer_position {d : Device} (h : WindowsServerEvidence u d) : firstMatching u d ≤ 10 := by
  apply firstMatching_le u (by decide)
  exact (windowsServer_matched u d).mpr h

theorem early_types : ∀ i ≤ 10, suggestedTypes[i]?.getD .unknown ≠ .printer ∧
    suggestedTypes[i]?.getD .unknown ≠ .workstation ∧ suggestedTypes[i]?.getD .unknown ≠ .unknown := by decide

/-! ## Hypervisors -/

theorem hypervisor_type (i : Nat) : suggestedTypes[i]?.getD .unknown = .hypervisor ↔ i = 2 := by
  have hsmall : ∀ i < 14, suggestedTypes[i]?.getD .unknown = .hypervisor ↔ i = 2 := by decide
  by_cases hi : i < 14
  · exact hsmall i hi
  · have hlength : suggestedTypes.length = 14 := rfl
    rw [List.getElem?_eq_none (by omega)]
    constructor
    · intro h
      cases h
    · omega

theorem serverNamed_iff (d : Device) : (ServerHostnameRule.classify u d).matched = false ↔
    ∀ keyword ∈ [str "dc", str "cam", str "srv", str "server"],
      contains keyword (u.lower (d.hostname.getD [])) = false := by
  rw [← Bool.not_eq_true, serverHostname_matched]
  unfold normalizeHostname normalizeText ServerHostnameRule.serverHostnameKeywords containsAny
  simp
  tauto

theorem readynas_iff (d : Device) : (NetworkApplianceRule.classify u d).matched = false ↔
    ∀ text, some text ∈ identifierTexts d.services d.snmpSysDescr →
      contains (str "readynas") (u.lower text) = false := by
  have hnil : contains (str "readynas") (u.lower []) = false := by
    rw [u.lower_nil]
    decide
  have hone : ∀ text, containsAny NetworkApplianceRule.networkApplianceIdentifierKeywords (u.lower text) =
      contains (str "readynas") (u.lower text) := fun text => Bool.or_false _
  rw [← Bool.not_eq_true, networkAppliance_matched, firstMatchingIdentifier_isSome]
  simp only [hone, not_exists, not_and, Bool.not_eq_true]
  constructor
  · intro h text htext
    by_cases hempty : text = []
    · rw [hempty]
      exact hnil
    · exact h text htext hempty
  · intro h text htext _
    exact h text htext

theorem hypervisor_position (d : Device) : firstMatching u d = 2 ↔ HypervisorEvidence u d := by
  rw [firstMatching_eq u (by decide)]
  constructor
  · rintro ⟨hmatched, hearlier⟩
    refine ⟨?_, (serverNamed_iff u d).mp (hearlier 0 (by omega)), (readynas_iff u d).mp (hearlier 1 (by omega))⟩
    have hnamed := (hypervisorHostname_matched u d).mp hmatched
    unfold containsAny at hnamed
    exact List.any_eq_true.mp hnamed
  · intro h
    refine ⟨(hypervisorHostname_matched u d).mpr (List.any_eq_true.mpr h.named), ?_⟩
    intro j hj
    obtain rfl | rfl : j = 0 ∨ j = 1 := by omega
    · exact (serverNamed_iff u d).mpr h.not_server
    · exact (readynas_iff u d).mpr h.not_readynas

/-! ## The cascade -/

/-- Evidence of Windows Server keeps a device from being a printer, a workstation or unknown, and a device is
a hypervisor exactly on the evidence of one. -/
theorem server_precedence (classifier : DeviceClassifier) (d : Device) :
    (WindowsServerEvidence u d → (classifier.classify u d).2.deviceType ≠ .printer ∧
      (classifier.classify u d).2.deviceType ≠ .workstation ∧
      (classifier.classify u d).2.deviceType ≠ .unknown) ∧
    ((classifier.classify u d).2.deviceType = .hypervisor ↔ HypervisorEvidence u d) := by
  rw [classify_suggested]
  refine ⟨?_, (hypervisor_type _).trans (hypervisor_position u d)⟩
  intro h
  exact early_types _ (windowsServer_position u h)

end Precedence

/-- A print server, with the name of its vendor and an open printer port. -/
def samplePrintServer : Device :=
  { ipAddress := str "192.0.2.31", vendor := some (str "HP"),
    operatingSystem := some (str " Microsoft Windows Server 2019 Standard"),
    services := [{ port := 9100, protocol := str "tcp" }] }

theorem server_precedence_sample :
    ((⟨[]⟩ : DeviceClassifier).classify ascii samplePrintServer).2.deviceType ≠ .printer :=
  ((server_precedence ascii ⟨[]⟩ samplePrintServer).1 (.inl (by decide))).1

end NetworkMapper
