import NetworkMapper.Classification.Matching
import Mathlib.Tactic.IntervalCases

/-!
# What SNMP adds to a classification

Seven rules look for a product in `sysDescr`, and no rule reads another value of
the system group. A device without its SNMP data keeps its type unless such a
rule is the first to match.
-/

open Python

namespace NetworkMapper

/-- The device as it was before any SNMP data, and before any classification. -/
def withoutSnmp (d : Device) : Device :=
  { d with
    snmpSysDescr := none, snmpSysObjectId := none, snmpSysUptime := none, snmpSysContact := none,
    snmpSysLocation := none, deviceType := .unknown }

section SysDescr

variable (u : Unicode)

/-- The description of the system has one of the keywords in it. -/
def DescrNames (keywords : List Str) (d : Device) : Prop :=
  ∃ text, truthy d.snmpSysDescr = some text ∧ containsAny keywords (u.lower text) = true

/-- The camera rule asks for the vendor, too. -/
def DescrNamesCamera (d : Device) : Prop :=
  (normalizeVendor u d.vendor true ≠ [] ∧
    containsAny CameraVendorRule.supportedCameraVendorKeywords (normalizeVendor u d.vendor true) = true) ∧
  DescrNames u CameraVendorRule.cameraProductIdentifierKeywords d

/-- What makes each rule match on `sysDescr`, in the order of the rules. -/
def descrEvidence : List (Device → Prop) :=
  [fun _ => False, DescrNames u NetworkApplianceRule.networkApplianceIdentifierKeywords, fun _ => False,
    fun _ => False, DescrNames u EdgeRouterRule.edgeRouterIdentifierKeywords,
    DescrNames u SonicWallFirewallRule.firewallIdentifierKeywords,
    DescrNames u PfSenseFirewallRule.pfsenseIdentifierKeywords, fun _ => False,
    DescrNames u SwitchVendorRule.switchIdentifierKeywords, DescrNamesCamera u, fun _ => False,
    DescrNames u PrinterVendorRule.supportedPrinterVendorKeywords, fun _ => False, fun _ => False]

/-- The rule at `i` matches on the evidence of other sources. -/
def Known (d : Device) (i : Nat) : Prop :=
  ∃ rule, classificationRules[i]? = some rule ∧ (rule.classify u (withoutSnmp d)).matched = true

/-- The rule at `i` matches on `sysDescr`. -/
def Named (d : Device) (i : Nat) : Prop := ∃ evidence, (descrEvidence u)[i]? = some evidence ∧ evidence d

/-- Whatever `sysDescr` names, an earlier rule matches or the rule itself does on other evidence. Otherwise
the device is a ReadyNAS that is first known by its Windows Server, or a SonicWall that is first known as a pfSense,
where both rules suggest one type. -/
def DescrAddsNothing (d : Device) : Prop :=
  ∀ i, Named u d i → (∃ k ≤ i, Known u d k) ∨ (∃ j < i, Named u d j) ∨
    (i = 1 ∧ Known u d 10 ∧ ∀ k < 10, ¬ Known u d k) ∨ (i = 5 ∧ Known u d 6)

/-! ## One rule -/

theorem identifier_split (services : List ServiceEvidence) (keywords : List Str) (d : Device) :
    (firstMatchingIdentifier u services keywords d.snmpSysDescr).isSome ↔
      (firstMatchingIdentifier u services keywords (withoutSnmp d).snmpSysDescr).isSome ∨ DescrNames u keywords d := by
  rw [firstMatchingIdentifier_isSome, firstMatchingIdentifier_isSome]
  unfold identifierTexts DescrNames withoutSnmp
  simp only [List.mem_append, List.mem_singleton, truthy_eq_some, reduceCtorEq, or_false]
  constructor
  · rintro ⟨v, hv | hv, h⟩
    · exact .inl ⟨v, hv, h⟩
    · exact .inr ⟨v, ⟨hv.symm, h.1⟩, h.2⟩
  · rintro (⟨v, hv, h⟩ | ⟨v, ⟨hv, hne⟩, h⟩)
    · exact ⟨v, .inl hv, h⟩
    · exact ⟨v, .inr hv.symm, hne, h⟩

theorem unnamed {classify : Device → RuleResult}
    (h : ∀ d, (classify d).matched = true ↔ (classify (withoutSnmp d)).matched = true) (d : Device) :
    (classify d).matched = true ↔ (classify (withoutSnmp d)).matched = true ∨ False := by
  rw [or_false, h]

theorem threeWays_split {p q : Prop} (services : List ServiceEvidence) (keywords : List Str) (d : Device) :
    (p ∨ (firstMatchingIdentifier u services keywords d.snmpSysDescr).isSome ∨ q) ↔
      (p ∨ (firstMatchingIdentifier u services keywords (withoutSnmp d).snmpSysDescr).isSome ∨ q) ∨
        DescrNames u keywords d := by
  rw [identifier_split]
  tauto

theorem matched_split : List.Forall₂ (fun rule evidence => ∀ d, (rule.classify u d).matched = true ↔
    (rule.classify u (withoutSnmp d)).matched = true ∨ evidence d) classificationRules (descrEvidence u) := by
  unfold classificationRules descrEvidence
  refine .cons ?_ (.cons ?_ (.cons ?_ (.cons ?_ (.cons ?_ (.cons ?_ (.cons ?_ (.cons ?_ (.cons ?_ (.cons ?_ (.cons ?_
    (.cons ?_ (.cons ?_ (.cons ?_ .nil)))))))))))))
  · exact unnamed fun _ => Iff.rfl
  · intro d
    rw [networkAppliance_matched, networkAppliance_matched]
    exact identifier_split u d.services _ d
  · apply unnamed
    intro d
    rw [hypervisorHostname_matched, hypervisorHostname_matched]
    rfl
  · exact unnamed fun _ => Iff.rfl
  · intro d
    unfold EdgeRouterRule.classify
    rw [identifierRule_matched, identifierRule_matched]
    exact identifier_split u d.services _ d
  · intro d
    rw [sonicWallFirewall_matched, sonicWallFirewall_matched]
    exact threeWays_split u d.services _ d
  · intro d
    unfold PfSenseFirewallRule.classify
    rw [identifierRule_matched, identifierRule_matched]
    exact identifier_split u d.services _ d
  · exact unnamed fun _ => Iff.rfl
  · intro d
    rw [switchVendor_matched, switchVendor_matched]
    exact threeWays_split u d.services _ d
  · intro d
    rw [cameraVendor_matched, cameraVendor_matched, identifier_split]
    exact and_or_left
  · exact unnamed fun _ => Iff.rfl
  · intro d
    rw [printerVendor_matched, printerVendor_matched]
    exact threeWays_split u (d.services.map (PrinterVendorRule.withoutRedirectNoticeTitle u)) _ d
  · exact unnamed fun _ => Iff.rfl
  · exact unnamed fun _ => Iff.rfl

/-! ## The cascade -/

theorem matched_iff {i : Nat} (hi : i < classificationRules.length) (d : Device) :
    (classificationRules[i].classify u d).matched = true ↔ Known u d i ∨ Named u d i := by
  have hlength := (matched_split u).length_eq
  have hsplit := (matched_split u).get hi (hlength ▸ hi) d
  rw [List.get_eq_getElem, List.get_eq_getElem] at hsplit
  rw [hsplit]
  unfold Known Named
  rw [List.getElem?_eq_getElem hi, List.getElem?_eq_getElem (hlength ▸ hi)]
  simp only [Option.some.injEq, exists_eq_left']

theorem known_iff_matched {i : Nat} (hi : i < classificationRules.length) (d : Device) :
    Known u d i ↔ (classificationRules[i].classify u (withoutSnmp d)).matched = true := by
  unfold Known
  rw [List.getElem?_eq_getElem hi]
  simp only [Option.some.injEq, exists_eq_left']

theorem Known.lt {u : Unicode} {d : Device} {i : Nat} (h : Known u d i) : i < classificationRules.length := by
  obtain ⟨rule, hrule, -⟩ := h
  exact (List.getElem?_eq_some_iff.mp hrule).1

theorem Named.lt {u : Unicode} {d : Device} {i : Nat} (h : Named u d i) : i < classificationRules.length := by
  obtain ⟨evidence, hevidence, -⟩ := h
  rw [(matched_split u).length_eq]
  exact (List.getElem?_eq_some_iff.mp hevidence).1

theorem Named.position {u : Unicode} {d : Device} {i : Nat} (h : Named u d i) : i ∈ [1, 4, 5, 6, 8, 9, 11] := by
  have hi : i < 14 := h.lt
  obtain ⟨evidence, hevidence, hd⟩ := h
  unfold descrEvidence at hevidence
  interval_cases i <;> cases hevidence <;> first | exact hd.elim | decide

theorem known_first {d : Device} (h : firstMatching u (withoutSnmp d) < classificationRules.length) :
    Known u d (firstMatching u (withoutSnmp d)) := by
  rw [known_iff_matched u h]
  exact List.findIdx_getElem (p := fun rule : ClassificationRule => (rule.classify u (withoutSnmp d)).matched)

theorem not_known {d : Device} {k : Nat} (h : k < firstMatching u (withoutSnmp d)) : ¬ Known u d k := by
  intro hknown
  have hle := firstMatching_le u hknown.lt ((known_iff_matched u hknown.lt d).mp hknown)
  omega

theorem firstMatching_withoutSnmp_le (d : Device) : firstMatching u d ≤ firstMatching u (withoutSnmp d) := by
  by_cases hlt : firstMatching u (withoutSnmp d) < classificationRules.length
  · exact firstMatching_le u hlt ((matched_iff u hlt d).mpr (.inl (known_first u hlt)))
  · have hle : firstMatching u d ≤ classificationRules.length := List.findIdx_le_length
    omega

theorem same_type : ∀ i ∈ [1, 4, 5, 6, 8, 9, 11], ∀ k ≤ 14, i < k →
    suggestedTypes[k]?.getD .unknown = suggestedTypes[i]?.getD .unknown → (i = 1 ∧ k = 10) ∨ (i = 5 ∧ k = 6) := by
  -- A later rule of the same type: Windows Server after a ReadyNAS, and a pfSense after a SonicWall.
  decide

theorem adds_nothing_of_type {d : Device} (h : suggestedTypes[firstMatching u (withoutSnmp d)]?.getD .unknown =
    suggestedTypes[firstMatching u d]?.getD .unknown) : DescrAddsNothing u d := by
  intro i hnamed
  by_cases hknown : ∃ k ≤ i, Known u d k
  · exact .inl hknown
  by_cases hearlier : ∃ j < i, Named u d j
  · exact .inr (.inl hearlier)
  -- Here the rule at `i` decides, and it decides on `sysDescr`.
  have hfirst : firstMatching u d = i := by
    rw [firstMatching_eq u hnamed.lt]
    refine ⟨(matched_iff u hnamed.lt d).mpr (.inr hnamed), ?_⟩
    intro j hj
    rw [← Bool.not_eq_true, matched_iff u (hj.trans hnamed.lt)]
    rintro (hk | hn)
    · exact hknown ⟨j, hj.le, hk⟩
    · exact hearlier ⟨j, hj, hn⟩
  have hle : firstMatching u (withoutSnmp d) ≤ classificationRules.length := List.findIdx_le_length
  have hlater : i < firstMatching u (withoutSnmp d) := by
    by_contra hnot
    have hbound := hnamed.lt
    exact hknown ⟨_, by omega, known_first u (by omega)⟩
  rw [hfirst] at h
  rcases same_type i hnamed.position _ hle hlater h with ⟨hi, hk⟩ | ⟨hi, hk⟩
  · refine .inr (.inr (.inl ⟨hi, hk ▸ known_first u (hk ▸ by decide), ?_⟩))
    intro k hk'
    exact not_known u (hk ▸ hk')
  · exact .inr (.inr (.inr ⟨hi, hk ▸ known_first u (hk ▸ by decide)⟩))

theorem type_of_adds_nothing {d : Device} (h : DescrAddsNothing u d) :
    suggestedTypes[firstMatching u (withoutSnmp d)]?.getD .unknown =
      suggestedTypes[firstMatching u d]?.getD .unknown := by
  have hle := firstMatching_withoutSnmp_le u d
  have hlength : firstMatching u (withoutSnmp d) ≤ classificationRules.length := List.findIdx_le_length
  by_cases heq : firstMatching u d = firstMatching u (withoutSnmp d)
  · rw [heq]
  have hlt : firstMatching u d < classificationRules.length := by omega
  obtain ⟨hmatched, hearlier⟩ := (firstMatching_eq u hlt).mp rfl
  have hnamed : Named u d (firstMatching u d) :=
    ((matched_iff u hlt d).mp hmatched).resolve_left (not_known u (by omega))
  rcases h _ hnamed with ⟨k, hk, hknown⟩ | ⟨j, hj, hn⟩ | ⟨hi, hknown, hnone⟩ | ⟨hi, hknown⟩
  · exact absurd hknown (not_known u (by omega))
  · have hmiss := hearlier j hj
    rw [← Bool.not_eq_true, matched_iff u (hj.trans hlt)] at hmiss
    exact absurd (.inr hn) hmiss
  · have hfirst : firstMatching u (withoutSnmp d) = 10 := by
      rw [firstMatching_eq u hknown.lt]
      refine ⟨(known_iff_matched u hknown.lt d).mp hknown, ?_⟩
      intro k hk
      rw [← Bool.not_eq_true, ← known_iff_matched u (hk.trans hknown.lt)]
      exact hnone k hk
    rw [hi, hfirst]
    rfl
  · have hpfsense := firstMatching_le u hknown.lt ((known_iff_matched u hknown.lt d).mp hknown)
    have hfirst : firstMatching u (withoutSnmp d) = 6 := by omega
    rw [hi, hfirst]
    rfl

theorem withoutSnmp_type_iff (classifier classifier' : DeviceClassifier) (d : Device) :
    (classifier.classify u (withoutSnmp d)).2.deviceType = (classifier'.classify u d).2.deviceType ↔
      DescrAddsNothing u d := by
  rw [classify_suggested, classify_suggested]
  exact ⟨adds_nothing_of_type u, type_of_adds_nothing u⟩

end SysDescr

end NetworkMapper
