import NetworkMapper.Classification.Rules
import NetworkMapper.Python.Raising
import NetworkMapper.Rules.FirstMatch

/-!
# The device classifier

The rules in order, up to the first that matches with a type.
-/

open Python

namespace NetworkMapper

/-- The classifier keeps the results of the last device it was asked about. -/
structure DeviceClassifier where
  lastRuleResults : List RuleResult

/-- The type that ends the loop. -/
def RuleResult.verdict (r : RuleResult) : Option DeviceType := if r.matched then r.suggestedDeviceType else none

/-- The rules, as functions of the device. -/
def evaluations (u : Unicode) : List (Device → RuleResult) := classificationRules.map fun rule => rule.classify u

/-- The results up to the rule that ends the loop, and its type. Python's loop is `FirstMatch.run`. -/
def outcome (u : Unicode) (device : Device) : List RuleResult × Option DeviceType :=
  FirstMatch.run RuleResult.verdict device (evaluations u)

namespace DeviceClassifier

/-- The type of the device is replaced, and `UNKNOWN` stands for no verdict. -/
def classify (u : Unicode) (classifier : DeviceClassifier) (device : Device) : DeviceClassifier × Device :=
  let (results, verdict) := outcome u device
  ({ classifier with lastRuleResults := results }, { device with deviceType := verdict.getD .unknown })

end DeviceClassifier

/-! ## What every rule does -/

section Rules

variable (u : Unicode)

theorem classify_ignores_type (rule : ClassificationRule) (hrule : rule ∈ classificationRules) (device : Device)
    (deviceType : DeviceType) :
    rule.classify u { device with deviceType := deviceType } = rule.classify u device := by
  -- No rule reads the type that a device has.
  unfold classificationRules at hrule
  simp only [List.mem_cons, List.not_mem_nil, or_false] at hrule
  rcases hrule with rfl | rfl | rfl | rfl | rfl | rfl | rfl | rfl | rfl | rfl | rfl | rfl | rfl | rfl <;> rfl

open RuleResult (hit_suggests miss_suggests)

theorem threeWays_suggests {p q : Prop} [Decidable p] [Decidable q] (found : Option (Str × Str))
    (vendor signals missed : Str) (identifier : Str → Str → Str) (deviceType : DeviceType) :
    RuleResult.Suggests deviceType (if p then RuleResult.hit vendor deviceType
      else match found with
        | some (label, value) => RuleResult.hit (identifier label value) deviceType
        | none => if q then RuleResult.hit signals deviceType else RuleResult.miss missed) := by
  split
  · exact hit_suggests _ _
  · split
    · exact hit_suggests _ _
    · split
      · exact hit_suggests _ _
      · exact miss_suggests _ _

theorem serverHostname_suggests (device : Device) : (ServerHostnameRule.classify u device).Suggests .server := by
  unfold ServerHostnameRule.classify
  simp only
  split_ifs
  · exact hit_suggests _ _
  · exact hit_suggests _ _
  · exact miss_suggests _ _

theorem networkAppliance_suggests (device : Device) :
    (NetworkApplianceRule.classify u device).Suggests .server := by
  unfold NetworkApplianceRule.classify
  split
  · exact miss_suggests _ _
  · exact hit_suggests _ _

theorem hypervisorHostname_suggests (device : Device) :
    (HypervisorHostnameRule.classify u device).Suggests .hypervisor := by
  unfold HypervisorHostnameRule.classify
  simp only
  split
  · exact miss_suggests _ _
  · exact hit_suggests _ _

theorem ubiquitiAccessPoint_suggests (device : Device) :
    (UbiquitiAccessPointRule.classify u device).Suggests .accessPoint := by
  unfold UbiquitiAccessPointRule.classify
  simp only
  split_ifs
  · exact miss_suggests _ _
  · exact hit_suggests _ _
  · exact hit_suggests _ _
  · split
    · exact hit_suggests _ _
    · exact miss_suggests _ _

theorem identifierRule_suggests (device : Device) (keywords : List Str) (identifier : Str) (deviceType : DeviceType) :
    (identifierRule u device keywords identifier deviceType).Suggests deviceType := by
  unfold identifierRule
  split
  · exact miss_suggests _ _
  · exact hit_suggests _ _

theorem sonicWallFirewall_suggests (device : Device) :
    (SonicWallFirewallRule.classify u device).Suggests .firewall := by
  unfold SonicWallFirewallRule.classify
  exact threeWays_suggests _ _ _ _ _ _

theorem matchByHostnameAndSignals_suggests (device : Device) (hostname : Str) :
    (VoiceVendorRule.matchByHostnameAndSignals u device hostname).Suggests .phone := by
  unfold VoiceVendorRule.matchByHostnameAndSignals
  simp only
  split_ifs
  · exact miss_suggests _ _
  · exact miss_suggests _ _
  · exact hit_suggests _ _

theorem voiceVendor_suggests (device : Device) : (VoiceVendorRule.classify u device).Suggests .phone := by
  unfold VoiceVendorRule.classify
  simp only
  split_ifs
  · exact matchByHostnameAndSignals_suggests u device _
  · exact hit_suggests _ _
  · exact matchByHostnameAndSignals_suggests u device _

theorem switchVendor_suggests (device : Device) : (SwitchVendorRule.classify u device).Suggests .switch := by
  unfold SwitchVendorRule.classify
  exact threeWays_suggests _ _ _ _ _ _

theorem cameraVendor_suggests (device : Device) : (CameraVendorRule.classify u device).Suggests .camera := by
  unfold CameraVendorRule.classify
  simp only
  split
  · exact miss_suggests _ _
  · split
    · exact miss_suggests _ _
    · exact hit_suggests _ _

theorem windowsServer_suggests (device : Device) : (WindowsServerRule.classify u device).Suggests .server := by
  unfold WindowsServerRule.classify
  simp only
  split_ifs
  · exact hit_suggests _ _
  · exact hit_suggests _ _
  · exact miss_suggests _ _

theorem printerVendor_suggests (device : Device) : (PrinterVendorRule.classify u device).Suggests .printer := by
  unfold PrinterVendorRule.classify
  exact threeWays_suggests _ _ _ _ _ _

theorem dellWorkstation_suggests (device : Device) :
    (DellWorkstationRule.classify u device).Suggests .workstation := by
  unfold DellWorkstationRule.classify
  simp only
  split_ifs
  · exact hit_suggests _ _
  · exact hit_suggests _ _
  · exact miss_suggests _ _

theorem windowsWorkstation_suggests (device : Device) :
    (WindowsWorkstationRule.classify u device).Suggests .workstation := by
  unfold WindowsWorkstationRule.classify
  simp only
  split
  · exact hit_suggests _ _
  · exact miss_suggests _ _

/-- The type that each rule suggests, in the order of the rules. -/
def suggestedTypes : List DeviceType :=
  [.server, .server, .hypervisor, .accessPoint, .router, .firewall, .firewall, .phone, .switch, .camera, .server,
    .printer, .workstation, .workstation]

theorem rules_suggest : List.Forall₂ (fun rule deviceType => ∀ device, (rule.classify u device).Suggests deviceType)
    classificationRules suggestedTypes :=
  .cons (serverHostname_suggests u) <| .cons (networkAppliance_suggests u) <| .cons (hypervisorHostname_suggests u) <|
  .cons (ubiquitiAccessPoint_suggests u) <| .cons (fun device => identifierRule_suggests u device _ _ _) <|
  .cons (sonicWallFirewall_suggests u) <| .cons (fun device => identifierRule_suggests u device _ _ _) <|
  .cons (voiceVendor_suggests u) <| .cons (switchVendor_suggests u) <| .cons (cameraVendor_suggests u) <|
  .cons (windowsServer_suggests u) <| .cons (printerVendor_suggests u) <| .cons (dellWorkstation_suggests u) <|
  .cons (windowsWorkstation_suggests u) .nil

theorem rules_decided (rule : ClassificationRule) (hrule : rule ∈ classificationRules) (device : Device) :
    (rule.classify u device).Decided := by
  obtain ⟨deviceType, htype, hsuggests⟩ := forall₂_mem_left (rules_suggest u) rule hrule
  apply (hsuggests device).decided
  rintro rfl
  revert htype
  decide

end Rules

end NetworkMapper
