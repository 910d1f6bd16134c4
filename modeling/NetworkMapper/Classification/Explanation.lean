import NetworkMapper.Classification.DeviceClassifier

/-!
# What is told about a classification

The Markdown report and the capture of knowledge each classify a copy of the
device and look for the rule that won.
-/

open Python

namespace NetworkMapper

/-- The results and the names of the rules that a classifier evaluates on a copy of the device. -/
def evaluateRules (u : Unicode) (device : Device) (classifier : DeviceClassifier) : List RuleResult × List Str :=
  let (classifier, _) := classifier.classify u device
  (classifier.lastRuleResults, (classificationRules.map (·.name)).take classifier.lastRuleResults.length)

/-- `_matching_rule`, which the report and the capture both have. -/
def matchingRule (ruleNames : List Str) (ruleResults : List RuleResult) : Option (Str × RuleResult) :=
  match ruleNames.getLast?, ruleResults.getLast? with
  | some name, some lastResult => if lastResult.matched then some (name, lastResult) else none
  | _, _ => none

namespace MarkdownExporter

/-- `device_type.value.replace("_", " ").title()` -/
def displayTitle (deviceType : DeviceType) : Str :=
  asciiTitle false (deviceType.value.map fun c => if c = ch '_' then ch ' ' else c)

def classificationHeading (deviceType : DeviceType) : List Str :=
  [str "**Classification**", [], str "Final Device Type: " ++ displayTitle deviceType, []]

/-- The line about one rule. -/
def evaluatedRule (ruleName : Str) (result : RuleResult) : Str := str "- " ++ ruleName ++ str ": " ++ result.reason

/-- The section of a device in the report, without the evidence. -/
def renderClassification (u : Unicode) (device : Device) (classifier : DeviceClassifier) : List Str :=
  let (ruleResults, ruleNames) := evaluateRules u device classifier
  classificationHeading device.deviceType ++
    if device.deviceType = .unknown then
      str "No rule matched. Evaluated rules:" :: List.zipWith evaluatedRule ruleNames ruleResults
    else
      match matchingRule ruleNames ruleResults with
      | some (name, result) => [str "Matching Rule: " ++ name, str "Reason: " ++ result.reason]
      | none => []

end MarkdownExporter

namespace Capture

/-- The reason of a capture for a device that no rule matched. -/
def noRuleMatchedReason : Str := str "No rule matched."

/-- The value of the type, the reason, and the name of the rule that matched. -/
def evaluateClassification (u : Unicode) (device : Device) : Str × Str × Option Str :=
  let (ruleResults, ruleNames) := evaluateRules u device ⟨[]⟩
  let unresolved := (DeviceType.unknown.value, noRuleMatchedReason, none)
  if device.deviceType = .unknown ∨ ruleResults = [] then unresolved
  else
    match matchingRule ruleNames ruleResults with
    | none => unresolved
    | some (name, result) => (device.deviceType.value, result.reason, some name)

end Capture

/-! ## Agreement -/

/-- What `classify` leaves behind on the device and in its results. -/
structure Classified (u : Unicode) (device : Device) (results : List RuleResult) (classified : Device) : Prop where
  evaluated : ∃ k ≤ classificationRules.length,
    results = (classificationRules.take k).map fun rule => rule.classify u device
  unmatched : ∀ r ∈ results.dropLast, r.matched = false
  unknown : classified.deviceType = .unknown ↔
    results = classificationRules.map (fun rule => rule.classify u device) ∧ ∀ r ∈ results, r.matched = false
  decided : classified.deviceType ≠ .unknown → ∃ r, results.getLast? = some r ∧ r.matched = true ∧
    r.suggestedDeviceType = some classified.deviceType
  unchanged : classified = { device with deviceType := classified.deviceType }

/-- The lines of the report and the answer of the capture: no rule for a device of no known type, and else one
that matches the device with the type it has. -/
inductive Explained (u : Unicode) (device : Device) (lines : List Str) (answer : Str × Str × Option Str) : Prop where
  | unresolved (h : device.deviceType = .unknown)
      (hlines : lines = MarkdownExporter.classificationHeading device.deviceType ++
        str "No rule matched. Evaluated rules:" :: classificationRules.map fun rule =>
          MarkdownExporter.evaluatedRule rule.name (rule.classify u device))
      (hanswer : answer = (DeviceType.unknown.value, Capture.noRuleMatchedReason, none))
  | resolved (h : device.deviceType ≠ .unknown) (rule : ClassificationRule) (hrule : rule ∈ classificationRules)
      (hmatched : (rule.classify u device).matched = true)
      (htype : (rule.classify u device).suggestedDeviceType = some device.deviceType)
      (hlines : lines = MarkdownExporter.classificationHeading device.deviceType ++
        [str "Matching Rule: " ++ rule.name, str "Reason: " ++ (rule.classify u device).reason])
      (hanswer : answer = (device.deviceType.value, (rule.classify u device).reason, some rule.name))

theorem verdict_none_iff {r : RuleResult} (h : r.Decided) : r.verdict = none ↔ r.matched = false := by
  unfold RuleResult.verdict
  unfold RuleResult.Decided at h
  cases htype : r.suggestedDeviceType with
  | none =>
    rw [htype] at h
    simp [h]
  | some deviceType =>
    rw [htype] at h
    simp [h.1]

theorem verdict_some {r : RuleResult} {deviceType : DeviceType} (h : r.Decided) (hr : r.verdict = some deviceType) :
    r.matched = true ∧ r.suggestedDeviceType = some deviceType ∧ deviceType ≠ .unknown := by
  unfold RuleResult.verdict at hr
  unfold RuleResult.Decided at h
  split_ifs at hr with hmatched
  rw [hr] at h
  exact ⟨hmatched, hr, h.2⟩

section Agreement

variable (u : Unicode)

theorem outcome_evaluated (device : Device) : ∃ k ≤ classificationRules.length,
    (outcome u device).1 = (classificationRules.take k).map fun rule => rule.classify u device := by
  refine ⟨min (FirstMatch.position RuleResult.verdict device (evaluations u) + 1) classificationRules.length,
    Nat.min_le_right _ _, ?_⟩
  unfold outcome evaluations
  rw [FirstMatch.run_results, ← List.map_take, List.map_map, ← List.take_eq_take_min]
  rfl

theorem outcome_decided (device : Device) : ∀ r ∈ (outcome u device).1, r.Decided := by
  obtain ⟨k, -, hresults⟩ := outcome_evaluated u device
  intro r hr
  rw [hresults, List.mem_map] at hr
  obtain ⟨rule, hrule, rfl⟩ := hr
  exact rules_decided u rule (List.mem_of_mem_take hrule) device

theorem outcome_type (device : Device) (deviceType : DeviceType) :
    outcome u { device with deviceType := deviceType } = outcome u device := by
  apply FirstMatch.run_congr
  intro evaluate hevaluate
  unfold evaluations at hevaluate
  rw [List.mem_map] at hevaluate
  obtain ⟨rule, hrule, rfl⟩ := hevaluate
  exact classify_ignores_type u rule hrule device deviceType

theorem outcome_some {device : Device} {deviceType : DeviceType} (h : (outcome u device).2 = some deviceType) :
    ∃ r, (outcome u device).1.getLast? = some r ∧ r.matched = true ∧
      r.suggestedDeviceType = some deviceType ∧ deviceType ≠ .unknown := by
  obtain ⟨r, hlast, hr⟩ := FirstMatch.run_verdict_some _ _ _ _ h
  exact ⟨r, hlast, verdict_some (outcome_decided u device r (List.mem_of_getLast? hlast)) hr⟩

theorem outcome_none {device : Device} : (outcome u device).2 = none ↔
    ∀ rule ∈ classificationRules, (rule.classify u device).matched = false := by
  unfold outcome evaluations
  rw [FirstMatch.run_verdict_none, List.forall_mem_map]
  refine forall₂_congr fun rule hrule => ?_
  rw [verdict_none_iff (rules_decided u rule hrule device)]

theorem outcome_unknown (device : Device) : (outcome u device).2.getD .unknown = .unknown ↔
    (outcome u device).1 = classificationRules.map (fun rule => rule.classify u device) ∧
      ∀ r ∈ (outcome u device).1, r.matched = false := by
  constructor
  · intro htype
    cases hverdict : (outcome u device).2 with
    | some deviceType =>
      obtain ⟨-, -, -, -, hne⟩ := outcome_some u hverdict
      rw [hverdict] at htype
      exact absurd htype hne
    | none =>
      have hall : (outcome u device).1 = classificationRules.map fun rule => rule.classify u device := by
        unfold outcome evaluations at hverdict ⊢
        rw [FirstMatch.run_all _ _ _ hverdict, List.map_map]
        rfl
      refine ⟨hall, ?_⟩
      rw [hall, List.forall_mem_map]
      exact (outcome_none u).mp hverdict
  · rintro ⟨hall, hmatched⟩
    rw [hall, List.forall_mem_map] at hmatched
    rw [(outcome_none u).mpr hmatched]
    rfl

theorem classify_classified (classifier : DeviceClassifier) (device : Device) :
    Classified u device (classifier.classify u device).1.lastRuleResults (classifier.classify u device).2 := by
  refine ⟨outcome_evaluated u device, ?_, outcome_unknown u device, ?_, rfl⟩
  · intro r hr
    rw [← verdict_none_iff (outcome_decided u device r (List.dropLast_subset _ hr))]
    exact FirstMatch.run_undecided RuleResult.verdict device (evaluations u) r hr
  · intro htype
    have hdevice : (classifier.classify u device).2.deviceType = (outcome u device).2.getD .unknown := rfl
    rw [hdevice] at htype ⊢
    cases hverdict : (outcome u device).2 with
    | none =>
      rw [hverdict] at htype
      exact absurd rfl htype
    | some deviceType =>
      obtain ⟨r, hlast, hmatched, hr, -⟩ := outcome_some u hverdict
      exact ⟨r, hlast, hmatched, hr⟩

theorem classify_type (classifier other : DeviceClassifier) (device : Device) (deviceType : DeviceType) :
    other.classify u { device with deviceType := deviceType } = classifier.classify u device := by
  unfold DeviceClassifier.classify
  rw [outcome_type]

/-! ## Explanations -/

theorem evaluateRules_take {device : Device} (classifier : DeviceClassifier) {k : Nat}
    (h : (outcome u device).1 = (classificationRules.take k).map fun rule => rule.classify u device) :
    evaluateRules u device classifier = ((classificationRules.take k).map (fun rule => rule.classify u device),
      (classificationRules.take k).map (·.name)) := by
  have hresults : (classifier.classify u device).1.lastRuleResults = (outcome u device).1 := rfl
  unfold evaluateRules
  simp only [hresults, h, Prod.mk.injEq, true_and, List.length_map, ← List.map_take, List.length_take]
  rw [← List.take_eq_take_min]

theorem matchingRule_last {rules : List ClassificationRule} {device : Device} {rule : ClassificationRule}
    (hlast : rules.getLast? = some rule) (hmatched : (rule.classify u device).matched = true) :
    matchingRule (rules.map (·.name)) (rules.map fun rule => rule.classify u device) =
      some (rule.name, rule.classify u device) := by
  unfold matchingRule
  simp only [List.getLast?_map, hlast, Option.map_some, hmatched, if_true]

theorem explained_unknown {device : Device} (classifier : DeviceClassifier) (hunknown : device.deviceType = .unknown)
    (hall : (outcome u device).1 = classificationRules.map fun rule => rule.classify u device) :
    Explained u device (MarkdownExporter.renderClassification u device classifier)
      (Capture.evaluateClassification u device) := by
  rw [← classificationRules.take_length] at hall
  refine .unresolved hunknown ?_ ?_
  · unfold MarkdownExporter.renderClassification
    simp only [evaluateRules_take u classifier hall, if_pos hunknown, List.take_length, List.zipWith_map_left,
      List.zipWith_map_right, List.zipWith_self]
  · unfold Capture.evaluateClassification
    simp only [if_pos (Or.inl hunknown)]

theorem explained_known {device : Device} (classifier : DeviceClassifier) {r : RuleResult}
    (hknown : device.deviceType ≠ .unknown) (hlast : (outcome u device).1.getLast? = some r)
    (hmatched : r.matched = true) (htype : r.suggestedDeviceType = some device.deviceType) :
    Explained u device (MarkdownExporter.renderClassification u device classifier)
      (Capture.evaluateClassification u device) := by
  obtain ⟨k, -, hresults⟩ := outcome_evaluated u device
  rw [hresults, List.getLast?_map, Option.map_eq_some_iff] at hlast
  obtain ⟨rule, hrule, rfl⟩ := hlast
  have hmatching := matchingRule_last u hrule hmatched
  have hne : (classificationRules.take k).map (fun rule => rule.classify u device) ≠ [] := by
    intro hnil
    rw [List.map_eq_nil_iff] at hnil
    rw [hnil] at hrule
    cases hrule
  refine .resolved hknown rule (List.mem_of_mem_take (List.mem_of_getLast? hrule)) hmatched htype ?_ ?_
  · unfold MarkdownExporter.renderClassification
    simp only [evaluateRules_take u classifier hresults, if_neg hknown, hmatching]
  · unfold Capture.evaluateClassification
    simp only [evaluateRules_take u _ hresults, hknown, hne, or_self, if_false, hmatching]

/-- Classification and its explanation agree, whatever the type of the device and the state of the classifier were. -/
theorem classification_agrees (classifier : DeviceClassifier) (device : Device) :
    Classified u device (classifier.classify u device).1.lastRuleResults (classifier.classify u device).2 ∧
    (∀ other deviceType, DeviceClassifier.classify u other { device with deviceType := deviceType } =
      classifier.classify u device) ∧
    (classifier.classify u device).1.classify u (classifier.classify u device).2 = classifier.classify u device ∧
    ∀ exporters, Explained u (classifier.classify u device).2
      (MarkdownExporter.renderClassification u (classifier.classify u device).2 exporters)
      (Capture.evaluateClassification u (classifier.classify u device).2) := by
  have hclassified := classify_classified u classifier device
  refine ⟨hclassified, fun other deviceType => classify_type u classifier other device deviceType,
    classify_type u classifier _ device _, fun exporters => ?_⟩
  have hsame := classify_classified u ⟨[]⟩ (classifier.classify u device).2
  have hagain : DeviceClassifier.classify u ⟨[]⟩ (classifier.classify u device).2 = classifier.classify u device :=
    classify_type u classifier ⟨[]⟩ device _
  have htype : (DeviceClassifier.classify u ⟨[]⟩ (classifier.classify u device).2).2 = (classifier.classify u device).2 :=
    congrArg Prod.snd hagain
  by_cases hunknown : (classifier.classify u device).2.deviceType = .unknown
  · exact explained_unknown u exporters hunknown (hsame.unknown.mp (htype ▸ hunknown)).1
  · obtain ⟨r, hlast, hmatched, hr⟩ := hsame.decided (htype ▸ hunknown)
    exact explained_known u exporters hunknown hlast hmatched (htype ▸ hr)

end Agreement

end NetworkMapper
