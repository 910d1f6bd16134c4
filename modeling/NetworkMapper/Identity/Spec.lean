import NetworkMapper.Identity.Resolver

/-!
# What identity resolution means

The specification does not mention groups or dictionaries: it says what the output
holds in terms of the input list alone. One input permits one output only.
-/

open Python

namespace NetworkMapper

/-- The observations of a property of a subject. -/
def observed (observations : List Observation) (subject propertyName : Str) : List IdentityObservation :=
  (identityObservations observations).filter fun o => o.subject = subject ∧ o.propertyName = propertyName

/-- The property has its observations, each as often as it was made, and the state that they give. -/
structure PropertySpec (observations : List Observation) (subject : Str) (p : PropertyCorroboration) : Prop where
  count : ∀ o : IdentityObservation, p.observations.count o =
    if o.subject = subject ∧ o.propertyName = p.propertyName then observations.count (.identity o) else 0
  sorted : p.observations.Pairwise fun a b =>
    IdentityResolver.propertyObservationSortKey a ≤ IdentityResolver.propertyObservationSortKey b
  conflicting : p.state = .conflicting ↔ Differ (·.value) p.observations
  confirmed : p.state = .confirmed ↔
    ¬ Differ (·.value) p.observations ∧ Differ (fun o => o.provenance.source) p.observations
  weak : p.state = .weak ↔
    ¬ Differ (·.value) p.observations ∧ ¬ Differ (fun o => o.provenance.source) p.observations

/-- The identity has the properties that were observed of its subject, and the state that they give. -/
structure IdentitySpec (observations : List Observation) (i : CanonicalIdentity) : Prop where
  mem_properties : ∀ name, name ∈ i.properties.map (·.propertyName) ↔
    ∃ o : IdentityObservation, .identity o ∈ observations ∧ o.subject = i.subject ∧ o.propertyName = name
  properties_sorted : i.properties.Pairwise fun a b => a.propertyName < b.propertyName
  properties : ∀ p ∈ i.properties, PropertySpec observations i.subject p
  conflicting : i.state = .conflicting ↔ ∃ p ∈ i.properties, p.state = .conflicting
  confirmed : i.state = .confirmed ↔
    (¬ ∃ p ∈ i.properties, p.state = .conflicting) ∧ ∃ p ∈ i.properties, p.state = .confirmed
  probable : i.state = .probable ↔ (¬ ∃ p ∈ i.properties, p.state = .conflicting) ∧
    (¬ ∃ p ∈ i.properties, p.state = .confirmed) ∧ 2 ≤ i.properties.length
  weak : i.state = .weak ↔ (¬ ∃ p ∈ i.properties, p.state = .conflicting) ∧
    (¬ ∃ p ∈ i.properties, p.state = .confirmed) ∧ ¬ 2 ≤ i.properties.length

/-- The identities are those of the observed subjects, each once. -/
structure IdentitiesSpec (observations : List Observation) (out : List CanonicalIdentity) : Prop where
  mem_subjects : ∀ s, s ∈ out.map (·.subject) ↔
    ∃ o : IdentityObservation, .identity o ∈ observations ∧ o.subject = s
  sorted : out.Pairwise fun a b => a.subject < b.subject
  identities : ∀ i ∈ out, IdentitySpec observations i

namespace IdentityResolver

/-! ## One property -/

theorem distinctValues_eq (os : List IdentityObservation) :
    distinctValues os = (os.map (·.value)).toFinset := by
  have hfold : ∀ (gs : List ((Str × Str) × Finset Str)) (v : Str),
      v ∈ gs.foldr (fun g values => g.2 ∪ values) ∅ ↔ ∃ g ∈ gs, v ∈ g.2 := by
    intro gs v
    induction gs with
    | nil => simp
    | cons g gs ih => simp [ih]
  ext v
  unfold distinctValues
  simp only [hfold, valuesByIndependentSource, List.mem_map, List.mem_toFinset]
  constructor
  · rintro ⟨_, ⟨g, hg, rfl⟩, hv⟩
    obtain ⟨-, hm⟩ := (mem_groupBy _ os g).mp hg
    simp only [List.mem_toFinset, List.mem_map] at hv
    obtain ⟨o, ho, rfl⟩ := hv
    rw [hm, List.mem_filter] at ho
    exact ⟨o, ho.1, rfl⟩
  · rintro ⟨o, ho, rfl⟩
    refine ⟨_, ⟨⟨o.provenance.source, os.filter fun a => a.provenance.source = o.provenance.source⟩, ?_, rfl⟩, ?_⟩
    · exact (mem_groupBy _ os _).mpr ⟨⟨o, ho, rfl⟩, rfl⟩
    · simp only [List.mem_toFinset, List.mem_map, List.mem_filter]
      exact ⟨o, ⟨ho, by simp⟩, rfl⟩

theorem one_lt_distinctValues (os : List IdentityObservation) :
    1 < (distinctValues os).card ↔ Differ (·.value) os := by
  rw [distinctValues_eq, one_lt_card_iff]

theorem two_le_sources (os : List IdentityObservation) :
    2 ≤ (valuesByIndependentSource os).length ↔ Differ (fun o => o.provenance.source) os := by
  unfold valuesByIndependentSource
  rw [List.length_map, groupBy_length]
  exact one_lt_card_iff _ _

theorem differ_sortedBy {α β γ : Type} [LinearOrder γ] (f : α → β) (key : α → γ) (items : List α) :
    Differ f (sortedBy key items) ↔ Differ f items := by
  unfold Differ
  simp only [mem_sortedBy]

theorem count_observed (observations : List Observation) (subject name : Str) (o : IdentityObservation) :
    (observed observations subject name).count o =
      if o.subject = subject ∧ o.propertyName = name then observations.count (.identity o) else 0 := by
  unfold observed
  rw [← count_identityObservations]
  split
  · rename_i h
    exact List.count_filter (by simpa using h)
  · rename_i h
    apply List.count_eq_zero_of_not_mem
    intro hm
    exact h (by simpa using (List.mem_filter.mp hm).2)

theorem resolveProperty_spec (observations : List Observation) (subject name : Str) :
    PropertySpec observations subject (resolveProperty name (observed observations subject name)) := by
  have hv := one_lt_distinctValues (observed observations subject name)
  have hs := two_le_sources (observed observations subject name)
  refine ⟨?_, sortedBy_sorted _ _, ?_, ?_, ?_⟩
  · intro o
    exact ((sortedBy_perm _ _).count_eq o).trans (count_observed observations subject name o)
  all_goals
    unfold resolveProperty
    simp only [differ_sortedBy, ← hv, ← hs]
    split_ifs <;> simp_all

/-! ## One subject -/

theorem observed_eq (observations : List Observation) (subject name : Str) :
    ((identityObservations observations).filter fun o => o.subject = subject).filter
      (fun o => o.propertyName = name) = observed observations subject name := by
  rw [List.filter_filter, observed]
  apply List.filter_congr
  intro o _
  simp [Bool.and_comm]

theorem mem_resolveSubject (observations : List Observation) (subject : Str) (p : PropertyCorroboration) :
    p ∈ (resolveSubject subject ((identityObservations observations).filter (·.subject = subject))).properties ↔
      ∃ o : IdentityObservation, .identity o ∈ observations ∧ o.subject = subject ∧
        p = resolveProperty o.propertyName (observed observations subject o.propertyName) := by
  unfold resolveSubject
  rw [mem_sortedGroups]
  constructor
  · rintro ⟨o, ho, rfl⟩
    simp only [List.mem_filter, mem_identityObservations, decide_eq_true_eq] at ho
    exact ⟨o, ho.1, ho.2, by rw [observed_eq]⟩
  · rintro ⟨o, ho, hs, rfl⟩
    exact ⟨o, by simpa using ⟨ho, hs⟩, by rw [observed_eq]⟩

theorem rollUpIdentityState_spec (properties : List PropertyCorroboration) :
    (rollUpIdentityState properties = .conflicting ↔ ∃ p ∈ properties, p.state = .conflicting) ∧
    (rollUpIdentityState properties = .confirmed ↔
      (¬ ∃ p ∈ properties, p.state = .conflicting) ∧ ∃ p ∈ properties, p.state = .confirmed) ∧
    (rollUpIdentityState properties = .probable ↔ (¬ ∃ p ∈ properties, p.state = .conflicting) ∧
      (¬ ∃ p ∈ properties, p.state = .confirmed) ∧ 2 ≤ properties.length) ∧
    (rollUpIdentityState properties = .weak ↔ (¬ ∃ p ∈ properties, p.state = .conflicting) ∧
      (¬ ∃ p ∈ properties, p.state = .confirmed) ∧ ¬ 2 ≤ properties.length) := by
  -- The order of the branches: a conflict hides every confirmation, and a confirmation every count.
  unfold rollUpIdentityState
  simp only [List.any_eq_true, decide_eq_true_eq, ge_iff_le]
  split_ifs with hconflicting hconfirmed hlength
  · simp [hconflicting]
  · simp [hconflicting, hconfirmed]
  · simp [hconflicting, hconfirmed, hlength]
  · simp [hconflicting, hconfirmed, hlength]

theorem resolveSubject_spec (observations : List Observation) (subject : Str) :
    IdentitySpec observations
      (resolveSubject subject ((identityObservations observations).filter (·.subject = subject))) := by
  have hmem := mem_resolveSubject observations subject
  obtain ⟨hconflicting, hconfirmed, hprobable, hweak⟩ := rollUpIdentityState_spec
    (resolveSubject subject ((identityObservations observations).filter (·.subject = subject))).properties
  refine ⟨?_, ?_, ?_, hconflicting, hconfirmed, hprobable, hweak⟩
  · intro name
    rw [List.mem_map]
    constructor
    · rintro ⟨p, hp, rfl⟩
      obtain ⟨o, ho, hs, rfl⟩ := (hmem p).mp hp
      exact ⟨o, ho, hs, rfl⟩
    · rintro ⟨o, ho, hs, rfl⟩
      exact ⟨_, (hmem _).mpr ⟨o, ho, hs, rfl⟩, rfl⟩
  · exact sortedGroups_strict _ _ _ _ id Function.injective_id (fun _ => rfl)
  · intro p hp
    obtain ⟨o, -, -, rfl⟩ := (hmem p).mp hp
    exact resolveProperty_spec observations subject o.propertyName

/-! ## All subjects -/

theorem mem_resolve (observations : List Observation) (i : CanonicalIdentity) :
    i ∈ resolve observations ↔ ∃ o : IdentityObservation, .identity o ∈ observations ∧
      i = resolveSubject o.subject ((identityObservations observations).filter (·.subject = o.subject)) := by
  unfold resolve
  rw [mem_sortedGroups]
  simp only [mem_identityObservations]

theorem resolve_spec (observations : List Observation) :
    IdentitiesSpec observations (resolve observations) := by
  have hmem := mem_resolve observations
  refine ⟨?_, ?_, ?_⟩
  · intro s
    rw [List.mem_map]
    constructor
    · rintro ⟨i, hi, rfl⟩
      obtain ⟨o, ho, rfl⟩ := (hmem i).mp hi
      exact ⟨o, ho, rfl⟩
    · rintro ⟨o, ho, rfl⟩
      exact ⟨_, (hmem _).mpr ⟨o, ho, rfl⟩, rfl⟩
  · exact sortedGroups_strict _ _ _ _ id Function.injective_id (fun _ => rfl)
  · intro i hi
    obtain ⟨o, -, rfl⟩ := (hmem i).mp hi
    exact resolveSubject_spec observations o.subject

/-! ## One output only -/

theorem resolve_retains (observations : List Observation) (o : IdentityObservation) (ho : .identity o ∈ observations) :
    ∃ i ∈ resolve observations, i.subject = o.subject ∧ ∃ p ∈ i.properties, p.propertyName = o.propertyName ∧
      o ∈ p.observations := by
  refine ⟨_, (mem_resolve observations _).mpr ⟨o, ho, rfl⟩, rfl, resolveProperty o.propertyName
    (observed observations o.subject o.propertyName), (mem_resolveSubject _ _ _).mpr ⟨o, ho, rfl, rfl⟩, rfl, ?_⟩
  unfold resolveProperty
  simp only [mem_sortedBy]
  unfold observed
  rw [List.mem_filter, mem_identityObservations]
  exact ⟨ho, by simp⟩

theorem tie_eq (a b : IdentityObservation) (hs : a.subject = b.subject) (hp : a.propertyName = b.propertyName)
    (hk : propertyObservationSortKey a = propertyObservationSortKey b) : a = b := by
  obtain ⟨sa, na, va, pa, ma, ta, ra⟩ := a
  obtain ⟨sb, nb, vb, pb, mb, tb, rb⟩ := b
  unfold propertyObservationSortKey at hk
  simp only [List.cons.injEq, and_true] at hk
  obtain ⟨rfl, rfl, rfl, rfl, ht⟩ := hk
  cases hs
  cases hp
  rw [isoformat_injective ta tb ht]

end IdentityResolver

theorem PropertySpec.member {observations : List Observation} {subject : Str} {p : PropertyCorroboration}
    (h : PropertySpec observations subject p) (o : IdentityObservation) (ho : o ∈ p.observations) :
    .identity o ∈ observations ∧ o.subject = subject ∧ o.propertyName = p.propertyName :=
  mem_of_count (h.count o) ho

theorem PropertySpec.tie_eq {observations : List Observation} {subject : Str} {p : PropertyCorroboration}
    (h : PropertySpec observations subject p) (a : IdentityObservation) (ha : a ∈ p.observations)
    (b : IdentityObservation) (hb : b ∈ p.observations)
    (hk : IdentityResolver.propertyObservationSortKey a = IdentityResolver.propertyObservationSortKey b) : a = b := by
  obtain ⟨-, hsa, hpa⟩ := h.member a ha
  obtain ⟨-, hsb, hpb⟩ := h.member b hb
  exact IdentityResolver.tie_eq a b (hsa.trans hsb.symm) (hpa.trans hpb.symm) hk

section Unique

variable {observations observations' : List Observation} (hperm : observations.Perm observations')
include hperm

theorem PropertySpec.unique {subject : Str} {p p' : PropertyCorroboration}
    (h : PropertySpec observations subject p) (h' : PropertySpec observations' subject p')
    (hname : p.propertyName = p'.propertyName) : p = p' := by
  have hobs : p.observations = p'.observations := by
    apply eq_of_sorted _ _ _ _ h.sorted h'.sorted h.tie_eq
    rw [List.perm_iff_count]
    intro o
    rw [h.count, h'.count, hname, hperm.count_eq]
  have hstate : p.state = p'.state := by
    by_cases hv : Differ (·.value) p.observations
    · rw [h.conflicting.mpr hv, h'.conflicting.mpr (hobs ▸ hv)]
    by_cases hs : Differ (fun o => o.provenance.source) p.observations
    · rw [h.confirmed.mpr ⟨hv, hs⟩, h'.confirmed.mpr (hobs ▸ ⟨hv, hs⟩)]
    · rw [h.weak.mpr ⟨hv, hs⟩, h'.weak.mpr (hobs ▸ ⟨hv, hs⟩)]
  cases p
  cases p'
  simp_all

theorem IdentitySpec.unique {i i' : CanonicalIdentity} (h : IdentitySpec observations i)
    (h' : IdentitySpec observations' i') (hsubject : i.subject = i'.subject) : i = i' := by
  have hnames : ∀ name, name ∈ i.properties.map (·.propertyName) ↔ name ∈ i'.properties.map (·.propertyName) := by
    intro name
    rw [h.mem_properties, h'.mem_properties, hsubject]
    simp only [hperm.mem_iff]
  have hprops : i.properties = i'.properties := by
    apply eq_of_strict _ _ _ h.properties_sorted h'.properties_sorted
    intro p
    constructor
    · intro hp
      obtain ⟨p', hp', hname⟩ := List.mem_map.mp ((hnames _).mp (List.mem_map_of_mem hp))
      rwa [PropertySpec.unique hperm (h.properties p hp) (hsubject ▸ h'.properties p' hp') hname.symm]
    · intro hp'
      obtain ⟨p, hp, hname⟩ := List.mem_map.mp ((hnames _).mpr (List.mem_map_of_mem hp'))
      rwa [← PropertySpec.unique hperm (h.properties p hp) (hsubject ▸ h'.properties _ hp') hname]
  have hstate : i.state = i'.state := by
    by_cases hc : ∃ p ∈ i.properties, p.state = .conflicting
    · rw [h.conflicting.mpr hc, h'.conflicting.mpr (hprops ▸ hc)]
    by_cases hf : ∃ p ∈ i.properties, p.state = .confirmed
    · rw [h.confirmed.mpr ⟨hc, hf⟩, h'.confirmed.mpr (hprops ▸ ⟨hc, hf⟩)]
    by_cases hl : 2 ≤ i.properties.length
    · rw [h.probable.mpr ⟨hc, hf, hl⟩, h'.probable.mpr (hprops ▸ ⟨hc, hf, hl⟩)]
    · rw [h.weak.mpr ⟨hc, hf, hl⟩, h'.weak.mpr (hprops ▸ ⟨hc, hf, hl⟩)]
  cases i
  cases i'
  simp_all

/-- Inputs with the same observations permit the same output only. -/
theorem IdentitiesSpec.unique {out out' : List CanonicalIdentity} (h : IdentitiesSpec observations out)
    (h' : IdentitiesSpec observations' out') : out = out' := by
  have hsubjects : ∀ s, s ∈ out.map (·.subject) ↔ s ∈ out'.map (·.subject) := by
    intro s
    rw [h.mem_subjects, h'.mem_subjects]
    simp only [hperm.mem_iff]
  apply eq_of_strict _ _ _ h.sorted h'.sorted
  intro i
  constructor
  · intro hi
    obtain ⟨i', hi', hs⟩ := List.mem_map.mp ((hsubjects _).mp (List.mem_map_of_mem hi))
    rwa [IdentitySpec.unique hperm (h.identities i hi) (h'.identities i' hi') hs.symm]
  · intro hi'
    obtain ⟨i, hi, hs⟩ := List.mem_map.mp ((hsubjects _).mpr (List.mem_map_of_mem hi'))
    rwa [← IdentitySpec.unique hperm (h.identities i hi) (h'.identities _ hi') hs]

end Unique

/-- The resolver's output is the one output that its specification permits. -/
theorem identity_resolve_iff (observations : List Observation) (out : List CanonicalIdentity) :
    IdentityResolver.resolve observations = out ↔ IdentitiesSpec observations out := by
  constructor
  · rintro rfl
    exact IdentityResolver.resolve_spec observations
  · intro h
    exact (IdentityResolver.resolve_spec observations).unique (List.Perm.refl _) h

end NetworkMapper
