import NetworkMapper.Relationships.Resolver

/-!
# What relationship resolution means

As for identities, in terms of the input list alone, and with one output for one input.
-/

open Python

namespace NetworkMapper

/-- Both endpoints resolve, and they differ. -/
def Qualifies (identities : List CanonicalIdentity) (o : RelationshipObservation) : Prop :=
  (∃ i ∈ identities, i.subject = o.subject) ∧ (∃ i ∈ identities, i.subject = o.relatedSubject) ∧
    o.subject ≠ o.relatedSubject

instance (identities : List CanonicalIdentity) (o : RelationshipObservation) :
    Decidable (Qualifies identities o) := inferInstanceAs (Decidable (_ ∧ _ ∧ _))

/-- Two different related subjects qualify for one `(subject, category)`. -/
def Contested (observations : List Observation) (identities : List CanonicalIdentity)
    (subject category : Str) : Prop :=
  ∃ o o' : RelationshipObservation, .relationship o ∈ observations ∧ .relationship o' ∈ observations ∧
    Qualifies identities o ∧ Qualifies identities o' ∧ o.subject = subject ∧ o'.subject = subject ∧
    o.category = category ∧ o'.category = category ∧ o.relatedSubject ≠ o'.relatedSubject

def RelationshipObservation.edge (o : RelationshipObservation) : List Str :=
  [o.subject, o.category, o.relatedSubject]

section Spec

variable (policy : CardinalityPolicy) (observations : List Observation) (identities : List CanonicalIdentity)

structure RelationshipSpec (r : CanonicalRelationship) : Prop where
  count : ∀ o : RelationshipObservation, r.observations.count o =
    if Qualifies identities o ∧ o.edge = r.edge then observations.count (.relationship o) else 0
  sorted : r.observations.Pairwise fun a b =>
    RelationshipResolver.edgeObservationSortKey a ≤ RelationshipResolver.edgeObservationSortKey b
  cardinality : r.cardinality = cardinalityFor r.category policy
  conflicting : r.state = .conflicting ↔
    r.cardinality = .single ∧ Contested observations identities r.subject r.category
  confirmed : r.state = .confirmed ↔
    ¬ (r.cardinality = .single ∧ Contested observations identities r.subject r.category) ∧
      Differ (fun o => o.provenance.source) r.observations
  weak : r.state = .weak ↔
    ¬ (r.cardinality = .single ∧ Contested observations identities r.subject r.category) ∧
      ¬ Differ (fun o => o.provenance.source) r.observations

structure RelationshipsSpec (out : List CanonicalRelationship) : Prop where
  mem_edges : ∀ e, e ∈ out.map (·.edge) ↔
    ∃ o : RelationshipObservation, .relationship o ∈ observations ∧ Qualifies identities o ∧ o.edge = e
  sorted : out.Pairwise fun a b => a.edge < b.edge
  relationships : ∀ r ∈ out, RelationshipSpec policy observations identities r

end Spec

namespace RelationshipResolver

/-! ## One group -/

theorem mem_preprocess (observations : List Observation) (identities : List CanonicalIdentity)
    (o : RelationshipObservation) :
    o ∈ preprocess observations identities ↔ .relationship o ∈ observations ∧ Qualifies identities o := by
  simp [preprocess, Qualifies]

theorem preprocess_eq (observations : List Observation) (identities : List CanonicalIdentity) :
    preprocess observations identities =
      (relationshipObservations observations).filter fun o => Qualifies identities o := by
  unfold preprocess
  apply List.filter_congr
  intro o _
  rw [Bool.eq_iff_iff, decide_eq_true_eq, decide_eq_true_eq]
  simp [Qualifies]

theorem new_ok (subject category relatedSubject : Str) (cardinality : RelationshipCardinality)
    (state : RelationshipCorroborationState) (observations : List RelationshipObservation)
    (hc : state = .conflicting → cardinality = .single) (hne : observations ≠ [])
    (hm : ∀ o ∈ observations, o.subject = subject ∧ o.category = category ∧ o.relatedSubject = relatedSubject) :
    ∃ r, CanonicalRelationship.new subject category relatedSubject cardinality state observations = .ok r ∧
      r.subject = subject ∧ r.category = category ∧ r.relatedSubject = relatedSubject ∧
      r.cardinality = cardinality ∧ r.state = state ∧ r.observations = observations := by
  have h₁ : ¬ (state = .conflicting ∧ cardinality ≠ .single) := fun h => h.2 (hc h.1)
  have h₃ : ¬ ∃ o ∈ observations,
      o.subject ≠ subject ∨ o.category ≠ category ∨ o.relatedSubject ≠ relatedSubject := by
    rintro ⟨o, ho, hbad⟩
    obtain ⟨hs, hcat, hr⟩ := hm o ho
    tauto
  unfold CanonicalRelationship.new
  rw [dif_neg h₁, dif_neg hne, dif_neg h₃]
  exact ⟨_, rfl, rfl, rfl, rfl, rfl, rfl, rfl⟩

/-- What the resolver records for one edge of a group with the given members. -/
structure EdgeRecord (policy : CardinalityPolicy) (subject category : Str)
    (members : List RelationshipObservation) (g : Str × List RelationshipObservation)
    (r : CanonicalRelationship) : Prop where
  subject_eq : r.subject = subject
  category_eq : r.category = category
  related_eq : r.relatedSubject = g.1
  cardinality_eq : r.cardinality = cardinalityFor category policy
  state_eq : r.state = edgeState (decide (cardinalityFor category policy = .single) &&
    decide ((groupBy (·.relatedSubject) members).length > 1)) g.2
  observations_eq : r.observations = sortedBy edgeObservationSortKey g.2

theorem edgeState_conflicting (b : Bool) (os : List RelationshipObservation) :
    edgeState b os = .conflicting ↔ b = true := by
  cases b with
  | true => simp [edgeState]
  | false =>
    unfold edgeState
    simp only [Bool.false_eq_true, if_false, iff_false]
    split_ifs <;> simp

theorem resolveGroup_ok (policy : CardinalityPolicy) (subject category : Str)
    (members : List RelationshipObservation)
    (hm : ∀ o ∈ members, o.subject = subject ∧ o.category = category) :
    ∃ rs, resolveGroup policy subject category members = .ok rs ∧
      List.Forall₂ (EdgeRecord policy subject category members) (groupBy (·.relatedSubject) members) rs := by
  apply mapM_ok
  intro g hg
  obtain ⟨-, hmembers⟩ := (mem_groupBy _ _ _).mp hg
  have hne : sortedBy edgeObservationSortKey g.2 ≠ [] := by
    intro h
    have := congrArg List.length h
    rw [sortedBy_length, List.length_nil, List.length_eq_zero_iff] at this
    exact groupBy_ne_nil _ _ g hg this
  have hmatch : ∀ o ∈ sortedBy edgeObservationSortKey g.2,
      o.subject = subject ∧ o.category = category ∧ o.relatedSubject = g.1 := by
    intro o ho
    rw [mem_sortedBy, hmembers, List.mem_filter, decide_eq_true_eq] at ho
    exact ⟨(hm o ho.1).1, (hm o ho.1).2, ho.2⟩
  obtain ⟨r, hr, h1, h2, h3, h4, h5, h6⟩ := new_ok subject category g.1 (cardinalityFor category policy)
    (edgeState (decide (cardinalityFor category policy = .single) &&
      decide ((groupBy (·.relatedSubject) members).length > 1)) g.2) _
    (by rw [edgeState_conflicting]; simp_all) hne hmatch
  exact ⟨r, hr, h1, h2, h3, h4, h5, h6⟩

/-! ## One edge -/

section Edge

variable (policy : CardinalityPolicy) (observations : List Observation) (identities : List CanonicalIdentity)

def groupMembers (subject category : Str) : List RelationshipObservation :=
  (preprocess observations identities).filter fun o => (o.subject, o.category) = (subject, category)

theorem mem_groupMembers (subject category : Str) (o : RelationshipObservation) :
    o ∈ groupMembers observations identities subject category ↔
      .relationship o ∈ observations ∧ Qualifies identities o ∧ o.subject = subject ∧ o.category = category := by
  simp only [groupMembers, List.mem_filter, mem_preprocess, Prod.mk.injEq, Bool.decide_and, Bool.and_eq_true,
    decide_eq_true_eq]
  tauto

theorem contested_iff (subject category : Str) :
    (groupBy (·.relatedSubject) (groupMembers observations identities subject category)).length > 1 ↔
      Contested observations identities subject category := by
  rw [groupBy_length, gt_iff_lt, one_lt_card_iff]
  unfold Differ
  simp only [mem_groupMembers, Contested]
  constructor
  · rintro ⟨o, ⟨h1, h2, h3, h4⟩, o', ⟨h1', h2', h3', h4'⟩, hne⟩
    exact ⟨o, o', h1, h1', h2, h2', h3, h3', h4, h4', hne⟩
  · rintro ⟨o, o', h1, h1', h2, h2', h3, h3', h4, h4', hne⟩
    exact ⟨o, ⟨h1, h2, h3, h4⟩, o', ⟨h1', h2', h3', h4'⟩, hne⟩

theorem count_edgeMembers (subject category related : Str) (o : RelationshipObservation) :
    ((groupMembers observations identities subject category).filter (·.relatedSubject = related)).count o =
      if Qualifies identities o ∧ o.edge = [subject, category, related] then
        observations.count (.relationship o) else 0 := by
  unfold groupMembers
  rw [preprocess_eq, List.filter_filter, List.filter_filter, ← count_relationshipObservations]
  split
  · rename_i h
    apply List.count_filter
    simpa [RelationshipObservation.edge, and_assoc, and_comm, and_left_comm] using h
  · rename_i h
    apply List.count_eq_zero_of_not_mem
    intro hm
    apply h
    simpa [RelationshipObservation.edge, and_assoc, and_comm, and_left_comm] using (List.mem_filter.mp hm).2

variable {policy observations identities}

theorem EdgeRecord.spec {subject category : Str} {g : Str × List RelationshipObservation}
    {r : CanonicalRelationship}
    (hg : g ∈ groupBy (·.relatedSubject) (groupMembers observations identities subject category))
    (h : EdgeRecord policy subject category (groupMembers observations identities subject category) g r) :
    RelationshipSpec policy observations identities r := by
  obtain ⟨rfl, rfl, hrelated, hcard, hstate, hobs⟩ := h
  obtain ⟨-, hmembers⟩ := (mem_groupBy _ _ _).mp hg
  have hcontested := contested_iff observations identities r.subject r.category
  have hdiffer : Differ (fun o => o.provenance.source) r.observations ↔
      2 ≤ (g.2.map fun o => o.provenance.source).toFinset.card := by
    rw [hobs]
    unfold Differ
    simp only [mem_sortedBy]
    exact (one_lt_card_iff _ _).symm
  refine ⟨?_, ?_, hcard, ?_, ?_, ?_⟩
  · intro o
    rw [hobs, (sortedBy_perm _ _).count_eq, hmembers, ← hrelated]
    exact count_edgeMembers observations identities r.subject r.category r.relatedSubject o
  · rw [hobs]
    exact sortedBy_sorted _ _
  all_goals
    rw [hstate, hcard, ← hcontested, edgeState]
    try rw [hdiffer]
    split_ifs <;> simp_all

end Edge

/-! ## All edges -/

section Edges

variable (policy : CardinalityPolicy) (observations : List Observation) (identities : List CanonicalIdentity)

def groups : List ((Str × Str) × List RelationshipObservation) :=
  groupBy (fun o => (o.subject, o.category)) (preprocess observations identities)

def GroupRecords (g : (Str × Str) × List RelationshipObservation) (rs : List CanonicalRelationship) : Prop :=
  List.Forall₂ (EdgeRecord policy g.1.1 g.1.2 g.2) (groupBy (·.relatedSubject) g.2) rs

theorem groups_members (g : (Str × Str) × List RelationshipObservation)
    (hg : g ∈ groups observations identities) : g.2 = groupMembers observations identities g.1.1 g.1.2 :=
  ((mem_groupBy _ _ _).mp hg).2

theorem mem_groups_edges (s c t : Str) :
    (∃ g ∈ groups observations identities, ∃ h ∈ groupBy (·.relatedSubject) g.2,
      g.1 = (s, c) ∧ h.1 = t) ↔
      ∃ o : RelationshipObservation, .relationship o ∈ observations ∧ Qualifies identities o ∧
        o.edge = [s, c, t] := by
  constructor
  · rintro ⟨g, hg, h, hh, hk, rfl⟩
    obtain ⟨⟨o, ho, hrel⟩, -⟩ := (mem_groupBy _ _ _).mp hh
    rw [groups_members _ _ g hg, hk, mem_groupMembers] at ho
    obtain ⟨hmem, hq, rfl, rfl⟩ := ho
    exact ⟨o, hmem, hq, by rw [RelationshipObservation.edge, hrel]⟩
  · rintro ⟨o, hmem, hq, he⟩
    unfold RelationshipObservation.edge at he
    simp only [List.cons.injEq, and_true] at he
    obtain ⟨rfl, rfl, rfl⟩ := he
    have hp := (mem_preprocess observations identities o).mpr ⟨hmem, hq⟩
    have hm := (mem_groupMembers observations identities _ _ o).mpr ⟨hmem, hq, rfl, rfl⟩
    refine ⟨((o.subject, o.category), groupMembers observations identities o.subject o.category),
      (mem_groupBy _ _ _).mpr ⟨⟨o, hp, rfl⟩, rfl⟩, ?_⟩
    exact ⟨(o.relatedSubject, (groupMembers observations identities o.subject o.category).filter fun a =>
      a.relatedSubject = o.relatedSubject), (mem_groupBy _ _ _).mpr ⟨⟨o, hm, rfl⟩, rfl⟩, rfl, rfl⟩

variable {policy observations identities} {rss : List (List CanonicalRelationship)}
  (hall : List.Forall₂ (GroupRecords policy) (groups observations identities) rss)
include hall

theorem mem_records (r : CanonicalRelationship) (hr : r ∈ rss.flatten) :
    ∃ g ∈ groups observations identities, ∃ h ∈ groupBy (·.relatedSubject) g.2,
      EdgeRecord policy g.1.1 g.1.2 g.2 h r := by
  obtain ⟨rs, hrs, hr⟩ := List.mem_flatten.mp hr
  obtain ⟨g, hg, hrecords⟩ := forall₂_mem_right hall rs hrs
  obtain ⟨h, hh, hrec⟩ := forall₂_mem_right hrecords r hr
  exact ⟨g, hg, h, hh, hrec⟩

theorem records_edges : rss.flatten.map (·.edge) =
    (groups observations identities).flatMap fun g =>
      (groupBy (·.relatedSubject) g.2).map fun h => [g.1.1, g.1.2, h.1] := by
  have houter : rss.map (fun rs => rs.map (·.edge)) =
      (groups observations identities).map fun g =>
        (groupBy (·.relatedSubject) g.2).map fun h => [g.1.1, g.1.2, h.1] := by
    apply forall₂_map_eq hall
    intro g _ rs hrecords
    apply forall₂_map_eq hrecords
    intro h _ r hrec
    unfold CanonicalRelationship.edge
    rw [hrec.subject_eq, hrec.category_eq, hrec.related_eq]
  rw [List.map_flatten, houter, List.flatMap_def]

theorem records_nodup : (rss.flatten.map (·.edge)).Nodup := by
  rw [records_edges hall, List.nodup_flatMap]
  refine ⟨?_, ?_⟩
  · intro g _
    have hn := (groupBy_groups (·.relatedSubject) g.2).keys_nodup
    have hinj : Function.Injective fun t : Str => [g.1.1, g.1.2, t] := by
      intro t t' h
      simpa using h
    have hmap := hn.map hinj
    rwa [List.map_map] at hmap
  · -- Different groups differ in subject or category.
    have hn := (groupBy_groups (fun o : RelationshipObservation => (o.subject, o.category))
      (preprocess observations identities)).keys_nodup
    rw [List.Nodup, List.pairwise_map] at hn
    apply hn.imp
    intro g g' hne e he he'
    obtain ⟨h, -, rfl⟩ := List.mem_map.mp he
    obtain ⟨h', -, heq⟩ := List.mem_map.mp he'
    simp only [List.cons.injEq, and_true] at heq
    exact hne (Prod.ext heq.1.symm heq.2.1.symm)

theorem records_spec :
    RelationshipsSpec policy observations identities (sortedBy CanonicalRelationship.edge rss.flatten) := by
  refine ⟨?_, sortedBy_strict _ _ (records_nodup hall), ?_⟩
  · intro e
    rw [((sortedBy_perm _ _).map _).mem_iff, records_edges hall]
    simp only [List.mem_flatMap, List.mem_map]
    constructor
    · rintro ⟨g, hg, h, hh, rfl⟩
      exact (mem_groups_edges observations identities _ _ _).mp ⟨g, hg, h, hh, rfl, rfl⟩
    · rintro ⟨o, hmem, hq, rfl⟩
      obtain ⟨g, hg, h, hh, hk, ht⟩ := (mem_groups_edges observations identities _ _ _).mpr ⟨o, hmem, hq, rfl⟩
      exact ⟨g, hg, h, hh, by rw [hk, ht, RelationshipObservation.edge]⟩
  · intro r hr
    rw [mem_sortedBy] at hr
    obtain ⟨g, hg, h, hh, hrec⟩ := mem_records hall r hr
    rw [groups_members _ _ g hg] at hh hrec
    exact hrec.spec hh

end Edges

/-- The resolver raises nothing, and its output meets the specification. -/
theorem resolve_ok (policy : CardinalityPolicy) (observations : List Observation)
    (identities : List CanonicalIdentity) :
    ∃ out, resolve policy observations identities = .ok out ∧
      RelationshipsSpec policy observations identities out := by
  obtain ⟨rss, hrss, hall⟩ := mapM_ok
    (fun g : (Str × Str) × List RelationshipObservation => resolveGroup policy g.1.1 g.1.2 g.2)
    (GroupRecords policy) (groups observations identities) (by
      intro g hg
      apply resolveGroup_ok
      intro o ho
      rw [groups_members _ _ g hg, mem_groupMembers] at ho
      exact ho.2.2)
  refine ⟨sortedBy CanonicalRelationship.edge rss.flatten, ?_, records_spec hall⟩
  unfold groups at hrss
  rw [resolve, hrss]
  rfl

/-! ## One output only -/

theorem tie_eq (a b : RelationshipObservation) (he : a.edge = b.edge)
    (hk : edgeObservationSortKey a = edgeObservationSortKey b) : a = b := by
  obtain ⟨sa, ra, ca, pa, ma, ta, na⟩ := a
  obtain ⟨sb, rb, cb, pb, mb, tb, nb⟩ := b
  simp only [edgeObservationSortKey, RelationshipObservation.edge, List.cons.injEq, and_true] at he hk
  obtain ⟨rfl, rfl, rfl⟩ := he
  obtain ⟨rfl, rfl, -, rfl, ht⟩ := hk
  rw [isoformat_injective ta tb ht]

end RelationshipResolver

theorem RelationshipSpec.member {policy : CardinalityPolicy} {observations : List Observation}
    {identities : List CanonicalIdentity} {r : CanonicalRelationship}
    (h : RelationshipSpec policy observations identities r) (o : RelationshipObservation)
    (ho : o ∈ r.observations) :
    .relationship o ∈ observations ∧ Qualifies identities o ∧ o.edge = r.edge :=
  mem_of_count (h.count o) ho

theorem RelationshipSpec.tie_eq {policy : CardinalityPolicy} {observations : List Observation}
    {identities : List CanonicalIdentity} {r : CanonicalRelationship}
    (h : RelationshipSpec policy observations identities r) (a : RelationshipObservation)
    (ha : a ∈ r.observations) (b : RelationshipObservation) (hb : b ∈ r.observations)
    (hk : RelationshipResolver.edgeObservationSortKey a = RelationshipResolver.edgeObservationSortKey b) : a = b := by
  obtain ⟨-, -, hea⟩ := h.member a ha
  obtain ⟨-, -, heb⟩ := h.member b hb
  exact RelationshipResolver.tie_eq a b (hea.trans heb.symm) hk

section Unique

variable {policy : CardinalityPolicy} {observations observations' : List Observation}
  {identities identities' : List CanonicalIdentity} (hperm : observations.Perm observations')
  (hids : ∀ s, (∃ i ∈ identities, i.subject = s) ↔ ∃ i ∈ identities', i.subject = s)

include hids in
theorem qualifies_congr (o : RelationshipObservation) : Qualifies identities o ↔ Qualifies identities' o := by
  unfold Qualifies
  simp only [hids]

include hperm hids in
theorem contested_congr (subject category : Str) :
    Contested observations identities subject category ↔ Contested observations' identities' subject category := by
  unfold Contested
  simp only [qualifies_congr hids, hperm.mem_iff]

include hperm hids

theorem RelationshipSpec.unique {r r' : CanonicalRelationship}
    (h : RelationshipSpec policy observations identities r)
    (h' : RelationshipSpec policy observations' identities' r') (hedge : r.edge = r'.edge) : r = r' := by
  have hobs : r.observations = r'.observations := by
    apply eq_of_sorted _ _ _ _ h.sorted h'.sorted h.tie_eq
    rw [List.perm_iff_count]
    intro o
    rw [h.count, h'.count, hedge, hperm.count_eq]
    simp only [qualifies_congr hids]
  unfold CanonicalRelationship.edge at hedge
  simp only [List.cons.injEq, and_true] at hedge
  obtain ⟨hs, hc, hr⟩ := hedge
  have hcard : r.cardinality = r'.cardinality := by rw [h.cardinality, h'.cardinality, hc]
  have hstate : r.state = r'.state := by
    have hcontested : r'.cardinality = .single ∧ Contested observations' identities' r'.subject r'.category ↔
        r.cardinality = .single ∧ Contested observations identities r.subject r.category := by
      rw [hcard, hs, hc, contested_congr hperm hids]
    by_cases hx : r.cardinality = .single ∧ Contested observations identities r.subject r.category
    · rw [h.conflicting.mpr hx, h'.conflicting.mpr (hcontested.mpr hx)]
    have hx' := mt hcontested.mp hx
    by_cases hd : Differ (fun o => o.provenance.source) r.observations
    · rw [h.confirmed.mpr ⟨hx, hd⟩, h'.confirmed.mpr ⟨hx', hobs ▸ hd⟩]
    · rw [h.weak.mpr ⟨hx, hd⟩, h'.weak.mpr ⟨hx', hobs ▸ hd⟩]
  cases r
  cases r'
  simp_all

theorem RelationshipsSpec.unique {out out' : List CanonicalRelationship}
    (h : RelationshipsSpec policy observations identities out)
    (h' : RelationshipsSpec policy observations' identities' out') : out = out' := by
  have hedges : ∀ e, e ∈ out.map (·.edge) ↔ e ∈ out'.map (·.edge) := by
    intro e
    rw [h.mem_edges, h'.mem_edges]
    simp only [qualifies_congr hids, hperm.mem_iff]
  apply eq_of_strict _ _ _ h.sorted h'.sorted
  intro r
  constructor
  · intro hr
    obtain ⟨r', hr', he⟩ := List.mem_map.mp ((hedges _).mp (List.mem_map_of_mem hr))
    rwa [RelationshipSpec.unique hperm hids (h.relationships r hr) (h'.relationships r' hr') he.symm]
  · intro hr'
    obtain ⟨r, hr, he⟩ := List.mem_map.mp ((hedges _).mpr (List.mem_map_of_mem hr'))
    rwa [← RelationshipSpec.unique hperm hids (h.relationships r hr) (h'.relationships _ hr') he]

end Unique

/-- The resolver returns, and what it returns is the one output that its specification permits. -/
theorem relationship_resolve_iff (policy : CardinalityPolicy) (observations : List Observation)
    (identities : List CanonicalIdentity) :
    (∃ out, RelationshipResolver.resolve policy observations identities = .ok out) ∧
      ∀ out, RelationshipResolver.resolve policy observations identities = .ok out ↔
        RelationshipsSpec policy observations identities out := by
  obtain ⟨out, hout, hspec⟩ := RelationshipResolver.resolve_ok policy observations identities
  refine ⟨⟨out, hout⟩, ?_⟩
  intro out'
  rw [hout, Except.ok.injEq]
  constructor
  · rintro rfl
    exact hspec
  · intro h
    exact hspec.unique (List.Perm.refl _) (fun _ => Iff.rfl) h

end NetworkMapper
