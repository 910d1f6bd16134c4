import NetworkMapper.Resolution.Order
import Mathlib.Data.List.Perm.Subperm

/-!
# More evidence never takes a conclusion back

One step up in evidence moves each record one or more steps up in state, and the
record keeps its observations.
-/

open Python

namespace NetworkMapper

def IdentityCorroborationState.rank : IdentityCorroborationState → Nat
  | .weak => 0
  | .probable => 1
  | .confirmed => 2
  | .conflicting => 3

def RelationshipCorroborationState.rank : RelationshipCorroborationState → Nat
  | .weak => 0
  | .confirmed => 1
  | .conflicting => 2

/-- What is left of a record in the result for more evidence. -/
structure PropertyGrows (p p' : PropertyCorroboration) : Prop where
  name : p'.propertyName = p.propertyName
  state : p.state.rank ≤ p'.state.rank
  observations : List.Subperm p.observations p'.observations

structure IdentityGrows (i i' : CanonicalIdentity) : Prop where
  subject : i'.subject = i.subject
  state : i.state.rank ≤ i'.state.rank
  properties : ∀ p ∈ i.properties, ∃ p' ∈ i'.properties, PropertyGrows p p'

structure RelationshipGrows (r r' : CanonicalRelationship) : Prop where
  edge : r'.edge = r.edge
  state : r.state.rank ≤ r'.state.rank
  observations : List.Subperm r.observations r'.observations

theorem IdentitySpec.rank_le {observations : List Observation} {i : CanonicalIdentity}
    (h : IdentitySpec observations i) (p : PropertyCorroboration) (hp : p ∈ i.properties) :
    p.state.rank ≤ i.state.rank := by
  have hspec := h.properties p hp
  by_cases hc : ∃ q ∈ i.properties, q.state = .conflicting
  · rw [h.conflicting.mpr hc]
    cases p.state <;> decide
  by_cases hv : Differ (·.value) p.observations
  · exact absurd ⟨p, hp, hspec.conflicting.mpr hv⟩ hc
  by_cases hs : Differ (fun o => o.provenance.source) p.observations
  · have hstate := hspec.confirmed.mpr ⟨hv, hs⟩
    rw [hstate, h.confirmed.mpr ⟨hc, p, hp, hstate⟩]
  · rw [hspec.weak.mpr ⟨hv, hs⟩]
    exact Nat.zero_le _

theorem IdentitySpec.length_le {observations : List Observation} {i i' : CanonicalIdentity}
    (h : IdentitySpec observations i)
    (hnames : ∀ p ∈ i.properties, ∃ p' ∈ i'.properties, p'.propertyName = p.propertyName) :
    i.properties.length ≤ i'.properties.length := by
  have hnodup : (i.properties.map (·.propertyName)).Nodup :=
    List.pairwise_map.mpr (h.properties_sorted.imp fun hlt => ne_of_lt hlt)
  have hsubset : i.properties.map (·.propertyName) ⊆ i'.properties.map (·.propertyName) := by
    intro name hname
    obtain ⟨p, hp, rfl⟩ := List.mem_map.mp hname
    exact List.mem_map.mpr (hnames p hp)
  simpa using (List.subperm_of_subset hnodup hsubset).length_le

section Grows

variable {observations observations' : List Observation} (hsub : List.Subperm observations observations')
include hsub

theorem PropertySpec.grows {subject : Str} {p p' : PropertyCorroboration}
    (h : PropertySpec observations subject p) (h' : PropertySpec observations' subject p')
    (hname : p'.propertyName = p.propertyName) : PropertyGrows p p' := by
  have hobs : List.Subperm p.observations p'.observations := by
    rw [List.subperm_ext_iff]
    intro o _
    rw [h.count, h'.count, hname]
    split
    · exact hsub.count_le _
    · exact le_refl 0
  refine ⟨hname, ?_, hobs⟩
  by_cases hv : Differ (·.value) p.observations
  · rw [h.conflicting.mpr hv, h'.conflicting.mpr (hv.mono fun o ho => hobs.subset ho)]
  by_cases hs : Differ (fun o => o.provenance.source) p.observations
  · have hs' := hs.mono fun o ho => hobs.subset ho
    rw [h.confirmed.mpr ⟨hv, hs⟩]
    by_cases hv' : Differ (·.value) p'.observations
    · rw [h'.conflicting.mpr hv']
      decide
    · rw [h'.confirmed.mpr ⟨hv', hs'⟩]
  · rw [h.weak.mpr ⟨hv, hs⟩]
    exact Nat.zero_le _

theorem IdentitySpec.grows {i i' : CanonicalIdentity} (h : IdentitySpec observations i)
    (h' : IdentitySpec observations' i') (hsubject : i'.subject = i.subject) : IdentityGrows i i' := by
  have hprops : ∀ p ∈ i.properties, ∃ p' ∈ i'.properties, PropertyGrows p p' := by
    intro p hp
    obtain ⟨o, ho, hs, hn⟩ := (h.mem_properties _).mp (List.mem_map_of_mem hp)
    obtain ⟨p', hp', hname⟩ := List.mem_map.mp
      ((h'.mem_properties p.propertyName).mpr ⟨o, hsub.subset ho, hs.trans hsubject.symm, hn⟩)
    exact ⟨p', hp', PropertySpec.grows hsub (h.properties p hp) (hsubject ▸ h'.properties p' hp') hname⟩
  refine ⟨hsubject, ?_, hprops⟩
  have hrank : ∀ p ∈ i.properties, p.state.rank ≤ i'.state.rank := by
    intro p hp
    obtain ⟨p', hp', hgrows⟩ := hprops p hp
    exact le_trans hgrows.state (h'.rank_le p' hp')
  by_cases hc : ∃ p ∈ i.properties, p.state = .conflicting
  · obtain ⟨p, hp, hstate⟩ := hc
    rw [h.conflicting.mpr ⟨p, hp, hstate⟩, ← hstate]
    exact hrank p hp
  by_cases hf : ∃ p ∈ i.properties, p.state = .confirmed
  · obtain ⟨p, hp, hstate⟩ := hf
    rw [h.confirmed.mpr ⟨hc, p, hp, hstate⟩, ← hstate]
    exact hrank p hp
  by_cases hl : 2 ≤ i.properties.length
  · have hlen := h.length_le fun p hp =>
      let ⟨p', hp', hgrows⟩ := hprops p hp
      ⟨p', hp', hgrows.name⟩
    have hweak : i'.state ≠ .weak := fun hw => (h'.weak.mp hw).2.2 (le_trans hl hlen)
    rw [h.probable.mpr ⟨hc, hf, hl⟩]
    cases hs : i'.state with
    | weak => exact absurd hs hweak
    | probable | confirmed | conflicting => decide
  · rw [h.weak.mpr ⟨hc, hf, hl⟩]
    exact Nat.zero_le _

theorem IdentitiesSpec.grows {out out' : List CanonicalIdentity} (h : IdentitiesSpec observations out)
    (h' : IdentitiesSpec observations' out') : ∀ i ∈ out, ∃ i' ∈ out', IdentityGrows i i' := by
  intro i hi
  obtain ⟨o, ho, hs⟩ := (h.mem_subjects _).mp (List.mem_map_of_mem hi)
  obtain ⟨i', hi', hsubject⟩ := List.mem_map.mp ((h'.mem_subjects i.subject).mpr ⟨o, hsub.subset ho, hs⟩)
  exact ⟨i', hi', IdentitySpec.grows hsub (h.identities i hi) (h'.identities i' hi') hsubject⟩

variable {policy : CardinalityPolicy} {identities identities' : List CanonicalIdentity}
  (hids : ∀ i ∈ identities, ∃ i' ∈ identities', i'.subject = i.subject)

omit hsub in
include hids in
theorem Qualifies.grows {o : RelationshipObservation} (h : Qualifies identities o) : Qualifies identities' o := by
  -- New endpoints can make an observation qualify. They never stop one.
  obtain ⟨⟨i, hi, hs⟩, ⟨j, hj, hr⟩, hne⟩ := h
  obtain ⟨i', hi', hs'⟩ := hids i hi
  obtain ⟨j', hj', hr'⟩ := hids j hj
  exact ⟨⟨i', hi', hs'.trans hs⟩, ⟨j', hj', hr'.trans hr⟩, hne⟩

include hids

theorem RelationshipSpec.grows {r r' : CanonicalRelationship}
    (h : RelationshipSpec policy observations identities r)
    (h' : RelationshipSpec policy observations' identities' r') (hedge : r'.edge = r.edge) :
    RelationshipGrows r r' := by
  have hobs : List.Subperm r.observations r'.observations := by
    rw [List.subperm_ext_iff]
    intro o ho
    obtain ⟨-, hq, he⟩ := h.member o ho
    rw [h.count, h'.count, hedge, if_pos ⟨hq, he⟩, if_pos ⟨hq.grows hids, he⟩]
    exact hsub.count_le _
  refine ⟨hedge, ?_, hobs⟩
  unfold CanonicalRelationship.edge at hedge
  simp only [List.cons.injEq, and_true] at hedge
  obtain ⟨hs, hc, -⟩ := hedge
  have hcard : r'.cardinality = r.cardinality := by rw [h.cardinality, h'.cardinality, hc]
  have hcontested : Contested observations identities r.subject r.category →
      Contested observations' identities' r'.subject r'.category := by
    rw [hs, hc]
    rintro ⟨o, o', ho, ho', hq, hq', hrest⟩
    exact ⟨o, o', hsub.subset ho, hsub.subset ho', hq.grows hids, hq'.grows hids, hrest⟩
  by_cases hx : r.cardinality = .single ∧ Contested observations identities r.subject r.category
  · rw [h.conflicting.mpr hx, h'.conflicting.mpr ⟨hcard.trans hx.1, hcontested hx.2⟩]
  by_cases hd : Differ (fun o => o.provenance.source) r.observations
  · have hd' := hd.mono fun o ho => hobs.subset ho
    rw [h.confirmed.mpr ⟨hx, hd⟩]
    by_cases hx' : r'.cardinality = .single ∧ Contested observations' identities' r'.subject r'.category
    · rw [h'.conflicting.mpr hx']
      decide
    · rw [h'.confirmed.mpr ⟨hx', hd'⟩]
  · rw [h.weak.mpr ⟨hx, hd⟩]
    exact Nat.zero_le _

theorem RelationshipsSpec.grows {out out' : List CanonicalRelationship}
    (h : RelationshipsSpec policy observations identities out)
    (h' : RelationshipsSpec policy observations' identities' out') :
    ∀ r ∈ out, ∃ r' ∈ out', RelationshipGrows r r' := by
  intro r hr
  obtain ⟨o, ho, hq, he⟩ := (h.mem_edges _).mp (List.mem_map_of_mem hr)
  obtain ⟨r', hr', hedge⟩ := List.mem_map.mp
    ((h'.mem_edges r.edge).mpr ⟨o, hsub.subset ho, hq.grows hids, he⟩)
  exact ⟨r', hr', RelationshipSpec.grows hsub hids (h.relationships r hr) (h'.relationships r' hr') hedge⟩

end Grows

/-- Every record for less evidence is there for more, no lower and with no observation lost. -/
theorem resolution_grows (policy : CardinalityPolicy) (observations observations' : List Observation)
    (hsub : List.Subperm observations observations') :
    ∃ identities relationships identities' relationships',
      Application.resolve policy observations = .ok (identities, relationships) ∧
      Application.resolve policy observations' = .ok (identities', relationships') ∧
      (∀ i ∈ identities, ∃ i' ∈ identities', IdentityGrows i i') ∧
      ∀ r ∈ relationships, ∃ r' ∈ relationships', RelationshipGrows r r' := by
  obtain ⟨out, hout, hspec, hrel⟩ := Application.resolve_ok policy observations
  obtain ⟨out', hout', hspec', hrel'⟩ := Application.resolve_ok policy observations'
  have hids := hspec.grows hsub hspec'
  refine ⟨_, out, _, out', hout, hout', hids, ?_⟩
  · apply hrel.grows hsub _ hrel'
    intro i hi
    obtain ⟨i', hi', hgrows⟩ := hids i hi
    exact ⟨i', hi', hgrows.subject⟩

theorem resolution_grows_conflict :
    ∃ identities relationships identities' relationships',
      Application.resolve categoryCardinality [sampleIdentity "192.0.2.10" "02:00:5E:00:53:0B"] =
        .ok (identities, relationships) ∧
      Application.resolve categoryCardinality
        [sampleIdentity "192.0.2.10" "02:00:5E:00:53:0A", sampleIdentity "192.0.2.10" "02:00:5E:00:53:0B"] =
        .ok (identities', relationships') ∧
      (∀ i ∈ identities, ∃ i' ∈ identities', IdentityGrows i i') ∧
      ∀ r ∈ relationships, ∃ r' ∈ relationships', RelationshipGrows r r' :=
  resolution_grows categoryCardinality [sampleIdentity "192.0.2.10" "02:00:5E:00:53:0B"]
    [sampleIdentity "192.0.2.10" "02:00:5E:00:53:0A", sampleIdentity "192.0.2.10" "02:00:5E:00:53:0B"]
    (List.sublist_cons_self _ _).subperm

end NetworkMapper
