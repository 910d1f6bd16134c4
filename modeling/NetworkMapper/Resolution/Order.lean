import NetworkMapper.Identity.Spec
import NetworkMapper.Relationships.Spec

/-!
# The order of the evidence does not matter

Each specification has one output for all orders of one input, and each resolver
meets its specification.
-/

open Python

namespace NetworkMapper

/-- The two resolvers in the order of `Application.run`. -/
def Application.resolve (policy : CardinalityPolicy) (observations : List Observation) :
    Except RelationshipError (List CanonicalIdentity × List CanonicalRelationship) := do
  let identities := IdentityResolver.resolve observations
  let relationships ← RelationshipResolver.resolve policy observations identities
  return (identities, relationships)

theorem Application.resolve_ok (policy : CardinalityPolicy) (observations : List Observation) :
    ∃ relationships,
      Application.resolve policy observations = .ok (IdentityResolver.resolve observations, relationships) ∧
      IdentitiesSpec observations (IdentityResolver.resolve observations) ∧
      RelationshipsSpec policy observations (IdentityResolver.resolve observations) relationships := by
  obtain ⟨out, hout, hspec⟩ :=
    RelationshipResolver.resolve_ok policy observations (IdentityResolver.resolve observations)
  refine ⟨out, ?_, IdentityResolver.resolve_spec observations, hspec⟩
  rw [Application.resolve, hout]
  rfl

theorem identities_of_perm {observations observations' : List Observation}
    (hperm : observations.Perm observations') :
    IdentityResolver.resolve observations = IdentityResolver.resolve observations' :=
  (IdentityResolver.resolve_spec observations).unique hperm (IdentityResolver.resolve_spec observations')

theorem relationships_of_perm {observations observations' : List Observation}
    (hperm : observations.Perm observations') {identities identities' : List CanonicalIdentity}
    (hids : identities.Perm identities') (policy : CardinalityPolicy) :
    RelationshipResolver.resolve policy observations identities =
      RelationshipResolver.resolve policy observations' identities' := by
  obtain ⟨out, hout, hspec⟩ := RelationshipResolver.resolve_ok policy observations identities
  obtain ⟨out', hout', hspec'⟩ := RelationshipResolver.resolve_ok policy observations' identities'
  have hsubjects : ∀ s, (∃ i ∈ identities, i.subject = s) ↔ ∃ i ∈ identities', i.subject = s := by
    intro s
    simp only [hids.mem_iff]
  rw [hout, hout', hspec.unique hperm hsubjects hspec']

/-- Equal tuples for every order of the evidence, and no tie that a stable sort could show. -/
theorem resolution_order_independent (observations observations' : List Observation)
    (hperm : observations.Perm observations') (identities' : List CanonicalIdentity)
    (hids : (IdentityResolver.resolve observations).Perm identities') (policy : CardinalityPolicy) :
    IdentityResolver.resolve observations' = IdentityResolver.resolve observations ∧
      RelationshipResolver.resolve policy observations' identities' =
        RelationshipResolver.resolve policy observations (IdentityResolver.resolve observations) ∧
      (∀ i ∈ IdentityResolver.resolve observations, ∀ p ∈ i.properties, ∀ a ∈ p.observations,
        ∀ b ∈ p.observations, IdentityResolver.propertyObservationSortKey a =
          IdentityResolver.propertyObservationSortKey b → a = b) ∧
      ∀ out, RelationshipResolver.resolve policy observations (IdentityResolver.resolve observations) = .ok out →
        ∀ r ∈ out, ∀ a ∈ r.observations, ∀ b ∈ r.observations,
          RelationshipResolver.edgeObservationSortKey a = RelationshipResolver.edgeObservationSortKey b → a = b := by
  refine ⟨(identities_of_perm hperm).symm, (relationships_of_perm hperm hids policy).symm, ?_, ?_⟩
  · intro i hi p hp a ha b hb
    exact (((IdentityResolver.resolve_spec observations).identities i hi).properties p hp).tie_eq a ha b hb
  · intro out hout r hr a ha b hb
    obtain ⟨out', hout', hspec⟩ :=
      RelationshipResolver.resolve_ok policy observations (IdentityResolver.resolve observations)
    rw [hout', Except.ok.injEq] at hout
    subst hout
    exact (hspec.relationships r hr).tie_eq a ha b hb

/-- Two values of one property, one of them reported twice, and an edge. -/
def sampleConflict : List Observation :=
  [sampleIdentity "192.0.2.10" "02:00:5E:00:53:0B", sampleIdentity "192.0.2.10" "02:00:5E:00:53:0A",
    sampleRelationship "192.0.2.1" "192.0.2.10", sampleIdentity "192.0.2.10" "02:00:5E:00:53:0B"]

theorem resolution_order_independent_swap :
    IdentityResolver.resolve sampleConflict.reverse = IdentityResolver.resolve sampleConflict ∧
      RelationshipResolver.resolve categoryCardinality sampleConflict.reverse
          (IdentityResolver.resolve sampleConflict) =
        RelationshipResolver.resolve categoryCardinality sampleConflict (IdentityResolver.resolve sampleConflict) :=
  have h := resolution_order_independent sampleConflict sampleConflict.reverse (List.reverse_perm sampleConflict).symm
    (IdentityResolver.resolve sampleConflict) (List.Perm.refl _) categoryCardinality
  ⟨h.1, h.2.1⟩

end NetworkMapper
