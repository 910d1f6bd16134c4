import NetworkMapper.Reporting.CanonicalPresentation
import NetworkMapper.Resolution.Order

/-!
# What the presentation of relationships holds

The resolver's records are sorted by edge, so regrouping them by subject and
category and reading the groups one after the other gives them back.
-/

open Python

namespace NetworkMapper

namespace CanonicalPresentation

structure Presents (py : Interpreter) (project : Project) (g : (Str × Str) × List CanonicalRelationship)
    (p : RelationshipPresentation) : Prop where
  subject : p.subject = g.1.1
  device : p.device = project.networkGraph.getDevice g.1.1
  category : p.category = g.1.2
  categoryLabel : p.categoryLabel = CanonicalPresentation.categoryLabel py g.1.2
  cardinality : ∀ edge ∈ g.2, edge.cardinality = p.cardinality
  related : p.related = g.2.map (presentRelated project)

variable (py : Interpreter) (project : Project)

theorem presentRelationshipGroup_ok (subject category : Str) (edges : List CanonicalRelationship)
    (cardinality : RelationshipCardinality) (hne : edges ≠ [])
    (hcard : ∀ edge ∈ edges, edge.cardinality = cardinality) :
    ∃ p, presentRelationshipGroup py subject category edges project = .ok p ∧
      Presents py project ((subject, category), edges) p := by
  have hone : (edges.map (·.cardinality)).dedup = [cardinality] := by
    have hall : edges.map (·.cardinality) = List.replicate edges.length cardinality := by
      rw [List.eq_replicate_iff]
      exact ⟨List.length_map _, List.forall_mem_map.mpr hcard⟩
    rw [hall]
    exact List.replicate_dedup (List.length_pos_iff.mpr hne).ne'
  unfold presentRelationshipGroup
  rw [hone]
  exact ⟨_, rfl, rfl, rfl, rfl, rfl, hcard, rfl⟩

variable {policy : CardinalityPolicy} {observations : List Observation} {identities : List CanonicalIdentity}
  {relationships : List CanonicalRelationship}

theorem presentRelationships_ok (h : RelationshipsSpec policy observations identities relationships) :
    ∃ out, presentRelationships py relationships project = .ok out ∧
      List.Forall₂ (Presents py project) (groupBy (fun r => (r.subject, r.category)) relationships) out := by
  apply mapM_ok
  rintro ⟨⟨subject, category⟩, edges⟩ hg
  obtain ⟨-, hmembers⟩ := (mem_groupBy _ _ _).mp hg
  simp only at hmembers
  apply presentRelationshipGroup_ok py project subject category edges (cardinalityFor category policy)
    (groupBy_ne_nil _ _ _ hg)
  intro edge hedge
  rw [hmembers, List.mem_filter, decide_eq_true_eq, Prod.mk.injEq] at hedge
  rw [(h.relationships edge hedge.1).cardinality, hedge.2.2]

theorem edge_lt_prefix (r r' : CanonicalRelationship) (h : r.edge < r'.edge) :
    [r.subject, r.category] ≤ [r'.subject, r'.category] := by
  rw [← not_lt]
  intro hlt
  apply lt_asymm h
  simp only [CanonicalRelationship.edge, List.cons_lt_cons_iff, List.not_lt_nil, and_false, or_false] at hlt ⊢
  tauto

theorem flatten_groups (h : RelationshipsSpec policy observations identities relationships) :
    (groupBy (fun r => (r.subject, r.category)) relationships).flatMap Prod.snd = relationships := by
  apply groupBy_flatMap (fun k : Str × Str => [k.1, k.2])
  · rintro ⟨s, c⟩ ⟨s', c'⟩ heq
    simpa using heq
  · exact h.sorted.imp fun {r r'} hlt => edge_lt_prefix r r' hlt

end CanonicalPresentation

end NetworkMapper
