import NetworkMapper.Reporting.PresentationSpec

/-!
# The presentation loses nothing

The records of the resolvers can be read off the presentation, in their order.
Two edges of one subject and category are two related subjects, so the entries of
a group are contested exactly when there are two of them.
-/

open Python

namespace NetworkMapper

namespace CanonicalPresentation

/-! ## Identities -/

/-- Each distinct value once, with the observations that have it in their order, and each observation once. -/
structure GroupsValues (observations : List IdentityObservation) (values : List PropertyValuePresentation) : Prop where
  values_nodup : (values.map (·.value)).Nodup
  mem_values : ∀ v, v ∈ values.map (·.value) ↔ ∃ o ∈ observations, o.value = v
  members : ∀ p ∈ values, p.observations = observations.filter (·.value = p.value)
  observations_perm : (values.flatMap (·.observations)).Perm observations

structure PresentsProperty (c : PropertyCorroboration) (p : IdentityPropertyPresentation) : Prop where
  propertyName : p.propertyName = c.propertyName
  state : p.state = c.state
  values : GroupsValues c.observations p.values

structure PresentsIdentity (graph : NetworkGraph) (i : CanonicalIdentity) (p : IdentityPresentation) : Prop where
  subject : p.subject = i.subject
  state : p.state = i.state
  device : p.device = graph.getDevice i.subject
  properties : List.Forall₂ PresentsProperty i.properties p.properties

theorem groupPropertyValues_groups (observations : List IdentityObservation) :
    GroupsValues observations (groupPropertyValues observations) := by
  have h := groupBy_groups (fun o : IdentityObservation => o.value) observations
  have hvalues : (groupPropertyValues observations).map (·.value) = (groupBy (·.value) observations).map Prod.fst := by
    unfold groupPropertyValues
    rw [List.map_map]
    rfl
  refine ⟨?_, ?_, ?_, ?_⟩
  · rw [hvalues]
    exact h.keys_nodup
  · intro v
    rw [hvalues]
    exact h.mem_keys v
  · intro p hp
    obtain ⟨g, hg, rfl⟩ := List.mem_map.mp hp
    exact h.members g hg
  · unfold groupPropertyValues
    rw [List.flatMap_map]
    exact groupBy_perm _ observations

theorem presentIdentity_presents (identity : CanonicalIdentity) (project : Project) :
    PresentsIdentity project.networkGraph identity (presentIdentity identity project) := by
  refine ⟨rfl, rfl, rfl, ?_⟩
  apply List.forall₂_map_right_iff.mpr
  apply List.forall₂_same.mpr
  intro c _
  exact ⟨rfl, rfl, groupPropertyValues_groups c.observations⟩

/-! ## Relationships -/

/-- What the presentation keeps of a relationship. -/
structure PresentedEdge where
  subject : Str
  category : Str
  relatedSubject : Str
  state : RelationshipCorroborationState
  cardinality : RelationshipCardinality
  observations : List RelationshipObservation

def PresentedEdge.ofRelationship (r : CanonicalRelationship) : PresentedEdge :=
  ⟨r.subject, r.category, r.relatedSubject, r.state, r.cardinality, r.observations⟩

/-- The entries of a group, with what the group says for all of them. -/
def presentedEdges (g : RelationshipPresentation) : List PresentedEdge :=
  g.related.map fun e => ⟨g.subject, g.category, e.relatedSubject, e.state, g.cardinality, e.observations⟩

def HasConflict (g : RelationshipPresentation) : Prop := ∃ e ∈ g.related, e.state = .conflicting

variable {py : Interpreter} {project : Project} {policy : CardinalityPolicy} {observations : List Observation}
  {identities : List CanonicalIdentity} {relationships : List CanonicalRelationship}

theorem presentedEdges_eq {g : (Str × Str) × List CanonicalRelationship} {p : RelationshipPresentation}
    (hg : g ∈ groupBy (fun r => (r.subject, r.category)) relationships) (hp : Presents py project g p) :
    presentedEdges p = g.2.map PresentedEdge.ofRelationship := by
  unfold presentedEdges
  rw [hp.related, List.map_map]
  apply List.map_congr_left
  intro r hr
  have hcard := hp.cardinality r hr
  rw [((mem_groupBy _ _ _).mp hg).2, List.mem_filter, decide_eq_true_eq] at hr
  simp only [Function.comp, presentRelated, PresentedEdge.ofRelationship, hp.subject, hp.category, ← hr.2, hcard]

theorem one_lt_length_iff (h : RelationshipsSpec policy observations identities relationships) (s c : Str) :
    1 < (relationships.filter fun r => (r.subject, r.category) = (s, c)).length ↔
      Contested observations identities s c := by
  have hmem : ∀ r, r ∈ relationships.filter (fun r => (r.subject, r.category) = (s, c)) ↔
      r ∈ relationships ∧ r.subject = s ∧ r.category = c := by
    intro r
    rw [List.mem_filter, decide_eq_true_eq, Prod.mk.injEq]
  -- The edges of the group differ in the related subject only.
  have hnodup : ((relationships.filter fun r => (r.subject, r.category) = (s, c)).map (·.relatedSubject)).Nodup := by
    rw [List.Nodup, List.pairwise_map]
    apply (h.sorted.filter _).imp_of_mem
    intro r r' hr hr' hlt heq
    rw [hmem] at hr hr'
    apply ne_of_lt hlt
    rw [CanonicalRelationship.edge, CanonicalRelationship.edge, hr.2.1, hr.2.2, hr'.2.1, hr'.2.2, heq]
  rw [← List.length_map (·.relatedSubject), ← List.toFinset_card_of_nodup hnodup, one_lt_card_iff]
  unfold Differ
  simp only [hmem]
  constructor
  · rintro ⟨r, ⟨hr, hs, hc⟩, r', ⟨hr', hs', hc'⟩, hne⟩
    obtain ⟨o, ho, hq, he⟩ := (h.mem_edges _).mp (List.mem_map_of_mem hr)
    obtain ⟨o', ho', hq', he'⟩ := (h.mem_edges _).mp (List.mem_map_of_mem hr')
    simp only [RelationshipObservation.edge, CanonicalRelationship.edge, hs, hc, hs', hc', List.cons.injEq,
      and_true] at he he'
    refine ⟨o, o', ho, ho', hq, hq', he.1, he'.1, he.2.1, he'.2.1, ?_⟩
    rw [he.2.2, he'.2.2]
    exact hne
  · rintro ⟨o, o', ho, ho', hq, hq', hs, hs', hc, hc', hne⟩
    obtain ⟨r, hr, he⟩ := List.mem_map.mp ((h.mem_edges _).mpr ⟨o, ho, hq, rfl⟩)
    obtain ⟨r', hr', he'⟩ := List.mem_map.mp ((h.mem_edges _).mpr ⟨o', ho', hq', rfl⟩)
    simp only [RelationshipObservation.edge, CanonicalRelationship.edge, hs, hc, hs', hc', List.cons.injEq,
      and_true] at he he'
    refine ⟨r, ⟨hr, he.1, he.2.1⟩, r', ⟨hr', he'.1, he'.2.1⟩, ?_⟩
    rw [he.2.2, he'.2.2]
    exact hne

theorem presents_conflicting (h : RelationshipsSpec policy observations identities relationships)
    {g : (Str × Str) × List CanonicalRelationship} {p : RelationshipPresentation}
    (hg : g ∈ groupBy (fun r => (r.subject, r.category)) relationships) (hp : Presents py project g p) :
    HasConflict p ↔ p.cardinality = .single ∧ 1 < p.related.length := by
  have hmembers := ((mem_groupBy _ _ _).mp hg).2
  have hlength : 1 < p.related.length ↔ Contested observations identities g.1.1 g.1.2 := by
    rw [hp.related, List.length_map, hmembers]
    exact one_lt_length_iff h g.1.1 g.1.2
  have hstate : ∀ r ∈ g.2, r.state = .conflicting ↔ p.cardinality = .single ∧ 1 < p.related.length := by
    intro r hr
    have hcard := hp.cardinality r hr
    rw [hmembers, List.mem_filter, decide_eq_true_eq] at hr
    rw [(h.relationships r hr.1).conflicting, hlength, ← hr.2, hcard]
  have hentries : HasConflict p ↔ ∃ r ∈ g.2, r.state = .conflicting := by
    unfold HasConflict
    rw [hp.related]
    simp only [List.mem_map, exists_exists_and_eq_and, presentRelated]
  rw [hentries]
  constructor
  · rintro ⟨r, hr, hconflict⟩
    exact (hstate r hr).mp hconflict
  · intro hboth
    obtain ⟨r, hr⟩ := List.exists_mem_of_ne_nil _ (groupBy_ne_nil _ _ g hg)
    exact ⟨r, hr, (hstate r hr).mpr hboth⟩

/-! ## The whole presentation -/

structure Lossless (graph : NetworkGraph) (identities : List CanonicalIdentity)
    (relationships : List CanonicalRelationship) (p : CanonicalPresentation) : Prop where
  identities : List.Forall₂ (PresentsIdentity graph) identities p.identities
  relationships : p.relationships.flatMap presentedEdges = relationships.map PresentedEdge.ofRelationship
  groups_nodup : (p.relationships.map fun g => (g.subject, g.category)).Nodup
  conflicting : ∀ g ∈ p.relationships, HasConflict g ↔ g.cardinality = .single ∧ 1 < g.related.length

theorem fromProject_lossless (py : Interpreter) (observations : List Observation) (policy : CardinalityPolicy)
    (graph : NetworkGraph) :
    ∃ identities relationships presentation,
      Application.resolve policy observations = .ok (identities, relationships) ∧
      fromProject py ⟨graph, observations, identities, relationships⟩ = .ok presentation ∧
      Lossless graph identities relationships presentation := by
  obtain ⟨relationships, hresolve, -, hspec⟩ := Application.resolve_ok policy observations
  let project : Project := ⟨graph, observations, IdentityResolver.resolve observations, relationships⟩
  obtain ⟨out, hout, hall⟩ := presentRelationships_ok py project hspec
  refine ⟨_, relationships, ⟨project.canonicalIdentities.map fun i => presentIdentity i project, out⟩, hresolve, ?_,
    ?_, ?_, ?_, ?_⟩
  · unfold fromProject
    rw [hout]
    rfl
  · apply List.forall₂_map_right_iff.mpr
    apply List.forall₂_same.mpr
    intro i _
    exact presentIdentity_presents i project
  · have hgroups : out.map presentedEdges = (groupBy (fun r => (r.subject, r.category)) relationships).map
        fun g => g.2.map PresentedEdge.ofRelationship :=
      forall₂_map_eq hall _ _ fun g hg p hp => presentedEdges_eq hg hp
    rw [List.flatMap_def, hgroups, ← List.flatMap_def, ← List.map_flatMap, flatten_groups hspec]
  · have hkeys : (out.map fun g => (g.subject, g.category)) =
        (groupBy (fun r : CanonicalRelationship => (r.subject, r.category)) relationships).map Prod.fst :=
      forall₂_map_eq hall _ _ fun g _ p hp => by rw [hp.subject, hp.category]
    rw [hkeys]
    exact (groupBy_groups _ relationships).keys_nodup
  · intro p hp
    obtain ⟨g, hg, hpresents⟩ := forall₂_mem_right hall p hp
    exact presents_conflicting hspec hg hpresents

end CanonicalPresentation

end NetworkMapper
