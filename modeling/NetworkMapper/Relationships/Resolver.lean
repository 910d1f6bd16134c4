import NetworkMapper.Identity.Resolver
import NetworkMapper.Python.Raising

/-! # The canonical relationship resolver -/

open Python

namespace NetworkMapper

/-! ## Categories -/

inductive RelationshipCardinality where
  | single
  | multiple
  deriving DecidableEq

/-- `policy.get`, of any category-to-cardinality mapping. -/
abbrev CardinalityPolicy := Str → Option RelationshipCardinality

def categoryCardinality : CardinalityPolicy := fun category =>
  [(str "arp_neighbor", RelationshipCardinality.multiple), (str "bridge_fdb", .multiple),
    (str "connected_to", .multiple)].lookup category

/-- `DEFAULT_CARDINALITY`: a category that is not registered never conflicts. -/
def defaultCardinality : RelationshipCardinality := .multiple

def cardinalityFor (category : Str) (policy : CardinalityPolicy) : RelationshipCardinality :=
  (policy category).getD defaultCardinality

/-! ## Records -/

inductive RelationshipCorroborationState where
  | weak
  | confirmed
  | conflicting
  deriving DecidableEq

/-- The invariants that `__post_init__` checks come with the record. -/
structure CanonicalRelationship where
  subject : Str
  category : Str
  relatedSubject : Str
  cardinality : RelationshipCardinality
  state : RelationshipCorroborationState
  observations : List RelationshipObservation
  conflicting_single : ¬ (state = .conflicting ∧ cardinality ≠ .single)
  supported : observations ≠ []
  observations_match : ∀ o ∈ observations,
    ¬ (o.subject ≠ subject ∨ o.category ≠ category ∨ o.relatedSubject ≠ relatedSubject)
  deriving DecidableEq

/-- The `ValueError`s of `CanonicalRelationship.__post_init__`. -/
inductive RelationshipError where
  | conflictingNotSingle (category : Str) (cardinality : RelationshipCardinality)
  | noObservations
  | observationMismatch
  deriving DecidableEq

/-- The constructor, with its checks in the order of the source. -/
def CanonicalRelationship.new (subject category relatedSubject : Str) (cardinality : RelationshipCardinality)
    (state : RelationshipCorroborationState) (observations : List RelationshipObservation) :
    Except RelationshipError CanonicalRelationship :=
  if h₁ : state = .conflicting ∧ cardinality ≠ .single then .error (.conflictingNotSingle category cardinality)
  else if h₂ : observations = [] then .error .noObservations
  else if h₃ : ∃ o ∈ observations,
      o.subject ≠ subject ∨ o.category ≠ category ∨ o.relatedSubject ≠ relatedSubject then
    .error .observationMismatch
  else .ok ⟨subject, category, relatedSubject, cardinality, state, observations, h₁, h₂,
    fun o ho hne => h₃ ⟨o, ho, hne⟩⟩

/-- The identity of a record, and its place in the output. -/
def CanonicalRelationship.edge (r : CanonicalRelationship) : List Str := [r.subject, r.category, r.relatedSubject]

namespace RelationshipResolver

def edgeObservationSortKey (o : RelationshipObservation) : List Str :=
  [o.provenance.provider, o.provenance.collectionMethod, o.relatedSubject, o.provenance.sourceRun,
    o.provenance.observedAt.isoformat]

def edgeState (groupConflicts : Bool) (edgeObservations : List RelationshipObservation) :
    RelationshipCorroborationState :=
  let independentSources := (edgeObservations.map fun o => o.provenance.source).toFinset
  if groupConflicts then .conflicting
  else if independentSources.card ≥ 2 then .confirmed
  else .weak

/-- One `(subject, category)` group, one record for each related subject. -/
def resolveGroup (policy : CardinalityPolicy) (subject category : Str)
    (observations : List RelationshipObservation) : Except RelationshipError (List CanonicalRelationship) :=
  let cardinality := cardinalityFor category policy
  let observationsByEdge := groupBy (·.relatedSubject) observations
  let groupConflicts := decide (cardinality = .single) && decide (observationsByEdge.length > 1)
  observationsByEdge.mapM fun g =>
    CanonicalRelationship.new subject category g.1 cardinality (edgeState groupConflicts g.2)
      (sortedBy edgeObservationSortKey g.2)

/-- Endpoints that do not resolve and self-loops go before any group exists. -/
def preprocess (observations : List Observation) (identities : List CanonicalIdentity) :
    List RelationshipObservation :=
  let validSubjects := (identities.map (·.subject)).toFinset
  (relationshipObservations observations).filter fun o =>
    o.subject ∈ validSubjects ∧ o.relatedSubject ∈ validSubjects ∧ o.subject ≠ o.relatedSubject

def resolve (policy : CardinalityPolicy) (observations : List Observation)
    (identities : List CanonicalIdentity) : Except RelationshipError (List CanonicalRelationship) := do
  let observationsByGroup := groupBy (fun o => (o.subject, o.category)) (preprocess observations identities)
  let relationships ← observationsByGroup.mapM fun g => resolveGroup policy g.1.1 g.1.2 g.2
  return sortedBy CanonicalRelationship.edge relationships.flatten

end RelationshipResolver

end NetworkMapper
