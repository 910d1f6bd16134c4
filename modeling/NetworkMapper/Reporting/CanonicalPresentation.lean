import NetworkMapper.Core.NetworkGraph
import NetworkMapper.Python.Interpreter
import NetworkMapper.Relationships.Resolver

/-! # The canonical presentation -/

open Python

namespace NetworkMapper

structure Project where
  networkGraph : NetworkGraph
  observations : List Observation
  canonicalIdentities : List CanonicalIdentity
  canonicalRelationships : List CanonicalRelationship

/-! ## Records -/

structure PropertyValuePresentation where
  value : Str
  observations : List IdentityObservation

structure IdentityPropertyPresentation where
  propertyName : Str
  state : IdentityCorroborationState
  values : List PropertyValuePresentation

structure IdentityPresentation where
  subject : Str
  state : IdentityCorroborationState
  device : Option Device
  properties : List IdentityPropertyPresentation

structure RelatedSubjectPresentation where
  relatedSubject : Str
  device : Option Device
  state : RelationshipCorroborationState
  observations : List RelationshipObservation

structure RelationshipPresentation where
  subject : Str
  device : Option Device
  category : Str
  categoryLabel : Str
  cardinality : RelationshipCardinality
  related : List RelatedSubjectPresentation

structure CanonicalPresentation where
  identities : List IdentityPresentation
  relationships : List RelationshipPresentation

/-- The `ValueError` of `_present_relationship_group`. -/
inductive PresentationError where
  | inconsistentCardinality (subject category : Str) (cardinalities : List RelationshipCardinality)
  deriving DecidableEq

namespace CanonicalPresentation

/-! ## Building -/

def categoryLabels : List (Str × Str) :=
  [(str "arp_neighbor", str "ARP Neighbor"), (str "connected_to", str "Connected To"),
    (str "bridge_fdb", str "Bridge Forwarding Entry")]

def categoryLabel (py : Interpreter) (category : Str) : Str :=
  (categoryLabels.lookup category).getD (py.title (category.map fun c => if c = ch '_' then ch ' ' else c))

def groupPropertyValues (observations : List IdentityObservation) : List PropertyValuePresentation :=
  (groupBy (·.value) observations).map fun g => ⟨g.1, g.2⟩

def presentIdentity (identity : CanonicalIdentity) (project : Project) : IdentityPresentation where
  subject := identity.subject
  state := identity.state
  device := project.networkGraph.getDevice identity.subject
  properties := identity.properties.map fun p => ⟨p.propertyName, p.state, groupPropertyValues p.observations⟩

def presentRelated (project : Project) (edge : CanonicalRelationship) : RelatedSubjectPresentation where
  relatedSubject := edge.relatedSubject
  device := project.networkGraph.getDevice edge.relatedSubject
  state := edge.state
  observations := edge.observations

/-- `_present_relationship_group`. The edges must have one cardinality. -/
def presentRelationshipGroup (py : Interpreter) (subject category : Str) (edges : List CanonicalRelationship)
    (project : Project) : Except PresentationError RelationshipPresentation :=
  match (edges.map (·.cardinality)).dedup with
  | [cardinality] => .ok {
      subject := subject
      device := project.networkGraph.getDevice subject
      category := category
      categoryLabel := categoryLabel py category
      cardinality := cardinality
      related := edges.map (presentRelated project) }
  | cardinalities => .error (.inconsistentCardinality subject category cardinalities)

def presentRelationships (py : Interpreter) (relationships : List CanonicalRelationship) (project : Project) :
    Except PresentationError (List RelationshipPresentation) :=
  (groupBy (fun r => (r.subject, r.category)) relationships).mapM fun g =>
    presentRelationshipGroup py g.1.1 g.1.2 g.2 project

def fromProject (py : Interpreter) (project : Project) : Except PresentationError CanonicalPresentation := do
  let identities := project.canonicalIdentities.map fun identity => presentIdentity identity project
  return ⟨identities, ← presentRelationships py project.canonicalRelationships project⟩

end CanonicalPresentation

end NetworkMapper
