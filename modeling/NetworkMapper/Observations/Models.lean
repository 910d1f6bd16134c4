import NetworkMapper.Python.DateTime

/-! # Retained observations -/

open Python

namespace NetworkMapper

structure ObservationProvenance where
  provider : Str
  collectionMethod : Str
  observedAt : DateTime
  sourceRun : Str
  deriving DecidableEq

structure IdentityObservation where
  subject : Str
  propertyName : Str
  value : Str
  provenance : ObservationProvenance
  deriving DecidableEq

structure RelationshipObservation where
  subject : Str
  relatedSubject : Str
  category : Str
  provenance : ObservationProvenance
  deriving DecidableEq

inductive Observation where
  | identity (o : IdentityObservation)
  | relationship (o : RelationshipObservation)
  deriving DecidableEq

def Observation.identity? : Observation → Option IdentityObservation
  | .identity o => some o
  | .relationship _ => none

def Observation.relationship? : Observation → Option RelationshipObservation
  | .identity _ => none
  | .relationship o => some o

def identityObservations (observations : List Observation) : List IdentityObservation :=
  observations.filterMap Observation.identity?

def relationshipObservations (observations : List Observation) : List RelationshipObservation :=
  observations.filterMap Observation.relationship?

@[simp]
theorem mem_identityObservations (observations : List Observation) (o : IdentityObservation) :
    o ∈ identityObservations observations ↔ .identity o ∈ observations := by
  unfold identityObservations
  simp only [List.mem_filterMap]
  constructor
  · rintro ⟨_ | _, hmem, h⟩ <;> simp_all [Observation.identity?]
  · intro h
    exact ⟨_, h, rfl⟩

@[simp]
theorem mem_relationshipObservations (observations : List Observation) (o : RelationshipObservation) :
    o ∈ relationshipObservations observations ↔ .relationship o ∈ observations := by
  unfold relationshipObservations
  simp only [List.mem_filterMap]
  constructor
  · rintro ⟨_ | _, hmem, h⟩ <;> simp_all [Observation.relationship?]
  · intro h
    exact ⟨_, h, rfl⟩

theorem identityObservations_append (observations more : List Observation) :
    identityObservations (observations ++ more) = identityObservations observations ++ identityObservations more := by
  unfold identityObservations
  rw [List.filterMap_append]

theorem count_identityObservations (observations : List Observation) (o : IdentityObservation) :
    (identityObservations observations).count o = observations.count (.identity o) := by
  induction observations with
  | nil => rfl
  | cons x rest ih =>
    cases x <;> simp_all [identityObservations, Observation.identity?, List.filterMap_cons, List.count_cons]

theorem count_relationshipObservations (observations : List Observation) (o : RelationshipObservation) :
    (relationshipObservations observations).count o = observations.count (.relationship o) := by
  induction observations with
  | nil => rfl
  | cons x rest ih =>
    cases x <;> simp_all [relationshipObservations, Observation.relationship?, List.filterMap_cons, List.count_cons]

/-- The `(provider, collection_method)` pair that independence is judged by. -/
def ObservationProvenance.source (p : ObservationProvenance) : Str × Str := (p.provider, p.collectionMethod)

/-- The text fields. The timestamp is not one of them. -/
def ObservationProvenance.texts (p : ObservationProvenance) : List Str := [p.provider, p.collectionMethod, p.sourceRun]

def Observation.texts : Observation → List Str
  | .identity o => [o.subject, o.propertyName, o.value] ++ o.provenance.texts
  | .relationship o => [o.subject, o.relatedSubject, o.category] ++ o.provenance.texts

/-! ## Sample evidence -/

def sampleProvenance (collectionMethod : String) : ObservationProvenance where
  provider := str "snmp"
  collectionMethod := str collectionMethod
  observedAt := ⟨2026, 10, 13, 9, 15, 2, 0, none, by decide, by decide⟩
  sourceRun := str "run-001"

def sampleIdentity (subject value : String) : Observation :=
  .identity ⟨str subject, str "mac_address", str value, sampleProvenance "ipNetToPhysicalTable"⟩

def sampleRelationship (subject relatedSubject : String) : Observation :=
  .relationship ⟨str subject, str relatedSubject, str "arp_neighbor", sampleProvenance "ipNetToPhysicalTable"⟩

end NetworkMapper
