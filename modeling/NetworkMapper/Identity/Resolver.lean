import NetworkMapper.Observations.Models
import NetworkMapper.Python.Grouping
import NetworkMapper.Python.Sorted

/-! # The canonical identity resolver -/

open Python

namespace NetworkMapper

/-- How well the observations support a property or an identity. -/
inductive IdentityCorroborationState where
  | weak
  | probable
  | confirmed
  | conflicting
  deriving DecidableEq

/-- One property of a subject, with every observation of it. -/
structure PropertyCorroboration where
  propertyName : Str
  state : IdentityCorroborationState
  observations : List IdentityObservation
  deriving DecidableEq

/-- One subject, with its properties. -/
structure CanonicalIdentity where
  subject : Str
  state : IdentityCorroborationState
  properties : List PropertyCorroboration
  deriving DecidableEq

namespace IdentityResolver

/-- The key of one property's observations. Python compares tuples as these lists compare. -/
def propertyObservationSortKey (o : IdentityObservation) : List Str :=
  [o.provenance.provider, o.provenance.collectionMethod, o.value, o.provenance.sourceRun,
    o.provenance.observedAt.isoformat]

/-- The values that each provider and collection method observed. -/
def valuesByIndependentSource (observations : List IdentityObservation) : List ((Str × Str) × Finset Str) :=
  (groupBy (fun o => o.provenance.source) observations).map fun g => (g.1, (g.2.map (·.value)).toFinset)

def distinctValues (observations : List IdentityObservation) : Finset Str :=
  (valuesByIndependentSource observations).foldr (fun g values => g.2 ∪ values) ∅

/-- `_resolve_property` -/
def resolveProperty (propertyName : Str) (observations : List IdentityObservation) : PropertyCorroboration :=
  let independentSourceCount := (valuesByIndependentSource observations).length
  let state :=
    if (distinctValues observations).card > 1 then .conflicting
    else if independentSourceCount ≥ 2 then .confirmed
    else .weak
  ⟨propertyName, state, sortedBy propertyObservationSortKey observations⟩

/-- `_roll_up_identity_state`: a conflict before a confirmation, and that before breadth. -/
def rollUpIdentityState (properties : List PropertyCorroboration) : IdentityCorroborationState :=
  if properties.any fun p => p.state = .conflicting then .conflicting
  else if properties.any fun p => p.state = .confirmed then .confirmed
  else if properties.length ≥ 2 then .probable
  else .weak

/-- `_resolve_subject` -/
def resolveSubject (subject : Str) (observations : List IdentityObservation) : CanonicalIdentity :=
  let observationsByProperty := groupBy (·.propertyName) observations
  let properties := sortedBy PropertyCorroboration.propertyName
    (observationsByProperty.map fun g => resolveProperty g.1 g.2)
  ⟨subject, rollUpIdentityState properties, properties⟩

/-- `resolve`. Relationship observations play no part. -/
def resolve (observations : List Observation) : List CanonicalIdentity :=
  let observationsBySubject := groupBy (·.subject) (identityObservations observations)
  sortedBy CanonicalIdentity.subject (observationsBySubject.map fun g => resolveSubject g.1 g.2)

end IdentityResolver

end NetworkMapper
