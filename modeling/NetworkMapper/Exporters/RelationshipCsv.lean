import NetworkMapper.Python.Csv
import NetworkMapper.Reporting.CanonicalPresentation

/-! # `relationships.csv` -/

open Python

namespace NetworkMapper

def RelationshipCorroborationState.value : RelationshipCorroborationState → Str
  | .weak => str "weak"
  | .confirmed => str "confirmed"
  | .conflicting => str "conflicting"

/-- Comma-joined `provider/collection_method` tokens, each pair where it is first seen. -/
def joinTokens (observations : List RelationshipObservation) : Str :=
  let tokens := ((observations.map fun o => o.provenance.source).eraseDups).map fun (provider, collectionMethod) =>
    provider ++ str "/" ++ collectionMethod
  List.intercalate (str ",") tokens

namespace RelationshipCsvExporter

inductive Error where
  | presentation (e : PresentationError)
  | unicode (e : UnicodeError)
  deriving DecidableEq

def header : List Str :=
  [str "Subject", str "Subject Hostname", str "Category", str "Related Subject", str "Related Subject Hostname",
    str "Corroboration State", str "Provenance"]

/-- `_hostname`: blank without a device, and for a device without a name. -/
def hostname (device : Option Device) : Str := (device.bind (·.hostname)).getD []

def provenanceCell (related : RelatedSubjectPresentation) : Str := joinTokens related.observations

def row (relationship : RelationshipPresentation) (related : RelatedSubjectPresentation) : List Str :=
  [relationship.subject, hostname relationship.device, relationship.category, related.relatedSubject,
    hostname related.device, related.state.value, provenanceCell related]

def rows (presentation : CanonicalPresentation) : List (List Str) :=
  header :: presentation.relationships.flatMap fun relationship => relationship.related.map (row relationship)

end RelationshipCsvExporter

/-- The bytes that `export` leaves in the file. -/
def RelationshipCsvExporter.export (py : Interpreter) (project : Project) :
    Except RelationshipCsvExporter.Error Bytes := do
  let presentation ← (CanonicalPresentation.fromProject py project).mapError .presentation
  (encodeUtf8 (Csv.writeRows (rows presentation))).mapError .unicode

end NetworkMapper
