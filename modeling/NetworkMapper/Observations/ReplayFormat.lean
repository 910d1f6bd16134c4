import NetworkMapper.Observations.Models
import NetworkMapper.Python.Json.Loads

/-! # The replay artifact -/

open Python

namespace NetworkMapper

namespace ReplayFormat

def formatIdentifier : Str := str "networkmapper.retained-observations"

def formatVersion : Int := 1

def identityType : Str := str "identity"

def relationshipType : Str := str "relationship"

def topLevelKeys : List Str := [str "format", str "format_version", str "observations"]

def identityKeys : List Str :=
  [str "type", str "subject", str "property_name", str "value", str "provenance"]

def relationshipKeys : List Str :=
  [str "type", str "subject", str "related_subject", str "category", str "provenance"]

def provenanceKeys : List Str :=
  [str "provider", str "collection_method", str "observed_at", str "source_run"]

/-! ## Writing -/

/-- The object under the key `provenance`. -/
def provenanceRecord (p : ObservationProvenance) : Json :=
  .obj [(str "provider", .str p.provider), (str "collection_method", .str p.collectionMethod),
    (str "observed_at", .str p.observedAt.isoformat), (str "source_run", .str p.sourceRun)]

/-- `_to_record`. The `TypeError`s are for values that these types exclude. -/
def toRecord : Observation → Json
  | .identity o =>
    .obj [(str "type", .str identityType), (str "subject", .str o.subject),
      (str "property_name", .str o.propertyName), (str "value", .str o.value),
      (str "provenance", provenanceRecord o.provenance)]
  | .relationship o =>
    .obj [(str "type", .str relationshipType), (str "subject", .str o.subject),
      (str "related_subject", .str o.relatedSubject), (str "category", .str o.category),
      (str "provenance", provenanceRecord o.provenance)]

/-- `record[key]`, where it is there and an object. -/
def valueAt (record : Json) (key : Str) : Json :=
  match record with
  | .obj ms => (ms.lookup key).getD .null
  | _ => .null

/-- `record[key]`, where it is there and a string. -/
def textAt (record : Json) (key : Str) : Str :=
  match valueAt record key with
  | .str s => s
  | _ => []

/-- Every field, with the timestamp as its ISO text. -/
def recordSortKey (record : Json) : List Str :=
  let provenance := valueAt record (str "provenance")
  let (third, fourth) :=
    if textAt record (str "type") = identityType then
      (textAt record (str "property_name"), textAt record (str "value"))
    else (textAt record (str "related_subject"), textAt record (str "category"))
  [textAt record (str "type"), textAt record (str "subject"), third, fourth, textAt provenance (str "provider"),
    textAt provenance (str "collection_method"), textAt provenance (str "source_run"),
    textAt provenance (str "observed_at")]

/-- The document, before its keys are sorted. -/
def document (observations : List Observation) : Json :=
  .obj [(str "format", .str formatIdentifier), (str "format_version", .int formatVersion),
    (str "observations", .arr (sortedBy recordSortKey (observations.map toRecord)))]

/-- `serialize_observations` -/
def serializeObservations (py : Interpreter) (observations : List Observation) : Except UnicodeError Bytes :=
  encodeAscii (dumps py (indent 2) (sortKeys (document observations)) ++ [ch '\n'])

/-! ## Errors -/

/-- `format` is `ObservationReplayFormatError`. The others are not caught. -/
inductive ReplayError where
  | format (message : Str)
  | keyError (key : Str)
  | valueError
  | recursionError
  deriving DecidableEq

def reject {α : Type} (place : Str) (message : Str) : Except ReplayError α :=
  .error (.format (place ++ str ": " ++ message))

/-- The text between single quotes. -/
def quoted (s : Str) : Str := ch '\'' :: s ++ [ch '\'']

/-- `_json_type` -/
def jsonType : Json → Str
  | .null => str "null"
  | .bool _ => str "boolean"
  | .int _ | .float _ => str "number"
  | .str _ => str "string"
  | .arr _ => str "array"
  | .obj _ => str "object"

/-- Format metadata as a message shows it. -/
def shown (py : Interpreter) : Json → Str
  | .str s => s
  | v => dumps py compact v

/-! ## Checks -/

def requireKey (ms : List (Str × Json)) (key place : Str) : Except ReplayError Json :=
  match ms.lookup key with
  | some v => .ok v
  | none => reject place (str "missing required key " ++ quoted key)

/-- The first key in sorted order that is not expected. -/
def unknownKey (ms : List (Str × Json)) (expected : List Str) : Option Str :=
  (sortedBy id (ms.map Prod.fst)).find? fun key => key ∉ expected

/-- `_check_keys`: the first missing key in the order of the tuple, then the unknown ones. -/
def checkKeys (ms : List (Str × Json)) (expected : List Str) (place : Str) : Except ReplayError Unit :=
  match expected.find? fun key => key ∉ ms.map Prod.fst with
  | some key => reject place (str "missing required key " ++ quoted key)
  | none =>
    match unknownKey ms expected with
    | some key => reject place (str "unknown key " ++ quoted key)
    | none => .ok ()

/-- `_check_string`, and then `record[key]`. -/
def checkString (ms : List (Str × Json)) (key place : Str) : Except ReplayError Str :=
  match ms.lookup key with
  | none => .error (.keyError key)
  | some (.str s) => .ok s
  | some v => reject place (quoted key ++ str " must be a string, found " ++ jsonType v)

/-- `_parse_observed_at`: only what `isoformat` itself writes. -/
def parseObservedAt (text place : Str) : Except ReplayError DateTime :=
  let rejected := reject place (quoted (str "observed_at") ++
    str " is not a canonical ISO-8601 timestamp: " ++ quoted text)
  match DateTime.fromisoformat text with
  | none => rejected
  | some observedAt => if observedAt.isoformat ≠ text then rejected else .ok observedAt

/-! ## Records -/

/-- `record["provenance"]`, with exactly its keys. -/
def provenanceMembers (ms : List (Str × Json)) (place : Str) : Except ReplayError (List (Str × Json)) :=
  match ms.lookup (str "provenance") with
  | none => .error (.keyError (str "provenance"))
  | some (.obj provenance) => do
    checkKeys provenance provenanceKeys place
    return provenance
  | some v =>
    reject place (quoted (str "provenance") ++ str " must be a JSON object, found " ++ jsonType v)

def readProvenance (ms : List (Str × Json)) (place : Str) : Except ReplayError ObservationProvenance := do
  let provider ← checkString ms (str "provider") place
  let collectionMethod ← checkString ms (str "collection_method") place
  let observedAt ← checkString ms (str "observed_at") place
  let sourceRun ← checkString ms (str "source_run") place
  return ⟨provider, collectionMethod, ← parseObservedAt observedAt place, sourceRun⟩

/-- The subject, the two fields that the kinds name differently, and the provenance. -/
def readFields (ms : List (Str × Json)) (expected : List Str) (third fourth place : Str) :
    Except ReplayError (Str × Str × Str × ObservationProvenance) := do
  checkKeys ms expected place
  let provenance ← provenanceMembers ms place
  let subject ← checkString ms (str "subject") place
  let third ← checkString ms third place
  let fourth ← checkString ms fourth place
  return (subject, third, fourth, ← readProvenance provenance place)

def readIdentity (ms : List (Str × Json)) (place : Str) : Except ReplayError Observation := do
  let (subject, propertyName, value, provenance) ←
    readFields ms identityKeys (str "property_name") (str "value") place
  return .identity ⟨subject, propertyName, value, provenance⟩

def readRelationship (ms : List (Str × Json)) (place : Str) : Except ReplayError Observation := do
  let (subject, relatedSubject, category, provenance) ←
    readFields ms relationshipKeys (str "related_subject") (str "category") place
  return .relationship ⟨subject, relatedSubject, category, provenance⟩

def unknownType {α : Type} (py : Interpreter) (type : Json) (place : Str) : Except ReplayError α :=
  reject place (str "unknown observation type " ++ quoted (shown py type) ++ str "; expected " ++
    quoted identityType ++ str " or " ++ quoted relationshipType)

/-- `_from_record` -/
def fromRecord (py : Interpreter) (record : Json) (place : Str) : Except ReplayError Observation :=
  match record with
  | .obj ms => do
    match ← requireKey ms (str "type") place with
    | .str type =>
      if type = identityType then readIdentity ms place
      else if type = relationshipType then readRelationship ms place
      else unknownType py (.str type) place
    | type => unknownType py type place
  | v => reject place (str "expected a JSON object, found " ++ jsonType v)

/-! ## Documents -/

def checkFormat (py : Interpreter) (ms : List (Str × Json)) (source : Str) : Except ReplayError Unit := do
  let identifier ← requireKey ms (str "format") source
  let unknown := reject source (str "unknown format identifier " ++ quoted (shown py identifier) ++
    str "; expected " ++ quoted formatIdentifier)
  match identifier with
  | .str s => if s ≠ formatIdentifier then unknown else .ok ()
  | _ => unknown

/-- Only an `int` is a version. `True` and `1.0` are not. -/
def checkVersion (py : Interpreter) (ms : List (Str × Json)) (source : Str) : Except ReplayError Unit := do
  let version ← requireKey ms (str "format_version") source
  let unsupported := reject source (str "unsupported format version " ++ dumps py compact version ++
    str "; this build reads version " ++ intRepr formatVersion ++ str " only")
  match version with
  | .int n => if n ≠ formatVersion then unsupported else .ok ()
  | _ => unsupported

/-- `_from_record` over `enumerate(records)`. -/
def readRecords (py : Interpreter) (source : Str) (index : Nat) : List Json → Except ReplayError (List Observation)
  | [] => .ok []
  | record :: records => do
    let o ← fromRecord py record (source ++ str ": observation " ++ natRepr index)
    return o :: (← readRecords py source (index + 1) records)

/-- `parse_observations` from the decoded document on. -/
def checkDocument (py : Interpreter) (document : Json) (source : Str) : Except ReplayError (List Observation) :=
  match document with
  | .obj ms => do
    checkFormat py ms source
    checkVersion py ms source
    match unknownKey ms topLevelKeys with
    | some key => reject source (str "unknown top-level key " ++ quoted key)
    | none =>
      match ms.lookup (str "observations") with
      | some (.arr records) => readRecords py source 0 records
      | _ => reject source (quoted (str "observations") ++ str " must be a JSON array")
  | v => reject source (str "expected a JSON object at the top level, found " ++ jsonType v)

/-- `_reject_duplicate_keys`. It raises the key. -/
def rejectDuplicateKeys (pairs : List (Str × Json)) : Except Str Json := do
  let result ← pairs.foldlM (fun result pair =>
    if pair.1 ∈ result.map Prod.fst then .error pair.1 else .ok (result ++ [pair])) []
  return .obj result

/-- What `parse_observations` takes: the bytes of a file, or a text. -/
inductive ReplayData where
  | bytes (data : Bytes)
  | text (s : Str)

def ReplayData.decode (py : Interpreter) : ReplayData → Except Str Str
  | .bytes data =>
    match decodeUtf8 data with
    | .ok s => .ok s
    | .error _ => .error (py.unicodeErrorText data)
  | .text s => .ok s

/-- `json.loads`, with what `parse_observations` makes of its errors. -/
def loadDocument (py : Interpreter) (data : ReplayData) (source : Str) : Except ReplayError Json :=
  match data.decode py with
  | .error e => reject source (str "not valid JSON: " ++ e)
  | .ok text =>
    match loads py rejectDuplicateKeys text with
    | .ok document => .ok document
    | .error .jsonDecodeError => reject source (str "not valid JSON: " ++ py.jsonErrorText text)
    | .error (.hook key) => reject source (str "duplicate key " ++ quoted key)
    | .error .valueError => .error .valueError
    | .error .recursionError => .error .recursionError

/-- `parse_observations` -/
def parseObservations (py : Interpreter) (data : ReplayData) (source : Str) :
    Except ReplayError (List Observation) := do
  let document ← loadDocument py data source
  checkDocument py document source

end ReplayFormat

end NetworkMapper
