import NetworkMapper.Exporters.RelationshipCsv
import NetworkMapper.Observations.ReplayFormat

/-! # The replay command -/

open Python

namespace NetworkMapper

namespace ReplayObservations

open ReplayFormat (ReplayData ReplayError parseObservations)

def observationsFileName : Str := str "observations.json"

def relationshipsCsvFileName : Str := str "relationships.csv"

/-- The header row that `RelationshipCsvExporter` writes. -/
def expectedCsvHeader : List Str :=
  [str "Subject", str "Subject Hostname", str "Category", str "Related Subject", str "Related Subject Hostname",
    str "Corroboration State", str "Provenance"]

def exitMatch : Nat := 0

def exitMismatch : Nat := 1

def exitCannotReplay : Nat := 2

/-- What stops a replay. The command catches `input` and the format errors among `observations`. -/
inductive Error where
  | input (message : Str)
  | observations (e : ReplayError)
  | relationships (e : RelationshipError)
  | unicode (e : UnicodeError)
  | csv (e : Csv.Error)
  deriving DecidableEq

/-! ## Records -/

/-- What the artifact resolves to today. -/
structure ReplayResult where
  observations : List Observation
  identities : List CanonicalIdentity
  relationships : List CanonicalRelationship
  deriving DecidableEq

/-- A relationship as the CSV file has it, without the two hostnames. -/
structure RelationshipRow where
  subject : Str
  category : Str
  relatedSubject : Str
  state : Str
  provenance : Str
  deriving DecidableEq

/-- What rows of the same edge have in common. -/
def RelationshipRow.edge (row : RelationshipRow) : List Str := [row.subject, row.category, row.relatedSubject]

/-- An edge with the rows of both sides. -/
structure DifferingEdge where
  edge : List Str
  csvRows : List RelationshipRow
  replayedRows : List RelationshipRow
  deriving DecidableEq

/-- The rows of the file against those of the replay. -/
structure RelationshipComparison where
  replayedRows : List RelationshipRow
  csvRows : List RelationshipRow
  missingFromReplay : Nat
  notInCsv : Nat
  differing : List DifferingEdge
  deriving DecidableEq

/-- The same rows in the same order. -/
def RelationshipComparison.matches (c : RelationshipComparison) : Bool := c.replayedRows = c.csvRows

/-- Two `Counter`s are equal when the lists are permutations of each other. -/
def RelationshipComparison.orderDiffers (c : RelationshipComparison) : Bool :=
  !c.matches && decide (c.replayedRows.Perm c.csvRows)

/-- What the command returns: an exit code, and as much as it came to. -/
structure ReplayCommandResult where
  exitCode : Nat
  replay : Option ReplayResult := none
  comparison : Option RelationshipComparison := none
  error : Option Str := none
  deriving DecidableEq

/-- What the command finds on the disk: the files, where they are files, and the paths as text. -/
structure RunDirectory where
  path : Str
  observationsPath : Str
  isDir : Bool
  observations : Option Bytes
  relationshipsCsv : Option Bytes

/-! ## Replaying -/

/-- Only the artifact is read. The resolvers run on it anew. -/
def replayObservations (py : Interpreter) (data : Bytes) (source : Str) : Except Error ReplayResult := do
  let observations ← (parseObservations py (.bytes data) source).mapError .observations
  let identities := IdentityResolver.resolve observations
  let relationships ← (RelationshipResolver.resolve categoryCardinality observations identities).mapError .relationships
  return ⟨observations, identities, relationships⟩

/-- Here the exporter's column is computed a second time. -/
def provenanceTokens (relationship : CanonicalRelationship) : Str := joinTokens relationship.observations

/-- The row that the exporter would have written. -/
def relationshipRow (r : CanonicalRelationship) : RelationshipRow :=
  ⟨r.subject, r.category, r.relatedSubject, r.state.value, provenanceTokens r⟩

def relationshipRows (relationships : List CanonicalRelationship) : List RelationshipRow :=
  relationships.map relationshipRow

/-! ## Comparing -/

/-- The rows after the header, with the number of the line for the message. -/
def parseRows (lineNumber : Nat) : List (List Str) → Except Error (List RelationshipRow)
  | [] => .ok []
  | [subject, _, category, relatedSubject, _, state, provenance] :: rows => do
    let parsed ← parseRows (lineNumber + 1) rows
    return ⟨subject, category, relatedSubject, state, provenance⟩ :: parsed
  | row :: _ => .error (.input (relationshipsCsvFileName ++ str " row " ++ natRepr lineNumber ++ str " has " ++
      natRepr row.length ++ str " columns, expected " ++ natRepr expectedCsvHeader.length ++ str "; cannot compare"))

/-- The file is decoded as a whole here, and then split into rows. -/
def readRelationshipsCsv (py : Interpreter) (data : Bytes) : Except Error (List RelationshipRow) := do
  let text ← (decodeUtf8 data).mapError .unicode
  let rows ← (Csv.readRows py text).mapError .csv
  let unexpected := .error (.input (relationshipsCsvFileName ++ str " has an unexpected header; cannot compare"))
  match rows with
  | [] => unexpected
  | header :: rows => if header ≠ expectedCsvHeader then unexpected else parseRows 2 rows

/-- `sum((counter - other).values())` is the size of the multiset difference. -/
def compareRows (replayedRows csvRows : List RelationshipRow) : RelationshipComparison :=
  let replayedEdges := replayedRows.map (·.edge)
  let csvEdges := csvRows.map (·.edge)
  let shared := sortedBy id (replayedEdges.dedup.filter (· ∈ csvEdges))
  let differing := shared.filterMap fun edge =>
    let edgeCsvRows := csvRows.filter (·.edge = edge)
    let edgeReplayedRows := replayedRows.filter (·.edge = edge)
    if edgeCsvRows.Perm edgeReplayedRows then none else some ⟨edge, edgeCsvRows, edgeReplayedRows⟩
  ⟨replayedRows, csvRows, (csvEdges.diff replayedEdges).length, (replayedEdges.diff csvEdges).length, differing⟩

/-- A file that cannot be read as rows is an error of its own. -/
def compareWithRelationshipsCsv (py : Interpreter) (relationships : List CanonicalRelationship) (data : Bytes) :
    Except Error RelationshipComparison := do
  let replayedRows := relationshipRows relationships
  let csvRows ← readRelationshipsCsv py data
  return compareRows replayedRows csvRows

/-! ## The command -/

/-- The body of the `try`. -/
def replayAndCompare (py : Interpreter) (run : RunDirectory) :
    Except Error (ReplayResult × RelationshipComparison) := do
  if !run.isDir then .error (.input (str "run directory not found: " ++ run.path)) else
  match run.observations, run.relationshipsCsv with
  | none, _ => .error (.input (str "no " ++ observationsFileName ++ str " in " ++ run.path ++
      str "; the run predates FEAT-OBSERVATION-JSON-EXPORT or the export failed"))
  | some _, none => .error (.input (str "no " ++ relationshipsCsvFileName ++ str " in " ++ run.path ++
      str "; cannot compare replayed relationships"))
  | some observationsJson, some relationshipsCsv => do
    let replay ← replayObservations py observationsJson run.observationsPath
    let comparison ← compareWithRelationshipsCsv py replay.relationships relationshipsCsv
    return (replay, comparison)

/-- An error of the model is an exception that the command lets through. -/
def runReplayCommand (py : Interpreter) (run : RunDirectory) : Except Error ReplayCommandResult :=
  match replayAndCompare py run with
  | .ok (replay, comparison) => .ok {
      exitCode := if comparison.matches then exitMatch else exitMismatch
      replay := some replay
      comparison := some comparison }
  | .error (.input message) | .error (.observations (.format message)) =>
    .ok { exitCode := exitCannotReplay, error := some message }
  | .error e => .error e

end ReplayObservations

end NetworkMapper
