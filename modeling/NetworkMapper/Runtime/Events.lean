import NetworkMapper.Python.Timedelta
import NetworkMapper.Traces.Phases

/-!
# Runtime events

A producer says what happens in a phase, and the clock says when. The bus hands each
event to its subscribers.
-/

open Python

namespace NetworkMapper

inductive RuntimePhase where
  | applicationStartup
  | hostDiscovery
  | serviceEnrichment
  | snmpEnrichment
  | classification
  | reportGeneration
  | completion
  deriving DecidableEq

inductive RuntimeEventKind where
  | phaseStarted
  | progress
  | phaseCompleted
  deriving DecidableEq

structure ProgressMeasurement where
  completed : Nat
  unitLabel : Str
  total : Option Nat := none
  deriving DecidableEq

/-- What a producer publishes: an event less its `datetime.now()`. -/
structure Publication where
  phase : RuntimePhase
  kind : RuntimeEventKind
  activity : Option Str := none
  progress : Option ProgressMeasurement := none
  deriving DecidableEq

structure RuntimeEvent extends Publication where
  timestamp : DateTime

/-- The events of a run, each at the time that the clock then shows. -/
def stamped (now : Nat → DateTime) (publications : List Publication) : List RuntimeEvent :=
  publications.zipIdx.map fun p => ⟨p.1, now p.2⟩

/-- The subscribers share what they change. -/
structure RuntimeEventBus (σ : Type) where
  subscribers : List (σ → RuntimeEvent → σ)

namespace RuntimeEventBus

variable {σ : Type}

def subscribe (bus : RuntimeEventBus σ) (subscriber : σ → RuntimeEvent → σ) : RuntimeEventBus σ :=
  ⟨bus.subscribers ++ [subscriber]⟩

def publish (bus : RuntimeEventBus σ) (state : σ) (event : RuntimeEvent) : σ :=
  bus.subscribers.foldl (fun state subscriber => subscriber state event) state

end RuntimeEventBus

/-! ## Events as marks of a trace -/

def ProgressMeasurement.count (progress : ProgressMeasurement) : Traces.Count := ⟨progress.completed, progress.total⟩

/-- A `PROGRESS` event without a measurement counts nothing. -/
def Publication.mark (p : Publication) : Traces.Mark RuntimePhase :=
  match p.kind with
  | .phaseStarted => .start p.phase
  | .progress => .tick p.phase ((p.progress.map (·.count)).getD ⟨0, none⟩)
  | .phaseCompleted => .finish p.phase (p.progress.map (·.count))

theorem stamped_publications (now : Nat → DateTime) (publications : List Publication) :
    (stamped now publications).map (·.toPublication) = publications := by
  unfold stamped
  rw [List.map_map]
  exact List.zipIdx_map_fst 0 publications

end NetworkMapper
