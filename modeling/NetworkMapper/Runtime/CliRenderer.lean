import NetworkMapper.Discovery.RunDiagnostics
import NetworkMapper.Runtime.Telemetry

/-! # The console -/

open Python

namespace NetworkMapper

def RuntimePhase.value : RuntimePhase → Str
  | .applicationStartup => str "Application Startup"
  | .hostDiscovery => str "Host Discovery"
  | .serviceEnrichment => str "Service Enrichment"
  | .snmpEnrichment => str "SNMP Enrichment"
  | .classification => str "Classification"
  | .reportGeneration => str "Report Generation"
  | .completion => str "Completion"

namespace CliRuntimeEventRenderer

def formatProgress (progress : ProgressMeasurement) : Str :=
  match progress.total with
  | some total => natRepr progress.completed ++ str " / " ++ natRepr total ++ str " " ++ progress.unitLabel
  | none => natRepr progress.completed ++ str " " ++ progress.unitLabel

def printLine (console text : Str) : Str := console ++ text ++ str "\n"

def printActivity (console : Str) (activity : Option Str) : Str :=
  match truthy activity with
  | some activity => printLine console activity
  | none => console

def handleEvent (console : Str) (event : RuntimeEvent) : Str :=
  match event.kind with
  | .phaseStarted => printActivity (printLine console (str "\n" ++ event.phase.value)) event.activity
  | .phaseCompleted =>
    match event.progress with
    | some progress => printLine console (formatProgress progress)
    | none => printActivity console event.activity
  | .progress => console

end CliRuntimeEventRenderer

/-! ## The subscribers of a run -/

structure RunSubscribers where
  console : Str := []
  telemetry : RuntimeTelemetryRecorder := {}

/-- The bus of `Application.run`. -/
def Application.eventBus (fl : Floats) : RuntimeEventBus RunSubscribers :=
  ((⟨[]⟩ : RuntimeEventBus RunSubscribers).subscribe fun seen event =>
      { seen with console := CliRuntimeEventRenderer.handleEvent seen.console event }).subscribe
    fun seen event => { seen with telemetry := seen.telemetry.handleEvent fl event }

theorem Application.eventBus_telemetry (fl : Floats) (events : List RuntimeEvent) :
    (events.foldl (Application.eventBus fl).publish {}).telemetry = RuntimeTelemetryRecorder.record fl events := by
  -- The subscribers do not touch each other.
  have hfrom : ∀ seen : RunSubscribers, (events.foldl (Application.eventBus fl).publish seen).telemetry =
      events.foldl (RuntimeTelemetryRecorder.handleEvent fl) seen.telemetry := by
    induction events with
    | nil => exact fun _ => rfl
    | cons event events ih => exact fun _ => ih _
  exact hfrom {}

end NetworkMapper
