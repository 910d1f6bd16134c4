import NetworkMapper.Python.Dict
import NetworkMapper.Runtime.Events

/-! # Telemetry -/

open Python Traces

namespace NetworkMapper

/-- The timing and the last progress of a phase that is completed. -/
structure PhaseTelemetry where
  phase : RuntimePhase
  startedAt : DateTime
  completedAt : DateTime
  durationSeconds : Str
  finalProgress : Option ProgressMeasurement

/-- The subscriber that keeps the timings of a run. -/
structure RuntimeTelemetryRecorder where
  phaseStartedAt : Dict RuntimePhase DateTime := .empty
  completedPhases : List PhaseTelemetry := []
  runStartedAt : Option DateTime := none
  runCompletedAt : Option DateTime := none

namespace RuntimeTelemetryRecorder

variable (fl : Floats)

/-- A phase that never started counts from its completion. -/
def handleEvent (recorder : RuntimeTelemetryRecorder) (event : RuntimeEvent) : RuntimeTelemetryRecorder :=
  match event.kind with
  | .phaseStarted =>
    { recorder with
      phaseStartedAt := recorder.phaseStartedAt.set event.phase event.timestamp
      runStartedAt := some (recorder.runStartedAt.getD event.timestamp) }
  | .phaseCompleted =>
    let startedAt := (recorder.phaseStartedAt.get? event.phase).getD event.timestamp
    { recorder with
      completedPhases := recorder.completedPhases ++
        [⟨event.phase, startedAt, event.timestamp, totalSeconds fl (event.timestamp.since startedAt), event.progress⟩]
      runCompletedAt := some event.timestamp }
  | .progress => recorder

/-- From the first start to the last completion so far. -/
def totalRuntimeSeconds (recorder : RuntimeTelemetryRecorder) : Option Str :=
  match recorder.runStartedAt, recorder.runCompletedAt with
  | some started, some completed => some (totalSeconds fl (completed.since started))
  | _, _ => none

/-- The recorder after a trace. -/
def record (events : List RuntimeEvent) : RuntimeTelemetryRecorder := events.foldl (handleEvent fl) {}

/-! ## What is recorded -/

/-- The completions of a trace, each with the last start before it. -/
def completions : Option DateTime → List RuntimeEvent → List PhaseTelemetry
  | _, [] => []
  | started, event :: events =>
    match event.kind with
    | .phaseStarted => completions (some event.timestamp) events
    | .progress => completions started events
    | .phaseCompleted =>
      let startedAt := started.getD event.timestamp
      ⟨event.phase, startedAt, event.timestamp, totalSeconds fl (event.timestamp.since startedAt), event.progress⟩ ::
        completions started events

/-- The phases on the clock. -/
def spans (phases : List PhaseTelemetry) : List (Int × Int) :=
  phases.map fun p => (p.startedAt.clock, p.completedAt.clock)

/-- No event is earlier than the one before it, and the first is not earlier than `t`. -/
def Chronological (t : Int) : List RuntimeEvent → Prop
  | [] => True
  | event :: events => t ≤ event.timestamp.clock ∧ Chronological event.timestamp.clock events

theorem stamped_chronological (now : Nat → DateTime) (hnow : ∀ i j, i ≤ j → (now i).clock ≤ (now j).clock)
    (publications : List Publication) : Chronological (now 0).clock (stamped now publications) := by
  have hfrom : ∀ n m, n ≤ m →
      Chronological (now n).clock ((publications.zipIdx m).map fun p => (⟨p.1, now p.2⟩ : RuntimeEvent)) := by
    induction publications with
    | nil => exact fun _ _ _ => trivial
    | cons publication publications ih =>
      intro n m hle
      rw [List.zipIdx_cons, List.map_cons]
      exact ⟨hnow n m hle, ih m (m + 1) (Nat.le_succ m)⟩
  exact hfrom 0 0 (le_refl 0)

/-- An open phase is the one that started last. -/
def Tracks (recorder : RuntimeTelemetryRecorder) (opened : Option (Opened RuntimePhase)) (started : Option DateTime) :
    Prop :=
  ∀ o ∈ opened, ∃ startedAt, started = some startedAt ∧ recorder.phaseStartedAt.get? o.phase = some startedAt

variable {opened opened' : Option (Opened RuntimePhase)}

theorem fits_cons {event : RuntimeEvent} {events : List RuntimeEvent}
    (h : run true opened ((event :: events).map (·.mark)) = some opened') :
    ∃ o, next true opened event.mark = some o ∧ run true o (events.map (·.mark)) = some opened' := by
  rw [List.map_cons, run_marks_cons, Option.bind_eq_some_iff] at h
  exact h

theorem next_started {event : RuntimeEvent} {o : Option (Opened RuntimePhase)} (hkind : event.kind = .phaseStarted)
    (h : next true opened event.mark = some o) : o = some ⟨event.phase, 0⟩ := by
  simp only [Publication.mark, hkind, next, true_or, if_true, Option.some.injEq] at h
  exact h.symm

theorem next_progress {event : RuntimeEvent} {o : Option (Opened RuntimePhase)} (hkind : event.kind = .progress)
    (h : next true opened event.mark = some o) :
    ∃ ticks, opened = some ⟨event.phase, ticks⟩ ∧ o = some ⟨event.phase, ticks + 1⟩ := by
  simp only [Publication.mark, hkind, next, Option.bind_eq_some_iff, Option.ite_none_right_eq_some,
    Option.some.injEq] at h
  obtain ⟨⟨phase, ticks⟩, rfl, ⟨rfl, -⟩, rfl⟩ := h
  exact ⟨ticks, rfl, rfl⟩

theorem next_completed {event : RuntimeEvent} {o : Option (Opened RuntimePhase)} (hkind : event.kind = .phaseCompleted)
    (h : next true opened event.mark = some o) : (∃ ticks, opened = some ⟨event.phase, ticks⟩) ∧ o = none := by
  simp only [Publication.mark, hkind, next, Option.bind_eq_some_iff, Option.ite_none_right_eq_some,
    Option.some.injEq] at h
  obtain ⟨⟨phase, ticks⟩, rfl, ⟨rfl, -⟩, rfl⟩ := h
  exact ⟨⟨ticks, rfl⟩, rfl⟩

theorem foldl_completedPhases (recorder : RuntimeTelemetryRecorder) (started : Option DateTime)
    (events : List RuntimeEvent) (hfits : run true opened (events.map (·.mark)) = some opened')
    (htracks : recorder.Tracks opened started) :
    (events.foldl (handleEvent fl) recorder).completedPhases = recorder.completedPhases ++ completions fl started events := by
  -- For a trace that fits, one time would do for the `dict` of all phases.
  induction events generalizing recorder opened started with
  | nil => exact (List.append_nil _).symm
  | cons event events ih =>
    obtain ⟨o, hnext, hfits⟩ := fits_cons hfits
    rw [List.foldl_cons, completions]
    cases hkind : event.kind with
    | phaseStarted =>
      rw [ih (recorder.handleEvent fl event) (some event.timestamp) hfits]
      · simp only [handleEvent, hkind]
      · rw [next_started hkind hnext]
        rintro _ ⟨⟩
        refine ⟨event.timestamp, rfl, ?_⟩
        simp only [handleEvent, hkind]
        rw [Dict.get?_set, if_pos rfl]
    | progress =>
      obtain ⟨ticks, rfl, rfl⟩ := next_progress hkind hnext
      have hsame : recorder.handleEvent fl event = recorder := by simp only [handleEvent, hkind]
      rw [hsame]
      refine ih recorder started hfits ?_
      rintro _ ⟨⟩
      exact htracks ⟨event.phase, ticks⟩ rfl
    | phaseCompleted =>
      obtain ⟨⟨ticks, rfl⟩, rfl⟩ := next_completed hkind hnext
      obtain ⟨startedAt, rfl, hget⟩ := htracks _ rfl
      simp only at hget
      rw [ih (recorder.handleEvent fl event) (some startedAt) hfits (fun o ho => by cases ho)]
      simp only [handleEvent, hkind, hget, Option.getD_some, List.append_assoc, List.singleton_append]

theorem record_completedPhases {events : List RuntimeEvent} (hfits : run true none (events.map (·.mark)) = some opened') :
    (record fl events).completedPhases = completions fl none events :=
  foldl_completedPhases fl {} none events hfits fun o ho => by cases ho

theorem completions_successive (started : Option DateTime) (events : List RuntimeEvent) {lower t : Int}
    (hfits : run true opened (events.map (·.mark)) = some opened') (htimes : Chronological t events) (hlower : lower ≤ t)
    (hopened : ∀ o ∈ opened, ∃ startedAt, started = some startedAt ∧ lower ≤ startedAt.clock ∧ startedAt.clock ≤ t) :
    Successive lower (spans (completions fl started events)) := by
  induction events generalizing opened started lower t with
  | nil => trivial
  | cons event events ih =>
    obtain ⟨o, hnext, hfits⟩ := fits_cons hfits
    obtain ⟨ht, htimes⟩ := htimes
    rw [completions]
    cases hkind : event.kind with
    | phaseStarted =>
      refine ih (some event.timestamp) hfits htimes (hlower.trans ht) ?_
      rw [next_started hkind hnext]
      rintro _ ⟨⟩
      exact ⟨event.timestamp, rfl, hlower.trans ht, le_refl _⟩
    | progress =>
      obtain ⟨ticks, rfl, rfl⟩ := next_progress hkind hnext
      refine ih started hfits htimes (hlower.trans ht) ?_
      rintro _ ⟨⟩
      obtain ⟨startedAt, hstarted, hle, hle'⟩ := hopened _ rfl
      exact ⟨startedAt, hstarted, hle, hle'.trans ht⟩
    | phaseCompleted =>
      obtain ⟨⟨ticks, rfl⟩, rfl⟩ := next_completed hkind hnext
      obtain ⟨startedAt, rfl, hle, hle'⟩ := hopened _ rfl
      exact ⟨hle, hle'.trans ht, ih (some startedAt) hfits htimes (le_refl _) fun o ho => by cases ho⟩

theorem runStartedAt_foldl (recorder : RuntimeTelemetryRecorder) (events : List RuntimeEvent) {started : DateTime}
    (h : recorder.runStartedAt = some started) : (events.foldl (handleEvent fl) recorder).runStartedAt = some started := by
  induction events generalizing recorder with
  | nil => exact h
  | cons event events ih =>
    apply ih
    unfold handleEvent
    cases event.kind with
    | phaseStarted => simp only [h, Option.getD_some]
    | progress => exact h
    | phaseCompleted => exact h

theorem runCompletedAt_foldl (recorder : RuntimeTelemetryRecorder) (events : List RuntimeEvent)
    (h : recorder.runCompletedAt = recorder.completedPhases.getLast?.map (·.completedAt)) :
    (events.foldl (handleEvent fl) recorder).runCompletedAt =
      (events.foldl (handleEvent fl) recorder).completedPhases.getLast?.map (·.completedAt) := by
  induction events generalizing recorder with
  | nil => exact h
  | cons event events ih =>
    apply ih
    unfold handleEvent
    cases event.kind with
    | phaseStarted => exact h
    | progress => exact h
    | phaseCompleted => simp only [List.getLast?_concat, Option.map_some]

/-! ## What the record says of a trace that fits -/

/-- The stored seconds are rounded one by one, so what adds up are the spans between the timestamps. -/
structure Accounts (events : List RuntimeEvent) (recorder : RuntimeTelemetryRecorder) : Prop where
  completedPhases : recorder.completedPhases = completions fl none events
  durations : ∀ p ∈ recorder.completedPhases, p.startedAt.clock ≤ p.completedAt.clock ∧
    p.durationSeconds = totalSeconds fl (p.completedAt.since p.startedAt)
  disjoint : recorder.completedPhases.Pairwise fun p q => p.completedAt.clock ≤ q.startedAt.clock
  total : recorder.totalRuntimeSeconds fl = events.head?.bind fun first =>
    recorder.completedPhases.getLast?.map fun last => totalSeconds fl (last.completedAt.since first.timestamp)
  sum_le : ∀ first ∈ events.head?, ∀ last ∈ recorder.completedPhases.getLast?,
    (recorder.completedPhases.map fun p => p.completedAt.since p.startedAt).sum ≤ last.completedAt.since first.timestamp

theorem completions_durationSeconds (started : Option DateTime) (events : List RuntimeEvent) :
    ∀ p ∈ completions fl started events, p.durationSeconds = totalSeconds fl (p.completedAt.since p.startedAt) := by
  induction events generalizing started with
  | nil => exact fun p hp => absurd hp List.not_mem_nil
  | cons event events ih =>
    rw [completions]
    cases event.kind with
    | phaseStarted => exact ih _
    | progress => exact ih _
    | phaseCompleted => exact List.forall_mem_cons.mpr ⟨rfl, ih _⟩

theorem completions_phases (started : Option DateTime) (events : List RuntimeEvent) :
    (completions fl started events).map (·.phase) = (events.map (·.mark)).filterMap Mark.finished := by
  induction events generalizing started with
  | nil => rfl
  | cons event events ih =>
    rw [completions, List.map_cons, List.filterMap_cons]
    unfold Publication.mark
    cases event.kind with
    | phaseStarted => exact ih _
    | progress => exact ih _
    | phaseCompleted => exact congrArg _ (ih _)

theorem record_nil_accounts : Accounts fl [] (record fl []) where
  completedPhases := rfl
  durations _ hp := absurd hp List.not_mem_nil
  disjoint := List.Pairwise.nil
  total := rfl
  sum_le _ hfirst := by cases hfirst

theorem record_accounts {events : List RuntimeEvent} {t : Int} (hfits : run true none (events.map (·.mark)) = some opened)
    (htimes : Chronological t events) : Accounts fl events (record fl events) := by
  cases events with
  | nil => exact record_nil_accounts fl
  | cons first events =>
    have hcompleted := record_completedPhases fl hfits
    obtain ⟨ht, hrest⟩ := htimes
    have hsuccessive : Successive first.timestamp.clock (spans (completions fl none (first :: events))) :=
      completions_successive fl none (first :: events) hfits ⟨le_refl _, hrest⟩ (le_refl _) fun o ho => by cases ho
    -- A trace that fits begins with a start.
    have hkind : first.kind = .phaseStarted := by
      obtain ⟨o, hnext, -⟩ := fits_cons hfits
      cases hkind : first.kind with
      | phaseStarted => rfl
      | progress =>
        obtain ⟨ticks, hnone, -⟩ := next_progress hkind hnext
        cases hnone
      | phaseCompleted =>
        obtain ⟨⟨ticks, hnone⟩, -⟩ := next_completed hkind hnext
        cases hnone
    have hstarted : (record fl (first :: events)).runStartedAt = some first.timestamp := by
      unfold record
      rw [List.foldl_cons]
      apply runStartedAt_foldl
      simp only [handleEvent, hkind, Option.getD_none]
    have htotal : (record fl (first :: events)).totalRuntimeSeconds fl =
        (completions fl none (first :: events)).getLast?.map fun last =>
          totalSeconds fl (last.completedAt.since first.timestamp) := by
      have hlast := runCompletedAt_foldl fl {} (first :: events) rfl
      rw [← record, hcompleted] at hlast
      unfold totalRuntimeSeconds
      rw [hstarted, hlast]
      cases (completions fl none (first :: events)).getLast? <;> rfl
    rw [← hcompleted] at hsuccessive htotal
    refine ⟨hcompleted, ?_, ?_, htotal, ?_⟩
    · intro p hp
      have hbounds := hsuccessive.bounds (p.startedAt.clock, p.completedAt.clock) (List.mem_map_of_mem hp)
      rw [hcompleted] at hp
      exact ⟨hbounds.2, completions_durationSeconds fl none (first :: events) p hp⟩
    · have hpairwise := hsuccessive.pairwise
      rw [spans, List.pairwise_map] at hpairwise
      exact hpairwise
    · rintro _ ⟨⟩ last hlast
      have hspan : (spans (record fl (first :: events)).completedPhases).getLast? =
          some (last.startedAt.clock, last.completedAt.clock) := by
        unfold spans
        rw [List.getLast?_map, hlast]
        rfl
      have hlengths : lengths (spans (record fl (first :: events)).completedPhases) =
          ((record fl (first :: events)).completedPhases.map fun p => p.completedAt.since p.startedAt).sum := by
        unfold lengths spans
        rw [List.map_map]
        rfl
      have hle := hsuccessive.lengths_le
      rw [hlengths, endOf_eq_getLast, hspan, Option.map_some, Option.getD_some] at hle
      exact hle

end RuntimeTelemetryRecorder

end NetworkMapper
