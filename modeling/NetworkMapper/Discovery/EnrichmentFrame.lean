import NetworkMapper.Discovery.SnmpProvider
import NetworkMapper.Python.Sorted

/-!
# What the system group does to a device

The provider changes the devices in place, one query after the other. A list of devices
can hold one device twice, so the devices are looked up by reference.
-/

open Python

namespace NetworkMapper

/-- What the query of the system group did and did not find at one host. -/
structure SnmpHostDiagnostics where
  responded : Bool
  fieldsReturned : List Str
  failureReason : Option Str

/-- The counts of one enrichment pass, and the diagnostics of each host. -/
structure SnmpRunDiagnostics where
  hostsEligible : Nat
  hostsQueried : Nat
  hostsResponded : Nat
  hostsTimedOut : Nat
  version : Str
  hostDiagnostics : Dict Str SnmpHostDiagnostics

namespace SnmpEnrichmentProvider

/-! ## The calls -/

/-- `_query_host`. `none` is an exception of the client. -/
def queryHost (answer : Option SnmpHostResult) : SnmpHostResult :=
  answer.getD { responded := false, failureReason := some (str "malformed response") }

/-- What a result does to its device, `false` for the `KeyError` of `_merge`. -/
def mergeResult (device : Device) (result : SnmpHostResult) : Device × Bool :=
  if result.responded then
    match merge device result.fields with
    | (merged, true) => (addSource merged, true)
    | (merged, false) => (merged, false)
  else (device, true)

section Calls

variable {ι : Type} [DecidableEq ι]

/-- The devices, and what a call has counted so far. -/
structure Progress (ι : Type) where
  devices : ι → Device
  hostsResponded : Nat := 0
  hostsTimedOut : Nat := 0
  hostDiagnostics : Dict Str SnmpHostDiagnostics := .empty

/-- One turn of the loop. -/
def enrichHost (progress : Progress ι) (ref : ι) (answer : Option SnmpHostResult) : Progress ι × Bool :=
  let device := progress.devices ref
  let result := queryHost answer
  let merged := mergeResult device result
  ({ devices := Function.update progress.devices ref merged.1
     hostsResponded := progress.hostsResponded + if result.responded then 1 else 0
     hostsTimedOut := progress.hostsTimedOut + if result.responded then 0 else 1
     hostDiagnostics := progress.hostDiagnostics.set device.ipAddress
      ⟨result.responded, sortedBy id (result.fields.map Prod.fst), result.failureReason⟩ }, merged.2)

/-- The loop of `enrich`. It ends at the first answer that cannot be applied, and says whether it got through. -/
def enrichHosts (progress : Progress ι) : List (ι × Option SnmpHostResult) → Progress ι × Bool
  | [] => (progress, true)
  | query :: queries =>
    match enrichHost progress query.1 query.2 with
    | (progress, true) => enrichHosts progress queries
    | (progress, false) => (progress, false)

/-- `enrich`: the devices, and `run_diagnostics`, which an exception does not set. -/
def enrichCall (version : Str) (devices : ι → Device) (queries : List (ι × Option SnmpHostResult)) :
    (ι → Device) × Option SnmpRunDiagnostics :=
  match enrichHosts { devices := devices } queries with
  | (progress, true) =>
    (progress.devices, some ⟨queries.length, queries.length, progress.hostsResponded, progress.hostsTimedOut, version,
      progress.hostDiagnostics⟩)
  | (progress, false) => (progress.devices, none)

/-- The queries of one call: each device in turn, with what the client answers there. -/
def queries (refs : List ι) (answers : Nat → Option SnmpHostResult) : List (ι × Option SnmpHostResult) :=
  refs.zipIdx.map fun ref => (ref.1, answers ref.2)

/-- `enrich`, again and again on the same devices. -/
def enrichCalls (version : Str) (devices : ι → Device) (refs : List ι) :
    List (Nat → Option SnmpHostResult) → (ι → Device) × List (Option SnmpRunDiagnostics)
  | [] => (devices, [])
  | answers :: calls =>
    let call := enrichCall version devices (queries refs answers)
    let rest := enrichCalls version call.1 refs calls
    (rest.1, call.2 :: rest.2)

end Calls

/-! ## Results of the system group -/

/-- What a result reports for an attribute: the first field that is for it. -/
def reported (target : SnmpAttribute) (result : SnmpHostResult) : Option Str :=
  if result.responded then
    result.fields.findSome? fun field =>
      if fieldToDeviceAttribute.lookup field.1 = some target then some field.2 else none
  else none

/-- The device, less what is the provider's. -/
def others (device : Device) : Device :=
  { device with
    hostname := none, snmpSysDescr := none, snmpSysObjectId := none, snmpSysUptime := none, snmpSysContact := none,
    snmpSysLocation := none, discoverySources := [] }

/-- What some results, one after the other, may do to a device. -/
structure OnlyFills (before after : Device) (results : List SnmpHostResult) : Prop where
  attributes : ∀ target, SnmpAttribute.get after target =
    (SnmpAttribute.get before target).or (results.findSome? (reported target))
  others : others after = others before
  sources : after.discoverySources =
    if str "snmp" ∉ before.discoverySources ∧ results.any (·.responded) = true then
      before.discoverySources ++ [str "snmp"]
    else before.discoverySources

theorem OnlyFills.refl (device : Device) : OnlyFills device device [] where
  attributes target := by rw [List.findSome?_nil, Option.or_none]
  others := rfl
  sources := by simp

/-! ## One result -/

theorem get_set (device : Device) (value : Str) (target other : SnmpAttribute) :
    SnmpAttribute.get (SnmpAttribute.set device value target) other =
      if target = other then some value else SnmpAttribute.get device other := by
  cases target <;> cases other <;> rfl

theorem set_frame (device : Device) (value : Str) (target : SnmpAttribute) :
    others (SnmpAttribute.set device value target) = others device ∧
      (SnmpAttribute.set device value target).discoverySources = device.discoverySources := by
  cases target <;> exact ⟨rfl, rfl⟩

theorem merge_frame (device : Device) (fields : List (Str × Str)) :
    others (merge device fields).1 = others device ∧
      (merge device fields).1.discoverySources = device.discoverySources := by
  induction fields generalizing device with
  | nil => exact ⟨rfl, rfl⟩
  | cons field fields ih =>
    obtain ⟨name, value⟩ := field
    unfold merge
    split
    · exact ⟨rfl, rfl⟩
    · rename_i target _
      split
      · obtain ⟨hothers, hsources⟩ := set_frame device value target
        obtain ⟨hrest, hrest'⟩ := ih (SnmpAttribute.set device value target)
        exact ⟨hrest.trans hothers, hrest'.trans hsources⟩
      · exact ih device

theorem get_fill (device : Device) (value : Str) (target other : SnmpAttribute) :
    SnmpAttribute.get
        (if (SnmpAttribute.get device target).isNone then SnmpAttribute.set device value target else device) other =
      (SnmpAttribute.get device other).or (if target = other then some value else none) := by
  by_cases heq : target = other
  · subst heq
    cases hget : SnmpAttribute.get device target with
    | none => simp [get_set]
    | some v => simp [hget]
  · rw [if_neg heq, Option.or_none]
    split
    · rw [get_set, if_neg heq]
    · rfl

theorem merge_get (device : Device) (fields : List (Str × Str))
    (h : ∀ field ∈ fields, (fieldToDeviceAttribute.lookup field.1).isSome = true) (other : SnmpAttribute) :
    SnmpAttribute.get (merge device fields).1 other =
      (SnmpAttribute.get device other).or (fields.findSome? fun field =>
        if fieldToDeviceAttribute.lookup field.1 = some other then some field.2 else none) := by
  induction fields generalizing device with
  | nil =>
    rw [List.findSome?_nil, Option.or_none]
    rfl
  | cons field fields ih =>
    obtain ⟨hknown, hrest⟩ := List.forall_mem_cons.mp h
    obtain ⟨target, htarget⟩ := Option.isSome_iff_exists.mp hknown
    unfold merge
    simp only [htarget]
    rw [ih _ hrest, get_fill, List.findSome?_cons, htarget, Option.or_assoc]
    simp only [Option.some.injEq]
    split <;> rfl

theorem addSource_frame (device : Device) : others (addSource device) = others device ∧
    ∀ target, SnmpAttribute.get (addSource device) target = SnmpAttribute.get device target := by
  unfold addSource
  split
  · exact ⟨rfl, fun _ => rfl⟩
  · exact ⟨rfl, fun target => by cases target <;> rfl⟩

theorem mergeResult_responded (device : Device) {result : SnmpHostResult} (hknown : KnownFields result)
    (h : result.responded = true) : mergeResult device result = (addSource (merge device result.fields).1, true) := by
  have hok := merge_total device result.fields hknown
  unfold mergeResult
  rw [if_pos h]
  split <;> rename_i hmerge <;> rw [hmerge] at hok ⊢
  cases hok

theorem mergeResult_silent (device : Device) {result : SnmpHostResult} (h : result.responded = false) :
    mergeResult device result = (device, true) := by
  unfold mergeResult
  rw [if_neg (by simp [h])]

theorem mergeResult_ok (device : Device) {result : SnmpHostResult} (hknown : KnownFields result) :
    (mergeResult device result).2 = true := by
  cases h : result.responded with
  | true => rw [mergeResult_responded device hknown h]
  | false => rw [mergeResult_silent device h]

theorem addSource_sources (device : Device) : (addSource device).discoverySources =
    if str "snmp" ∈ device.discoverySources then device.discoverySources
    else device.discoverySources ++ [str "snmp"] := by
  unfold addSource
  split <;> rfl

theorem OnlyFills.step {before after : Device} {results : List SnmpHostResult} (h : OnlyFills before after results)
    {result : SnmpHostResult} (hknown : KnownFields result) :
    OnlyFills before (mergeResult after result).1 (results ++ [result]) := by
  cases hresponded : result.responded with
  | false =>
    rw [mergeResult_silent after hresponded]
    refine ⟨fun target => ?_, h.others, ?_⟩
    · have hreported : reported target result = none := if_neg (by simp [hresponded])
      rw [List.findSome?_append, List.findSome?_singleton, hreported, Option.or_none, h.attributes]
    · rw [h.sources, List.any_append, List.any_cons, List.any_nil, hresponded]
      simp only [Bool.or_false]
  | true =>
    rw [mergeResult_responded after hknown hresponded]
    have hmerge := merge_frame after result.fields
    have hsource := addSource_frame (merge after result.fields).1
    refine ⟨fun target => ?_, ?_, ?_⟩
    · have hreported : reported target result = result.fields.findSome? fun field =>
          if fieldToDeviceAttribute.lookup field.1 = some target then some field.2 else none := if_pos hresponded
      rw [hsource.2, merge_get after result.fields hknown target, h.attributes, Option.or_assoc,
        List.findSome?_append, List.findSome?_singleton, hreported]
    · exact hsource.1.trans (hmerge.1.trans h.others)
    · have hany : (results ++ [result]).any (·.responded) = true := by simp [hresponded]
      rw [addSource_sources, hmerge.2, h.sources, hany]
      by_cases hthere : str "snmp" ∈ before.discoverySources
      · simp [hthere]
      · by_cases hearlier : results.any (·.responded) = true
        · simp only [hthere, hearlier]
          simp
        · simp [hthere, hearlier]

/-! ## Runs -/

section Runs

variable {ι : Type} [DecidableEq ι]

/-- What the queries of a device get, in order. -/
def answersTo (ref : ι) (queries : List (ι × Option SnmpHostResult)) : List SnmpHostResult :=
  queries.filterMap fun query => if query.1 = ref then some (queryHost query.2) else none

theorem answersTo_append (ref : ι) (queries more : List (ι × Option SnmpHostResult)) :
    answersTo ref (queries ++ more) = answersTo ref queries ++ answersTo ref more := List.filterMap_append

theorem enrichHosts_fills (before : ι → Device) (results : ι → List SnmpHostResult) (progress : Progress ι)
    (h : ∀ ref, OnlyFills (before ref) (progress.devices ref) (results ref))
    (queries : List (ι × Option SnmpHostResult)) (hknown : ∀ query ∈ queries, KnownFields (queryHost query.2)) :
    (enrichHosts progress queries).2 = true ∧
      (∀ ref, OnlyFills (before ref) ((enrichHosts progress queries).1.devices ref)
        (results ref ++ answersTo ref queries)) ∧
      (enrichHosts progress queries).1.hostsResponded + (enrichHosts progress queries).1.hostsTimedOut =
        progress.hostsResponded + progress.hostsTimedOut + queries.length := by
  induction queries generalizing progress results with
  | nil =>
    refine ⟨rfl, fun ref => ?_, rfl⟩
    rw [answersTo, List.filterMap_nil, List.append_nil]
    exact h ref
  | cons query queries ih =>
    obtain ⟨ref, answer⟩ := query
    obtain ⟨hfirst, hrest⟩ := List.forall_mem_cons.mp hknown
    have hok : (enrichHost progress ref answer).2 = true := mergeResult_ok _ hfirst
    have hcount : (enrichHost progress ref answer).1.hostsResponded +
        (enrichHost progress ref answer).1.hostsTimedOut = progress.hostsResponded + progress.hostsTimedOut + 1 := by
      unfold enrichHost
      simp only
      split <;> omega
    have hfills : ∀ other, OnlyFills (before other) ((enrichHost progress ref answer).1.devices other)
        (results other ++ answersTo other [(ref, answer)]) := by
      intro other
      unfold enrichHost answersTo
      by_cases heq : ref = other
      · subst heq
        simp only [Function.update_self, List.filterMap_cons, List.filterMap_nil, if_true]
        exact (h ref).step hfirst
      · simp only [Function.update_of_ne (Ne.symm heq), List.filterMap_cons, List.filterMap_nil, heq, if_false,
          List.append_nil]
        exact h other
    have hstep : enrichHosts progress ((ref, answer) :: queries) =
        enrichHosts (enrichHost progress ref answer).1 queries := by
      rw [enrichHosts]
      split <;> rename_i heq <;> rw [heq] at hok ⊢
      cases hok
    obtain ⟨hdone, hdevices, hcounts⟩ := ih _ _ hfills hrest
    rw [hstep]
    refine ⟨hdone, fun other => ?_, ?_⟩
    · rw [← List.singleton_append, answersTo_append, ← List.append_assoc]
      exact hdevices other
    · rw [hcounts, hcount, List.length_cons]
      omega

/-- The counts of one call that was not interrupted. -/
structure CountsAll (total : Nat) (diagnostics : SnmpRunDiagnostics) : Prop where
  eligible : diagnostics.hostsEligible = total
  queried : diagnostics.hostsQueried = total
  answered : diagnostics.hostsResponded + diagnostics.hostsTimedOut = diagnostics.hostsQueried

theorem enrichCall_fills (version : Str) (before devices : ι → Device) (results : ι → List SnmpHostResult)
    (h : ∀ ref, OnlyFills (before ref) (devices ref) (results ref)) (queries : List (ι × Option SnmpHostResult))
    (hknown : ∀ query ∈ queries, KnownFields (queryHost query.2)) :
    (∀ ref, OnlyFills (before ref) ((enrichCall version devices queries).1 ref)
      (results ref ++ answersTo ref queries)) ∧
    ∃ diagnostics, (enrichCall version devices queries).2 = some diagnostics ∧
      CountsAll queries.length diagnostics := by
  obtain ⟨hdone, hdevices, hcounts⟩ := enrichHosts_fills before results { devices := devices } h queries hknown
  unfold enrichCall
  split <;> rename_i heq <;> rw [heq] at hdone hdevices hcounts
  · refine ⟨hdevices, _, rfl, rfl, rfl, ?_⟩
    simpa using hcounts
  · cases hdone

/-- A result with names of the system group. -/
structure SystemGroupResult extends SnmpHostResult where
  known : KnownFields toSnmpHostResult

/-- What the client answers at each place of the list. `none` is an exception. -/
abbrev SystemGroupAnswers := Nat → Option SystemGroupResult

/-- The answer at a place, without its evidence that it can be applied. -/
def SystemGroupAnswers.plain (answers : SystemGroupAnswers) (i : Nat) : Option SnmpHostResult :=
  (answers i).map (·.toSnmpHostResult)

omit [DecidableEq ι] in
theorem queries_known (refs : List ι) (answers : SystemGroupAnswers) :
    ∀ query ∈ queries refs answers.plain, KnownFields (queryHost query.2) := by
  unfold queries
  rw [List.forall_mem_map]
  rintro ⟨ref, i⟩ -
  unfold SystemGroupAnswers.plain
  simp only
  cases answers i with
  | none =>
    intro field h
    cases h
  | some result => exact result.known

/-- What a device gets in all of the calls, in order. -/
def resultsFor (refs : List ι) (calls : List SystemGroupAnswers) (ref : ι) : List SnmpHostResult :=
  calls.flatMap fun answers => answersTo ref (queries refs answers.plain)

theorem enrichCalls_fills (version : Str) (before devices : ι → Device) (results : ι → List SnmpHostResult)
    (h : ∀ ref, OnlyFills (before ref) (devices ref) (results ref)) (refs : List ι) (calls : List SystemGroupAnswers) :
    (∀ ref, OnlyFills (before ref) ((enrichCalls version devices refs (calls.map (·.plain))).1 ref)
      (results ref ++ resultsFor refs calls ref)) ∧
    (enrichCalls version devices refs (calls.map (·.plain))).2.length = calls.length ∧
    ∀ diagnostics ∈ (enrichCalls version devices refs (calls.map (·.plain))).2,
      ∃ counts, diagnostics = some counts ∧ CountsAll refs.length counts := by
  induction calls generalizing devices results with
  | nil =>
    refine ⟨fun ref => ?_, rfl, by simp [enrichCalls]⟩
    rw [resultsFor, List.flatMap_nil, List.append_nil]
    exact h ref
  | cons answers calls ih =>
    obtain ⟨hdevices, counts, hcounts, hall⟩ :=
      enrichCall_fills version before devices results h (queries refs answers.plain) (queries_known refs answers)
    have htotal : (queries refs answers.plain).length = refs.length := by simp [queries]
    rw [htotal] at hall
    obtain ⟨hrest, hlength, hdiagnostics⟩ := ih _ _ hdevices
    rw [List.map_cons]
    unfold enrichCalls
    refine ⟨fun ref => ?_, ?_, ?_⟩
    · rw [resultsFor, List.flatMap_cons, ← List.append_assoc]
      exact hrest ref
    · simp only [List.length_cons, hlength]
    · rw [List.forall_mem_cons]
      exact ⟨⟨counts, hcounts, hall⟩, hdiagnostics⟩

/-- Any number of calls only fills what is missing, with the first value reported, and each call counts every
device. -/
theorem enrichment_only_fills (version : Str) (devices : ι → Device) (refs : List ι)
    (calls : List SystemGroupAnswers) :
    (∀ ref, OnlyFills (devices ref) ((enrichCalls version devices refs (calls.map (·.plain))).1 ref)
      (resultsFor refs calls ref)) ∧
    (enrichCalls version devices refs (calls.map (·.plain))).2.length = calls.length ∧
    (∀ diagnostics ∈ (enrichCalls version devices refs (calls.map (·.plain))).2,
      ∃ counts, diagnostics = some counts ∧ CountsAll refs.length counts) ∧
    ∀ response, KnownFields (PysnmpClient.getSystemGroup response) := by
  obtain ⟨hdevices, hlength, hdiagnostics⟩ :=
    enrichCalls_fills version devices devices (fun _ => []) (fun ref => .refl (devices ref)) refs calls
  exact ⟨hdevices, hlength, hdiagnostics, getSystemGroup_known⟩

/-! ## The devices of the engine -/

theorem enrichDevice_merges (session : SnmpSession SnmpHostResult) (device : Device) :
    let result := queryHost (session.client device.ipAddress)
    (enrichDevice session device).1 = (mergeResult device result).1 ∧
      (enrichDevice session device).2.isSome = (mergeResult device result).2 := by
  have hresult : session.queryHost (SnmpHostResult.mk false []) device.ipAddress =
      queryHost (session.client device.ipAddress) := rfl
  unfold enrichDevice mergeResult
  rw [hresult]
  simp only
  split
  · cases merge device (queryHost (session.client device.ipAddress)).fields with
    | mk merged ok => cases ok <;> exact ⟨rfl, rfl⟩
  · exact ⟨rfl, rfl⟩

theorem enrichHosts_unqueried (progress : Progress ι) (queries : List (ι × Option SnmpHostResult)) (ref : ι)
    (h : ref ∉ queries.map Prod.fst) : (enrichHosts progress queries).1.devices ref = progress.devices ref := by
  induction queries generalizing progress with
  | nil => rfl
  | cons query queries ih =>
    rw [List.map_cons, List.mem_cons, not_or] at h
    have hother : (enrichHost progress query.1 query.2).1.devices ref = progress.devices ref :=
      Function.update_of_ne h.1 _ _
    unfold enrichHosts
    split <;> rename_i heq <;> rw [heq] at hother
    · exact (ih _ h.2).trans hother
    · exact hother

/-- On devices that are all different, a call does what the engine's provider does to a list of devices. -/
theorem enrichHosts_enrich (session : SnmpSession SnmpHostResult) (refs : List ι) (hn : refs.Nodup)
    (progress : Progress ι) :
    refs.map (enrichHosts progress
      (refs.map fun ref => (ref, session.client (progress.devices ref).ipAddress))).1.devices =
      (enrich session (refs.map progress.devices)).1 := by
  induction refs generalizing progress with
  | nil => rfl
  | cons ref refs ih =>
    obtain ⟨hnew, hrest⟩ := List.nodup_cons.mp hn
    obtain ⟨first, hstep⟩ :
      ∃ first, enrichHost progress ref (session.client (progress.devices ref).ipAddress) = first := ⟨_, rfl⟩
    obtain ⟨hdevice, hok⟩ := enrichDevice_merges session (progress.devices ref)
    have hfirst : first.1.devices ref = (enrichDevice session (progress.devices ref)).1 := by
      rw [hdevice, ← hstep]
      exact Function.update_self ..
    have hdone : first.2 = (enrichDevice session (progress.devices ref)).2.isSome := by rw [hok, ← hstep]; rfl
    have hothers : ∀ other ∈ refs, progress.devices other = first.1.devices other := by
      intro other hother
      rw [← hstep]
      refine (Function.update_of_ne ?_ _ _).symm
      rintro rfl
      exact hnew hother
    have hdevices : refs.map progress.devices = refs.map first.1.devices := List.map_congr_left hothers
    have hqueries : refs.map (fun r => (r, session.client (progress.devices r).ipAddress)) =
        refs.map fun r => (r, session.client (first.1.devices r).ipAddress) :=
      List.map_congr_left fun other hother => by rw [hothers other hother]
    obtain ⟨progress', ok⟩ := first
    simp only [List.map_cons, enrichHosts, enrich, hstep, hqueries, hdevices] at hfirst hdone ⊢
    cases hdev : enrichDevice session (progress.devices ref) with
    | mk enriched collected =>
      rw [hdev] at hfirst hdone
      cases collected with
      | none =>
        subst hdone
        simp only [Option.isSome_none, hfirst]
      | some observations =>
        have hhead : ref ∉ (refs.map fun r => (r, session.client (progress'.devices r).ipAddress)).map Prod.fst := by
          simpa using hnew
        subst hdone
        simp only [Option.isSome_some, enrichHosts_unqueried _ _ _ hhead, hfirst, ih hrest]

end Runs

end SnmpEnrichmentProvider

end NetworkMapper
