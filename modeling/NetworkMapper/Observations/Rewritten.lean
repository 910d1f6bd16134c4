import NetworkMapper.Observations.ReplayRoundTrip
import NetworkMapper.Python.Json.Loaded

/-!
# Artifacts that are written again

No text of an artifact that parsing accepts has a surrogate pair. So the artifact can be
written again, as the one document of its observations.
-/

open Python

namespace NetworkMapper

namespace ReplayFormat

section Accepted

variable {py : Interpreter} {place : Str}

theorem rejectDuplicateKeys_loaded : HookLoaded py rejectDuplicateKeys := by
  intro members v hmembers h
  obtain ⟨rfl, -⟩ := (rejectDuplicateKeys_ok members v).mp h
  exact .obj members hmembers

theorem checkString_loaded {ms : List (Str × Json)} (h : Loaded py (.obj ms)) {key s : Str}
    (hs : checkString ms key place = .ok s) : hasSurrogatePair s = false := by
  rw [checkString_ok] at hs
  exact (h.of_lookup hs).text rfl

theorem readProvenance_loaded {ms : List (Str × Json)} (h : Loaded py (.obj ms)) {p : ObservationProvenance}
    (hread : readProvenance ms place = .ok p) : ∀ t ∈ p.texts, hasSurrogatePair t = false := by
  simp only [readProvenance, bind_eq_ok, pure_ok, Except.ok.injEq] at hread
  obtain ⟨provider, hprovider, method, hmethod, observedAt, -, sourceRun, hrun, date, -, rfl⟩ := hread
  unfold ObservationProvenance.texts
  simp only [List.forall_mem_cons]
  exact ⟨checkString_loaded h hprovider, checkString_loaded h hmethod, checkString_loaded h hrun, List.forall_mem_nil _⟩

theorem readFields_loaded {ms : List (Str × Json)} (h : Loaded py (.obj ms)) {expected : List Str}
    {third fourth subject a b : Str} {p : ObservationProvenance}
    (hread : readFields ms expected third fourth place = .ok (subject, a, b, p)) :
    ∀ t ∈ [subject, a, b] ++ p.texts, hasSurrogatePair t = false := by
  simp only [readFields, bind_eq_ok, pure_ok, Except.ok.injEq, Prod.mk.injEq, provenanceMembers_ok] at hread
  obtain ⟨-, -, provenance, ⟨hprovenance, -⟩, _, hsubject, _, ha, _, hb, _, hp, rfl, rfl, rfl, rfl⟩ := hread
  simp only [List.forall_mem_append, List.forall_mem_cons]
  exact ⟨⟨checkString_loaded h hsubject, checkString_loaded h ha, checkString_loaded h hb, List.forall_mem_nil _⟩,
    readProvenance_loaded (h.of_lookup hprovenance) hp⟩

theorem fromRecord_loaded {record : Json} (h : Loaded py record) {o : Observation}
    (hread : fromRecord py record place = .ok o) : ∀ t ∈ o.texts, hasSurrogatePair t = false := by
  cases record with
  | obj ms =>
    unfold fromRecord at hread
    obtain ⟨type, -, hread⟩ := (bind_eq_ok _ _ _).mp hread
    cases type with
    | str type =>
      simp only at hread
      split_ifs at hread
      · simp only [readIdentity, bind_eq_ok, pure_ok, Except.ok.injEq] at hread
        obtain ⟨⟨subject, propertyName, value, p⟩, hfields, rfl⟩ := hread
        exact readFields_loaded h hfields
      · simp only [readRelationship, bind_eq_ok, pure_ok, Except.ok.injEq] at hread
        obtain ⟨⟨subject, relatedSubject, category, p⟩, hfields, rfl⟩ := hread
        exact readFields_loaded h hfields
      · cases hread
    | _ => cases hread
  | _ => cases hread

theorem readRecords_loaded {records : List Json} (h : ∀ record ∈ records, Loaded py record) {source : Str} {index : Nat}
    {observations : List Observation} (hread : readRecords py source index records = .ok observations) :
    ∀ o ∈ observations, ∀ t ∈ o.texts, hasSurrogatePair t = false := by
  induction records generalizing index observations with
  | nil =>
    cases hread
    exact List.forall_mem_nil _
  | cons record records ih =>
    obtain ⟨hrecord, hrecords⟩ := List.forall_mem_cons.mp h
    simp only [readRecords, bind_eq_ok, pure_ok, Except.ok.injEq] at hread
    obtain ⟨o, ho, rest, hrest, rfl⟩ := hread
    exact List.forall_mem_cons.mpr ⟨fromRecord_loaded hrecord ho, ih hrecords hrest⟩

theorem checkDocument_loaded {document : Json} (h : Loaded py document) {source : Str} {observations : List Observation}
    (hread : checkDocument py document source = .ok observations) :
    ∀ o ∈ observations, ∀ t ∈ o.texts, hasSurrogatePair t = false := by
  cases document with
  | obj ms =>
    simp only [checkDocument, bind_eq_ok] at hread
    obtain ⟨-, -, -, -, hread⟩ := hread
    cases hunknown : unknownKey ms topLevelKeys with
    | some key =>
      rw [hunknown] at hread
      cases hread
    | none =>
      simp only [hunknown] at hread
      split at hread
      · rename_i records hrecords
        exact readRecords_loaded ((h.of_lookup hrecords).list rfl) hread
      · cases hread
  | _ => cases hread

theorem parseObservations_loaded {data : Bytes} {source : Str} {observations : List Observation}
    (h : parseObservations py (.bytes data) source = .ok observations) :
    ∀ o ∈ observations, ∀ t ∈ o.texts, hasSurrogatePair t = false := by
  unfold parseObservations at h
  obtain ⟨document, hdocument, h⟩ := (bind_eq_ok _ _ _).mp h
  unfold loadDocument ReplayData.decode at hdocument
  cases hdecode : decodeUtf8 data with
  | error e => simp [hdecode, reject] at hdocument
  | ok text =>
    simp only [hdecode] at hdocument
    cases hloads : loads py rejectDuplicateKeys text with
    | error e =>
      rw [hloads] at hdocument
      cases e <;> cases hdocument
    | ok v =>
      simp only [hloads, Except.ok.injEq] at hdocument
      subst hdocument
      exact checkDocument_loaded (loads_loaded rejectDuplicateKeys_loaded (decodeUtf8_scalar hdecode) hloads) h

end Accepted

/-! ## Writing it again -/

/-- What parsing accepted is written as the document of its observations: it is read back as those, it is written
the same again, and it is the document of every other artifact that holds them. -/
theorem accepted_rewritten (py : Interpreter) (data data' : Bytes) (source source' again : Str)
    (xs xs' : List Observation) (h : parseObservations py (.bytes data) source = .ok xs)
    (h' : parseObservations py (.bytes data') source' = .ok xs') :
    ∃ payload ys, serializeObservations py xs = .ok payload ∧
      parseObservations py (.bytes payload) again = .ok ys ∧ ys.Perm xs ∧
      serializeObservations py ys = .ok payload ∧
      (serializeObservations py xs' = .ok payload ↔ xs'.Perm xs) := by
  have hperm := (joined_perm_iff xs).mpr (parseObservations_loaded h)
  have hperm' := (joined_perm_iff xs').mpr (parseObservations_loaded h')
  refine ⟨_, _, serializeObservations_ok py xs, parse_serialize py xs again, hperm, ?_, ?_, ?_⟩
  · rw [serialize_perm py hperm, serializeObservations_ok]
  · -- The two are read back from the same bytes.
    intro hsame
    rw [serializeObservations_ok, Except.ok.injEq] at hsame
    have hread := parse_serialize py xs' again
    rw [hsame, parse_serialize, Except.ok.injEq] at hread
    exact hperm'.symm.trans (hread ▸ hperm)
  · intro hx
    rw [serialize_perm py hx, serializeObservations_ok]

theorem parseObservations_ascii (py : Interpreter) {text : Str} (h : asciiText text) (source : Str) :
    parseObservations py (.bytes (text.map fun c => byte c.val)) source = parseObservations py (.text text) source := by
  unfold parseObservations loadDocument ReplayData.decode
  simp only [decodeUtf8_ascii text h]

/-- A document with these records, without a blank and with its keys in another order. -/
def foreignText (records : List Str) : Str :=
  str "\x7b\"format_version\":1,\"format\":\"networkmapper.retained-observations\",\"observations\":[" ++
    [ch ','].intercalate records ++ str "]\x7d"

def foreignProvenance : Str :=
  str "\"provenance\":\x7b\"provider\":\"snmp\",\"collection_method\":\"x\",\"source_run\":\"run-001\"," ++
    str "\"observed_at\":\"2026-10-13T09:15:02\"\x7d\x7d"

def foreignIdentity : Str :=
  str "\x7b\"subject\":\"192.0.2.10\",\"type\":\"identity\",\"value\":\"\\ud83d\\ude00\",\"property_name\":\"x\"," ++
    foreignProvenance

def foreignRelationship : Str :=
  str "\x7b\"type\":\"relationship\",\"subject\":\"192.0.2.1\",\"category\":\"arp_neighbor\"," ++
    str "\"related_subject\":\"192.0.2.10\"," ++ foreignProvenance

theorem foreignText_parses : ∀ records ∈ [[foreignRelationship, foreignIdentity], [foreignIdentity, foreignRelationship]],
    ((foreignText records).all fun c => c.val < 128) = true ∧
      (parseObservations cpython (.text (foreignText records)) (str "a")).toBool = true := by
  decide +kernel

theorem accepted_rewritten_sample :
    let data := (foreignText [foreignRelationship, foreignIdentity]).map fun c => byte c.val
    let data' := (foreignText [foreignIdentity, foreignRelationship]).map fun c => byte c.val
    ∃ xs xs' payload ys, parseObservations cpython (.bytes data) (str "a") = .ok xs ∧
      parseObservations cpython (.bytes data') (str "a") = .ok xs' ∧ serializeObservations cpython xs = .ok payload ∧
      parseObservations cpython (.bytes payload) (str "b") = .ok ys ∧ ys.Perm xs ∧
      serializeObservations cpython ys = .ok payload ∧
      (serializeObservations cpython xs' = .ok payload ↔ xs'.Perm xs) := by
  have hread : ∀ records ∈ [[foreignRelationship, foreignIdentity], [foreignIdentity, foreignRelationship]],
      ∃ xs, parseObservations cpython (.bytes ((foreignText records).map fun c => byte c.val)) (str "a") = .ok xs := by
    intro records hrecords
    obtain ⟨hascii, hparses⟩ := foreignText_parses records hrecords
    rw [parseObservations_ascii cpython fun c hc => of_decide_eq_true (List.all_eq_true.mp hascii c hc)]
    cases hparse : parseObservations cpython (.text (foreignText records)) (str "a") with
    | error e =>
      rw [hparse] at hparses
      cases hparses
    | ok xs => exact ⟨xs, rfl⟩
  obtain ⟨xs, hxs⟩ := hread _ List.mem_cons_self
  obtain ⟨xs', hxs'⟩ := hread _ (List.mem_cons_of_mem _ List.mem_cons_self)
  obtain ⟨payload, ys, hrest⟩ := accepted_rewritten cpython _ _ (str "a") (str "a") (str "b") xs xs' hxs hxs'
  exact ⟨xs, xs', payload, ys, hxs, hxs', hrest⟩

end ReplayFormat

end NetworkMapper
