import NetworkMapper.Observations.ReplayGrammar
import NetworkMapper.Python.Json.Ascii
import Mathlib.Data.List.Perm.Basic

/-!
# Writing and reading back a replay artifact

Reading gives back the observations in the order of the sort key, with the
surrogate pairs of each text field joined. The bytes depend on the multiset of
observations and on nothing else.
-/

open Python

namespace NetworkMapper

namespace ReplayFormat

/-! ## What reading gives back -/

def joinProvenance (p : ObservationProvenance) : ObservationProvenance :=
  ⟨joinSurrogates p.provider, joinSurrogates p.collectionMethod, p.observedAt, joinSurrogates p.sourceRun⟩

def joinObservation : Observation → Observation
  | .identity o => .identity ⟨joinSurrogates o.subject, joinSurrogates o.propertyName, joinSurrogates o.value,
      joinProvenance o.provenance⟩
  | .relationship o => .relationship ⟨joinSurrogates o.subject, joinSurrogates o.relatedSubject,
      joinSurrogates o.category, joinProvenance o.provenance⟩

theorem joinSurrogates_ascii (s : Str) (h : asciiText s) : joinSurrogates s = s :=
  joinSurrogates_eq s (no_pair_of_ascii s h)

/-- A document as the writer orders it and the reader joins it. -/
def reread (v : Json) : Json := joined (sortKeys v)

theorem sortKeys_isObject (ms : List (Str × Json)) :
    IsObject (sortKeys (.obj ms)) (ms.map fun m => (m.1, sortKeys m.2)) := by
  refine ⟨_, by rw [sortKeys], ?_⟩
  rw [sortKeysMembers_eq]
  exact sortedBy_perm Prod.fst _

theorem reread_obj (ms : List (Str × Json)) :
    IsObject (reread (.obj ms)) (ms.map fun m => (joinSurrogates m.1, reread m.2)) := by
  obtain ⟨sorted, heq, hp⟩ := sortKeys_isObject ms
  refine ⟨_, by rw [reread, heq, joined, joinedMembers_eq], ?_⟩
  have := hp.map fun m => (joinSurrogates m.1, joined m.2)
  rwa [List.map_map] at this

theorem reread_provenance (p : ObservationProvenance) :
    IsProvenance (reread (provenanceRecord p)) (joinProvenance p) := by
  have h := reread_obj [(str "provider", .str p.provider), (str "collection_method", .str p.collectionMethod),
    (str "observed_at", .str p.observedAt.isoformat), (str "source_run", .str p.sourceRun)]
  simp only [List.map_cons, List.map_nil, reread, sortKeys, joined,
    joinSurrogates_ascii _ (isoformat_ascii p.observedAt)] at h
  exact h

theorem reread_record (o : Observation) : IsRecord (reread (toRecord o)) (joinObservation o) := by
  cases o with
  | identity o => exact ⟨_, reread_provenance o.provenance, reread_obj _⟩
  | relationship o => exact ⟨_, reread_provenance o.provenance, reread_obj _⟩

theorem reread_document (observations : List Observation) :
    HasRecords (reread (document observations))
      ((sortedBy (fun o => recordSortKey (toRecord o)) observations).map fun o => reread (toRecord o)) := by
  have h := reread_obj [(str "format", .str formatIdentifier), (str "format_version", .int formatVersion),
    (str "observations", .arr (sortedBy recordSortKey (observations.map toRecord)))]
  have harr : reread (.arr (sortedBy recordSortKey (observations.map toRecord))) =
      .arr ((sortedBy (fun o => recordSortKey (toRecord o)) observations).map fun o => reread (toRecord o)) := by
    rw [reread, sortKeys, joined, joinedItems_eq, sortKeysItems_eq, sortedBy_map, List.map_map, List.map_map]
    rfl
  simp only [List.map_cons, List.map_nil, harr] at h
  exact h

/-! ## The document can be written and read -/

theorem IsObject.noRepeatedKeys {v : Json} {expected : List (Str × Json)} (h : IsObject v expected)
    (hn : (expected.map Prod.fst).Nodup) (hvalues : ∀ m ∈ expected, NoRepeatedKeys m.2) : NoRepeatedKeys v := by
  obtain ⟨ms, rfl, hp⟩ := h
  rw [noRepeatedKeys_obj]
  exact ⟨(hp.map Prod.fst).nodup_iff.mpr hn, fun m hm => hvalues m (hp.mem_iff.mp hm)⟩

theorem noRepeatedKeys_str (s : Str) : NoRepeatedKeys (.str s) := noRepeatedKeys_scalar _ (by simp) (by simp)

theorem IsProvenance.noRepeatedKeys {v : Json} {p : ObservationProvenance} (h : IsProvenance v p) :
    NoRepeatedKeys v := by
  apply IsObject.noRepeatedKeys h (show provenanceKeys.Nodup by decide)
  simp only [List.forall_mem_cons, noRepeatedKeys_str, true_and]
  exact List.forall_mem_nil _

theorem IsRecord.noRepeatedKeys {v : Json} {o : Observation} (h : IsRecord v o) : NoRepeatedKeys v := by
  cases o with
  | identity o =>
    obtain ⟨provenance, hp, hobject⟩ := h
    apply hobject.noRepeatedKeys (show identityKeys.Nodup by decide)
    simp only [List.forall_mem_cons, noRepeatedKeys_str, hp.noRepeatedKeys, true_and]
    exact List.forall_mem_nil _
  | relationship o =>
    obtain ⟨provenance, hp, hobject⟩ := h
    apply hobject.noRepeatedKeys (show relationshipKeys.Nodup by decide)
    simp only [List.forall_mem_cons, noRepeatedKeys_str, hp.noRepeatedKeys, true_and]
    exact List.forall_mem_nil _

theorem HasRecords.noRepeatedKeys {v : Json} {records : List Json} (h : HasRecords v records)
    (hrecords : ∀ record ∈ records, NoRepeatedKeys record) : NoRepeatedKeys v := by
  apply IsObject.noRepeatedKeys h (show topLevelKeys.Nodup by decide)
  simp only [List.forall_mem_cons, noRepeatedKeys_str, true_and]
  refine ⟨noRepeatedKeys_scalar _ (by simp) (by simp), (noRepeatedKeys_arr records).mpr hrecords, ?_⟩
  exact List.forall_mem_nil _

section Readable

variable (py : Interpreter)

theorem sortKeys_readable (ms : List (Str × Json)) (room : Nat)
    (h : ∀ m ∈ ms, Readable py room (sortKeys m.2)) : Readable py (room + 1) (sortKeys (.obj ms)) := by
  obtain ⟨sorted, heq, hp⟩ := sortKeys_isObject ms
  rw [heq]
  apply Readable.obj room sorted
  intro m hm
  obtain ⟨m', hm', rfl⟩ := List.mem_map.mp (hp.mem_iff.mp hm)
  exact h m' hm'

theorem sortKeys_str_readable (room : Nat) (s : Str) : Readable py room (sortKeys (.str s)) := by
  unfold sortKeys
  exact .str room s

theorem provenanceRecord_readable (p : ObservationProvenance) : Readable py 1 (sortKeys (provenanceRecord p)) := by
  apply sortKeys_readable
  simp only [List.forall_mem_cons, sortKeys_str_readable, true_and]
  exact List.forall_mem_nil _

theorem toRecord_readable (o : Observation) : Readable py 2 (sortKeys (toRecord o)) := by
  cases o <;> apply sortKeys_readable <;>
    simp only [List.forall_mem_cons, sortKeys_str_readable, provenanceRecord_readable, true_and] <;>
    exact List.forall_mem_nil _

theorem reads_formatVersion : py.reads formatVersion := by
  have hlength : (natRepr formatVersion.natAbs).length = 1 := by decide
  rcases py.digits_valid with h | h
  · exact Or.inl h
  · right
    omega

theorem document_readable (observations : List Observation) :
    Readable py py.nesting (sortKeys (document observations)) := by
  have hroom : 4 ≤ py.nesting := le_trans (by decide) py.nesting_valid
  refine Readable.mono (sortKeys_readable py _ 3 ?_) hroom
  simp only [List.forall_mem_cons, sortKeys_str_readable, true_and]
  refine ⟨?_, ?_, List.forall_mem_nil _⟩
  · unfold sortKeys
    exact .int 3 _ (reads_formatVersion py)
  · unfold sortKeys
    rw [sortKeysItems_eq]
    apply Readable.arr 2
    intro v hv
    obtain ⟨record, hr, rfl⟩ := List.mem_map.mp hv
    rw [mem_sortedBy] at hr
    obtain ⟨o, -, rfl⟩ := List.mem_map.mp hr
    exact toRecord_readable py o

/-! ## The bytes -/

def artifact (observations : List Observation) : Str :=
  dumps py (indent 2) (sortKeys (document observations)) ++ [ch '\n']

theorem artifact_ascii (observations : List Observation) : asciiText (artifact py observations) := by
  unfold artifact
  rw [asciiText_append]
  exact ⟨dumpsAt_ascii py (indent 2) (document_readable py observations) 0, by decide⟩

theorem serializeObservations_ok (observations : List Observation) :
    serializeObservations py observations = .ok ((artifact py observations).map fun c => byte c.val) :=
  encodeAscii_ok _ (artifact_ascii py observations)

/-- Reading raises nothing. It gives the observations in the order of the artifact. -/
theorem parse_serialize (observations : List Observation) (source : Str) :
    parseObservations py (.bytes ((artifact py observations).map fun c => byte c.val)) source =
      .ok ((sortedBy (fun o => recordSortKey (toRecord o)) observations).map joinObservation) := by
  have hdecode : (ReplayData.bytes ((artifact py observations).map fun c => byte c.val)).decode py =
      .ok (artifact py observations) := by
    rw [ReplayData.decode, decodeUtf8_ascii _ (artifact_ascii py observations)]
  have hread : readDocument py (artifact py observations) = .ok (reread (document observations)) :=
    readDocument_dumps py (indent 2) (document_readable py observations) _ (List.forall_mem_singleton.mpr (by decide))
  have hrecords : List.Forall₂ IsRecord
      ((sortedBy (fun o => recordSortKey (toRecord o)) observations).map fun o => reread (toRecord o))
      ((sortedBy (fun o => recordSortKey (toRecord o)) observations).map joinObservation) := by
    rw [List.forall₂_map_left_iff, List.forall₂_map_right_iff, List.forall₂_same]
    exact fun o _ => reread_record o
  rw [parseObservations_document py _ source _ _ hdecode hread, parseDocument_ok]
  refine ⟨?_, _, reread_document observations, hrecords⟩
  apply (reread_document observations).noRepeatedKeys
  intro record hr
  obtain ⟨o, -, ho⟩ := forall₂_mem_left hrecords record hr
  exact ho.noRepeatedKeys

end Readable

/-! ## The sort key -/

def fields : Observation → List Str
  | .identity o => [identityType, o.subject, o.propertyName, o.value, o.provenance.provider,
      o.provenance.collectionMethod, o.provenance.sourceRun, o.provenance.observedAt.isoformat]
  | .relationship o => [relationshipType, o.subject, o.relatedSubject, o.category, o.provenance.provider,
      o.provenance.collectionMethod, o.provenance.sourceRun, o.provenance.observedAt.isoformat]

theorem recordSortKey_toRecord (o : Observation) : recordSortKey (toRecord o) = fields o := by
  cases o <;> rfl

theorem recordSortKey_injective (a b : Observation)
    (h : recordSortKey (toRecord a) = recordSortKey (toRecord b)) : a = b := by
  have hne : identityType ≠ relationshipType := by decide
  rw [recordSortKey_toRecord, recordSortKey_toRecord] at h
  cases a <;> cases b <;> simp only [fields, List.cons.injEq, and_true, hne, hne.symm, false_and] at h
  all_goals
    rename_i a b
    obtain ⟨_, _, _, pa⟩ := a
    obtain ⟨_, _, _, pb⟩ := b
    obtain ⟨_, _, _, _⟩ := pa
    obtain ⟨_, _, _, _⟩ := pb
    obtain ⟨-, rfl, rfl, rfl, rfl, rfl, rfl, htime⟩ := h
    have hat := isoformat_injective _ _ htime
    simp only at hat
    rw [hat]

theorem serialize_perm (py : Interpreter) {xs ys : List Observation} (h : xs.Perm ys) :
    serializeObservations py xs = serializeObservations py ys := by
  have hsort := sortedBy_congr (fun o => recordSortKey (toRecord o)) xs ys h
    fun a _ b _ => recordSortKey_injective a b
  rw [serializeObservations, serializeObservations, document, document, sortedBy_map, sortedBy_map, hsort]

/-! ## Lossless exactly on texts without a surrogate pair -/

theorem joinProvenance_eq (p : ObservationProvenance) (h : ∀ t ∈ p.texts, hasSurrogatePair t = false) :
    joinProvenance p = p := by
  unfold ObservationProvenance.texts at h
  simp only [List.forall_mem_cons] at h
  obtain ⟨h₁, h₂, h₃, -⟩ := h
  unfold joinProvenance
  rw [joinSurrogates_eq _ h₁, joinSurrogates_eq _ h₂, joinSurrogates_eq _ h₃]

theorem joinObservation_eq (o : Observation) (h : ∀ t ∈ o.texts, hasSurrogatePair t = false) :
    joinObservation o = o := by
  cases o <;> simp only [Observation.texts, List.forall_mem_append, List.forall_mem_cons] at h <;>
    obtain ⟨⟨h₁, h₂, h₃, -⟩, hp⟩ := h <;>
    rw [joinObservation, joinSurrogates_eq _ h₁, joinSurrogates_eq _ h₂, joinSurrogates_eq _ h₃,
      joinProvenance_eq _ hp]

theorem parse_serialize_kept (py : Interpreter) (observations : List Observation)
    (hpairs : ∀ o ∈ observations, ∀ t ∈ o.texts, hasSurrogatePair t = false) (source : Str) :
    parseObservations py (.bytes ((artifact py observations).map fun c => byte c.val)) source =
      .ok (sortedBy (fun o => recordSortKey (toRecord o)) observations) := by
  have hsame : ∀ o ∈ sortedBy (fun o => recordSortKey (toRecord o)) observations, joinObservation o = o := by
    intro o ho
    rw [mem_sortedBy] at ho
    exact joinObservation_eq o (hpairs o ho)
  rw [parse_serialize, List.map_congr_left hsame, List.map_id']

theorem parse_serialize_scalar (py : Interpreter) (observations : List Observation)
    (hscalar : ∀ o ∈ observations, ∀ t ∈ o.texts, scalarText t) (source : Str) :
    parseObservations py (.bytes ((artifact py observations).map fun c => byte c.val)) source =
      .ok (sortedBy (fun o => recordSortKey (toRecord o)) observations) :=
  parse_serialize_kept py observations (fun o ho t ht => no_pair_of_scalar t (hscalar o ho t ht)) source

def size (o : Observation) : Nat := (o.texts.map List.length).sum

theorem texts_joinObservation (o : Observation) : (joinObservation o).texts = o.texts.map joinSurrogates := by
  cases o <;> rfl

theorem sum_joined_le (ts : List Str) : ((ts.map joinSurrogates).map List.length).sum ≤ (ts.map List.length).sum := by
  induction ts with
  | nil => exact le_refl _
  | cons t ts ih =>
    have := joinSurrogates_length t
    simp only [List.map_cons, List.sum_cons]
    omega

theorem sum_joined_lt (ts : List Str) (t : Str) (ht : t ∈ ts) (hpair : hasSurrogatePair t = true) :
    ((ts.map joinSurrogates).map List.length).sum < (ts.map List.length).sum := by
  induction ts with
  | nil => simp at ht
  | cons u ts ih =>
    simp only [List.map_cons, List.sum_cons]
    rcases List.mem_cons.mp ht with rfl | ht
    · have := joinSurrogates_lt t hpair
      have := sum_joined_le ts
      omega
    · have := joinSurrogates_length u
      have := ih ht
      omega

theorem size_joined (xs : List Observation) :
    ((xs.map joinObservation).map size).sum ≤ (xs.map size).sum ∧
      ((∃ o ∈ xs, ∃ t ∈ o.texts, hasSurrogatePair t = true) →
        ((xs.map joinObservation).map size).sum < (xs.map size).sum) := by
  have hle : ∀ o, size (joinObservation o) ≤ size o := by
    intro o
    unfold size
    rw [texts_joinObservation]
    exact sum_joined_le o.texts
  induction xs with
  | nil => simp
  | cons o xs ih =>
    simp only [List.map_cons, List.sum_cons]
    have ho := hle o
    refine ⟨by omega, ?_⟩
    rintro ⟨o', ho', t, ht, hpair⟩
    rcases List.mem_cons.mp ho' with rfl | ho'
    · have hlt : size (joinObservation o') < size o' := by
        unfold size
        rw [texts_joinObservation]
        exact sum_joined_lt o'.texts t ht hpair
      omega
    · have := ih.2 ⟨o', ho', t, ht, hpair⟩
      omega

theorem joined_perm_iff (xs : List Observation) :
    ((sortedBy (fun o => recordSortKey (toRecord o)) xs).map joinObservation).Perm xs ↔
      ∀ o ∈ xs, ∀ t ∈ o.texts, hasSurrogatePair t = false := by
  -- A joined pair is one code point less, so no order of the rest can make up for it.
  have hsorted := (sortedBy_perm (fun o => recordSortKey (toRecord o)) xs).map joinObservation
  constructor
  · intro h
    by_contra hnot
    push Not at hnot
    obtain ⟨o, ho, t, ht, hpair⟩ := hnot
    have hlt := (size_joined xs).2 ⟨o, ho, t, ht, by simpa using hpair⟩
    rw [((hsorted.symm.trans h).map size).sum_nat] at hlt
    exact lt_irrefl _ hlt
  · intro h
    have hsame : xs.map joinObservation = xs := by
      rw [List.map_congr_left fun o ho => joinObservation_eq o (h o ho), List.map_id']
    rwa [hsame] at hsorted

theorem replay_lossless_iff (py : Interpreter) (observations : List Observation) (source : Str) :
    (∃ data loaded, serializeObservations py observations = .ok data ∧
      parseObservations py (.bytes data) source = .ok loaded ∧ loaded.Perm observations) ↔
      ∀ o ∈ observations, ∀ t ∈ o.texts, hasSurrogatePair t = false := by
  rw [← joined_perm_iff, serializeObservations_ok]
  constructor
  · rintro ⟨data, loaded, hdata, hparse, hperm⟩
    rw [Except.ok.injEq] at hdata
    rw [← hdata, parse_serialize, Except.ok.injEq] at hparse
    rwa [hparse]
  · intro hperm
    exact ⟨_, _, rfl, parse_serialize py observations source, hperm⟩

/-- `"\ud83d\ude00"`: two lone surrogates side by side, which is not the same text as U+1F600. -/
def splitPair : Str := [codePoint 0xD83D, codePoint 0xDE00]

def splitPairObservation : Observation :=
  .identity ⟨str "192.0.2.10", str "hostname", splitPair, sampleProvenance "sysName"⟩

theorem replay_joins_split_pair :
    ¬ ∃ data loaded, serializeObservations cpython [splitPairObservation] = .ok data ∧
      parseObservations cpython (.bytes data) (str "<data>") = .ok loaded ∧
      loaded.Perm [splitPairObservation] := by
  rintro ⟨data, loaded, hdata, hparse, hperm⟩
  rw [serializeObservations_ok, Except.ok.injEq] at hdata
  rw [← hdata, parse_serialize, Except.ok.injEq] at hparse
  rw [← hparse, joined_perm_iff] at hperm
  have hpair := hperm splitPairObservation List.mem_cons_self splitPair (by decide)
  exact absurd hpair (by decide)

/-! ## One document for one multiset -/

theorem canonical_record (o : Observation) : IsRecord (sortKeys (toRecord o)) o := by
  have hprovenance : ∀ p, IsProvenance (sortKeys (provenanceRecord p)) p := by
    intro p
    have h := sortKeys_isObject [(str "provider", .str p.provider), (str "collection_method", .str p.collectionMethod),
      (str "observed_at", .str p.observedAt.isoformat), (str "source_run", .str p.sourceRun)]
    simp only [List.map_cons, List.map_nil, sortKeys] at h
    exact h
  cases o with
  | identity o => exact ⟨_, hprovenance o.provenance, sortKeys_isObject _⟩
  | relationship o => exact ⟨_, hprovenance o.provenance, sortKeys_isObject _⟩

theorem toRecord_injective (a b : Observation) (h : sortKeys (toRecord a) = sortKeys (toRecord b)) : a = b := by
  have ha := canonical_record a
  have hread := fromRecord_ok cpython _ ha.noRepeatedKeys []
  have hok := (hread a).mpr ha
  rw [(hread b).mpr (h ▸ canonical_record b), Except.ok.injEq] at hok
  exact hok.symm

theorem perm_of_records {py : Interpreter} {document : Json} {source : Str} {records : List Json}
    {xs zs : List Observation} (hrecords : HasRecords document records)
    (hsame : (records.map sortKeys).Perm (xs.map fun o => sortKeys (toRecord o)))
    (hparse : parseDocument py document source = .ok zs) : zs.Perm xs := by
  obtain ⟨-, records', hrecords', hall⟩ := (parseDocument_ok py document source zs).mp hparse
  have hnodup : topLevelKeys.Nodup := by decide
  have heq : records' = records := by
    obtain ⟨ms, rfl, hp⟩ := hrecords
    obtain ⟨_, hms, hp'⟩ := hrecords'
    cases hms
    have h := lookup_of_perm hp hnodup (str "observations") (.arr records) (by simp)
    have h' := lookup_of_perm hp' hnodup (str "observations") (.arr records') (by simp)
    rw [h] at h'
    cases h'
    rfl
  subst heq
  have hencoded : zs.map (fun o => sortKeys (toRecord o)) = records'.map sortKeys :=
    forall₂_map_eq hall sortKeys _ fun _ _ _ h => h.toRecord
  rw [← hencoded] at hsame
  exact (List.map_perm_map_iff toRecord_injective).mp hsame

/-- For texts of scalar values: equal bytes are equal multisets, and every document that lists
the same records is written back as the same bytes. -/
theorem replay_canonical (py : Interpreter) (xs ys : List Observation)
    (hxs : ∀ o ∈ xs, ∀ t ∈ o.texts, scalarText t) (hys : ∀ o ∈ ys, ∀ t ∈ o.texts, scalarText t) :
    (serializeObservations py xs = serializeObservations py ys ↔ ys.Perm xs) ∧
      (∀ document source records zs, HasRecords document records →
        (records.map sortKeys).Perm (xs.map fun o => sortKeys (toRecord o)) →
        parseDocument py document source = .ok zs →
        serializeObservations py zs = serializeObservations py xs) ∧
      ∀ source, ∃ data zs, serializeObservations py xs = .ok data ∧
        parseObservations py (.bytes data) source = .ok zs ∧ serializeObservations py zs = .ok data := by
  refine ⟨⟨?_, fun h => (serialize_perm py h).symm⟩, ?_, ?_⟩
  · intro h
    rw [serializeObservations_ok, serializeObservations_ok, Except.ok.injEq] at h
    have hx := parse_serialize_scalar py xs hxs []
    rw [h, parse_serialize_scalar py ys hys [], Except.ok.injEq] at hx
    exact (sortedBy_perm _ ys).symm.trans (hx ▸ sortedBy_perm _ xs)
  · intro document source records zs hrecords hsame hparse
    exact serialize_perm py (perm_of_records hrecords hsame hparse)
  · intro source
    refine ⟨_, _, serializeObservations_ok py xs, parse_serialize_scalar py xs hxs source, ?_⟩
    rw [serialize_perm py (sortedBy_perm _ xs), serializeObservations_ok]

/-- An observation that was made again a second later. -/
def sampleAgain : List Observation :=
  let first := sampleProvenance "sysName"
  [.identity ⟨str "192.0.2.10", str "hostname", str "sw-1", first⟩,
    .identity ⟨str "192.0.2.10", str "hostname", str "sw-1",
      { first with observedAt := ⟨2026, 10, 13, 9, 15, 3, 0, none, first.observedAt.date_valid, by decide⟩ }⟩]

theorem replay_canonical_swap :
    (serializeObservations cpython sampleAgain = serializeObservations cpython sampleAgain.reverse ↔
        sampleAgain.reverse.Perm sampleAgain) ∧
      ∀ source, ∃ data zs, serializeObservations cpython sampleAgain = .ok data ∧
        parseObservations cpython (.bytes data) source = .ok zs ∧ serializeObservations cpython zs = .ok data :=
  have h := replay_canonical cpython sampleAgain sampleAgain.reverse (by decide) (by decide)
  ⟨h.1, h.2.2⟩

end ReplayFormat

end NetworkMapper
