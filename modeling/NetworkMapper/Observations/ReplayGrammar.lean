import NetworkMapper.Observations.ReplayFormat
import NetworkMapper.Python.Json.Hook
import NetworkMapper.Python.Json.Members

/-!
# The grammar of the replay artifact

`Accepted` is format version 1 as a set of JSON documents. Parsing accepts exactly
that set, and rejects everything else with one kind of error.
-/

open Python

namespace NetworkMapper

namespace ReplayFormat

/-! ## Format version 1 -/

/-- An object of exactly these members, in some order. -/
def IsObject (v : Json) (expected : List (Str × Json)) : Prop := ∃ ms, v = .obj ms ∧ ms.Perm expected

/-- Four strings, one of them an ISO timestamp as `isoformat` writes it. -/
def IsProvenance (v : Json) (p : ObservationProvenance) : Prop :=
  IsObject v [(str "provider", .str p.provider), (str "collection_method", .str p.collectionMethod),
    (str "observed_at", .str p.observedAt.isoformat), (str "source_run", .str p.sourceRun)]

/-- A record of one of the two kinds, for the observation that it is about. -/
def IsRecord (v : Json) : Observation → Prop
  | .identity o => ∃ provenance, IsProvenance provenance o.provenance ∧
      IsObject v [(str "type", .str identityType), (str "subject", .str o.subject),
        (str "property_name", .str o.propertyName), (str "value", .str o.value), (str "provenance", provenance)]
  | .relationship o => ∃ provenance, IsProvenance provenance o.provenance ∧
      IsObject v [(str "type", .str relationshipType), (str "subject", .str o.subject),
        (str "related_subject", .str o.relatedSubject), (str "category", .str o.category),
        (str "provenance", provenance)]

/-- The root of a document with these records. -/
def HasRecords (document : Json) (records : List Json) : Prop :=
  IsObject document [(str "format", .str formatIdentifier), (str "format_version", .int 1),
    (str "observations", .arr records)]

structure Accepted (document : Json) : Prop where
  no_repeated_keys : NoRepeatedKeys document
  root : ∃ records, HasRecords document records ∧ ∀ record ∈ records, ∃ o, IsRecord record o

/-! ## Every rejection is a format error -/

def Rejects {α : Type} (r : Except ReplayError α) : Prop := ∀ e, r = .error e → ∃ message, e = .format message

section Rejections

variable {α β : Type}

theorem rejects_ok (a : α) : Rejects (.ok a : Except ReplayError α) := by
  intro e h
  cases h

theorem rejects_reject (place message : Str) : Rejects (reject place message : Except ReplayError α) := by
  intro e h
  cases h
  exact ⟨_, rfl⟩

theorem Rejects.bind {r : Except ReplayError α} {f : α → Except ReplayError β} (h : Rejects r)
    (hf : ∀ a, r = .ok a → Rejects (f a)) : Rejects (r >>= f) := by
  cases r with
  | error e =>
    intro e' he
    cases he
    exact h e rfl
  | ok a => exact hf a rfl

theorem requireKey_rejects (ms : List (Str × Json)) (key place : Str) : Rejects (requireKey ms key place) := by
  unfold requireKey
  split
  · exact rejects_ok _
  · exact rejects_reject _ _

theorem checkKeys_rejects (ms : List (Str × Json)) (expected : List Str) (place : Str) :
    Rejects (checkKeys ms expected place) := by
  unfold checkKeys
  split
  · exact rejects_reject _ _
  · split
    · exact rejects_reject _ _
    · exact rejects_ok _

theorem unknownKey_none (ms : List (Str × Json)) (expected : List Str) :
    unknownKey ms expected = none ↔ ∀ key ∈ ms.map Prod.fst, key ∈ expected := by
  unfold unknownKey
  simp only [List.find?_eq_none, mem_sortedBy, decide_eq_true_eq, not_not]

theorem checkKeys_ok (ms : List (Str × Json)) (expected : List Str) (place : Str) (u : Unit) :
    checkKeys ms expected place = .ok u ↔ ∀ key, key ∈ ms.map Prod.fst ↔ key ∈ expected := by
  have hmissing : (expected.find? fun key => key ∉ ms.map Prod.fst) = none ↔
      ∀ key ∈ expected, key ∈ ms.map Prod.fst := by
    simp only [List.find?_eq_none, decide_eq_true_eq, not_not]
  unfold checkKeys
  constructor
  · intro h
    split at h
    · cases h
    · rename_i hm
      split at h
      · cases h
      · rename_i hu
        exact fun key => ⟨(unknownKey_none ms expected).mp hu key, hmissing.mp hm key⟩
  · intro h
    rw [hmissing.mpr fun key hk => (h key).mpr hk, (unknownKey_none ms expected).mpr fun key hk => (h key).mp hk]

theorem checkString_rejects (ms : List (Str × Json)) (key place : Str) (h : key ∈ ms.map Prod.fst) :
    Rejects (checkString ms key place) := by
  obtain ⟨v, hv⟩ := lookup_isSome ms key h
  unfold checkString
  rw [hv]
  cases v with
  | str s => exact rejects_ok s
  | _ => exact rejects_reject _ _

theorem checkString_ok (ms : List (Str × Json)) (key place s : Str) :
    checkString ms key place = .ok s ↔ ms.lookup key = some (.str s) := by
  unfold checkString
  rcases ms.lookup key with _ | v
  · simp
  · cases v <;> simp [reject]

theorem parseObservedAt_rejects (text place : Str) : Rejects (parseObservedAt text place) := by
  unfold parseObservedAt
  simp only
  split
  · exact rejects_reject _ _
  · split
    · exact rejects_reject _ _
    · exact rejects_ok _

theorem parseObservedAt_ok (text place : Str) (d : DateTime) :
    parseObservedAt text place = .ok d ↔ text = d.isoformat := by
  unfold parseObservedAt
  simp only
  constructor
  · intro h
    split at h
    · cases h
    · split at h
      · cases h
      · rename_i heq
        rw [Except.ok.injEq] at h
        rw [← h]
        exact (not_not.mp heq).symm
  · rintro rfl
    rw [fromisoformat_isoformat]
    simp

theorem provenanceMembers_rejects (ms : List (Str × Json)) (place : Str)
    (h : str "provenance" ∈ ms.map Prod.fst) : Rejects (provenanceMembers ms place) := by
  obtain ⟨v, hv⟩ := lookup_isSome ms _ h
  unfold provenanceMembers
  rw [hv]
  cases v with
  | obj provenance => exact (checkKeys_rejects _ _ _).bind fun _ _ => rejects_ok _
  | _ => exact rejects_reject _ _

theorem provenanceMembers_ok (ms provenance : List (Str × Json)) (place : Str) :
    provenanceMembers ms place = .ok provenance ↔
      ms.lookup (str "provenance") = some (.obj provenance) ∧
        ∀ key, key ∈ provenance.map Prod.fst ↔ key ∈ provenanceKeys := by
  rw [← checkKeys_ok provenance provenanceKeys place ()]
  unfold provenanceMembers
  split
  · rename_i h
    simp [h]
  · rename_i provenance' h
    simp only [h, bind_eq_ok, pure_ok, Except.ok.injEq, Option.some.injEq, Json.obj.injEq]
    constructor
    · rintro ⟨_, hcheck, rfl⟩
      exact ⟨rfl, hcheck⟩
    · rintro ⟨rfl, hcheck⟩
      exact ⟨(), hcheck, rfl⟩
  · rename_i v hne h
    simp only [h, reject, reduceCtorEq, Option.some.injEq, false_iff, not_and]
    intro heq
    exact absurd heq (hne provenance)

theorem readProvenance_rejects (ms : List (Str × Json)) (place : Str)
    (h : ∀ key, key ∈ ms.map Prod.fst ↔ key ∈ provenanceKeys) : Rejects (readProvenance ms place) := by
  have hstring : ∀ key ∈ provenanceKeys, Rejects (checkString ms key place) :=
    fun key hk => checkString_rejects ms key place ((h key).mpr hk)
  refine (hstring _ (by decide)).bind fun _ _ => (hstring _ (by decide)).bind fun _ _ =>
    (hstring _ (by decide)).bind fun _ _ => (hstring _ (by decide)).bind fun _ _ =>
      (parseObservedAt_rejects _ _).bind fun _ _ => rejects_ok _

theorem readFields_rejects (ms : List (Str × Json)) (expected : List Str) (third fourth place : Str)
    (hsubject : str "subject" ∈ expected) (hthird : third ∈ expected) (hfourth : fourth ∈ expected)
    (hprovenance : str "provenance" ∈ expected) : Rejects (readFields ms expected third fourth place) := by
  apply (checkKeys_rejects ms expected place).bind
  intro _ hok
  have hkeys := (checkKeys_ok ms expected place _).mp hok
  have hstring : ∀ key ∈ expected, Rejects (checkString ms key place) :=
    fun key hk => checkString_rejects ms key place ((hkeys key).mpr hk)
  apply (provenanceMembers_rejects ms place ((hkeys _).mpr hprovenance)).bind
  intro provenance hp
  refine (hstring _ hsubject).bind fun _ _ => (hstring _ hthird).bind fun _ _ =>
    (hstring _ hfourth).bind fun _ _ => ?_
  obtain ⟨-, hpkeys⟩ := (provenanceMembers_ok ms provenance place).mp hp
  exact (readProvenance_rejects provenance place hpkeys).bind fun _ _ => rejects_ok _

theorem fromRecord_rejects (py : Interpreter) (record : Json) (place : Str) :
    Rejects (fromRecord py record place) := by
  cases record with
  | obj ms =>
    apply (requireKey_rejects ms _ place).bind
    intro type _
    cases type with
    | str type =>
      simp only
      split
      · exact (readFields_rejects ms _ _ _ place (by decide) (by decide) (by decide) (by decide)).bind
          fun _ _ => rejects_ok _
      · split
        · exact (readFields_rejects ms _ _ _ place (by decide) (by decide) (by decide) (by decide)).bind
            fun _ _ => rejects_ok _
        · exact rejects_reject _ _
    | _ => exact rejects_reject _ _
  | _ => exact rejects_reject _ _

theorem readRecords_rejects (py : Interpreter) (source : Str) (index : Nat) (records : List Json) :
    Rejects (readRecords py source index records) := by
  induction records generalizing index with
  | nil => exact rejects_ok _
  | cons record records ih =>
    exact (fromRecord_rejects py record _).bind fun _ _ => (ih (index + 1)).bind fun _ _ => rejects_ok _

theorem checkDocument_rejects (py : Interpreter) (document : Json) (source : Str) :
    Rejects (checkDocument py document source) := by
  cases document with
  | obj ms =>
    have hformat : Rejects (checkFormat py ms source) := by
      apply (requireKey_rejects ms _ source).bind
      intro identifier _
      cases identifier with
      | str s =>
        simp only
        split
        · exact rejects_reject _ _
        · exact rejects_ok _
      | _ => exact rejects_reject _ _
    have hversion : Rejects (checkVersion py ms source) := by
      apply (requireKey_rejects ms _ source).bind
      intro version _
      cases version with
      | int n =>
        simp only
        split
        · exact rejects_reject _ _
        · exact rejects_ok _
      | _ => exact rejects_reject _ _
    refine hformat.bind fun _ _ => hversion.bind fun _ _ => ?_
    split
    · exact rejects_reject _ _
    · split
      · exact readRecords_rejects py source 0 _
      · exact rejects_reject _ _
  | _ => exact rejects_reject _ _

end Rejections

/-! ## What is accepted -/

theorem isObject_iff (ms expected : List (Str × Json)) (hn : (ms.map Prod.fst).Nodup)
    (hn' : (expected.map Prod.fst).Nodup) :
    IsObject (.obj ms) expected ↔
      (∀ key, key ∈ ms.map Prod.fst ↔ key ∈ expected.map Prod.fst) ∧
        ∀ m ∈ expected, ms.lookup m.1 = some m.2 := by
  constructor
  · rintro ⟨ms', heq, hp⟩
    cases heq
    exact ⟨fun key => (hp.map Prod.fst).mem_iff, fun m hm => lookup_of_perm hp hn' m.1 m.2 hm⟩
  · rintro ⟨hkeys, hlookup⟩
    exact ⟨ms, rfl, perm_of_lookups hn hn' (fun key hk => (hkeys key).mp hk) hlookup⟩

theorem isProvenance_iff (ms : List (Str × Json)) (hn : (ms.map Prod.fst).Nodup) (place : Str)
    (p : ObservationProvenance) :
    IsProvenance (.obj ms) p ↔
      (∀ key, key ∈ ms.map Prod.fst ↔ key ∈ provenanceKeys) ∧ readProvenance ms place = .ok p := by
  obtain ⟨provider, collectionMethod, observedAt, sourceRun⟩ := p
  have hkeys : provenanceKeys.Nodup := by decide
  refine (isObject_iff ms [(str "provider", .str provider), (str "collection_method", .str collectionMethod),
    (str "observed_at", .str observedAt.isoformat), (str "source_run", .str sourceRun)] hn hkeys).trans
      (and_congr_right fun _ => ?_)
  simp only [List.forall_mem_cons, List.not_mem_nil, false_implies, implies_true, and_true, readProvenance,
    bind_eq_ok, checkString_ok, parseObservedAt_ok, pure_ok, Except.ok.injEq, ObservationProvenance.mk.injEq]
  constructor
  · rintro ⟨h₁, h₂, h₃, h₄⟩
    exact ⟨_, h₁, _, h₂, _, h₃, _, h₄, _, rfl, rfl, rfl, rfl, rfl⟩
  · rintro ⟨_, h₁, _, h₂, _, h₃, _, h₄, _, rfl, rfl, rfl, rfl, rfl⟩
    exact ⟨h₁, h₂, h₃, h₄⟩

def recordMembers (type third fourth : Str) (subject a b : Str) (provenance : Json) : List (Str × Json) :=
  [(str "type", .str type), (str "subject", .str subject), (third, .str a), (fourth, .str b),
    (str "provenance", provenance)]

theorem readFields_ok (ms : List (Str × Json)) (hms : NoRepeatedKeys (.obj ms)) (type third fourth place : Str)
    (htype : ms.lookup (str "type") = some (.str type)) (subject a b : Str) (p : ObservationProvenance)
    (hnodup : [str "type", str "subject", third, fourth, str "provenance"].Nodup) :
    readFields ms [str "type", str "subject", third, fourth, str "provenance"] third fourth place =
        .ok (subject, a, b, p) ↔
      ∃ provenance, IsProvenance provenance p ∧
        IsObject (.obj ms) (recordMembers type third fourth subject a b provenance) := by
  obtain ⟨hn, hsub⟩ := (noRepeatedKeys_obj ms).mp hms
  have hobject := fun provenance =>
    isObject_iff ms (recordMembers type third fourth subject a b provenance) hn hnodup
  simp only [recordMembers, List.map_cons, List.map_nil, List.forall_mem_cons, List.not_mem_nil, false_implies,
    implies_true, and_true, htype, true_and] at hobject
  have hprov : ∀ pm, ms.lookup (str "provenance") = some (.obj pm) → (pm.map Prod.fst).Nodup := by
    intro pm hpm
    exact ((noRepeatedKeys_obj pm).mp (hsub _ (mem_of_lookup ms _ _ hpm))).1
  simp only [recordMembers, hobject, readFields, bind_eq_ok, checkKeys_ok, provenanceMembers_ok, checkString_ok,
    pure_ok, Except.ok.injEq, Prod.mk.injEq]
  constructor
  · rintro ⟨_, hkeys, pm, ⟨hpm, hpkeys⟩, _, h₁, _, h₂, _, h₃, p', hp, rfl, rfl, rfl, rfl⟩
    exact ⟨.obj pm, (isProvenance_iff pm (hprov pm hpm) place p').mpr ⟨hpkeys, hp⟩, hkeys, h₁, h₂, h₃, hpm⟩
  · rintro ⟨provenance, hisp, hkeys, h₁, h₂, h₃, hpm⟩
    have hcopy := hisp
    obtain ⟨pm, rfl, -⟩ := hcopy
    obtain ⟨hpkeys, hp⟩ := (isProvenance_iff pm (hprov pm hpm) place p).mp hisp
    exact ⟨(), hkeys, pm, ⟨hpm, hpkeys⟩, _, h₁, _, h₂, _, h₃, p, hp, rfl, rfl, rfl, rfl⟩

theorem readIdentity_ok (ms : List (Str × Json)) (hms : NoRepeatedKeys (.obj ms)) (place : Str)
    (htype : ms.lookup (str "type") = some (.str identityType)) (o : Observation) :
    readIdentity ms place = .ok o ↔ ∃ i, o = .identity i ∧ IsRecord (.obj ms) (.identity i) := by
  unfold readIdentity
  simp only [bind_eq_ok, pure_ok, Except.ok.injEq, IsRecord]
  constructor
  · rintro ⟨⟨subject, propertyName, value, p⟩, hfields, rfl⟩
    exact ⟨_, rfl, (readFields_ok ms hms identityType _ _ place htype subject propertyName value p
      (by decide)).mp hfields⟩
  · rintro ⟨i, rfl, hrecord⟩
    exact ⟨_, (readFields_ok ms hms identityType _ _ place htype i.subject i.propertyName i.value i.provenance
      (by decide)).mpr hrecord, rfl⟩

theorem readRelationship_ok (ms : List (Str × Json)) (hms : NoRepeatedKeys (.obj ms)) (place : Str)
    (htype : ms.lookup (str "type") = some (.str relationshipType)) (o : Observation) :
    readRelationship ms place = .ok o ↔ ∃ r, o = .relationship r ∧ IsRecord (.obj ms) (.relationship r) := by
  unfold readRelationship
  simp only [bind_eq_ok, pure_ok, Except.ok.injEq, IsRecord]
  constructor
  · rintro ⟨⟨subject, relatedSubject, category, p⟩, hfields, rfl⟩
    exact ⟨_, rfl, (readFields_ok ms hms relationshipType _ _ place htype subject relatedSubject category p
      (by decide)).mp hfields⟩
  · rintro ⟨r, rfl, hrecord⟩
    exact ⟨_, (readFields_ok ms hms relationshipType _ _ place htype r.subject r.relatedSubject r.category
      r.provenance (by decide)).mpr hrecord, rfl⟩

def typeOf : Observation → Str
  | .identity _ => identityType
  | .relationship _ => relationshipType

theorem IsRecord.type {v : Json} {o : Observation} (h : IsRecord v o) :
    ∃ ms, v = .obj ms ∧ ms.lookup (str "type") = some (.str (typeOf o)) := by
  cases o <;> obtain ⟨provenance, -, ms, rfl, hp⟩ := h <;>
    exact ⟨ms, rfl, lookup_of_perm hp (by simp only [List.map_cons, List.map_nil]; decide) _ _ (by simp [typeOf])⟩

theorem fromRecord_ok (py : Interpreter) (record : Json) (hrecord : NoRepeatedKeys record) (place : Str)
    (o : Observation) : fromRecord py record place = .ok o ↔ IsRecord record o := by
  constructor
  · intro h
    cases record with
    | obj ms =>
      unfold fromRecord at h
      rw [bind_eq_ok] at h
      obtain ⟨type, htype, h⟩ := h
      have hlookup : ms.lookup (str "type") = some type := by
        unfold requireKey at htype
        split at htype
        · rename_i hv
          rw [Except.ok.injEq] at htype
          rw [hv, htype]
        · cases htype
      cases type with
      | str type =>
        simp only at h
        split at h
        · rename_i ht
          subst ht
          obtain ⟨i, rfl, hi⟩ := (readIdentity_ok ms hrecord place hlookup o).mp h
          exact hi
        · split at h
          · rename_i ht
            subst ht
            obtain ⟨r, rfl, hr⟩ := (readRelationship_ok ms hrecord place hlookup o).mp h
            exact hr
          · cases h
      | _ => cases h
    | _ => cases h
  · intro h
    obtain ⟨ms, rfl, htype⟩ := h.type
    have hne : relationshipType ≠ identityType := by decide
    cases o with
    | identity i =>
      unfold fromRecord requireKey
      simp only [htype, typeOf, ok_bind, if_true]
      exact (readIdentity_ok ms hrecord place htype _).mpr ⟨i, rfl, h⟩
    | relationship r =>
      unfold fromRecord requireKey
      simp only [htype, typeOf, ok_bind, hne, if_false, if_true]
      exact (readRelationship_ok ms hrecord place htype _).mpr ⟨r, rfl, h⟩

theorem readRecords_ok (py : Interpreter) (source : Str) (index : Nat) (records : List Json)
    (hrecords : ∀ record ∈ records, NoRepeatedKeys record) (observations : List Observation) :
    readRecords py source index records = .ok observations ↔ List.Forall₂ IsRecord records observations := by
  induction records generalizing index observations with
  | nil =>
    unfold readRecords
    rw [Except.ok.injEq, List.forall₂_nil_left_iff]
    exact eq_comm
  | cons record records ih =>
    have hfirst := fromRecord_ok py record (hrecords record List.mem_cons_self)
    have hrest := ih (index + 1) fun r hr => hrecords r (List.mem_cons_of_mem _ hr)
    unfold readRecords
    simp only [bind_eq_ok, hfirst, hrest, pure_ok, Except.ok.injEq, List.forall₂_cons_left_iff]
    constructor
    · rintro ⟨o, ho, os, hos, rfl⟩
      exact ⟨o, os, ho, hos, rfl⟩
    · rintro ⟨o, os, ho, hos, rfl⟩
      exact ⟨o, ho, os, hos, rfl⟩

theorem requireKey_ok (ms : List (Str × Json)) (key place : Str) (v : Json) :
    requireKey ms key place = .ok v ↔ ms.lookup key = some v := by
  unfold requireKey
  split <;> rename_i h <;> simp [h, reject]

theorem checkFormat_ok (py : Interpreter) (ms : List (Str × Json)) (source : Str) (u : Unit) :
    checkFormat py ms source = .ok u ↔ ms.lookup (str "format") = some (.str formatIdentifier) := by
  unfold checkFormat
  simp only [bind_eq_ok, requireKey_ok]
  constructor
  · rintro ⟨identifier, hlookup, h⟩
    split at h
    · split at h
      · cases h
      · rename_i heq
        rw [hlookup, not_not.mp heq]
    · cases h
  · intro hlookup
    exact ⟨_, hlookup, by simp⟩

theorem checkVersion_ok (py : Interpreter) (ms : List (Str × Json)) (source : Str) (u : Unit) :
    checkVersion py ms source = .ok u ↔ ms.lookup (str "format_version") = some (.int formatVersion) := by
  unfold checkVersion
  simp only [bind_eq_ok, requireKey_ok]
  constructor
  · rintro ⟨version, hlookup, h⟩
    split at h
    · split at h
      · cases h
      · rename_i heq
        rw [hlookup, not_not.mp heq]
    · cases h
  · intro hlookup
    exact ⟨_, hlookup, by simp⟩

theorem hasRecords_iff (ms : List (Str × Json)) (hn : (ms.map Prod.fst).Nodup) (records : List Json) :
    HasRecords (.obj ms) records ↔
      unknownKey ms topLevelKeys = none ∧ ms.lookup (str "format") = some (.str formatIdentifier) ∧
        ms.lookup (str "format_version") = some (.int formatVersion) ∧
        ms.lookup (str "observations") = some (.arr records) := by
  have hkeys : topLevelKeys.Nodup := by decide
  refine (isObject_iff ms [(str "format", .str formatIdentifier), (str "format_version", .int 1),
    (str "observations", .arr records)] hn hkeys).trans ?_
  rw [unknownKey_none]
  simp only [List.forall_mem_cons, List.not_mem_nil, false_implies, implies_true, and_true]
  constructor
  · rintro ⟨hsame, hlookups⟩
    exact ⟨fun key hk => (hsame key).mp hk, hlookups⟩
  · rintro ⟨hknown, h₁, h₂, h₃⟩
    refine ⟨fun key => ⟨fun hk => hknown key hk, ?_⟩, h₁, h₂, h₃⟩
    intro hk
    simp only [List.map_cons, List.map_nil, List.mem_cons, List.not_mem_nil, or_false] at hk
    rcases hk with rfl | rfl | rfl
    · exact List.mem_map_of_mem (mem_of_lookup ms _ _ h₁)
    · exact List.mem_map_of_mem (mem_of_lookup ms _ _ h₂)
    · exact List.mem_map_of_mem (mem_of_lookup ms _ _ h₃)

theorem checkDocument_ok (py : Interpreter) (document : Json) (hdocument : NoRepeatedKeys document) (source : Str)
    (observations : List Observation) :
    checkDocument py document source = .ok observations ↔
      ∃ records, HasRecords document records ∧ List.Forall₂ IsRecord records observations := by
  cases document with
  | obj ms =>
    obtain ⟨hn, hsub⟩ := (noRepeatedKeys_obj ms).mp hdocument
    have hrecords : ∀ records, ms.lookup (str "observations") = some (.arr records) →
        (readRecords py source 0 records = .ok observations ↔ List.Forall₂ IsRecord records observations) := by
      intro records hlookup
      apply readRecords_ok
      exact (noRepeatedKeys_arr records).mp (hsub _ (mem_of_lookup ms _ _ hlookup))
    unfold checkDocument
    simp only [bind_eq_ok, checkFormat_ok, checkVersion_ok, hasRecords_iff ms hn]
    constructor
    · rintro ⟨_, hformat, _, hversion, h⟩
      split at h
      · cases h
      · rename_i hknown
        split at h
        · rename_i records hlookup
          exact ⟨records, ⟨hknown, hformat, hversion, hlookup⟩, (hrecords records hlookup).mp h⟩
        · cases h
    · rintro ⟨records, ⟨hknown, hformat, hversion, hlookup⟩, h⟩
      refine ⟨(), hformat, (), hversion, ?_⟩
      simp only [hknown, hlookup]
      exact (hrecords records hlookup).mpr h
  | _ =>
    constructor
    · intro h
      cases h
    · rintro ⟨records, ⟨ms, heq, -⟩, -⟩
      cases heq

/-! ## Repeated keys -/

theorem foldlM_reject (ms result out : List (Str × Json)) (hn : (result.map Prod.fst).Nodup) :
    ms.foldlM (fun result pair =>
      if pair.1 ∈ result.map Prod.fst then Except.error pair.1 else Except.ok (result ++ [pair])) result = .ok out ↔
      out = result ++ ms ∧ ((result ++ ms).map Prod.fst).Nodup := by
  induction ms generalizing result with
  | nil =>
    rw [List.foldlM_nil, pure_ok, Except.ok.injEq, List.append_nil]
    exact ⟨fun h => ⟨h.symm, hn⟩, fun h => h.1.symm⟩
  | cons m ms ih =>
    rw [List.foldlM_cons]
    split
    · rename_i hm
      rw [error_bind]
      simp only [reduceCtorEq, false_iff, not_and]
      rintro - hx
      rw [List.map_append, List.map_cons, List.nodup_append] at hx
      exact hx.2.2 _ hm _ List.mem_cons_self rfl
    · rename_i hm
      have hn' : ((result ++ [m]).map Prod.fst).Nodup := by
        rw [List.map_append, List.nodup_append]
        refine ⟨hn, by simp, ?_⟩
        rintro a ha b hb rfl
        simp only [List.map_cons, List.map_nil, List.mem_singleton] at hb
        exact hm (hb ▸ ha)
      rw [ok_bind, ih (result ++ [m]) hn', List.append_assoc, List.singleton_append]

theorem rejectDuplicateKeys_ok (ms : List (Str × Json)) (v : Json) :
    rejectDuplicateKeys ms = .ok v ↔ v = .obj ms ∧ (ms.map Prod.fst).Nodup := by
  have hfold := fun out => foldlM_reject ms [] out (by simp)
  unfold rejectDuplicateKeys
  simp only [bind_eq_ok, hfold, List.nil_append, pure_ok, Except.ok.injEq]
  constructor
  · rintro ⟨out, ⟨rfl, hn⟩, rfl⟩
    exact ⟨rfl, hn⟩
  · rintro ⟨rfl, hn⟩
    exact ⟨ms, ⟨rfl, hn⟩, rfl⟩

theorem applyHookItems_reject (items : List Json)
    (ih : ∀ w ∈ items, ∀ v, applyHook rejectDuplicateKeys w = .ok v ↔ v = w ∧ NoRepeatedKeys w) (out : List Json) :
    applyHookItems rejectDuplicateKeys items = .ok out ↔ out = items ∧ ∀ w ∈ items, NoRepeatedKeys w := by
  induction items generalizing out with
  | nil => simp [applyHookItems, eq_comm]
  | cons w items ihs =>
    have hw := ih w List.mem_cons_self
    have hrest := ihs fun x hx => ih x (List.mem_cons_of_mem _ hx)
    unfold applyHookItems
    simp only [bind_eq_ok, hw, hrest, pure_ok, Except.ok.injEq, List.forall_mem_cons]
    constructor
    · rintro ⟨_, ⟨rfl, h₁⟩, _, ⟨rfl, h₂⟩, rfl⟩
      exact ⟨rfl, h₁, h₂⟩
    · rintro ⟨rfl, h₁, h₂⟩
      exact ⟨_, ⟨rfl, h₁⟩, _, ⟨rfl, h₂⟩, rfl⟩

theorem applyHookMembers_reject (ms : List (Str × Json))
    (ih : ∀ m ∈ ms, ∀ v, applyHook rejectDuplicateKeys m.2 = .ok v ↔ v = m.2 ∧ NoRepeatedKeys m.2)
    (out : List (Str × Json)) :
    applyHookMembers rejectDuplicateKeys ms = .ok out ↔ out = ms ∧ ∀ m ∈ ms, NoRepeatedKeys m.2 := by
  induction ms generalizing out with
  | nil => simp [applyHookMembers, eq_comm]
  | cons m ms ihs =>
    obtain ⟨k, w⟩ := m
    have hw := ih (k, w) List.mem_cons_self
    have hrest := ihs fun x hx => ih x (List.mem_cons_of_mem _ hx)
    simp only at hw
    unfold applyHookMembers
    simp only [bind_eq_ok, hw, hrest, pure_ok, Except.ok.injEq, List.forall_mem_cons]
    constructor
    · rintro ⟨_, ⟨rfl, h₁⟩, _, ⟨rfl, h₂⟩, rfl⟩
      exact ⟨rfl, h₁, h₂⟩
    · rintro ⟨rfl, h₁, h₂⟩
      exact ⟨_, ⟨rfl, h₁⟩, _, ⟨rfl, h₂⟩, rfl⟩

theorem applyHook_rejectDuplicateKeys (document v : Json) :
    applyHook rejectDuplicateKeys document = .ok v ↔ v = document ∧ NoRepeatedKeys document := by
  -- The hook lets a document through, unchanged, when no object of it repeats a key.
  induction document using Json.induction generalizing v with
  | scalar w hi hm =>
    have hw : applyHook rejectDuplicateKeys w = .ok w := by
      cases w with
      | arr items => exact absurd rfl (hi items)
      | obj ms => exact absurd rfl (hm ms)
      | _ => rw [applyHook] <;> simp
    rw [hw, Except.ok.injEq]
    exact ⟨fun h => ⟨h.symm, noRepeatedKeys_scalar w hi hm⟩, fun h => h.1.symm⟩
  | arr items ih =>
    unfold applyHook
    simp only [bind_eq_ok, applyHookItems_reject items ih, pure_ok, Except.ok.injEq, noRepeatedKeys_arr]
    constructor
    · rintro ⟨_, ⟨rfl, h⟩, rfl⟩
      exact ⟨rfl, h⟩
    · rintro ⟨rfl, h⟩
      exact ⟨_, ⟨rfl, h⟩, rfl⟩
  | obj ms ih =>
    unfold applyHook
    simp only [bind_eq_ok, applyHookMembers_reject ms ih, rejectDuplicateKeys_ok, noRepeatedKeys_obj]
    constructor
    · rintro ⟨_, ⟨rfl, h⟩, rfl, hn⟩
      exact ⟨rfl, hn, h⟩
    · rintro ⟨rfl, hn, h⟩
      exact ⟨_, ⟨rfl, h⟩, rfl, hn⟩

/-! ## The whole parse -/

/-- What `parse_observations` does with a text whose JSON is `document`. -/
def parseDocument (py : Interpreter) (document : Json) (source : Str) : Except ReplayError (List Observation) :=
  match applyHook rejectDuplicateKeys document with
  | .error key => reject source (str "duplicate key " ++ quoted key)
  | .ok document => checkDocument py document source

theorem parseObservations_document (py : Interpreter) (data : ReplayData) (source text : Str) (document : Json)
    (hdecode : data.decode py = .ok text) (hread : readDocument py text = .ok document) :
    parseObservations py data source = parseDocument py document source := by
  unfold parseObservations loadDocument
  rw [hdecode, parseDocument]
  simp only [loads_hook py rejectDuplicateKeys text document hread]
  cases applyHook rejectDuplicateKeys document <;> rfl

theorem parseDocument_ok (py : Interpreter) (document : Json) (source : Str) (observations : List Observation) :
    parseDocument py document source = .ok observations ↔
      NoRepeatedKeys document ∧
        ∃ records, HasRecords document records ∧ List.Forall₂ IsRecord records observations := by
  unfold parseDocument
  have hhook := applyHook_rejectDuplicateKeys document
  cases happly : applyHook rejectDuplicateKeys document with
  | error key =>
    unfold reject
    simp only [reduceCtorEq, false_iff, not_and]
    intro hn
    rw [(hhook document).mpr ⟨rfl, hn⟩] at happly
    cases happly
  | ok v =>
    obtain ⟨rfl, hn⟩ := (hhook v).mp happly
    simp only [checkDocument_ok py v hn source, hn, true_and]

theorem parseDocument_rejects (py : Interpreter) (document : Json) (source : Str) :
    Rejects (parseDocument py document source) := by
  unfold parseDocument
  split
  · exact rejects_reject _ _
  · exact checkDocument_rejects py _ source

/-! ## Encoding again -/

theorem IsObject.sortKeys {v : Json} {expected : List (Str × Json)} (h : IsObject v expected)
    (hn : (expected.map Prod.fst).Nodup) : sortKeys (.obj expected) = Python.sortKeys v := by
  obtain ⟨ms, rfl, hp⟩ := h
  exact sortKeys_obj_perm (hp.symm.map _) hn

theorem IsProvenance.provenanceRecord {v : Json} {p : ObservationProvenance} (h : IsProvenance v p) :
    Python.sortKeys (ReplayFormat.provenanceRecord p) = Python.sortKeys v :=
  IsObject.sortKeys h (show provenanceKeys.Nodup by decide)

theorem IsRecord.toRecord {v : Json} {o : Observation} (h : IsRecord v o) :
    Python.sortKeys (ReplayFormat.toRecord o) = Python.sortKeys v := by
  cases o with
  | identity o =>
    obtain ⟨provenance, hp, hobject⟩ := h
    rw [← hobject.sortKeys (show identityKeys.Nodup by decide), ReplayFormat.toRecord]
    simp only [sortKeys, sortKeysMembers, hp.provenanceRecord]
  | relationship o =>
    obtain ⟨provenance, hp, hobject⟩ := h
    rw [← hobject.sortKeys (show relationshipKeys.Nodup by decide), ReplayFormat.toRecord]
    simp only [sortKeys, sortKeysMembers, hp.provenanceRecord]

/-- The three parts of the grammar: what is accepted, what becomes of the rest, and what
the accepted records stand for. The last part is for the texts that hold a document. -/
theorem parse_iff_accepted (py : Interpreter) (document : Json) (source : Str) :
    ((∃ observations, parseDocument py document source = .ok observations) ↔ Accepted document) ∧
      (¬ Accepted document → ∃ message, parseDocument py document source = .error (.format message)) ∧
      (∀ observations, parseDocument py document source = .ok observations →
        ∃ records, HasRecords document records ∧
          List.Forall₂ (fun record o => sortKeys (toRecord o) = sortKeys record) records observations) ∧
      ∀ (data : ReplayData) (text : Str), data.decode py = .ok text → readDocument py text = .ok document →
        parseObservations py data source = parseDocument py document source := by
  have haccepted : (∃ observations, parseDocument py document source = .ok observations) ↔ Accepted document := by
    simp only [parseDocument_ok]
    constructor
    · rintro ⟨observations, hn, records, hroot, hall⟩
      exact ⟨hn, records, hroot, fun record hr =>
        let ⟨o, _, ho⟩ := forall₂_mem_left hall record hr; ⟨o, ho⟩⟩
    · rintro ⟨hn, records, hroot, hall⟩
      obtain ⟨observations, hobs⟩ := exists_forall₂ IsRecord records hall
      exact ⟨observations, hn, records, hroot, hobs⟩
  refine ⟨haccepted, ?_, ?_, fun data text => parseObservations_document py data source text document⟩
  · intro hnot
    cases hparse : parseDocument py document source with
    | ok observations => exact absurd (haccepted.mp ⟨observations, hparse⟩) hnot
    | error e =>
      obtain ⟨message, rfl⟩ := parseDocument_rejects py document source e hparse
      exact ⟨message, rfl⟩
  · intro observations hparse
    obtain ⟨-, records, hroot, hall⟩ := (parseDocument_ok py document source observations).mp hparse
    exact ⟨records, hroot, hall.imp fun record o h => h.toRecord⟩

end ReplayFormat

end NetworkMapper
