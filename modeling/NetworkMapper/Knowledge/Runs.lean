import NetworkMapper.Knowledge.Repository
import NetworkMapper.Observations.Models
import NetworkMapper.Python.Numerals

/-!
# Runs on the repository

Captures, saves and deletions, in any order and any number.
-/

open Python

namespace NetworkMapper.Knowledge

open ObservationRepository

inductive Operation where
  | save (observation : Observation)
  | capture (device : Device) (runMetadata : RunMetadata) (now : DateTime)
  | delete (name : Str)

/-- The files, and the observation that was last saved under each id, as long as its file is there. -/
structure Repository where
  files : Directory
  saved : Dict Int Observation

namespace Repository

variable (py : Interpreter) (u : Unicode)

def empty : Repository := ⟨.empty, .empty⟩

/-- One operation. `listing` is the order in which the directory gives its names. -/
def step (r : Repository) (listing : List Str) : Operation → Repository
  | .save observation =>
    match ObservationRepository.save py r.files observation with
    | some files => ⟨files, r.saved.set observation.observationId observation⟩
    | none => r
  | .capture device runMetadata now =>
    match captureUnresolvedDevice py u r.files listing device runMetadata now with
    | some (observation, files) => ⟨files, r.saved.set observation.observationId observation⟩
    | none => r
  | .delete name =>
    ⟨r.files.filterKeys fun n => n ≠ name, r.saved.filterKeys fun id => fileName id ≠ name⟩

/-- The repositories that runs of allowed operations reach. -/
inductive Reachable (Allowed : Repository → Operation → Prop) : Repository → Prop
  | empty : Reachable Allowed empty
  | step {r : Repository} (h : Reachable Allowed r) (listing : List Str) (hlisting : listing.Perm r.files.keys)
      (operation : Operation) (hallowed : Allowed r operation) : Reachable Allowed (r.step py u listing operation)

/-- The next id is above every stored one and names no file, every stored id is listed once and in order, and
what is loaded is what was last saved. -/
structure Kept (r : Repository) : Prop where
  next : ∀ listing, listing.Perm r.files.keys → ∀ id ∈ r.saved.keys, id < nextObservationId listing
  fresh : ∀ listing, listing.Perm r.files.keys → fileName (nextObservationId listing) ∉ r.files.keys
  listed : ∀ listing, listing.Perm r.files.keys →
    (listObservationIds listing).Pairwise (· < ·) ∧ ∀ id, id ∈ listObservationIds listing ↔ id ∈ r.saved.keys
  loaded : ∀ id observation, r.saved.get? id = some observation → load py r.files id = .ok observation

/-! ## Operations -/

/-- Saves are of observations with positive ids. -/
def Positive : Operation → Prop
  | .save observation => 0 < observation.observationId
  | .capture _ _ _ | .delete _ => True

/-- The texts of a device and of a run that a capture keeps. -/
def capturedTexts (device : Device) (runMetadata : RunMetadata) : List Str :=
  [device.ipAddress, runMetadata.customerName] ++
  [device.hostname, device.vendor, device.macAddress, device.operatingSystem, device.computerName, device.domain,
    device.smbSigning, runMetadata.version].reduceOption ++
  device.discoverySources ++ device.services.flatMap fun entry => (serviceEvidence entry).texts

/-- The id has six digits, and no text has a surrogate pair in two halves. -/
def InRange (r : Repository) : Operation → Prop
  | .save observation =>
    observation.observationId ≤ 999999 ∧ ∀ s ∈ observation.texts, hasSurrogatePair s = false
  | .capture device runMetadata _ => shouldCapture device = true →
    (∀ id ∈ r.saved.keys, id < 999999) ∧ ∀ s ∈ capturedTexts device runMetadata, hasSurrogatePair s = false
  | .delete _ => True

end Repository

/-! ## File names -/

theorem digitsValue_zeros (k n : Nat) : digitsValue (List.replicate k (ch '0') ++ natRepr n) = n := by
  have hzeros : ∀ k, digitsValue (List.replicate k (ch '0')) = 0 := by
    intro k
    induction k with
    | zero => rfl
    | succ k ih =>
      unfold digitsValue at *
      rw [List.replicate_succ, List.foldl_cons]
      exact ih
  have hvalue := digitsValue_natRepr n
  have hk := hzeros k
  unfold digitsValue at *
  rw [List.foldl_append, hk, hvalue]

theorem matchFileName_fileName {id : Int} (h : 0 ≤ id ∧ id ≤ 999999) : matchFileName (fileName id) = some id := by
  obtain ⟨n, rfl⟩ := Int.eq_ofNat_of_zero_le h.1
  have hlength : (natRepr n).length ≤ 6 := natRepr_length (e := 5) (by omega)
  have hpadded : padded 6 (n : Int) = List.replicate (6 - (natRepr n).length) (ch '0') ++ natRepr n := by
    unfold padded
    rw [if_neg (by omega)]
    rfl
  have hsix : (padded 6 (n : Int)).length = 6 := by
    rw [hpadded, List.length_append, List.length_replicate]
    omega
  have hdigits : (padded 6 (n : Int)).all isDigit = true := by
    rw [hpadded, List.all_append, List.all_replicate, Bool.and_eq_true, List.all_eq_true]
    exact ⟨by split <;> decide, natRepr_digits n⟩
  have hvalue : digitsValue (padded 6 (n : Int)) = n := by rw [hpadded, digitsValue_zeros]
  have hstart : (str "observation-").length = 12 := by decide
  unfold matchFileName fileName
  rw [List.append_assoc, List.drop_left' hstart, List.take_left' hstart]
  simp only [List.take_left' hsix, List.drop_left' hsix, hsix, hdigits, hvalue, true_or, and_self, if_true]

theorem fileName_inj {id id' : Int} (h : 0 ≤ id ∧ id ≤ 999999) (h' : 0 ≤ id' ∧ id' ≤ 999999)
    (heq : fileName id = fileName id') : id = id' := by
  have hread := matchFileName_fileName h
  rw [heq, matchFileName_fileName h', Option.some.injEq] at hread
  exact hread.symm

theorem maximum_spec (ids : List Int) : (∀ id ∈ ids, id ≤ maximum ids) ∧ (maximum ids = 0 ∨ maximum ids ∈ ids) := by
  have hfold : ∀ (ids : List Int) (start : Int), start ≤ ids.foldl max start ∧
      (∀ id ∈ ids, id ≤ ids.foldl max start) ∧ ids.foldl max start ∈ start :: ids := by
    intro ids
    induction ids with
    | nil => simp
    | cons id ids ih =>
      intro start
      obtain ⟨hle, hall, hmem⟩ := ih (max start id)
      rw [List.foldl_cons]
      refine ⟨by omega, ?_, ?_⟩
      · rw [List.forall_mem_cons]
        exact ⟨by omega, hall⟩
      · rcases List.mem_cons.mp hmem with hmem | hmem
        · rw [hmem]
          rcases max_choice start id with h | h <;> rw [h] <;> simp
        · simp [hmem]
  cases ids with
  | nil => simp [maximum]
  | cons id ids =>
    obtain ⟨hle, hall, hmem⟩ := hfold ids id
    exact ⟨List.forall_mem_cons.mpr ⟨hle, hall⟩, Or.inr hmem⟩

namespace Repository

variable {py : Interpreter} {u : Unicode}

/-- Ids of six digits, each with its file, and no other files. -/
structure Consistent (py : Interpreter) (r : Repository) : Prop where
  range : ∀ id ∈ r.saved.keys, 0 < id ∧ id ≤ 999999
  names : ∀ name, name ∈ r.files.keys ↔ ∃ id ∈ r.saved.keys, fileName id = name
  loaded : ∀ id observation, r.saved.get? id = some observation → load py r.files id = .ok observation

theorem Consistent.existingIds_perm {r : Repository} (h : Consistent py r) {listing : List Str}
    (hlisting : listing.Perm r.files.keys) : (existingIds listing).Perm r.saved.keys := by
  have hrange : ∀ id ∈ r.saved.keys, 0 ≤ id ∧ id ≤ 999999 := fun id hid => by
    have := h.range id hid
    omega
  have hkeys : r.saved.keys.Nodup := r.saved.keys_nodup
  have hnodup : (r.saved.keys.map fileName).Nodup :=
    hkeys.map_on fun id hid id' hid' heq => fileName_inj (hrange id hid) (hrange id' hid') heq
  have hfiles : r.files.keys.Perm (r.saved.keys.map fileName) := by
    have hnames : r.files.keys.Nodup := r.files.keys_nodup
    rw [List.perm_ext_iff_of_nodup hnames hnodup]
    intro name
    rw [h.names, List.mem_map]
  have hread : (r.saved.keys.map fileName).filterMap matchFileName = r.saved.keys := by
    rw [List.filterMap_map]
    refine (List.filterMap_congr fun id hid => ?_).trans List.filterMap_some
    exact matchFileName_fileName (hrange id hid)
  have hperm := (hlisting.trans hfiles).filterMap matchFileName
  rw [hread] at hperm
  exact hperm

theorem Consistent.next {r : Repository} (h : Consistent py r) {listing : List Str}
    (hlisting : listing.Perm r.files.keys) : (∀ id ∈ r.saved.keys, id < nextObservationId listing) ∧
      (nextObservationId listing = 1 ∨ nextObservationId listing - 1 ∈ r.saved.keys) := by
  have hperm := h.existingIds_perm hlisting
  obtain ⟨hmax, hmem⟩ := maximum_spec (existingIds listing)
  unfold nextObservationId
  constructor
  · intro id hid
    have := hmax id (hperm.mem_iff.mpr hid)
    omega
  · rcases hmem with hzero | hmem
    · left
      omega
    · right
      rw [add_sub_cancel_right]
      exact hperm.mem_iff.mp hmem

theorem Consistent.kept {r : Repository} (h : Consistent py r) : Kept py r := by
  refine ⟨fun listing hlisting => (h.next hlisting).1, ?_, ?_, h.loaded⟩
  · intro listing hlisting hmem
    obtain ⟨habove, hnext⟩ := h.next hlisting
    obtain ⟨id, hid, heq⟩ := (h.names _).mp hmem
    have hread := matchFileName_fileName (show 0 ≤ id ∧ id ≤ 999999 by have := h.range id hid; omega)
    have hlt := habove id hid
    rcases Int.lt_or_le 999999 (nextObservationId listing) with hlarge | hsmall
    · -- Only 999999 comes before a seventh digit, and its name is not matched.
      have hlast : nextObservationId listing = 1000000 := by
        rcases hnext with hone | hmem
        · omega
        · have := h.range _ hmem
          omega
      have hnone : matchFileName (fileName 1000000) = none := by decide
      rw [heq, hlast, hnone] at hread
      cases hread
    · have hpos := (h.range id hid).1
      rw [heq, matchFileName_fileName ⟨by omega, hsmall⟩, Option.some.injEq] at hread
      omega
  · intro listing hlisting
    have hperm := h.existingIds_perm hlisting
    refine ⟨?_, fun id => ?_⟩
    · apply sortedBy_strict
      rw [List.map_id', hperm.nodup_iff]
      exact r.saved.keys_nodup
    · unfold listObservationIds
      rw [mem_sortedBy, hperm.mem_iff]

/-! ## Steps -/

theorem load_save {files files' : Directory} {observation : Observation}
    (hsave : ObservationRepository.save py files observation = some files')
    (htexts : ∀ s ∈ observation.texts, hasSurrogatePair s = false) : ∃ data,
      files' = files.set (fileName observation.observationId) data ∧
      ∀ directory : Directory, directory.get? (fileName observation.observationId) = some data →
        load py directory observation.observationId = .ok observation := by
  unfold ObservationRepository.save at hsave
  cases htext : ObservationSerializer.toJson py observation with
  | none => simp [htext] at hsave
  | some text =>
    obtain ⟨hascii, hread⟩ := ObservationSerializer.fromJson_toJson htext htexts
    obtain ⟨data, hdata⟩ := encodeUtf8_scalar text (scalar_of_ascii text hascii)
    simp only [htext, hdata, Option.bind_eq_bind, Option.bind_some, Except.toOption, Option.some.injEq,
      Option.pure_def] at hsave
    refine ⟨data, hsave.symm, fun directory hget => ?_⟩
    unfold load
    simp only [hget, decodeUtf8_encodeUtf8 text data hdata, hread, Except.mapError]

theorem Consistent.put {r : Repository} (h : Consistent py r) {files : Directory} {observation : Observation}
    (hid : 0 < observation.observationId ∧ observation.observationId ≤ 999999)
    (htexts : ∀ s ∈ observation.texts, hasSurrogatePair s = false)
    (hsave : ObservationRepository.save py r.files observation = some files) :
    Consistent py ⟨files, r.saved.set observation.observationId observation⟩ := by
  obtain ⟨data, rfl, hload⟩ := load_save hsave htexts
  refine ⟨?_, ?_, ?_⟩
  · intro id hmem
    rcases (Dict.mem_keys_set _ _ _ _).mp hmem with hmem | rfl
    · exact h.range id hmem
    · exact hid
  · intro name
    simp only [Dict.mem_keys_set, h.names, or_and_right, exists_or, exists_eq_left, @eq_comm _ name]
  · intro id saved hsaved
    rw [Dict.get?_set] at hsaved
    split_ifs at hsaved with heq
    · rw [Option.some.injEq] at hsaved
      subst heq hsaved
      exact hload _ (by rw [Dict.get?_set, if_pos rfl])
    · have hmem := h.range id ((Dict.mem_keys _ _).mpr ⟨saved, hsaved⟩)
      have hne : fileName observation.observationId ≠ fileName id := fun hname =>
        heq (fileName_inj ⟨by omega, hid.2⟩ ⟨by omega, hmem.2⟩ hname)
      rw [← h.loaded id saved hsaved]
      unfold load
      rw [Dict.get?_set, if_neg hne]

theorem Consistent.delete {r : Repository} (h : Consistent py r) (name : Str) : Consistent py
    ⟨r.files.filterKeys fun n => n ≠ name, r.saved.filterKeys fun id => fileName id ≠ name⟩ := by
  refine ⟨?_, ?_, ?_⟩
  · intro id hid
    exact h.range id ((Dict.mem_keys_filterKeys _ _ _).mp hid).1
  · intro n
    simp only [Dict.mem_keys_filterKeys, h.names, decide_eq_true_eq]
    constructor
    · rintro ⟨⟨id, hid, rfl⟩, hne⟩
      exact ⟨id, ⟨hid, hne⟩, rfl⟩
    · rintro ⟨id, ⟨hid, hne⟩, rfl⟩
      exact ⟨⟨id, hid, rfl⟩, hne⟩
  · intro id saved hsaved
    rw [Dict.get?_filterKeys] at hsaved
    split_ifs at hsaved with hkept
    have hkept' : decide (fileName id ≠ name) = true := hkept
    rw [← h.loaded id saved hsaved]
    unfold load
    rw [Dict.get?_filterKeys, if_pos hkept']

theorem buildObservation_texts {device : Device} (id : Int) {runMetadata : RunMetadata} (now : DateTime)
    (hcapture : shouldCapture device = true)
    (htexts : ∀ s ∈ capturedTexts device runMetadata, hasSurrogatePair s = false) :
    ∀ s ∈ (buildObservation u device id runMetadata now).texts, hasSurrogatePair s = false := by
  have hclassification : NetworkMapper.Capture.evaluateClassification u device =
      (DeviceType.unknown.value, NetworkMapper.Capture.noRuleMatchedReason, none) := by
    unfold NetworkMapper.Capture.evaluateClassification
    simp only [if_pos (Or.inl (of_decide_eq_true hcapture))]
  have hnow := no_pair_of_ascii _ (isoformat_ascii now)
  have hprofile : hasSurrogatePair runMetadata.scanProfile.value = false := by
    cases runMetadata.scanProfile <;> decide
  unfold capturedTexts at htexts
  simp only [List.forall_mem_append, List.forall_mem_cons, forall_reduceOption, List.forall_mem_flatMap] at htexts
  obtain ⟨⟨⟨⟨hip, hname, -⟩, hhostname, hvendor, hmac, hsystem, hcomputer, hdomain, hsigning, hversion, -⟩, hsources⟩,
    hservices⟩ := htexts
  unfold Observation.texts ObservationEvidence.texts buildObservation
  simp only [hclassification, List.forall_mem_append, List.forall_mem_cons, forall_reduceOption,
    List.forall_mem_flatMap, List.forall_mem_map]
  refine ⟨⟨⟨⟨hnow, hname, hprofile, by decide, by decide, by decide, List.forall_mem_nil _⟩, hversion, ?_, hhostname,
    hvendor, hmac, ?_, List.forall_mem_nil _⟩, ⟨⟨hsystem, hcomputer, hdomain, hsigning, List.forall_mem_nil _⟩, hsources⟩,
    hservices⟩, List.forall_mem_nil _⟩
  · rintro _ ⟨⟩
    exact hip
  · rintro _ ⟨⟩

theorem Consistent.step {r : Repository} (h : Consistent py r) (listing : List Str)
    (hlisting : listing.Perm r.files.keys) (operation : Operation) (hpositive : Positive operation)
    (hrange : InRange r operation) : Consistent py (r.step py u listing operation) := by
  cases operation with
  | save observation =>
    unfold Repository.step
    simp only
    split
    · rename_i files hsave
      exact h.put ⟨hpositive, hrange.1⟩ hrange.2 hsave
    · exact h
  | capture device runMetadata now =>
    unfold Repository.step captureUnresolvedDevice
    by_cases hcapture : shouldCapture device = true
    · obtain ⟨hbelow, htexts⟩ := hrange hcapture
      obtain ⟨-, hnext⟩ := h.next hlisting
      have hid : 0 < nextObservationId listing ∧ nextObservationId listing ≤ 999999 := by
        rcases hnext with hone | hmem
        · omega
        · have := h.range _ hmem
          have := hbelow _ hmem
          omega
      simp only [hcapture, if_true]
      cases hsave : ObservationRepository.save py r.files
          (buildObservation u device (nextObservationId listing) runMetadata now) with
      | none => exact h
      | some files => exact h.put hid (buildObservation_texts _ now hcapture htexts) hsave
    · simp only [hcapture]
      exact h
  | delete name => exact h.delete name

/-- In a run whose ids stay within six digits, no capture overwrites what is stored. -/
theorem captures_are_kept {r : Repository}
    (h : Reachable py u (fun r operation => Positive operation ∧ InRange r operation) r) : Kept py r := by
  have hconsistent : Consistent py r := by
    induction h with
    | empty => exact ⟨by simp [empty, Dict.keys, Dict.empty], by simp [empty, Dict.keys, Dict.empty],
        by simp [empty, Dict.get?, Dict.empty]⟩
    | step _ listing hlisting operation hallowed ih => exact ih.step listing hlisting operation hallowed.1 hallowed.2
  exact hconsistent.kept

/-! ## Two runs -/

def sampleDevice : Device := { ipAddress := str "192.0.2.30" }

def sampleMetadata : RunMetadata := ⟨.fast, str "Example", none⟩

def sampleNow : DateTime := (sampleProvenance "").observedAt

def sampleSave (id : Int) : Operation := .save (buildObservation ascii sampleDevice id sampleMetadata sampleNow)

def sampleCapture : Operation := .capture sampleDevice sampleMetadata sampleNow

/-- A save under `id`, and then a capture. -/
def sampleRepository (id : Int) : Repository :=
  let r := empty.step cpython ascii [] (sampleSave id)
  r.step cpython ascii r.files.keys sampleCapture

theorem captures_are_kept_sample : Kept cpython (sampleRepository 7) := by
  have hsaved : Reachable cpython ascii (fun r operation => Positive operation ∧ InRange r operation)
      (empty.step cpython ascii [] (sampleSave 7)) := by
    refine .step .empty [] (List.Perm.refl _) (sampleSave 7) ⟨?_, ?_, ?_⟩
    · show (0 : Int) < 7
      decide
    · show (7 : Int) ≤ 999999
      decide
    · decide +kernel
  apply captures_are_kept (u := ascii)
  refine .step hsaved _ (List.Perm.refl _) sampleCapture ⟨trivial, fun _ => ⟨?_, ?_⟩⟩
  · decide +kernel
  · decide +kernel

/-- The file of 1000000 has seven digits. The capture after this one gets the id 1000000 again. -/
theorem seventh_digit_is_not_listed :
    Reachable cpython ascii (fun _ operation => Positive operation) (sampleRepository 999999) ∧
      ¬ Kept cpython (sampleRepository 999999) := by
  constructor
  · refine .step (.step .empty [] (List.Perm.refl _) (sampleSave 999999) ?_) _ (List.Perm.refl _) sampleCapture trivial
    show (0 : Int) < 999999
    decide
  · intro h
    have hkeys : (1000000 : Int) ∈ (sampleRepository 999999).saved.keys := by decide +kernel
    have hnext : nextObservationId (sampleRepository 999999).files.keys = 1000000 := by decide +kernel
    have hlt := h.next _ (List.Perm.refl _) 1000000 hkeys
    rw [hnext] at hlt
    omega

end Repository

end NetworkMapper.Knowledge
