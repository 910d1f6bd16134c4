import NetworkMapper.Knowledge.Runs
import NetworkMapper.Python.Json.CutShort

/-!
# Writers that stop within a file

The directory is compared with the one that the same operations leave when no writer
stops. It has the same names, and each file is the beginning of the other.
-/

open Python

namespace NetworkMapper.Knowledge

open ObservationRepository

/-- What is there of the bytes of a writer that may have stopped. -/
def begun (data : Bytes) : Option Nat → Bytes
  | none => data
  | some written => data.take written

namespace ObservationRepository

/-- `save`, by a writer that may stop within the file. -/
def saveBegun (py : Interpreter) (directory : Directory) (observation : Observation) (written : Option Nat) :
    Option Directory := do
  let text ← ObservationSerializer.toJson py observation
  let data ← (encodeUtf8 text).toOption
  return directory.set (fileName observation.observationId) (begun data written)

theorem saveBegun_none (py : Interpreter) (directory : Directory) (observation : Observation) :
    saveBegun py directory observation none = save py directory observation := rfl

end ObservationRepository

namespace Repository

variable (py : Interpreter) (u : Unicode)

/-- An operation whose writer may stop. What it was to save counts as saved. -/
def attempt (r : Repository) (listing : List Str) (written : Option Nat) : Operation → Repository
  | .save observation =>
    match saveBegun py r.files observation written with
    | some files => ⟨files, r.saved.set observation.observationId observation⟩
    | none => r
  | .capture device runMetadata now =>
    if shouldCapture device then
      let observation := buildObservation u device (nextObservationId listing) runMetadata now
      match saveBegun py r.files observation written with
      | some files => ⟨files, r.saved.set observation.observationId observation⟩
      | none => r
    else r
  | .delete name => r.step py u listing (.delete name)

/-- The repositories that operations reach of which any number was stopped. -/
inductive Attempted : Repository → Prop
  | empty : Attempted empty
  | step {r : Repository} (h : Attempted r) (listing : List Str) (hlisting : listing.Perm r.files.keys)
      (operation : Operation) (hpositive : Positive operation) (hrange : InRange r operation) (written : Option Nat) :
      Attempted (r.attempt py u listing written operation)

/-! ## Beginnings of files -/

/-- The bytes are the beginning of the file of an object. -/
def BeginningOf (data whole : Bytes) : Prop :=
  ∃ text n, asciiText (ch '{' :: text) ∧ whole = (ch '{' :: text).map (fun c => byte c.val) ∧ data = whole.take n

/-- The files are beginnings of those that no writer stopped at. -/
structure StoppedIn (r ideal : Repository) : Prop where
  saved : r.saved = ideal.saved
  files : ∀ name, Option.Rel BeginningOf (r.files.get? name) (ideal.files.get? name)

variable {py u} {r ideal : Repository}

theorem StoppedIn.mem_keys (h : StoppedIn r ideal) (name : Str) : name ∈ r.files.keys ↔ name ∈ ideal.files.keys := by
  rw [Dict.mem_keys, Dict.mem_keys]
  have hfile := h.files name
  generalize r.files.get? name = file, ideal.files.get? name = file' at hfile
  cases hfile with
  | some => simp
  | none => simp

theorem StoppedIn.keys_perm (h : StoppedIn r ideal) : r.files.keys.Perm ideal.files.keys := by
  have hkeys : r.files.keys.Nodup := r.files.keys_nodup
  have hkeys' : ideal.files.keys.Nodup := ideal.files.keys_nodup
  rw [List.perm_ext_iff_of_nodup hkeys hkeys']
  exact h.mem_keys

/-- A file that is not whole is refused, or it says what the whole file says. -/
theorem StoppedIn.load (h : StoppedIn r ideal) {id : Int} {observation : Observation}
    (hload : ObservationRepository.load py ideal.files id = .ok observation) :
    (∃ e, ObservationRepository.load py r.files id = .error e) ∨
      ObservationRepository.load py r.files id = .ok observation := by
  have hfile := h.files (fileName id)
  unfold ObservationRepository.load at hload ⊢
  cases hwhole : ideal.files.get? (fileName id) with
  | none =>
    rw [hwhole] at hload
    cases hload
  | some whole =>
    rw [hwhole] at hload hfile
    obtain ⟨data, hdata⟩ : ∃ data, r.files.get? (fileName id) = some data := by
      rw [← Dict.mem_keys, h.mem_keys, Dict.mem_keys]
      exact ⟨whole, hwhole⟩
    rw [hdata, Option.rel_some_some] at hfile
    obtain ⟨text, n, hascii, rfl, rfl⟩ := hfile
    rw [hdata]
    simp only [decodeUtf8_ascii _ hascii] at hload
    simp only [decodeUtf8_ascii_take _ hascii]
    unfold ObservationSerializer.fromJson at hload ⊢
    cases hdict : loadsDict py (ch '{' :: text) with
    | error e =>
      rw [hdict] at hload
      cases hload
    | ok payload =>
      rw [hdict] at hload
      rcases loads_take py asDict hdict n with ⟨e, he⟩ | hok
      · exact Or.inl ⟨_, by rw [loadsDict, he]; rfl⟩
      · exact Or.inr (by rw [loadsDict, hok]; exact hload)

/-! ## Steps -/

theorem BeginningOf.begun {text : Str} (hascii : asciiText (ch '{' :: text)) (written : Option Nat) :
    BeginningOf (begun ((ch '{' :: text).map fun c => byte c.val) written) ((ch '{' :: text).map fun c => byte c.val) := by
  cases written with
  | none => exact ⟨text, _, hascii, rfl, List.take_length.symm⟩
  | some n => exact ⟨text, n, hascii, rfl, rfl⟩

theorem StoppedIn.set (h : StoppedIn r ideal) {name : Str} {data whole : Bytes} (hdata : BeginningOf data whole)
    (id : Int) (observation : Observation) :
    StoppedIn ⟨r.files.set name data, r.saved.set id observation⟩
      ⟨ideal.files.set name whole, ideal.saved.set id observation⟩ := by
  refine ⟨by rw [h.saved], fun name' => ?_⟩
  simp only [Dict.get?_set]
  split
  · exact .some hdata
  · exact h.files name'

theorem StoppedIn.save (py : Interpreter) (h : StoppedIn r ideal) {observation : Observation}
    (htexts : ∀ s ∈ observation.texts, hasSurrogatePair s = false) (written : Option Nat) :
    (saveBegun py r.files observation written = none ∧ ObservationRepository.save py ideal.files observation = none) ∨
      ∃ files whole, saveBegun py r.files observation written = some files ∧
        ObservationRepository.save py ideal.files observation = some whole ∧
        StoppedIn ⟨files, r.saved.set observation.observationId observation⟩
          ⟨whole, ideal.saved.set observation.observationId observation⟩ := by
  unfold saveBegun ObservationRepository.save
  cases htext : ObservationSerializer.toJson py observation with
  | none => exact Or.inl ⟨rfl, rfl⟩
  | some text =>
    obtain ⟨hascii, -⟩ := ObservationSerializer.fromJson_toJson htext htexts
    obtain ⟨rest, hrest⟩ : ∃ rest, text = ch '{' :: rest := by
      unfold ObservationSerializer.toJson dumpsChecked at htext
      split at htext
      · rw [Option.some.injEq] at htext
        obtain ⟨rest, hrest⟩ := dumps_obj py (indent 2) _
        exact ⟨rest, htext.symm.trans hrest⟩
      · cases htext
    subst hrest
    simp only [encodeUtf8_ascii _ hascii, Except.toOption, Option.bind_eq_bind, Option.bind_some, Option.pure_def]
    exact Or.inr ⟨_, _, rfl, rfl, h.set (BeginningOf.begun hascii written) _ _⟩

theorem StoppedIn.delete (h : StoppedIn r ideal) (listing : List Str) (name : Str) :
    StoppedIn (r.step py u listing (.delete name)) (ideal.step py u listing (.delete name)) := by
  refine ⟨by simp only [step, h.saved], fun name' => ?_⟩
  simp only [step, Dict.get?_filterKeys]
  split
  · exact h.files name'
  · exact .none

theorem StoppedIn.step (h : StoppedIn r ideal) (listing : List Str) (operation : Operation) (hrange : InRange r operation)
    (written : Option Nat) : StoppedIn (r.attempt py u listing written operation) (ideal.step py u listing operation) := by
  cases operation with
  | save observation =>
    unfold attempt Repository.step
    rcases h.save py hrange.2 written with ⟨hnone, hnone'⟩ | ⟨files, whole, hfiles, hwhole, hstopped⟩
    · simp only [hnone, hnone']
      exact h
    · simp only [hfiles, hwhole]
      exact hstopped
  | capture device runMetadata now =>
    unfold attempt Repository.step captureUnresolvedDevice
    by_cases hcapture : shouldCapture device = true
    · have htexts := buildObservation_texts (u := u) (nextObservationId listing) now hcapture (hrange hcapture).2
      simp only [hcapture, if_true]
      rcases h.save py htexts written with ⟨hnone, hnone'⟩ | ⟨files, whole, hfiles, hwhole, hstopped⟩
      · simp only [hnone, hnone']
        exact h
      · simp only [hfiles, hwhole]
        exact hstopped
    · simp only [hcapture]
      exact h
  | delete name => exact h.delete listing name

/-- The next id is above every id that still has a file and names no file, the listing is those ids in order, and
a file says what was last saved under its id or is refused. -/
structure KeptOrRefused (py : Interpreter) (r : Repository) : Prop where
  next : ∀ listing, listing.Perm r.files.keys → ∀ id ∈ r.saved.keys, id < nextObservationId listing
  fresh : ∀ listing, listing.Perm r.files.keys → fileName (nextObservationId listing) ∉ r.files.keys
  listed : ∀ listing, listing.Perm r.files.keys →
    (listObservationIds listing).Pairwise (· < ·) ∧ ∀ id, id ∈ listObservationIds listing ↔ id ∈ r.saved.keys
  loaded : ∀ id observation, r.saved.get? id = some observation →
    (∃ e, load py r.files id = .error e) ∨ load py r.files id = .ok observation

/-- Wherever the writers of captures and saves stop, no capture overwrites what is stored, and no file is misread. -/
theorem stopped_captures_are_kept (h : Attempted py u r) : KeptOrRefused py r := by
  obtain ⟨ideal, hideal, hstopped⟩ : ∃ ideal, Consistent py ideal ∧ StoppedIn r ideal := by
    induction h with
    | empty =>
      refine ⟨empty, ⟨?_, ?_, ?_⟩, rfl, fun name => .none⟩
      all_goals simp [empty, Dict.keys, Dict.empty, Dict.get?]
    | @step r _ listing hlisting operation hpositive hrange written ih =>
      obtain ⟨ideal, hideal, hstopped⟩ := ih
      have hrange' : InRange ideal operation := by
        unfold InRange at hrange ⊢
        rw [← hstopped.saved]
        exact hrange
      exact ⟨_, hideal.step listing (hlisting.trans hstopped.keys_perm) operation hpositive hrange',
        hstopped.step listing operation hrange written⟩
  have hkept := hideal.kept
  refine ⟨?_, ?_, ?_, ?_⟩
  · intro listing hlisting
    rw [hstopped.saved]
    exact hkept.next listing (hlisting.trans hstopped.keys_perm)
  · intro listing hlisting
    rw [hstopped.mem_keys]
    exact hkept.fresh listing (hlisting.trans hstopped.keys_perm)
  · intro listing hlisting
    rw [hstopped.saved]
    exact hkept.listed listing (hlisting.trans hstopped.keys_perm)
  · intro id observation hsaved
    rw [hstopped.saved] at hsaved
    exact hstopped.load (hkept.loaded id observation hsaved)

theorem stopped_captures_are_kept_sample :
    let r := empty.attempt cpython ascii [] (some 5) (sampleSave 7)
    KeptOrRefused cpython (r.attempt cpython ascii r.files.keys none sampleCapture) := by
  intro r
  have hsaved : Attempted cpython ascii r := by
    refine .step .empty [] (List.Perm.refl _) (sampleSave 7) ?_ ⟨?_, ?_⟩ (some 5)
    · show (0 : Int) < 7
      decide
    · show (7 : Int) ≤ 999999
      decide
    · decide +kernel
  refine stopped_captures_are_kept (u := ascii) (.step hsaved _ (List.Perm.refl _) sampleCapture trivial ?_ none)
  refine fun _ => ⟨?_, ?_⟩
  · decide +kernel
  · decide +kernel

end Repository

end NetworkMapper.Knowledge
