import Mathlib.Data.List.Dedup
import Mathlib.Data.List.Induction
import Mathlib.Data.List.Perm.Basic

/-! # An insertion-ordered `dict` -/

namespace Python

/-! ## Looking up -/

section Lookup

variable {α κ : Type} [BEq κ] [LawfulBEq κ]

theorem mem_of_lookup (ms : List (κ × α)) (k : κ) (v : α) (h : ms.lookup k = some v) : (k, v) ∈ ms := by
  induction ms with
  | nil => simp at h
  | cons m ms ih =>
    obtain ⟨k', w⟩ := m
    rw [List.lookup_cons] at h
    split at h
    · rename_i hk
      rw [Option.some.injEq] at h
      rw [beq_iff_eq.mp hk, h]
      exact List.mem_cons_self
    · exact List.mem_cons_of_mem _ (ih h)

theorem lookup_of_mem (ms : List (κ × α)) (hn : (ms.map Prod.fst).Nodup) (k : κ) (v : α) (h : (k, v) ∈ ms) :
    ms.lookup k = some v := by
  induction ms with
  | nil => simp at h
  | cons m ms ih =>
    obtain ⟨k', w⟩ := m
    rw [List.map_cons, List.nodup_cons] at hn
    rw [List.lookup_cons]
    rcases List.mem_cons.mp h with heq | hm
    · rw [Prod.mk.injEq] at heq
      simp [heq]
    · have hne : (k == k') = false := by
        rw [beq_eq_false_iff_ne]
        rintro rfl
        exact hn.1 (List.mem_map.mpr ⟨_, hm, rfl⟩)
      simp only [hne, ih hn.2 hm]

theorem lookup_isSome (ms : List (κ × α)) (k : κ) (h : k ∈ ms.map Prod.fst) : ∃ v, ms.lookup k = some v := by
  induction ms with
  | nil => simp at h
  | cons m ms ih =>
    rw [List.lookup_cons]
    split
    · exact ⟨_, rfl⟩
    · rename_i hk
      rcases List.mem_cons.mp h with rfl | h
      · simp at hk
      · exact ih h

omit [LawfulBEq κ] in
theorem lookup_map_snd {β : Type} (ms : List (κ × α)) (f : α → β) (k : κ) :
    (ms.map fun m => (m.1, f m.2)).lookup k = (ms.lookup k).map f := by
  induction ms with
  | nil => rfl
  | cons m ms ih =>
    rw [List.map_cons, List.lookup_cons, List.lookup_cons, ih]
    split <;> rfl

theorem lookup_of_perm {ms expected : List (κ × α)} (hp : ms.Perm expected) (hn : (expected.map Prod.fst).Nodup)
    (k : κ) (v : α) (h : (k, v) ∈ expected) : ms.lookup k = some v :=
  lookup_of_mem ms ((hp.map Prod.fst).nodup_iff.mpr hn) k v (hp.mem_iff.mpr h)

theorem perm_of_lookups {ms expected : List (κ × α)} (hn : (ms.map Prod.fst).Nodup)
    (hn' : (expected.map Prod.fst).Nodup) (hkeys : ∀ k ∈ ms.map Prod.fst, k ∈ expected.map Prod.fst)
    (hlookup : ∀ m ∈ expected, ms.lookup m.1 = some m.2) : ms.Perm expected := by
  rw [List.perm_ext_iff_of_nodup (List.Nodup.of_map _ hn) (List.Nodup.of_map _ hn')]
  rintro ⟨k, v⟩
  constructor
  · intro hm
    obtain ⟨⟨k', w⟩, hw, rfl⟩ := List.mem_map.mp (hkeys k (List.mem_map_of_mem hm))
    have hv := lookup_of_mem ms hn k' v hm
    rw [hlookup _ hw, Option.some.injEq] at hv
    rwa [← hv]
  · intro hm
    exact mem_of_lookup ms k v (hlookup _ hm)

end Lookup

/-! ## Dictionaries -/

variable {κ ν : Type}

structure Dict (κ ν : Type) where
  entries : List (κ × ν)
  keys_nodup : (entries.map Prod.fst).Nodup

namespace Dict

def empty : Dict κ ν := ⟨[], List.nodup_nil⟩

def keys (d : Dict κ ν) : List κ := d.entries.map Prod.fst

def values (d : Dict κ ν) : List ν := d.entries.map Prod.snd

variable [DecidableEq κ]

def get? (d : Dict κ ν) (k : κ) : Option ν := d.entries.lookup k

theorem get?_eq_some (d : Dict κ ν) (k : κ) (v : ν) : d.get? k = some v ↔ (k, v) ∈ d.entries := by
  unfold get?
  constructor
  · exact mem_of_lookup d.entries k v
  · exact lookup_of_mem d.entries d.keys_nodup k v

theorem mem_keys (d : Dict κ ν) (k : κ) : k ∈ d.keys ↔ ∃ v, d.get? k = some v := by
  unfold keys get?
  constructor
  · exact lookup_isSome d.entries k
  · rintro ⟨v, hv⟩
    exact List.mem_map_of_mem (mem_of_lookup d.entries k v hv)

/-- `d.setdefault(k, v)`. A key that is there keeps its value and its place. -/
def setDefault (d : Dict κ ν) (k : κ) (v : ν) : Dict κ ν :=
  if h : k ∈ d.keys then d
  else ⟨d.entries ++ [(k, v)], by
    rw [List.map_append, List.map_singleton, ← List.concat_eq_append]
    exact d.keys_nodup.concat h⟩

def setDefaults (key : ν → κ) (d : Dict κ ν) (items : List ν) : Dict κ ν :=
  items.foldl (fun d v => d.setDefault (key v) v) d

@[simp]
theorem mem_keys_setDefault (d : Dict κ ν) (k : κ) (v : ν) (k' : κ) :
    k' ∈ (d.setDefault k v).keys ↔ k' ∈ d.keys ∨ k' = k := by
  unfold setDefault
  split
  · rename_i h
    constructor
    · exact Or.inl
    · rintro (hk | rfl)
      · exact hk
      · exact h
  · simp [keys]

theorem mem_keys_setDefaults (key : ν → κ) (d : Dict κ ν) (items : List ν) (k : κ) :
    k ∈ (d.setDefaults key items).keys ↔ k ∈ d.keys ∨ ∃ v ∈ items, key v = k := by
  induction items generalizing d with
  | nil => simp [setDefaults]
  | cons v items ih =>
    unfold setDefaults
    rw [List.foldl_cons, ← setDefaults, ih, mem_keys_setDefault]
    simp only [List.mem_cons, exists_eq_or_imp, or_assoc, @eq_comm _ k]

def replace (k : κ) (v : ν) (entries : List (κ × ν)) : List (κ × ν) :=
  entries.map fun e => if e.1 = k then (k, v) else e

theorem replace_keys (k : κ) (v : ν) (entries : List (κ × ν)) :
    (replace k v entries).map Prod.fst = entries.map Prod.fst := by
  unfold replace
  rw [List.map_map]
  apply List.map_congr_left
  intro e _
  simp only [Function.comp]
  split
  · rename_i he
    exact he.symm
  · rfl

/-- `d[k] = v`. A key that is there keeps its place and loses its value. -/
def set (d : Dict κ ν) (k : κ) (v : ν) : Dict κ ν :=
  if k ∈ d.keys then ⟨replace k v d.entries, (replace_keys k v d.entries).symm ▸ d.keys_nodup⟩
  else d.setDefault k v

/-- What a loop over `d[key(v)] = v` builds. -/
def setAll (key : ν → κ) (d : Dict κ ν) (items : List ν) : Dict κ ν :=
  items.foldl (fun d v => d.set (key v) v) d

@[simp]
theorem mem_keys_set (d : Dict κ ν) (k : κ) (v : ν) (k' : κ) : k' ∈ (d.set k v).keys ↔ k' ∈ d.keys ∨ k' = k := by
  unfold set
  split
  · rename_i h
    simp only [keys, replace_keys]
    constructor
    · exact Or.inl
    · rintro (hk | rfl)
      · exact hk
      · exact h
  · exact mem_keys_setDefault d k v k'

theorem mem_keys_setAll (key : ν → κ) (d : Dict κ ν) (items : List ν) (k : κ) :
    k ∈ (d.setAll key items).keys ↔ k ∈ d.keys ∨ k ∈ items.map key := by
  induction items generalizing d with
  | nil => simp [setAll]
  | cons v items ih =>
    unfold setAll
    rw [List.foldl_cons, ← setAll, ih, mem_keys_set, List.map_cons, List.mem_cons, or_assoc]

omit [DecidableEq κ] in
theorem foldl_entries {α : Type} (put : Dict κ ν → κ → ν → Dict κ ν)
    (hput : ∀ d k v, k ∉ d.keys → (put d k v).entries = d.entries ++ [(k, v)]) (key : α → κ) (value : α → ν)
    (d : Dict κ ν) (items : List α) (hn : (items.map key).Nodup) (hnew : ∀ a ∈ items, key a ∉ d.keys) :
    (items.foldl (fun d a => put d (key a) (value a)) d).entries =
      d.entries ++ items.map fun a => (key a, value a) := by
  induction items generalizing d with
  | nil => simp
  | cons a items ih =>
    rw [List.map_cons, List.nodup_cons] at hn
    have hfirst := hput d (key a) (value a) (hnew a List.mem_cons_self)
    have hrest : ∀ b ∈ items, key b ∉ (put d (key a) (value a)).keys := by
      intro b hb
      unfold keys
      rw [hfirst, List.map_append, List.mem_append, List.map_singleton, List.mem_singleton]
      rintro (hk | hk)
      · exact hnew b (List.mem_cons_of_mem _ hb) hk
      · simp only at hk
        rw [← hk] at hn
        exact hn.1 (List.mem_map_of_mem hb)
    rw [List.foldl_cons, ih _ hn.2 hrest, hfirst]
    simp

theorem setDefault_entries (d : Dict κ ν) (k : κ) (v : ν) (h : k ∉ d.keys) :
    (d.setDefault k v).entries = d.entries ++ [(k, v)] := by
  unfold setDefault
  rw [dif_neg h]

theorem set_entries (d : Dict κ ν) (k : κ) (v : ν) (h : k ∉ d.keys) :
    (d.set k v).entries = d.entries ++ [(k, v)] := by
  unfold set
  rw [if_neg h, setDefault_entries d k v h]

theorem setDefaults_entries (key : ν → κ) (items : List ν) (hn : (items.map key).Nodup) :
    (empty.setDefaults key items).entries = items.map fun v => (key v, v) :=
  foldl_entries setDefault setDefault_entries key id empty items hn (by simp [empty, keys])

theorem setAll_entries (key : ν → κ) (items : List ν) (hn : (items.map key).Nodup) :
    (empty.setAll key items).entries = items.map fun v => (key v, v) :=
  foldl_entries set set_entries key id empty items hn (by simp [empty, keys])

theorem setAll_keys_length (key : ν → κ) (items : List ν) :
    (empty.setAll key items).keys.length = (items.map key).dedup.length := by
  apply List.Perm.length_eq
  have hn : (empty.setAll key items).keys.Nodup := (empty.setAll key items).keys_nodup
  rw [List.perm_ext_iff_of_nodup hn (List.nodup_dedup _)]
  intro k
  rw [List.mem_dedup, mem_keys_setAll]
  simp [empty, keys]

theorem setAll_keys_length_eq (key : ν → κ) (items : List ν) :
    (empty.setAll key items).keys.length = items.length ↔ (items.map key).Nodup := by
  rw [setAll_keys_length, ← List.length_map key, ← List.dedup_eq_self]
  constructor
  · exact (List.dedup_sublist _).eq_of_length
  · intro h
    rw [h]

/-! ## What `setdefault` keeps -/

omit [DecidableEq κ] in
theorem eraseDups_concat [BEq κ] [LawfulBEq κ] (ks : List κ) (k : κ) [Decidable (k ∈ ks)] :
    (ks ++ [k]).eraseDups = if k ∈ ks then ks.eraseDups else ks.eraseDups ++ [k] := by
  rw [List.eraseDups_append]
  split <;> rename_i hk <;> simp [List.removeAll, List.eraseDups_cons, hk]

omit [DecidableEq κ] in
theorem eraseDups_nodup [BEq κ] [LawfulBEq κ] (ks : List κ) : ks.eraseDups.Nodup := by
  induction ks using List.reverseRecOn with
  | nil => exact List.nodup_nil
  | append_singleton ks k ih =>
    rw [eraseDups_concat]
    split
    · exact ih
    · rename_i hk
      rw [← List.mem_eraseDups] at hk
      exact List.nodup_append.mpr ⟨ih, List.nodup_singleton k, by simpa using fun k' hk' => ne_of_mem_of_not_mem hk' hk⟩

omit [DecidableEq κ] in
theorem eraseDups_of_nodup [BEq κ] [LawfulBEq κ] (ks : List κ) (h : ks.Nodup) : ks.eraseDups = ks := by
  induction ks using List.reverseRecOn with
  | nil => rfl
  | append_singleton ks k ih =>
    obtain ⟨hks, -, hk⟩ := List.nodup_append.mp h
    rw [eraseDups_concat, if_neg (fun hmem => hk k hmem k (List.mem_singleton_self k) rfl), ih hks]

omit [DecidableEq κ] in
theorem eraseDups_map [BEq κ] [LawfulBEq κ] [BEq ν] [LawfulBEq ν] [DecidableEq ν] (f : κ → ν)
    (ks : List κ) (hf : ∀ k ∈ ks, ∀ k' ∈ ks, f k = f k' → k = k') : (ks.map f).eraseDups = ks.eraseDups.map f := by
  induction ks using List.reverseRecOn with
  | nil => rfl
  | append_singleton ks k ih =>
    have hleft : ∀ k' ∈ ks, k' ∈ ks ++ [k] := fun k' h => List.mem_append_left _ h
    have hmem : f k ∈ ks.map f ↔ k ∈ ks := by
      refine ⟨fun h => ?_, List.mem_map_of_mem⟩
      obtain ⟨k', hk', heq⟩ := List.mem_map.mp h
      exact hf k' (hleft k' hk') k (List.mem_append_right _ (List.mem_singleton_self k)) heq ▸ hk'
    rw [List.map_append, List.map_singleton, eraseDups_concat, eraseDups_concat,
      ih fun k h k' h' => hf k (hleft k h) k' (hleft k' h')]
    by_cases hk : k ∈ ks
    · rw [if_pos hk, if_pos (hmem.mpr hk)]
    · rw [if_neg hk, if_neg (fun h => hk (hmem.mp h)), List.map_append, List.map_singleton]

theorem keys_setDefaults [beq : BEq κ] [LawfulBEq κ] (key : ν → κ) (items : List ν) :
    (empty.setDefaults key items).keys = @List.eraseDups κ beq (items.map key) := by
  induction items using List.reverseRecOn with
  | nil => rfl
  | append_singleton items v ih =>
    have hmem : key v ∈ (empty.setDefaults key items).keys ↔ key v ∈ items.map key := by
      rw [ih, List.mem_eraseDups]
    unfold setDefaults at *
    rw [List.foldl_append, List.foldl_cons, List.foldl_nil, List.map_append, List.map_singleton, eraseDups_concat]
    split <;> rename_i hk
    · rw [setDefault, dif_pos (hmem.mpr hk), ih]
    · rw [keys, setDefault_entries _ _ _ (fun h => hk (hmem.mp h)), List.map_append, ← keys, ih]
      rfl

theorem get?_setDefault (d : Dict κ ν) (k : κ) (v : ν) (k' : κ) :
    (d.setDefault k v).get? k' = (d.get? k').or (if k = k' then some v else none) := by
  unfold setDefault
  split
  · rename_i hk
    obtain ⟨w, hw⟩ := (mem_keys d k).mp hk
    split
    · rename_i heq
      rw [← heq, hw, Option.some_or]
    · rw [Option.or_none]
  · unfold get?
    rw [List.lookup_append, List.lookup_cons, List.lookup_nil]
    by_cases heq : k = k'
    · simp [heq]
    · have hne : (k' == k) = false := beq_eq_false_iff_ne.mpr fun h => heq h.symm
      simp [heq, hne]

theorem get?_setDefaults (key : ν → κ) (items : List ν) (k : κ) :
    (empty.setDefaults key items).get? k = items.find? fun v => key v = k := by
  -- The first item of a key is the one that stays.
  induction items using List.reverseRecOn with
  | nil => rfl
  | append_singleton items v ih =>
    unfold setDefaults at *
    rw [List.foldl_append, List.foldl_cons, List.foldl_nil, List.find?_append, ← ih]
    rw [get?_setDefault]
    by_cases heq : key v = k <;> simp [heq]

theorem mem_replace (k : κ) (v : ν) (entries : List (κ × ν)) (k' : κ) (w : ν) :
    (k', w) ∈ replace k v entries ↔ (k = k' ∧ v = w ∧ k ∈ entries.map Prod.fst) ∨ (k ≠ k' ∧ (k', w) ∈ entries) := by
  unfold replace
  rw [List.mem_map]
  constructor
  · rintro ⟨e, he, heq⟩
    split_ifs at heq with hk
    · rw [Prod.mk.injEq] at heq
      exact Or.inl ⟨heq.1, heq.2, hk ▸ List.mem_map_of_mem he⟩
    · subst heq
      exact Or.inr ⟨fun h => hk h.symm, he⟩
  · rintro (⟨rfl, rfl, hk⟩ | ⟨hk, hw⟩)
    · obtain ⟨e, he, heq⟩ := List.mem_map.mp hk
      exact ⟨e, he, if_pos heq⟩
    · exact ⟨(k', w), hw, if_neg fun h => hk h.symm⟩

theorem get?_set (d : Dict κ ν) (k : κ) (v : ν) (k' : κ) :
    (d.set k v).get? k' = if k = k' then some v else d.get? k' := by
  by_cases hmem : k ∈ d.keys
  · ext w
    rw [get?_eq_some]
    unfold set
    rw [if_pos hmem, mem_replace, ← keys]
    split <;> rename_i hk
    · simp [hk, hk ▸ hmem]
    · simp [hk, get?_eq_some]
  · unfold set
    rw [if_neg hmem, get?_setDefault]
    split <;> rename_i hk
    · have hnone : d.get? k' = none := by
        rw [Option.eq_none_iff_forall_ne_some]
        intro w hw
        exact hmem (hk ▸ (mem_keys d k').mpr ⟨w, hw⟩)
      rw [hnone, Option.none_or]
    · rw [Option.or_none]

theorem map_values {β : Type} (d : Dict κ ν) (g : ν → β) (f : κ → β) (h : ∀ k v, d.get? k = some v → g v = f k) :
    d.values.map g = d.keys.map f := by
  unfold values keys
  rw [List.map_map, List.map_map]
  exact List.map_congr_left fun e he => h e.1 e.2 ((get?_eq_some d e.1 e.2).mpr he)

/-- The entries whose keys are kept. -/
def filterKeys (kept : κ → Bool) (d : Dict κ ν) : Dict κ ν :=
  ⟨d.entries.filter fun e => kept e.1, (d.keys_nodup.sublist (List.filter_sublist.map Prod.fst))⟩

theorem get?_filterKeys (kept : κ → Bool) (d : Dict κ ν) (k : κ) :
    (d.filterKeys kept).get? k = if kept k then d.get? k else none := by
  ext v
  rw [get?_eq_some]
  unfold filterKeys
  rw [List.mem_filter]
  split <;> rename_i hk
  · simp [hk, get?_eq_some]
  · simp [hk]

theorem mem_keys_filterKeys (kept : κ → Bool) (d : Dict κ ν) (k : κ) :
    k ∈ (d.filterKeys kept).keys ↔ k ∈ d.keys ∧ kept k = true := by
  rw [mem_keys, mem_keys, get?_filterKeys]
  split <;> rename_i hk <;> simp [hk]

/-! ## Values that know their key -/

/-- Each value is stored under its own key. -/
def Keyed (key : ν → κ) (d : Dict κ ν) : Prop := ∀ e ∈ d.entries, e.1 = key e.2

omit [DecidableEq κ] in
theorem keyed_empty (key : ν → κ) : Keyed key empty := by
  intro e he
  simp [empty] at he

theorem Keyed.setDefault {key : ν → κ} {d : Dict κ ν} (h : Keyed key d) (v : ν) :
    Keyed key (d.setDefault (key v) v) := by
  unfold Dict.setDefault
  split
  · exact h
  · intro e he
    rcases List.mem_append.mp he with he | he
    · exact h e he
    · rw [List.mem_singleton.mp he]

theorem Keyed.set {key : ν → κ} {d : Dict κ ν} (h : Keyed key d) (v : ν) : Keyed key (d.set (key v) v) := by
  unfold Dict.set
  split
  · intro e he
    obtain ⟨e', he', rfl⟩ := List.mem_map.mp he
    split
    · rfl
    · exact h e' he'
  · exact h.setDefault v

theorem Keyed.setAll {key : ν → κ} {d : Dict κ ν} (h : Keyed key d) (items : List ν) :
    Keyed key (d.setAll key items) := by
  induction items generalizing d with
  | nil => exact h
  | cons v items ih => exact ih (h.set v)

theorem Keyed.setDefaults {key : ν → κ} {d : Dict κ ν} (h : Keyed key d) (items : List ν) :
    Keyed key (d.setDefaults key items) := by
  induction items generalizing d with
  | nil => exact h
  | cons v items ih => exact ih (h.setDefault v)

omit [DecidableEq κ] in
theorem Keyed.keys_eq {key : ν → κ} {d : Dict κ ν} (h : Keyed key d) : d.values.map key = d.keys := by
  unfold values keys
  rw [List.map_map]
  apply List.map_congr_left
  intro e he
  exact (h e he).symm

omit [DecidableEq κ] in
theorem Keyed.mem_values {key : ν → κ} {d : Dict κ ν} (h : Keyed key d) (v : ν) :
    v ∈ d.values ↔ (key v, v) ∈ d.entries := by
  unfold values
  constructor
  · intro hv
    obtain ⟨e, he, rfl⟩ := List.mem_map.mp hv
    rw [← h e he]
    exact he
  · exact List.mem_map_of_mem

/-! ## The last item with a key -/

def lastWith (key : ν → κ) (k : κ) : List ν → Option ν
  | [] => none
  | v :: items => (lastWith key k items).or (if key v = k then some v else none)

theorem lastWith_key {key : ν → κ} {k : κ} {items : List ν} {v : ν} (h : lastWith key k items = some v) : key v = k := by
  induction items with
  | nil => cases h
  | cons w items ih =>
    rw [lastWith, Option.or_eq_some_iff] at h
    rcases h with h | ⟨-, h⟩
    · exact ih h
    · split at h
      · rename_i hw
        rw [Option.some.injEq] at h
        exact h ▸ hw
      · cases h

theorem lastWith_mem {key : ν → κ} {k : κ} {items : List ν} {v : ν} (h : lastWith key k items = some v) :
    v ∈ items := by
  induction items with
  | nil => cases h
  | cons w items ih =>
    rw [lastWith, Option.or_eq_some_iff] at h
    rcases h with h | ⟨-, h⟩
    · exact List.mem_cons_of_mem _ (ih h)
    · split at h
      · rw [Option.some.inj h]
        exact List.mem_cons_self
      · cases h

theorem lastWith_snd {α : Type} (k : κ) (items : List (κ × α)) (v : α) :
    (lastWith Prod.fst k items).map Prod.snd = some v ↔ lastWith Prod.fst k items = some (k, v) := by
  rw [Option.map_eq_some_iff]
  constructor
  · rintro ⟨⟨k', v'⟩, h, rfl⟩
    obtain rfl : k' = k := lastWith_key h
    exact h
  · intro h
    exact ⟨_, h, rfl⟩

theorem get?_setAll (key : ν → κ) (d : Dict κ ν) (items : List ν) (k : κ) :
    (d.setAll key items).get? k = (lastWith key k items).or (d.get? k) := by
  induction items generalizing d with
  | nil => rw [lastWith, Option.none_or, setAll, List.foldl_nil]
  | cons v items ih =>
    unfold setAll
    rw [List.foldl_cons, ← setAll, ih, get?_set, lastWith, Option.or_assoc]
    split <;> simp

theorem mem_setAll_values (key : ν → κ) (items : List ν) (v : ν) :
    v ∈ (empty.setAll key items).values ↔ lastWith key (key v) items = some v := by
  have hempty : (empty : Dict κ ν).get? (key v) = none := rfl
  rw [((keyed_empty key).setAll items).mem_values, ← get?_eq_some, get?_setAll, hempty, Option.or_none]

theorem setAll_values_nodup (key : ν → κ) (items : List ν) : (empty.setAll key items).values.Nodup := by
  have hkeys := ((keyed_empty key).setAll items).keys_eq
  exact List.Nodup.of_map key (hkeys ▸ (empty.setAll key items).keys_nodup)

/-! ## `dict(pairs)` -/

/-- A key that comes again keeps its place and gets the last value. -/
def ofPairs (pairs : List (κ × ν)) : Dict κ ν := pairs.foldl (fun d pair => d.set pair.1 pair.2) empty

theorem ofPairs_entries (pairs : List (κ × ν)) (hn : (pairs.map Prod.fst).Nodup) : (ofPairs pairs).entries = pairs := by
  unfold ofPairs
  rw [foldl_entries set set_entries Prod.fst Prod.snd empty pairs hn (by simp [empty, keys])]
  exact List.map_id pairs

end Dict

end Python
