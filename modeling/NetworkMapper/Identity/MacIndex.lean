import NetworkMapper.Observations.Models
import NetworkMapper.Python.Grouping
import Mathlib.Data.Finset.Max

/-! # The subjects that claim a MAC address -/

open Python

namespace NetworkMapper

def macAddressProperty : Str := str "mac_address"

/-- `dict[str, frozenset[str]]` -/
abbrev MacIndex := List (Str × Finset Str)

def buildMacIndex (observations : List Observation) : MacIndex :=
  let claims := (identityObservations observations).filter fun o => o.propertyName = macAddressProperty
  (groupBy (·.value) claims).map fun g => (g.1, (g.2.map (·.subject)).toFinset)

/-- `mac_index.get(mac, frozenset())` -/
def MacIndex.subjects (index : MacIndex) (mac : Str) : Finset Str := (index.lookup mac).getD ∅

/-- `next(iter(subjects))`, where `len(subjects) == 1`. -/
def theOnly (subjects : Finset Str) : Option Str :=
  if h : subjects.card = 1 then some (subjects.min' (Finset.card_pos.mp (by omega))) else none

theorem theOnly_eq_some (subjects : Finset Str) (s : Str) : theOnly subjects = some s ↔ subjects = {s} := by
  unfold theOnly
  split
  · rename_i h
    obtain ⟨t, rfl⟩ := Finset.card_eq_one.mp h
    simp
  · rename_i h
    simp only [reduceCtorEq, false_iff]
    rintro rfl
    simp at h

/-- Somebody claims, with an identity observation, that the MAC address is the subject's. -/
def Claims (observations : List Observation) (mac subject : Str) : Prop :=
  ∃ o, .identity o ∈ observations ∧ o.propertyName = macAddressProperty ∧ o.value = mac ∧ o.subject = subject

theorem mem_subjects (observations : List Observation) (mac subject : Str) :
    subject ∈ (buildMacIndex observations).subjects mac ↔ Claims observations mac subject := by
  let subjects := fun members : List IdentityObservation => (members.map (·.subject)).toFinset
  have hempty : (∅ : Finset Str) = subjects [] := rfl
  unfold MacIndex.subjects buildMacIndex
  simp only
  rw [lookup_map_snd _ subjects, hempty, Option.getD_map, lookup_groupBy]
  simp only [subjects, List.mem_toFinset, List.mem_map, List.mem_filter, mem_identityObservations, decide_eq_true_eq,
    Claims, and_assoc]

theorem claims_append (observations more : List Observation) (mac subject : Str) :
    Claims (observations ++ more) mac subject ↔ Claims observations mac subject ∨ Claims more mac subject := by
  unfold Claims
  simp only [List.mem_append, or_and_right, exists_or]

theorem Claims.of_subset {observations more : List Observation} {mac subject : Str} (hsub : observations ⊆ more)
    (h : Claims observations mac subject) : Claims more mac subject := by
  obtain ⟨o, hmem, h⟩ := h
  exact ⟨o, hsub hmem, h⟩

theorem buildMacIndex_keys_nodup (observations : List Observation) :
    ((buildMacIndex observations).map Prod.fst).Nodup := by
  unfold buildMacIndex
  rw [List.map_map]
  exact (groupBy_groups _ _).keys_nodup

theorem mem_buildMacIndex (observations : List Observation) (g : Str × Finset Str) :
    g ∈ buildMacIndex observations ↔
      (∃ subject, Claims observations g.1 subject) ∧ ∀ subject, subject ∈ g.2 ↔ Claims observations g.1 subject := by
  have hclaimed : ∀ members : List IdentityObservation,
      members = ((identityObservations observations).filter fun o => o.propertyName = macAddressProperty).filter
        (fun o => o.value = g.1) →
      ∀ subject, subject ∈ (members.map (·.subject)).toFinset ↔ Claims observations g.1 subject := by
    rintro members rfl subject
    simp only [List.mem_toFinset, List.mem_map, List.mem_filter, mem_identityObservations, decide_eq_true_eq, Claims,
      and_assoc]
  unfold buildMacIndex
  simp only [List.mem_map, mem_groupBy]
  constructor
  · rintro ⟨⟨mac, members⟩, ⟨⟨o, ho, hmac⟩, hmembers⟩, rfl⟩
    have hsubjects := hclaimed members hmembers
    refine ⟨⟨o.subject, (hsubjects o.subject).mp ?_⟩, hsubjects⟩
    simp only at hmac hmembers
    rw [List.mem_toFinset, hmembers]
    exact List.mem_map_of_mem (List.mem_filter.mpr ⟨ho, by simpa using hmac⟩)
  · rintro ⟨⟨subject, o, ho, hproperty, hmac, -⟩, hsubjects⟩
    refine ⟨(g.1, List.filter (fun o => o.value = g.1) _), ⟨⟨o, ?_, hmac⟩, rfl⟩,
      Prod.ext rfl (Finset.ext fun subject => ?_)⟩
    · simpa [hproperty] using ho
    · rw [hclaimed _ rfl, hsubjects]

theorem mem_buildMacIndex_keys (observations : List Observation) (mac : Str) :
    mac ∈ (buildMacIndex observations).map Prod.fst ↔ ∃ subject, Claims observations mac subject := by
  constructor
  · intro h
    obtain ⟨g, hg, rfl⟩ := List.mem_map.mp h
    exact ((mem_buildMacIndex observations g).mp hg).1
  · intro h
    have hg := (mem_buildMacIndex observations (mac, (buildMacIndex observations).subjects mac)).mpr
      ⟨h, mem_subjects observations mac⟩
    exact List.mem_map_of_mem hg

end NetworkMapper
