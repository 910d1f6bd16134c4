import NetworkMapper.Python.StrMethods
import NetworkMapper.Reporting.CanonicalPresentation

/-!
# Comparing two projects

Devices are matched by an identity: the MAC address, or the IP address of a device
without one. Two devices of one project can have the same identity. Then the index
holds the later one only.
-/

open Python

namespace NetworkMapper

/-- What a comparison tells about two projects. -/
structure ComparisonResult where
  addedDevices : List Device
  removedDevices : List Device
  hostnameChangedDevices : List (Device × Device)
  ipChangedDevices : List (Device × Device)
  summaryCounts : List (Str × Nat)

namespace ProjectComparator

variable (u : Unicode)

/-- The MAC address where there is one, and else the IP address. Both are stripped and in lower case. -/
def deviceIdentity (device : Device) : Str :=
  let macAddress := u.lower (strip (device.macAddress.getD []))
  if macAddress ≠ [] then macAddress else u.lower (strip device.ipAddress)

/-- A later device of the same identity takes the place of the earlier one. -/
def indexDevices (project : Project) : Dict Str Device :=
  Dict.empty.setAll (deviceIdentity u) project.networkGraph.allDevices

/-- The devices whose identity the other project does not have. -/
def onlyIn (devices others : Dict Str Device) : List Device :=
  (devices.entries.filter fun (identity, _) => identity ∉ others.keys).map Prod.snd

/-- The pairs that the loop over the old devices compares. -/
def matched (oldDevices newDevices : Dict Str Device) : List (Device × Device) :=
  oldDevices.entries.filterMap fun (identity, oldDevice) =>
    (newDevices.get? identity).map fun newDevice => (oldDevice, newDevice)

/-- The two comparisons of a matched pair are independent, so one pair can be in both lists. -/
def compare (oldProject newProject : Project) : ComparisonResult :=
  let oldDevices := indexDevices u oldProject
  let newDevices := indexDevices u newProject
  let removedDevices := onlyIn oldDevices newDevices
  let hostnameChangedDevices := (matched oldDevices newDevices).filter fun p => p.1.hostname ≠ p.2.hostname
  let ipChangedDevices := (matched oldDevices newDevices).filter fun p => p.1.ipAddress ≠ p.2.ipAddress
  let addedDevices := onlyIn newDevices oldDevices
  { addedDevices := addedDevices
    removedDevices := removedDevices
    hostnameChangedDevices := hostnameChangedDevices
    ipChangedDevices := ipChangedDevices
    summaryCounts := [(str "added", addedDevices.length), (str "removed", removedDevices.length),
      (str "hostname_changed", hostnameChangedDevices.length), (str "ip_changed", ipChangedDevices.length)] }

def matchedDevices (oldProject newProject : Project) : List (Device × Device) :=
  matched (indexDevices u oldProject) (indexDevices u newProject)

/-! ## The index -/

theorem indexDevices_keyed (project : Project) : Dict.Keyed (deviceIdentity u) (indexDevices u project) :=
  (Dict.keyed_empty _).setAll _

theorem indexDevices_length (project : Project) :
    (indexDevices u project).entries.length = project.networkGraph.allDevices.length ↔
      (project.networkGraph.allDevices.map (deviceIdentity u)).Nodup := by
  rw [← Dict.setAll_keys_length_eq, Dict.keys, List.length_map]
  rfl

theorem indexDevices_values (project : Project)
    (hn : (project.networkGraph.allDevices.map (deviceIdentity u)).Nodup) :
    (indexDevices u project).values = project.networkGraph.allDevices := by
  unfold indexDevices Dict.values
  rw [Dict.setAll_entries _ _ hn]
  simp [Function.comp_def]

/-! ## Two indexes -/

section Indexes

variable {u} {oldDevices newDevices : Dict Str Device}

theorem mem_matched (hold : Dict.Keyed (deviceIdentity u) oldDevices)
    (hnew : Dict.Keyed (deviceIdentity u) newDevices) (p : Device × Device) :
    p ∈ matched oldDevices newDevices ↔
      p.1 ∈ oldDevices.values ∧ p.2 ∈ newDevices.values ∧ deviceIdentity u p.1 = deviceIdentity u p.2 := by
  obtain ⟨a, b⟩ := p
  unfold matched
  simp only [List.mem_filterMap, Option.map_eq_some_iff, Prod.mk.injEq, Prod.exists, Dict.get?_eq_some,
    hold.mem_values, hnew.mem_values]
  constructor
  · rintro ⟨identity, _, ha, _, hb, rfl, rfl⟩
    have hola := hold _ ha
    have hnewb := hnew _ hb
    simp only at hola hnewb
    exact ⟨hola ▸ ha, hnewb ▸ hb, hola.symm.trans hnewb⟩
  · rintro ⟨ha, hb, heq⟩
    exact ⟨_, a, ha, b, heq ▸ hb, rfl, rfl⟩

theorem matched_fst : (matched oldDevices newDevices).map Prod.fst =
    (oldDevices.entries.filter fun e => e.1 ∈ newDevices.keys).map Prod.snd := by
  unfold matched
  induction oldDevices.entries with
  | nil => rfl
  | cons e entries ih =>
    rw [List.filterMap_cons, List.filter_cons]
    by_cases hkey : e.1 ∈ newDevices.keys
    · obtain ⟨v, hv⟩ := (Dict.mem_keys newDevices e.1).mp hkey
      simp only [hv, Option.map_some, hkey, decide_true, if_true, List.map_cons, ih]
    · have hnone : newDevices.get? e.1 = none := by
        rw [Dict.mem_keys, not_exists] at hkey
        exact Option.eq_none_iff_forall_ne_some.mpr hkey
      simp only [hnone, Option.map_none, hkey, decide_false, Bool.false_eq_true, if_false, ih]

theorem values_nodup (h : Dict.Keyed (deviceIdentity u) oldDevices) : oldDevices.values.Nodup := by
  have hn : oldDevices.keys.Nodup := oldDevices.keys_nodup
  rw [← h.keys_eq] at hn
  exact List.Nodup.of_map _ hn

theorem matched_nodup (h : Dict.Keyed (deviceIdentity u) oldDevices) : (matched oldDevices newDevices).Nodup := by
  apply List.Nodup.of_map Prod.fst
  rw [matched_fst]
  exact (values_nodup h).sublist (List.filter_sublist.map Prod.snd)

theorem values_perm : oldDevices.values.Perm
    (onlyIn oldDevices newDevices ++ (matched oldDevices newDevices).map Prod.fst) := by
  -- Each device of an index is alone or the first of one pair.
  unfold Dict.values onlyIn
  rw [matched_fst, ← List.map_append]
  apply List.Perm.map
  refine List.Perm.trans ?_ List.perm_append_comm
  have := List.filter_append_perm (fun e : Str × Device => decide (e.1 ∈ newDevices.keys)) oldDevices.entries
  simpa using this.symm

theorem matched_swap (hold : Dict.Keyed (deviceIdentity u) oldDevices)
    (hnew : Dict.Keyed (deviceIdentity u) newDevices) :
    (matched newDevices oldDevices).Perm ((matched oldDevices newDevices).map Prod.swap) := by
  rw [List.perm_ext_iff_of_nodup (matched_nodup hnew) ((matched_nodup hold).map Prod.swap_injective)]
  intro p
  rw [mem_matched hnew hold, List.mem_map]
  constructor
  · rintro ⟨hb, ha, heq⟩
    exact ⟨p.swap, (mem_matched hold hnew _).mpr ⟨ha, hb, heq.symm⟩, Prod.swap_swap p⟩
  · rintro ⟨q, hq, rfl⟩
    obtain ⟨ha, hb, heq⟩ := (mem_matched hold hnew q).mp hq
    exact ⟨hb, ha, heq.symm⟩

theorem matched_snd (hold : Dict.Keyed (deviceIdentity u) oldDevices)
    (hnew : Dict.Keyed (deviceIdentity u) newDevices) :
    ((matched newDevices oldDevices).map Prod.fst).Perm ((matched oldDevices newDevices).map Prod.snd) := by
  have := (matched_swap hold hnew).map Prod.fst
  rwa [List.map_map] at this

end Indexes

/-! ## The report -/

/-- Each device of either project is in the report once: alone, or in one pair of the matching. -/
structure LosesNoDevice (oldProject newProject : Project) : Prop where
  newDevices : newProject.networkGraph.allDevices.Perm
    ((compare u oldProject newProject).addedDevices ++ (matchedDevices u oldProject newProject).map Prod.snd)
  oldDevices : oldProject.networkGraph.allDevices.Perm
    ((compare u oldProject newProject).removedDevices ++ (matchedDevices u oldProject newProject).map Prod.fst)
  changes : ∀ p, p ∈ (compare u oldProject newProject).hostnameChangedDevices ∨
    p ∈ (compare u oldProject newProject).ipChangedDevices → p ∈ matchedDevices u oldProject newProject
  counts : (oldProject.networkGraph.allDevices.length : Int) -
      (compare u oldProject newProject).removedDevices.length =
    newProject.networkGraph.allDevices.length - (compare u oldProject newProject).addedDevices.length

/-- What the report becomes when the projects change places. -/
structure Swaps (oldProject newProject : Project) : Prop where
  added : (compare u newProject oldProject).addedDevices = (compare u oldProject newProject).removedDevices
  removed : (compare u newProject oldProject).removedDevices = (compare u oldProject newProject).addedDevices
  hostnames : (compare u newProject oldProject).hostnameChangedDevices.Perm
    ((compare u oldProject newProject).hostnameChangedDevices.map Prod.swap)
  ips : (compare u newProject oldProject).ipChangedDevices.Perm
    ((compare u oldProject newProject).ipChangedDevices.map Prod.swap)

/-- No two devices of the project share an identity. -/
def DistinctIdentities (project : Project) : Prop :=
  (project.networkGraph.allDevices.map (deviceIdentity u)).Nodup

theorem compare_swaps (oldProject newProject : Project) : Swaps u oldProject newProject := by
  have hswap := matched_swap (indexDevices_keyed u oldProject) (indexDevices_keyed u newProject)
  refine ⟨rfl, rfl, ?_, ?_⟩
  · refine (hswap.filter _).trans (List.Perm.of_eq ?_)
    rw [List.filter_map]
    exact congrArg _ (List.filter_congr fun p _ => by simp [eq_comm])
  · refine (hswap.filter _).trans (List.Perm.of_eq ?_)
    rw [List.filter_map]
    exact congrArg _ (List.filter_congr fun p _ => by simp [eq_comm])

theorem oldDevices_perm (oldProject newProject : Project) : (indexDevices u oldProject).values.Perm
    ((compare u oldProject newProject).removedDevices ++ (matchedDevices u oldProject newProject).map Prod.fst) :=
  values_perm

theorem newDevices_perm (oldProject newProject : Project) : (indexDevices u newProject).values.Perm
    ((compare u oldProject newProject).addedDevices ++ (matchedDevices u oldProject newProject).map Prod.snd) :=
  values_perm.trans
    ((matched_snd (indexDevices_keyed u oldProject) (indexDevices_keyed u newProject)).append_left _)

theorem distinct_of_perm (project : Project) (report : List Device)
    (hindex : (indexDevices u project).values.Perm report)
    (h : project.networkGraph.allDevices.Perm report) : DistinctIdentities u project := by
  -- The index has as many devices as the report. So a report without loss needs an index without loss.
  unfold DistinctIdentities
  rw [← indexDevices_length, ← List.length_map Prod.snd]
  exact hindex.length_eq.trans h.length_eq.symm

/-- No device is lost and the report swaps with the projects, if and only if the devices of each
project have different identities. -/
theorem compare_loses_no_device_iff (oldProject newProject : Project) :
    LosesNoDevice u oldProject newProject ∧ Swaps u oldProject newProject ↔
      DistinctIdentities u oldProject ∧ DistinctIdentities u newProject := by
  have hold := oldDevices_perm u oldProject newProject
  have hnew := newDevices_perm u oldProject newProject
  constructor
  · rintro ⟨h, -⟩
    exact ⟨distinct_of_perm u oldProject _ hold h.oldDevices, distinct_of_perm u newProject _ hnew h.newDevices⟩
  · rintro ⟨hdold, hdnew⟩
    rw [indexDevices_values u oldProject hdold] at hold
    rw [indexDevices_values u newProject hdnew] at hnew
    refine ⟨⟨hnew, hold, ?_, ?_⟩, compare_swaps u oldProject newProject⟩
    · rintro p (hp | hp)
      · exact List.mem_of_mem_filter hp
      · exact List.mem_of_mem_filter hp
    · have holdlen := hold.length_eq
      have hnewlen := hnew.length_eq
      rw [List.length_append, List.length_map] at holdlen hnewlen
      omega

def sampleProject (devices : List Device) : Project := ⟨NetworkGraph.empty.addDevices devices, [], [], []⟩

/-- Two interfaces of one router with the same MAC address: the first is in no list of the report. -/
theorem shared_mac_loses_device :
    ¬ ∀ (u : Unicode) (oldProject newProject : Project),
      LosesNoDevice u oldProject newProject ∧ Swaps u oldProject newProject := by
  intro h
  have hlen := (h ascii (sampleProject []) (sampleProject
    [{ ipAddress := str "192.0.2.1", macAddress := some (str "02:00:5E:00:53:0B") },
      { ipAddress := str "192.0.2.2", macAddress := some (str "02:00:5E:00:53:0B") }])).1.newDevices.length_eq
  exact absurd hlen (by decide)

end ProjectComparator

end NetworkMapper
