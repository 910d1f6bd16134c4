import NetworkMapper.Python.Json.Objects

/-! # Members taken out of a document -/

namespace Python

theorem Json.item_ok {value : Json} {k : Str} {v : Json} (h : value.item k = .ok v) :
    ∃ members, value = .obj members ∧ members.lookup k = some v := by
  unfold Json.item at h
  split at h
  · rename_i members
    split at h
    · rename_i hk
      cases h
      exact ⟨members, rfl, hk⟩
    · cases h
  · cases h

/-- A step from a value to one inside it. -/
inductive Step where
  | key (k : Str)
  | index (i : Nat)
  deriving DecidableEq

abbrev Path := List Step

/-- The set of the paths below a step. -/
def under (removed : Path → Bool) (s : Step) : Path → Bool := fun path => removed (s :: path)

mutual

/-- The document without the members at the paths of a set. -/
def without (removed : Path → Bool) : Json → Json
  | .arr items => .arr (withoutItems removed 0 items)
  | .obj members => .obj (withoutMembers removed members)
  | v => v

def withoutItems (removed : Path → Bool) (i : Nat) : List Json → List Json
  | [] => []
  | v :: items => without (under removed (.index i)) v :: withoutItems removed (i + 1) items

def withoutMembers (removed : Path → Bool) : List (Str × Json) → List (Str × Json)
  | [] => []
  | (k, v) :: members =>
    if removed [.key k] then withoutMembers removed members
    else (k, without (under removed (.key k)) v) :: withoutMembers removed members

end

section Removal

variable (removed : Path → Bool)

@[simp]
theorem without_str (s : Str) : without removed (.str s) = .str s := by simp [without]

@[simp]
theorem without_arr (items : List Json) : without removed (.arr items) = .arr (withoutItems removed 0 items) := by
  rw [without]

theorem lookup_withoutMembers (members : List (Str × Json)) (k : Str) :
    (withoutMembers removed members).lookup k =
      if removed [.key k] then none else (members.lookup k).map (without (under removed (.key k))) := by
  induction members with
  | nil => simp [withoutMembers]
  | cons m members ih =>
    obtain ⟨k', v⟩ := m
    rw [withoutMembers, List.lookup_cons]
    by_cases hk : k = k'
    · subst hk
      by_cases hr : removed [.key k] = true <;> simp [hr, ih]
    · have hne : (k == k') = false := beq_eq_false_iff_ne.mpr hk
      by_cases hr : removed [.key k'] = true
      · simp [hr, hne, ih]
      · simp [hr, hne, ih, List.lookup_cons]

variable {value : Json} {k : Str} {v : Json}

theorem item_without (h : value.item k = .ok v) :
    (without removed value).item k =
      if removed [.key k] then .error (.keyError k) else .ok (without (under removed (.key k)) v) := by
  obtain ⟨members, rfl, hk⟩ := Json.item_ok h
  rw [without, Json.item, lookup_withoutMembers, hk]
  by_cases hr : removed [.key k] = true <;> simp [hr]

theorem get_without (h : value.item k = .ok v) (default : Json) :
    (without removed value).get k default =
      .ok (if removed [.key k] then default else without (under removed (.key k)) v) := by
  obtain ⟨members, rfl, hk⟩ := Json.item_ok h
  rw [without, Json.get, lookup_withoutMembers, hk]
  by_cases hr : removed [.key k] = true <;> simp [hr]

theorem item_without_ok {w : Json} (h : value.item k = .ok v) (hw : (without removed value).item k = .ok w) :
    removed [.key k] = false ∧ w = without (under removed (.key k)) v := by
  rw [item_without removed h] at hw
  split at hw
  · cases hw
  · rename_i hr
    exact ⟨Bool.eq_false_of_not_eq_true hr, (Except.ok.inj hw).symm⟩

theorem textItem_without_ok {s : Str} (h : value.item k = .ok v) (hs : (without removed value).textItem k = .ok s) :
    removed [.key k] = false := by
  obtain ⟨w, hw, -⟩ := (bind_eq_ok _ _ _).mp hs
  exact (item_without_ok removed h hw).1

theorem mapM_withoutItems {ε α β : Type} {write : α → Json} {read : Json → Except ε β} {items : List α} {i : Nat}
    {out : List β} (h : (withoutItems removed i (items.map write)).mapM read = .ok out) (j : Nat)
    (hj : j < items.length) : ∃ a b, read (without (under removed (.index (i + j))) (write a)) = .ok b := by
  induction items generalizing i j out with
  | nil => simp at hj
  | cons a items ih =>
    rw [List.map_cons, withoutItems, List.mapM_cons] at h
    obtain ⟨b, hb, h⟩ := (bind_eq_ok _ _ _).mp h
    obtain ⟨rest, hrest, -⟩ := (bind_eq_ok _ _ _).mp h
    cases j with
    | zero => exact ⟨a, b, hb⟩
    | succ j =>
      have hnext := ih hrest j (by simpa using hj)
      rwa [Nat.add_assoc, Nat.add_comm 1] at hnext

end Removal

end Python
