import NetworkMapper.Python.Dict
import NetworkMapper.Python.Json.Value

/-!
# The members of objects

Two objects with different keys each are the same value when their members are
the same in some order.
-/

namespace Python

/-! ## Repeated keys -/

theorem Json.induction {P : Json → Prop} (scalar : ∀ v, (∀ items, v ≠ .arr items) → (∀ ms, v ≠ .obj ms) → P v)
    (arr : ∀ items, (∀ v ∈ items, P v) → P (.arr items)) (obj : ∀ ms, (∀ m ∈ ms, P m.2) → P (.obj ms)) (v : Json) :
    P v :=
  match v with
  | .arr items => arr items fun w hw => by
      have := List.sizeOf_lt_of_mem hw
      exact Json.induction scalar arr obj w
  | .obj ms => obj ms fun m hm => by
      have := List.sizeOf_lt_of_mem hm
      exact Json.induction scalar arr obj m.2
  | .null | .bool _ | .int _ | .float _ | .str _ => scalar _ (by simp) (by simp)
termination_by sizeOf v
decreasing_by
  · simp only [Json.arr.sizeOf_spec]
    omega
  · obtain ⟨k, w⟩ := m
    simp only [Json.obj.sizeOf_spec, Prod.mk.sizeOf_spec] at *
    omega

/-- `v` is somewhere in the document. -/
inductive Within (v : Json) : Json → Prop
  | self : Within v v
  | item {w : Json} {items : List Json} (hw : w ∈ items) (h : Within v w) : Within v (.arr items)
  | member {m : Str × Json} {ms : List (Str × Json)} (hm : m ∈ ms) (h : Within v m.2) : Within v (.obj ms)

def NoRepeatedKeys (document : Json) : Prop :=
  ∀ ms, Within (.obj ms) document → (ms.map Prod.fst).Nodup

theorem noRepeatedKeys_arr (items : List Json) : NoRepeatedKeys (.arr items) ↔ ∀ v ∈ items, NoRepeatedKeys v := by
  constructor
  · intro h v hv ms hms
    exact h ms (.item hv hms)
  · intro h ms hms
    cases hms with
    | item hw hms => exact h _ hw ms hms

theorem noRepeatedKeys_obj (ms : List (Str × Json)) :
    NoRepeatedKeys (.obj ms) ↔ (ms.map Prod.fst).Nodup ∧ ∀ m ∈ ms, NoRepeatedKeys m.2 := by
  constructor
  · intro h
    exact ⟨h ms .self, fun m hm ms' hms' => h ms' (.member hm hms')⟩
  · rintro ⟨hn, h⟩ ms' hms'
    cases hms' with
    | self => exact hn
    | member hm hms' => exact h _ hm ms' hms'

theorem noRepeatedKeys_scalar (v : Json) (hi : ∀ items, v ≠ .arr items) (hm : ∀ ms, v ≠ .obj ms) :
    NoRepeatedKeys v := by
  intro ms hms
  cases hms with
  | self => exact absurd rfl (hm ms)
  | item => exact absurd rfl (hi _)
  | member => exact absurd rfl (hm _)

/-! ## The order of members -/

theorem sortKeys_obj_perm {ms ms' : List (Str × Json)}
    (hp : (ms.map fun m => (m.1, sortKeys m.2)).Perm (ms'.map fun m => (m.1, sortKeys m.2)))
    (hn : (ms.map Prod.fst).Nodup) : sortKeys (.obj ms) = sortKeys (.obj ms') := by
  rw [sortKeys, sortKeys, sortKeysMembers_eq, sortKeysMembers_eq, Json.obj.injEq]
  apply sortedBy_congr _ _ _ hp
  intro a ha b hb hab
  obtain ⟨k, v⟩ := a
  obtain ⟨k', w⟩ := b
  simp only at hab
  subst hab
  have hkeys : ((ms.map fun m => (m.1, sortKeys m.2)).map Prod.fst).Nodup := by
    rwa [List.map_map]
  have := lookup_of_mem _ hkeys k v ha
  rw [lookup_of_mem _ hkeys k w hb, Option.some.injEq] at this
  rw [this]

end Python
