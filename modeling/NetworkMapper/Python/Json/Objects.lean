import NetworkMapper.Python.Json.Ascii
import NetworkMapper.Python.Json.Hook
import NetworkMapper.Python.Json.Members
import Mathlib.Data.List.ReduceOption

/-!
# JSON as dictionaries

What `json.loads` gives without a hook, and how a program takes it apart.
-/

namespace Python

/-- `dict(pairs)`. A key that comes again keeps its place and gets the last value. -/
def asDict (members : List (Str × Json)) : Except Empty Json :=
  .ok (.obj (Dict.empty.setAll Prod.fst members).values)

/-- `json.loads(text)` -/
def loadsDict (py : Interpreter) (text : Str) : Except (LoadError Empty) Json := loads py asDict text

/-! ## Writing -/

mutual

/-- The integers of a document. -/
def integers : Json → List Int
  | .int n => [n]
  | .arr items => integersItems items
  | .obj members => integersMembers members
  | _ => []

def integersItems : List Json → List Int
  | [] => []
  | v :: items => integers v ++ integersItems items

def integersMembers : List (Str × Json) → List Int
  | [] => []
  | (_, v) :: members => integers v ++ integersMembers members

end

instance (py : Interpreter) (n : Int) : Decidable (py.reads n) := inferInstanceAs (Decidable (_ ∨ _))

/-- `json.dumps(value)`. An integer with too many digits is a `ValueError`. -/
def dumpsChecked (py : Interpreter) (layout : Layout) (value : Json) : Option Str :=
  if ∀ n ∈ integers value, py.reads n then some (dumps py layout value) else none

/-! ## Access -/

inductive AccessError where
  | keyError (key : Str)
  | typeError
  deriving DecidableEq

namespace Json

/-- `value[key]` -/
def item (value : Json) (key : Str) : Except AccessError Json :=
  match value with
  | .obj members => match members.lookup key with
    | some v => .ok v
    | none => .error (.keyError key)
  | _ => .error .typeError

/-- `value.get(key, default)` -/
def get (value : Json) (key : Str) (default : Json) : Except AccessError Json :=
  match value with
  | .obj members => .ok ((members.lookup key).getD default)
  | _ => .error .typeError

/-- A value of a field that is a `str`. -/
def text : Json → Except AccessError Str
  | .str s => .ok s
  | _ => .error .typeError

def number : Json → Except AccessError Int
  | .int n => .ok n
  | _ => .error .typeError

def optionalText : Json → Except AccessError (Option Str)
  | .null => .ok none
  | .str s => .ok (some s)
  | _ => .error .typeError

def list : Json → Except AccessError (List Json)
  | .arr items => .ok items
  | _ => .error .typeError

def ofOption : Option Str → Json
  | none => .null
  | some s => .str s

/-- `value.get(key)`, of a field that may be `None`. -/
def optionalItem (value : Json) (key : Str) : Except AccessError (Option Str) := do
  (← value.get key .null).optionalText

def textItem (value : Json) (key : Str) : Except AccessError Str := do (← value.item key).text

theorem optionalItem_eq {value : Json} {key : Str} {s : Option Str} (h : value.get key .null = .ok (ofOption s)) :
    value.optionalItem key = .ok s := by
  unfold optionalItem
  rw [h]
  cases s <;> rfl

end Json

theorem forall_reduceOption {α : Type} {P : α → Prop} (fields : List (Option α)) :
    (∀ s ∈ fields.reduceOption, P s) ↔ ∀ f ∈ fields, ∀ s ∈ f, P s := by
  simp only [List.reduceOption_mem_iff]
  constructor
  · rintro h f hf s rfl
    exact h s hf
  · intro h s hs
    exact h _ hs s rfl

theorem integersItems_eq (items : List Json) : integersItems items = items.flatMap integers := by
  induction items with
  | nil => rw [integersItems, List.flatMap_nil]
  | cons v items ih => rw [integersItems, ih, List.flatMap_cons]

/-! ## Reading back -/

/-- A document that can be written, and that comes back as it was. -/
structure Rereadable (py : Interpreter) (room : Nat) (v : Json) : Prop where
  readable : Readable py room v
  keys : NoRepeatedKeys v
  joined : joined v = v

namespace Rereadable

variable {py : Interpreter} {room : Nat}

theorem null : Rereadable py room .null := ⟨.null room, noRepeatedKeys_scalar _ (by simp) (by simp), rfl⟩

theorem int {n : Int} (h : py.reads n) : Rereadable py room (.int n) :=
  ⟨.int room n h, noRepeatedKeys_scalar _ (by simp) (by simp), rfl⟩

theorem str {s : Str} (h : hasSurrogatePair s = false) : Rereadable py room (.str s) :=
  ⟨.str room s, noRepeatedKeys_scalar _ (by simp) (by simp), by rw [Python.joined, joinSurrogates_eq s h]⟩

theorem ofOption {s : Option Str} (h : ∀ t ∈ s, hasSurrogatePair t = false) : Rereadable py room (.ofOption s) := by
  cases s with
  | none => exact null
  | some t => exact str (h t rfl)

theorem arr {items : List Json} (h : ∀ v ∈ items, Rereadable py room v) : Rereadable py (room + 1) (.arr items) := by
  refine ⟨.arr room items fun v hv => (h v hv).readable, ?_, ?_⟩
  · rw [noRepeatedKeys_arr]
    exact fun v hv => (h v hv).keys
  · rw [Python.joined, joinedItems_eq, Json.arr.injEq]
    exact (List.map_congr_left fun v hv => (h v hv).joined).trans (List.map_id _)

theorem arrMap {α : Type} {f : α → Json} {items : List α} (h : ∀ a ∈ items, Rereadable py room (f a)) :
    Rereadable py (room + 1) (.arr (items.map f)) :=
  arr (List.forall_mem_map.mpr h)

theorem obj {members : List (Str × Json)} (hn : (members.map Prod.fst).Nodup)
    (hkeys : ∀ k ∈ members.map Prod.fst, asciiText k) (h : ∀ m ∈ members, Rereadable py room m.2) :
    Rereadable py (room + 1) (.obj members) := by
  refine ⟨.obj room members fun m hm => (h m hm).readable, ?_, ?_⟩
  · rw [noRepeatedKeys_obj]
    exact ⟨hn, fun m hm => (h m hm).keys⟩
  · rw [Python.joined, joinedMembers_eq, Json.obj.injEq]
    refine (List.map_congr_left fun m hm => ?_).trans (List.map_id _)
    have hkey := no_pair_of_ascii _ (hkeys m.1 (List.mem_map_of_mem hm))
    rw [joinSurrogates_eq _ hkey, (h m hm).joined]
    rfl

theorem mono {room' : Nat} {v : Json} (h : Rereadable py room v) (hle : room ≤ room') : Rereadable py room' v :=
  ⟨h.readable.mono hle, h.keys, h.joined⟩

end Rereadable

theorem asDict_nodup (members : List (Str × Json)) (h : (members.map Prod.fst).Nodup) :
    asDict members = .ok (.obj members) := by
  unfold asDict Dict.values
  rw [Dict.setAll_entries _ _ h, List.map_map]
  exact congrArg (fun l => Except.ok (Json.obj l)) (List.map_id members)

theorem applyHookItems_same {ε : Type} (hook : List (Str × Json) → Except ε Json) (items : List Json)
    (h : ∀ v ∈ items, applyHook hook v = .ok v) : applyHookItems hook items = .ok items := by
  induction items with
  | nil => rw [applyHookItems]
  | cons v items ih =>
    rw [List.forall_mem_cons] at h
    rw [applyHookItems, h.1, ih h.2]
    rfl

theorem applyHookMembers_same {ε : Type} (hook : List (Str × Json) → Except ε Json) (members : List (Str × Json))
    (h : ∀ m ∈ members, applyHook hook m.2 = .ok m.2) : applyHookMembers hook members = .ok members := by
  induction members with
  | nil => rw [applyHookMembers]
  | cons m members ih =>
    rw [List.forall_mem_cons] at h
    rw [applyHookMembers, h.1, ih h.2]
    rfl

theorem applyHook_asDict (v : Json) (h : NoRepeatedKeys v) : applyHook asDict v = .ok v := by
  induction v using Json.induction with
  | scalar v hi hm =>
    cases v with
    | arr items => exact absurd rfl (hi items)
    | obj ms => exact absurd rfl (hm ms)
    | _ => rw [applyHook] <;> simp
  | arr items ih =>
    rw [noRepeatedKeys_arr] at h
    rw [applyHook, applyHookItems_same asDict items fun v hv => ih v hv (h v hv)]
    rfl
  | obj ms ih =>
    rw [noRepeatedKeys_obj] at h
    rw [applyHook, applyHookMembers_same asDict ms fun m hm => ih m hm (h.2 m hm), ok_bind]
    exact asDict_nodup ms h.1

theorem loadsDict_dumps {py : Interpreter} {v : Json} (h : Rereadable py py.nesting v) (layout : Layout) :
    loadsDict py (dumps py layout v) = .ok v := by
  have hread := readDocument_dumps py layout h.readable [] (by simp)
  rw [List.append_nil, h.joined] at hread
  unfold loadsDict
  rw [loads_hook py asDict _ v hread, applyHook_asDict v h.keys]
  rfl

end Python
