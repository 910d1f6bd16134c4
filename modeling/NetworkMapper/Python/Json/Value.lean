import NetworkMapper.Python.Sorted
import NetworkMapper.Python.Interpreter

/-!
# JSON documents and `json.dumps`

An object keeps its members as a list, in order and with its repeated keys.
-/

namespace Python

/-- A float is the literal that it was read from. -/
inductive Json where
  | null
  | bool (b : Bool)
  | int (n : Int)
  | float (literal : Str)
  | str (s : Str)
  | arr (items : List Json)
  | obj (members : List (Str × Json))

/-! ## Strings -/

def hexDigit (n : Nat) : CodePoint := codePoint (if n < 10 then 48 + n else 87 + n)

def unicodeEscape (n : Nat) : Str :=
  [ch '\\', ch 'u', hexDigit (n / 4096), hexDigit (n / 256 % 16), hexDigit (n / 16 % 16), hexDigit (n % 16)]

def shortEscape (c : CodePoint) : Option CodePoint :=
  if c = ch '\\' then some (ch '\\')
  else if c = ch '"' then some (ch '"')
  else if c.val = 8 then some (ch 'b')
  else if c.val = 12 then some (ch 'f')
  else if c.val = 10 then some (ch 'n')
  else if c.val = 13 then some (ch 'r')
  else if c.val = 9 then some (ch 't')
  else none

/-- One code point with `ensure_ascii`. Above U+FFFF it is a surrogate pair. -/
def escapeAscii (c : CodePoint) : Str :=
  match shortEscape c with
  | some e => [ch '\\', e]
  | none =>
    if 32 ≤ c.val ∧ c.val < 127 then [c]
    else if c.val < 0x10000 then unicodeEscape c.val
    else unicodeEscape (0xD800 + (c.val - 0x10000) / 1024) ++ unicodeEscape (0xDC00 + (c.val - 0x10000) % 1024)

/-- `py_encode_basestring_ascii` -/
def quote (s : Str) : Str := ch '"' :: s.flatMap escapeAscii ++ [ch '"']

/-! ## Numbers -/

def natRepr (n : Nat) : Str := (Nat.toDigits 10 n).map ch

def intRepr : Int → Str
  | .ofNat n => natRepr n
  | .negSucc n => ch '-' :: natRepr (n + 1)

/-! ## Layouts -/

def isWhitespace (c : CodePoint) : Bool := c = ch ' ' ∨ c = ch '\t' ∨ c = ch '\n' ∨ c = ch '\r'

/-- The `indent` and `separators` of an encoder: what starts a line at each level,
and what comes between the comma and that. -/
structure Layout where
  newline : Nat → Str
  gap : Str
  newline_blank : ∀ level, ∀ c ∈ newline level, isWhitespace c = true
  gap_blank : ∀ c ∈ gap, isWhitespace c = true

def compact : Layout where
  newline _ := []
  gap := [ch ' ']
  newline_blank := by simp
  gap_blank := List.forall_mem_singleton.mpr (by decide)

theorem newline_replicate_blank (n level : Nat) :
    ∀ c ∈ ch '\n' :: List.replicate (n * level) (ch ' '), isWhitespace c = true := by
  intro c hc
  rcases List.mem_cons.mp hc with rfl | hc
  · decide
  · rw [List.eq_of_mem_replicate hc]
    decide

def indent (n : Nat) : Layout where
  newline level := ch '\n' :: List.replicate (n * level) (ch ' ')
  gap := []
  newline_blank level := newline_replicate_blank n level
  gap_blank := by simp

/-! ## Writing -/

section Dumps

variable (py : Interpreter) (layout : Layout)

mutual

/-- `json.dumps(value)`, at a level of nesting. -/
def dumpsAt (level : Nat) : Json → Str
  | .null => str "null"
  | .bool true => str "true"
  | .bool false => str "false"
  | .int n => intRepr n
  | .float literal => py.floatRepr literal
  | .str s => quote s
  | .arr [] => str "[]"
  | .arr (v :: items) =>
    ch '[' :: layout.newline (level + 1) ++ dumpsAt (level + 1) v ++ dumpsItems (level + 1) items ++
      layout.newline level ++ [ch ']']
  | .obj [] => str "{}"
  | .obj ((k, v) :: members) =>
    ch '{' :: layout.newline (level + 1) ++ quote k ++ str ": " ++ dumpsAt (level + 1) v ++
      dumpsMembers (level + 1) members ++ layout.newline level ++ [ch '}']

def dumpsItems (level : Nat) : List Json → Str
  | [] => []
  | v :: items =>
    ch ',' :: layout.gap ++ layout.newline level ++ dumpsAt level v ++ dumpsItems level items

def dumpsMembers (level : Nat) : List (Str × Json) → Str
  | [] => []
  | (k, v) :: members =>
    ch ',' :: layout.gap ++ layout.newline level ++ quote k ++ str ": " ++ dumpsAt level v ++
      dumpsMembers level members

end

def dumps (value : Json) : Str := dumpsAt py layout 0 value

end Dumps

/-! ## `sort_keys=True` -/

mutual

/-- The document with the members of each object in the order of their keys. -/
def sortKeys : Json → Json
  | .arr items => .arr (sortKeysItems items)
  | .obj members => .obj (sortedBy Prod.fst (sortKeysMembers members))
  | v => v

def sortKeysItems : List Json → List Json
  | [] => []
  | v :: items => sortKeys v :: sortKeysItems items

def sortKeysMembers : List (Str × Json) → List (Str × Json)
  | [] => []
  | (k, v) :: members => (k, sortKeys v) :: sortKeysMembers members

end

theorem sortKeysItems_eq (items : List Json) : sortKeysItems items = items.map sortKeys := by
  induction items with
  | nil => simp [sortKeysItems]
  | cons v items ih => simp [sortKeysItems, ih]

theorem sortKeysMembers_eq (members : List (Str × Json)) :
    sortKeysMembers members = members.map fun m => (m.1, sortKeys m.2) := by
  induction members with
  | nil => simp [sortKeysMembers]
  | cons m members ih => simp [sortKeysMembers, ih]

end Python
