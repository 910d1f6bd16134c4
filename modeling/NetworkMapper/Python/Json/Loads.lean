import NetworkMapper.Python.Json.Value
import NetworkMapper.Python.Raising

/-!
# `json.loads`

A machine that takes one code point at a time. The stack holds the arrays and
objects that are open. `hook` is the `object_pairs_hook`, called at each `}`.
-/

namespace Python

/-- What `json.loads` raises. Only the first is a `JSONDecodeError`. -/
inductive LoadError (ε : Type) where
  | jsonDecodeError
  | valueError
  | recursionError
  | hook (e : ε)
  deriving DecidableEq

/-- An open array, or an open object at the value of a key. -/
inductive Frame where
  | array (items : List Json)
  | member (members : List (Str × Json)) (key : Str)

/-- Inside a string. `high` is an escaped high surrogate that ends just here. -/
inductive Escape where
  | plain (high : Option CodePoint)
  | backslash (high : Option CodePoint)
  | hex (high : Option CodePoint) (digits value : Nat)

inductive Scan where
  | value
  | firstItem
  | firstKey
  | key (members : List (Str × Json))
  | colon (members : List (Str × Json)) (key : Str)
  /-- A string that is a key when it comes with the members before it. -/
  | string (members : Option (List (Str × Json))) (chars : Str) (escape : Escape)
  | number (text : Str)
  | literal (rest : Str) (value : Json)
  | done (value : Json)

structure LoadState where
  stack : List Frame
  scan : Scan

/-! ## Strings -/

def hexValue (c : CodePoint) : Option Nat :=
  if 48 ≤ c.val ∧ c.val ≤ 57 then some (c.val - 48)
  else if 97 ≤ c.val ∧ c.val ≤ 102 then some (c.val - 87)
  else if 65 ≤ c.val ∧ c.val ≤ 70 then some (c.val - 55)
  else none

def unescape (c : CodePoint) : Option CodePoint :=
  if c = ch '"' ∨ c = ch '\\' ∨ c = ch '/' then some c
  else if c = ch 'b' then some (codePoint 8)
  else if c = ch 'f' then some (codePoint 12)
  else if c = ch 'n' then some (codePoint 10)
  else if c = ch 'r' then some (codePoint 13)
  else if c = ch 't' then some (codePoint 9)
  else none

def joinPair (high low : CodePoint) : CodePoint :=
  codePoint (0x10000 + (high.val - 0xD800) * 1024 + (low.val - 0xDC00))

/-- The text and the open high surrogate after one `\uXXXX`. -/
def afterEscape (chars : Str) (high : Option CodePoint) (c : CodePoint) : Str × Option CodePoint :=
  match high with
  | some h =>
    if isLowSurrogate c then (chars ++ [joinPair h c], none)
    else if isHighSurrogate c then (chars ++ [h], some c)
    else (chars ++ [h, c], none)
  | none => if isHighSurrogate c then (chars, some c) else (chars ++ [c], none)

def finishString (stack : List Frame) (members : Option (List (Str × Json))) (s : Str) : LoadState :=
  match members with
  | none => ⟨stack, .done (.str s)⟩
  | some members => ⟨stack, .colon members s⟩

/-! ## Numbers -/

def isDigit (c : CodePoint) : Bool := 48 ≤ c.val ∧ c.val ≤ 57

def isNumberChar (c : CodePoint) : Bool :=
  isDigit c ∨ c = ch '+' ∨ c = ch '-' ∨ c = ch '.' ∨ c = ch 'e' ∨ c = ch 'E'

/-- `-?` -/
def matchSign (s : Str) : Str × Str :=
  match s with
  | [] => ([], [])
  | c :: rest => if c = ch '-' then ([c], rest) else ([], c :: rest)

/-- `0|[1-9]\d*` -/
def matchInteger (s : Str) : Option (Str × Str) :=
  match s with
  | [] => none
  | c :: rest =>
    if c = ch '0' then some ([c], rest)
    else if isDigit c then some (c :: rest.takeWhile isDigit, rest.dropWhile isDigit)
    else none

/-- `(\.\d+)?` -/
def matchFraction (s : Str) : Str × Str :=
  match s with
  | c :: d :: rest =>
    if c = ch '.' ∧ isDigit d then (c :: d :: rest.takeWhile isDigit, rest.dropWhile isDigit)
    else ([], c :: d :: rest)
  | s => ([], s)

/-- `([eE][-+]?\d+)?` -/
def matchExponent (s : Str) : Str × Str :=
  match s with
  | [] => ([], [])
  | c :: rest =>
    let sign := rest.takeWhile fun x => x = ch '-' ∨ x = ch '+'
    let digits := (rest.drop sign.length).takeWhile isDigit
    if (c = ch 'e' ∨ c = ch 'E') ∧ sign.length ≤ 1 ∧ digits ≠ [] then
      (c :: sign ++ digits, rest.drop (sign.length + digits.length))
    else ([], c :: rest)

def digitsValue (s : Str) : Nat := s.foldl (fun n c => 10 * n + (c.val - 48)) 0

section Loads

variable {ε : Type} (py : Interpreter)

/-- `int` has a limit on digits. What follows the longest match is not JSON. -/
def finishNumber (text : Str) : Except (LoadError ε) Json :=
  let (sign, s) := matchSign text
  match matchInteger s with
  | none => .error .jsonDecodeError
  | some (integer, s) =>
    let (fraction, s) := matchFraction s
    let (exponent, s) := matchExponent s
    if fraction ++ exponent = [] then
      if py.intMaxStrDigits ≠ 0 ∧ py.intMaxStrDigits < integer.length then .error .valueError
      else if s ≠ [] then .error .jsonDecodeError
      else .ok (.int (if sign = [] then digitsValue integer else -digitsValue integer))
    else if s ≠ [] then .error .jsonDecodeError
    else .ok (.float (sign ++ integer ++ fraction ++ exponent))

/-! ## One code point -/

variable (hook : List (Str × Json) → Except ε Json)

def openContainer (stack : List Frame) (next : LoadState) : Except (LoadError ε) LoadState :=
  if stack.length < py.nesting then .ok next else .error .recursionError

def closeObject (stack : List Frame) (members : List (Str × Json)) : Except (LoadError ε) LoadState :=
  match hook members with
  | .ok v => .ok ⟨stack, .done v⟩
  | .error e => .error (.hook e)

def startScalar (c : CodePoint) : Option Scan :=
  if c = ch '"' then some (.string none [] (.plain none))
  else if c = ch 'n' then some (.literal (str "ull") .null)
  else if c = ch 't' then some (.literal (str "rue") (.bool true))
  else if c = ch 'f' then some (.literal (str "alse") (.bool false))
  else if c = ch 'N' then some (.literal (str "aN") (.float (str "NaN")))
  else if c = ch 'I' then some (.literal (str "nfinity") (.float (str "Infinity")))
  else if c = ch '-' ∨ isDigit c then some (.number [c])
  else none

def startValue (stack : List Frame) (c : CodePoint) : Except (LoadError ε) LoadState :=
  if c = ch '{' then openContainer py stack ⟨stack, .firstKey⟩
  else if c = ch '[' then openContainer py stack ⟨stack, .firstItem⟩
  else
    match startScalar c with
    | some scan => .ok ⟨stack, scan⟩
    | none => .error .jsonDecodeError

def startKey (stack : List Frame) (members : List (Str × Json)) (c : CodePoint) :
    Except (LoadError ε) LoadState :=
  if c = ch '"' then .ok ⟨stack, .string (some members) [] (.plain none)⟩ else .error .jsonDecodeError

def stepString (stack : List Frame) (members : Option (List (Str × Json))) (chars : Str) (escape : Escape)
    (c : CodePoint) : Except (LoadError ε) LoadState :=
  match escape with
  | .plain high =>
    if c = ch '\\' then .ok ⟨stack, .string members chars (.backslash high)⟩
    else if c = ch '"' then .ok (finishString stack members (chars ++ high.toList))
    else if c.val < 32 then .error .jsonDecodeError
    else .ok ⟨stack, .string members (chars ++ high.toList ++ [c]) (.plain none)⟩
  | .backslash high =>
    if c = ch 'u' then .ok ⟨stack, .string members chars (.hex high 4 0)⟩
    else
      match unescape c with
      | some e => .ok ⟨stack, .string members (chars ++ high.toList ++ [e]) (.plain none)⟩
      | none => .error .jsonDecodeError
  | .hex high digits value =>
    match hexValue c with
    | none => .error .jsonDecodeError
    | some d =>
      if digits = 1 then
        let (chars, high) := afterEscape chars high (codePoint (16 * value + d))
        .ok ⟨stack, .string members chars (.plain high)⟩
      else .ok ⟨stack, .string members chars (.hex high (digits - 1) (16 * value + d))⟩

def stepDone (stack : List Frame) (v : Json) (c : CodePoint) : Except (LoadError ε) LoadState :=
  if isWhitespace c then .ok ⟨stack, .done v⟩
  else
    match stack with
    | [] => .error .jsonDecodeError
    | .array items :: stack =>
      if c = ch ',' then .ok ⟨.array (items ++ [v]) :: stack, .value⟩
      else if c = ch ']' then .ok ⟨stack, .done (.arr (items ++ [v]))⟩
      else .error .jsonDecodeError
    | .member members key :: stack =>
      if c = ch ',' then .ok ⟨stack, .key (members ++ [(key, v)])⟩
      else if c = ch '}' then closeObject hook stack (members ++ [(key, v)])
      else .error .jsonDecodeError

def stepNumber (stack : List Frame) (text : Str) (c : CodePoint) : Except (LoadError ε) LoadState :=
  if isNumberChar c then .ok ⟨stack, .number (text ++ [c])⟩
  else if text = [ch '-'] ∧ c = ch 'I' then .ok ⟨stack, .literal (str "nfinity") (.float (str "-Infinity"))⟩
  else do
    let v ← finishNumber py text
    stepDone hook stack v c

def stepLiteral (stack : List Frame) (rest : Str) (v : Json) (c : CodePoint) : Except (LoadError ε) LoadState :=
  if rest.head? ≠ some c then .error .jsonDecodeError
  else if rest.tail = [] then .ok ⟨stack, .done v⟩
  else .ok ⟨stack, .literal rest.tail v⟩

def LoadState.step (σ : LoadState) (c : CodePoint) : Except (LoadError ε) LoadState :=
  match σ.scan with
  | .value => if isWhitespace c then .ok σ else startValue py σ.stack c
  | .firstItem =>
    if isWhitespace c then .ok σ
    else if c = ch ']' then .ok ⟨σ.stack, .done (.arr [])⟩
    else startValue py (.array [] :: σ.stack) c
  | .firstKey =>
    if isWhitespace c then .ok σ
    else if c = ch '}' then closeObject hook σ.stack []
    else startKey σ.stack [] c
  | .key members => if isWhitespace c then .ok σ else startKey σ.stack members c
  | .colon members key =>
    if isWhitespace c then .ok σ
    else if c = ch ':' then .ok ⟨.member members key :: σ.stack, .value⟩
    else .error .jsonDecodeError
  | .string members chars escape => stepString σ.stack members chars escape c
  | .number text => stepNumber py hook σ.stack text c
  | .literal rest v => stepLiteral σ.stack rest v c
  | .done v => stepDone hook σ.stack v c

/-! ## The whole text -/

def LoadState.run (σ : LoadState) (text : Str) : Except (LoadError ε) LoadState :=
  text.foldlM (LoadState.step py hook) σ

/-- A number that the text ends with is converted before an open bracket is missed. -/
def LoadState.finish (σ : LoadState) : Except (LoadError ε) Json :=
  match σ.stack, σ.scan with
  | [], .number text => finishNumber py text
  | _ :: _, .number text => do
    let _ ← finishNumber (ε := ε) py text
    .error .jsonDecodeError
  | [], .done v => .ok v
  | _, _ => .error .jsonDecodeError

def loads (text : Str) : Except (LoadError ε) Json := do
  let σ ← LoadState.run py hook ⟨[], .value⟩ text
  σ.finish py

end Loads

def keepPairs (members : List (Str × Json)) : Except Empty Json := .ok (.obj members)

/-- `json.loads` before any hook. -/
def readDocument (py : Interpreter) (text : Str) : Except (LoadError Empty) Json := loads py keepPairs text

@[simp]
theorem run_nil {ε : Type} (py : Interpreter) (hook : List (Str × Json) → Except ε Json) (σ : LoadState) :
    LoadState.run py hook σ [] = .ok σ := rfl

@[simp]
theorem run_cons {ε : Type} (py : Interpreter) (hook : List (Str × Json) → Except ε Json) (σ : LoadState)
    (c : CodePoint) (text : Str) :
    LoadState.run py hook σ (c :: text) =
      LoadState.step py hook σ c >>= fun τ => LoadState.run py hook τ text := rfl

theorem run_append {ε : Type} (py : Interpreter) (hook : List (Str × Json) → Except ε Json) (σ : LoadState)
    (s t : Str) :
    LoadState.run py hook σ (s ++ t) =
      LoadState.run py hook σ s >>= fun τ => LoadState.run py hook τ t :=
  List.foldlM_append

end Python
