import NetworkMapper.Python.Text
import Mathlib.Data.List.DropRight

/-! # The methods of `str` -/

namespace Python

/-- What depends on the tables of the Unicode database. -/
structure Unicode where
  lower : Str → Str
  upper : Str → Str
  repr : Str → Str
  lower_nil : lower [] = []

/-- The tables for ASCII text without quotes and control characters. -/
def ascii : Unicode where
  lower s := s.map fun c => if 65 ≤ c.val ∧ c.val ≤ 90 then codePoint (c.val + 32) else c
  upper s := s.map fun c => if 97 ≤ c.val ∧ c.val ≤ 122 then codePoint (c.val - 32) else c
  repr s := ch '\'' :: s ++ [ch '\'']
  lower_nil := rfl

/-- `c.isspace()` -/
def isSpace (c : CodePoint) : Bool :=
  (9 ≤ c.val ∧ c.val ≤ 13) ∨ (28 ≤ c.val ∧ c.val ≤ 32) ∨ c.val = 0x85 ∨ c.val = 0xA0 ∨ c.val = 0x1680 ∨
    (0x2000 ≤ c.val ∧ c.val ≤ 0x200A) ∨ c.val = 0x2028 ∨ c.val = 0x2029 ∨ c.val = 0x202F ∨ c.val = 0x205F ∨
    c.val = 0x3000

def strip (s : Str) : Str := (s.dropWhile isSpace).rdropWhile isSpace

example : strip (str " \t02:00:5E \n") = str "02:00:5E" := by decide

/-- `needle in s` -/
def contains (needle s : Str) : Bool := s.tails.any fun rest => needle.isPrefixOf rest

/-- `any(needle in s for needle in needles)` -/
def containsAny (needles : List Str) (s : Str) : Bool := needles.any fun needle => contains needle s

/-- `s.find(needle)`, where it is found. -/
def find (needle s : Str) : Option Nat := s.tails.findIdx? fun rest => needle.isPrefixOf rest

def isLineBreak (c : CodePoint) : Bool :=
  (10 ≤ c.val ∧ c.val ≤ 13) ∨ (28 ≤ c.val ∧ c.val ≤ 30) ∨ c.val = 0x85 ∨ c.val = 0x2028 ∨ c.val = 0x2029

/-- `s.splitlines()`, after the characters of a line. A line feed right after a carriage return is part of it. -/
def splitlinesFrom (afterReturn : Bool) (line : Str) : Str → List Str
  | [] => if line = [] then [] else [line]
  | c :: s =>
    if afterReturn ∧ c = ch '\n' then splitlinesFrom false line s
    else if isLineBreak c then line :: splitlinesFrom (c = ch '\r') [] s
    else splitlinesFrom false (line ++ [c]) s

def splitlines (s : Str) : List Str := splitlinesFrom false [] s

example : splitlines (str "OS: x\r\n\nDomain") = [str "OS: x", [], str "Domain"] := by decide

/-- The value that makes a condition true: there, and not empty. -/
def truthy : Option Str → Option Str
  | some [] => none
  | value => value

def isAsciiLetter (c : CodePoint) : Bool := (65 ≤ c.val ∧ c.val ≤ 90) ∨ (97 ≤ c.val ∧ c.val ≤ 122)

/-- `s.title()` of an ASCII text, after a letter or not. -/
def asciiTitle (afterLetter : Bool) : Str → Str
  | [] => []
  | c :: s => (if afterLetter then ascii.lower [c] else ascii.upper [c]) ++ asciiTitle (isAsciiLetter c) s

example : asciiTitle false (str "access point") = str "Access Point" := by decide

/-- `a or b` -/
def orElse (a b : Option Str) : Option Str := if (truthy a).isSome then a else b

def reprOptional (u : Unicode) : Option Str → Str
  | none => str "None"
  | some s => u.repr s

end Python
