import NetworkMapper.Python.Utf8

/-! # The settings and the functions of the interpreter that stay abstract -/

namespace Python

structure Interpreter where
  /-- `sys.get_int_max_str_digits()`. Zero is no limit. -/
  intMaxStrDigits : Nat
  /-- The arrays and objects of a document that can be open before the recursion limit is met. One bound for both
  is an idealisation: the limit counts frames, and the stack that is left is the caller's. -/
  nesting : Nat
  /-- `csv.field_size_limit()` -/
  csvFieldLimit : Nat
  /-- `repr(float(literal))` -/
  floatRepr : Str → Str
  /-- `str.title` -/
  title : Str → Str
  /-- The text of the `JSONDecodeError` for a document. -/
  jsonErrorText : Str → Str
  /-- The text of the `UnicodeDecodeError` for a file. -/
  unicodeErrorText : Bytes → Str
  digits_valid : intMaxStrDigits = 0 ∨ 640 ≤ intMaxStrDigits
  nesting_valid : 16 ≤ nesting

def cpython : Interpreter where
  intMaxStrDigits := 4300
  nesting := 900
  csvFieldLimit := 131072
  floatRepr literal := literal
  title s := s
  jsonErrorText _ := str "Expecting value"
  unicodeErrorText _ := str "invalid start byte"
  digits_valid := Or.inr (by decide)
  nesting_valid := by decide

end Python
