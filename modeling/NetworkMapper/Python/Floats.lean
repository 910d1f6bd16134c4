import NetworkMapper.Python.Text

/-! # `float`, on the `repr` of its values -/

namespace Python

structure Floats where
  /-- `m / n` of two integers. -/
  div : Int → Int → Str
  /-- `x * n` -/
  mul : Str → Int → Str
  /-- `x - y` -/
  sub : Str → Str → Str
  /-- `float(n)`, `none` for an `OverflowError`. -/
  ofInt : Int → Option Str
  /-- `float(text)`, `none` for a `ValueError`. -/
  ofText : Str → Option Str
  /-- `int(x)`, `none` for what is not finite. -/
  toInt : Str → Option Int

def zeroFloat : Str := str "0.0"

end Python
