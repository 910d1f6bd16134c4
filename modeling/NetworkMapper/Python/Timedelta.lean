import NetworkMapper.Python.DateTime
import NetworkMapper.Python.Floats

/-! # The difference of two naive `datetime`s, in microseconds -/

namespace Python

/-- The days before January 1st of a year, as `toordinal` counts them. -/
def daysBeforeYear (year : Nat) : Nat := (year - 1) * 365 + (year - 1) / 4 - (year - 1) / 100 + (year - 1) / 400

/-- The days of a year before the first of a month. -/
def daysBeforeMonth (year : Nat) : Nat → Nat
  | 0 | 1 => 0
  | month + 2 => daysBeforeMonth year (month + 1) + daysInMonth year (month + 1)

/-- The days of the calendar up to and with this one. -/
def DateTime.toordinal (d : DateTime) : Nat := daysBeforeYear d.year + daysBeforeMonth d.year d.month + d.day

/-- The microseconds of the calendar up to a naive `datetime`. -/
def DateTime.clock (d : DateTime) : Int :=
  ((((d.toordinal * 24 + d.hour) * 60 + d.minute) * 60 + d.second) * 1000000 + d.microsecond : Nat)

/-- `d - d'`, which a `timedelta` holds exactly. -/
def DateTime.since (d d' : DateTime) : Int := d.clock - d'.clock

/-- `total_seconds()` of a `timedelta`: one true division, so what it gives is rounded. -/
def totalSeconds (fl : Floats) (microseconds : Int) : Str := fl.div microseconds 1000000

end Python
