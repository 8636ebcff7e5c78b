import FirstClaim.Timestamp

/-!
# Clock readings

Clocks count from the first moment of the year 1970. `Timestamp.ofNanoseconds?` turns such a count
into a day and a time. Days are counted in periods of 400 years that begin with a March, so that the
29th of February is the last day of its year.
-/

set_option autoImplicit false

namespace FirstClaim

def daysInPeriod : Int :=
  146097

/-- The days from 1 March of the year 0 to 1 January 1970. -/
def daysBeforeClock : Int :=
  719468

/-- The day that comes some days after 1 January 1970. -/
def Date.ofDays? (days : Int) : Option Date :=
  let days := days + daysBeforeClock
  let inPeriod := days % daysInPeriod
  let year := (inPeriod - inPeriod / 1460 + inPeriod / 36524 - inPeriod / 146096) / 365
  let inYear := inPeriod - (365 * year + year / 4 - year / 100)
  let month := (5 * inYear + 2) / 153
  let day := inYear - (153 * month + 2) / 5 + 1
  let year := year + 400 * (days / daysInPeriod)
  if month < 10 then of? year (month + 3).toNat day.toNat
  else of? (year + 1) (month - 9).toNat day.toNat

/-- The point in time that comes some nanoseconds after the beginning of the year 1970. -/
def Timestamp.ofNanoseconds? (n : Int) : Option Timestamp := do
  let seconds := n / 1000000000
  let inDay := (seconds % 86400).toNat
  let date ← Date.ofDays? (seconds / 86400)
  let time ← Time.of? (inDay / 3600) (inDay / 60 % 60) (inDay % 60) (n % 1000000000).toNat
  some ⟨date, time⟩

end FirstClaim
