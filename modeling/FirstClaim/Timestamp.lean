/-!
# Points in time

A `Timestamp` is a day of the calendar and a time of that day, to the nanosecond and without any
offset. `Timestamp.text` writes it as RFC 3339 says, with no more decimals than are needed in groups
of three.
-/

set_option autoImplicit false

namespace FirstClaim

/-! ## Days -/

def isLeapYear (year : Int) : Bool :=
  year % 4 == 0 && (year % 100 != 0 || year % 400 == 0)

def daysInMonth (year : Int) (month : Nat) : Nat :=
  match month with
  | 2 => if isLeapYear year then 29 else 28
  | 4 | 6 | 9 | 11 => 30
  | _ => 31

/-- A day of the calendar. -/
structure Date where
  year : Int
  month : Nat
  day : Nat
  year_bounds : -262143 ≤ year ∧ year ≤ 262142
  month_bounds : 1 ≤ month ∧ month ≤ 12
  day_bounds : 1 ≤ day ∧ day ≤ daysInMonth year month
deriving DecidableEq, Repr

namespace Date

/-- The day of a year, a month and a day, if there is one. -/
def of? (year : Int) (month day : Nat) : Option Date :=
  if hy : -262143 ≤ year ∧ year ≤ 262142 then
    if hm : 1 ≤ month ∧ month ≤ 12 then
      if hd : 1 ≤ day ∧ day ≤ daysInMonth year month then some ⟨year, month, day, hy, hm, hd⟩
      else none
    else none
  else none

def next? (d : Date) : Option Date :=
  of? d.year d.month (d.day + 1) <|> of? d.year (d.month + 1) 1 <|> of? (d.year + 1) 1 1

def previous? (d : Date) : Option Date :=
  of? d.year d.month (d.day - 1) <|>
    of? d.year (d.month - 1) (daysInMonth d.year (d.month - 1)) <|> of? (d.year - 1) 12 31

end Date

/-! ## Times -/

/-- A time of a day. A second in front of a new minute may be the 60th. -/
structure Time where
  hour : Fin 24
  minute : Fin 60
  second : Fin 61
  nanosecond : Fin 1000000000
deriving DecidableEq, Repr

/-- The time of an hour, a minute, a second and a fraction of it in nanoseconds, if there is one. -/
def Time.of? (hour minute second nanosecond : Nat) : Option Time :=
  if hh : hour < 24 then
    if hm : minute < 60 then
      if hs : second < 61 then
        if hn : nanosecond < 1000000000 then some ⟨⟨hour, hh⟩, ⟨minute, hm⟩, ⟨second, hs⟩, ⟨_, hn⟩⟩
        else none
      else none
    else none
  else none

/-- A point in time. -/
structure Timestamp where
  date : Date
  time : Time
deriving DecidableEq, Repr

/-! ## Text -/

def paddedDigits (width n : Nat) : List Char :=
  let digits := Nat.toDigits 10 n
  List.replicate (width - digits.length) '0' ++ digits

/-- A year in four digits, or with a sign if it does not fit. -/
def yearText (year : Int) : List Char :=
  if year < 0 then '-' :: paddedDigits 4 year.natAbs
  else if year ≤ 9999 then paddedDigits 4 year.natAbs
  else '+' :: paddedDigits 4 year.natAbs

/-- The decimals of a second: none, three, six or nine. -/
def fractionText (nanosecond : Nat) : List Char :=
  if nanosecond = 0 then []
  else if nanosecond % 1000000 = 0 then '.' :: paddedDigits 3 (nanosecond / 1000000)
  else if nanosecond % 1000 = 0 then '.' :: paddedDigits 6 (nanosecond / 1000)
  else '.' :: paddedDigits 9 nanosecond

def Date.text (d : Date) : List Char :=
  yearText d.year ++ '-' :: paddedDigits 2 d.month ++ '-' :: paddedDigits 2 d.day

def Time.text (t : Time) : List Char :=
  paddedDigits 2 t.hour ++ ':' :: paddedDigits 2 t.minute ++ ':' :: paddedDigits 2 t.second ++
    fractionText t.nanosecond

/-- A point in time with `zone` for the missing offset. -/
def Timestamp.text (t : Timestamp) (zone : String) : String :=
  String.ofList (t.date.text ++ 'T' :: t.time.text ++ zone.toList)

/-- A point in time for people to read. -/
def Timestamp.plainText (t : Timestamp) : String :=
  String.ofList (t.date.text ++ ' ' :: t.time.text ++ " UTC".toList)

end FirstClaim
