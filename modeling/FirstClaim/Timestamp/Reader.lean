import FirstClaim.Timestamp
import FirstClaim.Unicode.Property

/-!
# Reading points in time

`Timestamp.parse` reads a date and a time as RFC 3339 says and a little beyond: numbers may have
fewer digits than they should and blanks before them, years may have a sign and any number of
digits, and there may be blanks around the offset.
-/

set_option autoImplicit false

namespace FirstClaim

/-- Why a text is no point in time. -/
inductive TimestampError where
  | outOfRange
  | impossible
  | invalid
  | tooShort
  | tooLong
deriving DecidableEq, Repr

def TimestampError.message : TimestampError → String
  | outOfRange => "input is out of range"
  | impossible => "no possible date and time matching input"
  | invalid => "input contains invalid characters"
  | tooShort => "premature end of input"
  | tooLong => "trailing input"

namespace Timestamp

/-- What is read from a text, and the rest of it. -/
abbrev Read (α : Type) := List Char → Except TimestampError (α × List Char)

/-! ## Numbers -/

def dropBlanks (cs : List Char) : List Char :=
  cs.dropWhile Unicode.isBlank

/-- The number that decimal digits stand for. -/
def digitsValue (digits : List Char) : Nat :=
  digits.foldl (fun n c => n * 10 + (c.toNat - '0'.toNat)) 0

/-- The error for a text that goes on in another way than it should. -/
def unexpected (cs : List Char) : TimestampError :=
  if cs.isEmpty then .tooShort else .invalid

def readDigits (cs : List Char) : Except TimestampError (List Char × List Char) :=
  let digits := cs.takeWhile Char.isDigit
  if digits.isEmpty then .error (unexpected cs) else .ok (digits, cs.drop digits.length)

/-- Reads a number of at most `width` digits. -/
def readNumber (width : Nat) : Read Nat := fun cs => do
  let (digits, _) ← readDigits cs
  let digits := digits.take width
  .ok (digitsValue digits, cs.drop digits.length)

/-- Reads a number of one or two digits behind blanks, with bounds. -/
def readField (low high : Nat) : Read Nat := fun cs => do
  let (n, cs) ← readNumber 2 (dropBlanks cs)
  if low ≤ n ∧ n ≤ high then .ok (n, cs) else .error .outOfRange

def readYear : Read Int := fun cs => do
  let bounded (year : Int) (cs : List Char) : Except TimestampError (Int × List Char) :=
    if -(Nat.pow 2 31 : Int) ≤ year ∧ year < Nat.pow 2 31 then .ok (year, cs)
    else .error .outOfRange
  match dropBlanks cs with
  | '-' :: cs => do
    let (digits, cs) ← readDigits cs
    bounded (-digitsValue digits) cs
  | '+' :: cs => do
    let (digits, cs) ← readDigits cs
    bounded (digitsValue digits) cs
  | cs => do
    let (n, cs) ← readNumber 4 cs
    bounded n cs

/-- Passes over a sign, with blanks before it. -/
def readSign (sign : Char) (cs : List Char) : Except TimestampError (List Char) :=
  match dropBlanks cs with
  | c :: cs => if c = sign then .ok cs else .error .invalid
  | [] => .error .tooShort

/-! ## Parts -/

def readDate : Read (Int × Nat × Nat) := fun cs => do
  let (year, cs) ← readYear cs
  let (month, cs) ← readField 1 12 (← readSign '-' cs)
  let (day, cs) ← readField 1 31 (← readSign '-' cs)
  .ok ((year, month, day), cs)

/-- Passes over what stands between the date and the time. -/
def readSeparator : List Char → Except TimestampError (List Char)
  | [] => .error .tooShort
  | c :: cs => if c = 't' || c = 'T' || c = ' ' then .ok cs else .error .invalid

/-- Reads the decimals of a second as nanoseconds; those behind the ninth do not count. -/
def readFraction : Read Nat := fun cs =>
  match cs with
  | '.' :: cs => do
    let (digits, cs) ← readDigits cs
    let counted := digits.take 9
    .ok (digitsValue counted * Nat.pow 10 (9 - counted.length), cs)
  | cs => .ok (0, cs)

def readTime : Read (Nat × Nat × Nat × Nat) := fun cs => do
  let (hour, cs) ← readField 0 23 cs
  let (minute, cs) ← readField 0 59 (← readSign ':' cs)
  let (second, cs) ← readField 0 60 (← readSign ':' cs)
  let (nanosecond, cs) ← readFraction cs
  .ok ((hour, minute, second, nanosecond), cs)

/-- Reads two digits, the first of which is at most `highest`. -/
def readPair (highest : Char) : Read Nat := fun cs =>
  if (String.ofList cs).utf8ByteSize < 2 then .error .tooShort
  else
    match cs with
    | c :: d :: rest =>
      if c.isDigit && d.isDigit then
        if c ≤ highest then .ok (digitsValue [c, d], rest) else .error .outOfRange
      else .error .invalid
    | _ => .error .invalid

/-- Reads the hours and minutes of an offset as minutes, with colons or blanks between them. -/
def readOffsetMinutes : Read Nat := fun cs => do
  let (hours, cs) ← readPair '9' cs
  let (minutes, cs) ← readPair '5' (cs.dropWhile fun c => c = ':' || Unicode.isBlank c)
  .ok (hours * 60 + minutes, cs)

def readOffset : Read Int := fun cs =>
  if (cs.take 3).map Char.toUpper = ['U', 'T', 'C'] then .ok (0, cs.drop 3)
  else
    match cs with
    | [] => .error .tooShort
    | c :: cs =>
      if c = 'Z' || c = 'z' then .ok (0, cs)
      else if c = '+' then do
        let (n, cs) ← readOffsetMinutes cs
        .ok (n, cs)
      else if c = '-' || c = '\u2212' then do
        let (n, cs) ← readOffsetMinutes cs
        .ok (-(n : Int), cs)
      else .error .invalid

/-! ## The whole -/

/-- The point in time of a local date and time with an offset in minutes. -/
def ofLocal (date : Date) (time : Time) (offset : Int) : Except TimestampError Timestamp :=
  if offset.natAbs < 24 * 60 then
    let minutes : Int := time.hour * 60 + time.minute - offset
    let day? := if minutes < 0 then date.previous?
      else if minutes < 24 * 60 then some date else date.next?
    let minutes := (minutes % (24 * 60)).toNat
    match day?, Time.of? (minutes / 60) (minutes % 60) time.second time.nanosecond with
    | some date, some time => .ok ⟨date, time⟩
    | _, _ => .error .impossible
  else .error .outOfRange

def parse (text : String) : Except TimestampError Timestamp := do
  let ((year, month, day), cs) ← readDate text.toList
  let ((hour, minute, second, nanosecond), cs) ← readTime (← readSeparator cs)
  let (offset, cs) ← readOffset (dropBlanks cs)
  if dropBlanks cs ≠ [] then .error .tooLong
  else
    match Date.of? year month day, Time.of? hour minute second nanosecond with
    | some date, some time => ofLocal date time offset
    | _, _ => .error .outOfRange

end Timestamp

end FirstClaim
