import FirstClaim.Decimal.Shortest
import FirstClaim.Json.Cursor

/-!
# Numbers in a JSON file

No member of a record is a number. A number in the place of something else is read in order to name
it (`readNumber`); a number in a value that is passed over is only checked (`skipNumber`).
-/

set_option autoImplicit false

namespace FirstClaim.Json

/-- How floating-point numbers are written in an error. -/
def floatStyle : Decimal.FloatStyle :=
  ⟨fun e => -5 ≤ e && e ≤ 15, "+", true⟩

/-- The greatest whole number that is kept exactly. -/
def maxWhole : Nat := Nat.pow 2 64 - 1

def maxExponent : Nat := Nat.pow 2 31 - 1

/-- The number that `n` becomes when decimal digits are put behind it as long as it stays within
`limit`, and how many digits were put there. -/
def appendDigits (limit : Nat) : Nat → List Char → Nat × Nat
  | n, [] => (n, 0)
  | n, d :: ds =>
    let m := 10 * n + (d.toNat - '0'.toNat)
    if limit < m then (n, 0)
    else
      let (r, k) := appendDigits limit m ds
      (r, k + 1)

/-- Divides by `10 ^ 308` as long as the exponent is too low for a single division. The first
argument bounds the divisions. -/
def lowerExponent : Nat → Float → Int → Float × Int
  | 0, x, e => (x, e)
  | n + 1, x, e =>
    if -308 ≤ e || x == 0.0 then (x, e) else lowerExponent n (x / 1e308) (e + 308)

/-- The floating-point number `m * 10 ^ e`, unless it is too great. -/
def scaledFloat? (m : Nat) (e : Int) : Option Float :=
  let (x, e) := lowerExponent 4 (Float.ofNat m) e
  if 0 ≤ e then
    if 308 < e then (if x == 0.0 then some x else none)
    else
      let y := x * Float.ofScientific 1 false e.toNat
      if y.isInf then none else some y
  else if e < -308 then some x
  else some (x / Float.ofScientific 1 false (-e).toNat)

def signed (negative : Bool) (x : Float) : Float :=
  if negative then -x else x

/-- The shape of a floating-point number. -/
def floatShape (x : Float) : Shape :=
  .float (Decimal.floatText floatStyle x)

/-- The shape of `m * 10 ^ e`. -/
def scaledShape (negative : Bool) (m : Nat) (e : Int) (c : Cursor) :
    Except Error (Shape × Cursor) :=
  match scaledFloat? m e with
  | none => c.fail .numberOutOfRange
  | some x => .ok (floatShape (signed negative x), c)

/-- The cursor behind an optional sign of an exponent, and whether the sign is a minus. -/
def exponentSign (c : Cursor) : Bool × Cursor :=
  if c.head? = some '+' then (false, c.advance)
  else if c.head? = some '-' then (true, c.advance)
  else (false, c)

def readExponent (negative : Bool) (m : Nat) (e : Int) (c : Cursor) :
    Except Error (Shape × Cursor) :=
  let (down, c) := exponentSign c.advance
  let (ds, behind) := c.takeDigits
  if c.head? = none then c.fail .endInValue
  else if ds = [] then c.failAhead .invalidNumber
  else
    let (n, count) := appendDigits maxExponent 0 ds
    if count < ds.length then
      -- such an exponent is too great for any digits but zeros
      if m ≠ 0 ∧ !down then
        .error ⟨.numberOutOfRange, (ds.take (count + 1)).foldl Cursor.placeAfter c.place⟩
      else .ok (floatShape (signed negative 0.0), behind)
    else scaledShape negative m (if down then e - n else e + n) behind

/-- Whether an exponent begins here. -/
def atExponent (c : Cursor) : Bool :=
  c.head? = some 'e' || c.head? = some 'E'

def readFraction (negative : Bool) (m : Nat) (e : Int) (c : Cursor) :
    Except Error (Shape × Cursor) :=
  let c := c.advance
  let (ds, behind) := c.takeDigits
  if ds = [] then c.failAhead (if c.rest = [] then .endInValue else .invalidNumber)
  else
    let (n, count) := appendDigits maxWhole m ds
    if atExponent behind then readExponent negative n (e - count) behind
    else scaledShape negative n (e - count) behind

def readNumberRest (negative : Bool) (m dropped : Nat) (c : Cursor) :
    Except Error (Shape × Cursor) :=
  if c.head? = some '.' then readFraction negative m dropped c
  else if atExponent c then readExponent negative m dropped c
  else if 0 < dropped then scaledShape negative m dropped c
  else if !negative then .ok (.integer m, c)
  -- minus zero is a floating-point number
  else if 0 < m && m ≤ Nat.pow 2 63 then .ok (.integer (-m), c)
  else .ok (floatShape (-Float.ofNat m), c)

def readNumber (negative : Bool) (c : Cursor) : Except Error (Shape × Cursor) :=
  match c.head? with
  | none => c.fail .endInValue
  | some '0' =>
    let c := c.advance
    if (c.head?.map Char.isDigit).getD false then c.failAhead .invalidNumber
    else readNumberRest negative 0 0 c
  | some x =>
    if x.isDigit then
      let (ds, behind) := c.takeDigits
      let (m, count) := appendDigits maxWhole 0 ds
      readNumberRest negative m (ds.length - count) behind
    else c.failAhead .invalidNumber

/-! ## Numbers that are passed over -/

def skipExponent (c : Cursor) : Except Error Cursor :=
  let (_, c) := exponentSign c.advance
  let (ds, behind) := c.takeDigits
  if ds = [] then c.failAhead .invalidNumber else .ok behind

def skipNumberRest (c : Cursor) : Except Error Cursor :=
  if c.head? = some '.' then
    let c := c.advance
    let (ds, behind) := c.takeDigits
    if ds = [] then c.failAhead .invalidNumber
    else if atExponent behind then skipExponent behind
    else .ok behind
  else if atExponent c then skipExponent c
  else .ok c

def skipNumber (c : Cursor) : Except Error Cursor :=
  let (ds, behind) := c.takeDigits
  match ds with
  | [] => c.failAhead .invalidNumber
  | '0' :: _ :: _ => c.advance.failAhead .invalidNumber
  | _ => skipNumberRest behind

end FirstClaim.Json
