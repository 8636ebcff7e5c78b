/-!
# The floating-point number nearest to a decimal

`readFloat?` reads a decimal with or without a point and an exponent. Exponents far out of range are
settled before any power of ten is computed.
-/

set_option autoImplicit false

namespace FirstClaim.Decimal

/-- A number written by digits, continuing `n`. -/
def digitsValue (n : Nat) (digits : List Char) : Nat :=
  digits.foldl (fun n d => 10 * n + (d.toNat - '0'.toNat)) n

/-- A text cut behind the digits that it begins with. -/
def splitDigits (cs : List Char) : List Char × List Char :=
  cs.span Char.isDigit

/-- The exponent behind an `e`, if the whole text is one. -/
def exponent? : List Char → Option Int
  | [] => some 0
  | c :: rest =>
    if c = 'e' || c = 'E' then
      let (down, digits) := match rest with
        | '-' :: rest => (true, rest)
        | '+' :: rest => (false, rest)
        | rest => (false, rest)
      if digits.isEmpty || !digits.all Char.isDigit then none
      else
        let n : Int := digitsValue 0 digits
        some (if down then -n else n)
    else none

/-- The digits `m` and the exponent `k` of a decimal `m * 10 ^ k` without a sign. -/
def decimal? (cs : List Char) : Option (Nat × Int) :=
  let (whole, rest) := splitDigits cs
  let (fraction, rest) := match rest with
    | '.' :: rest => splitDigits rest
    | rest => ([], rest)
  if whole.isEmpty && fraction.isEmpty then none
  else
    (exponent? rest).map fun e =>
      (digitsValue (digitsValue 0 whole) fraction, e - fraction.length)

def digitCount (n : Nat) : Nat :=
  (Nat.toDigits 10 n).length

/-- The floating-point number nearest to `m * 10 ^ k`. -/
def nearest (m : Nat) (k : Int) : Float :=
  let lead : Int := digitCount m + k
  if m = 0 || lead < -400 then 0.0
  else if 400 < lead then 1.0 / 0.0
  else if 0 ≤ k then Float.ofScientific m false k.toNat
  else Float.ofScientific m true (-k).toNat

/-- Reads a decimal with an optional minus sign; one that is too great for a floating-point number
is refused. -/
def readFloat? (cs : List Char) : Option Float :=
  let (negative, cs) := match cs with
    | '-' :: rest => (true, rest)
    | cs => (false, cs)
  (decimal? cs).bind fun (m, k) =>
    let x := nearest m k
    if x.isInf then none else some (if negative then -x else x)

end FirstClaim.Decimal
