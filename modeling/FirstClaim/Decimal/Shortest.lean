/-!
# Shortest decimal digits of a floating-point number

`shortest` gives the fewest decimal digits that read back as the same number, and of those the ones
nearest to it. All arithmetic is on natural numbers: a positive finite number is `m * 2 ^ q`, and
the numbers that read back as it are those between the midpoints to its neighbours.
-/

set_option autoImplicit false

namespace FirstClaim.Decimal

/-- A fraction of natural numbers. -/
structure Fraction where
  num : Nat
  den : Nat
deriving DecidableEq, Repr

namespace Fraction

/-- The number `m * 2 ^ q`. -/
def scaled (m : Nat) (q : Int) : Fraction :=
  if 0 ≤ q then ⟨m * Nat.pow 2 q.toNat, 1⟩ else ⟨m, Nat.pow 2 (-q).toNat⟩

/-- The number `d * 10 ^ k`. -/
def decimal (d : Nat) (k : Int) : Fraction :=
  if 0 ≤ k then ⟨d * Nat.pow 10 k.toNat, 1⟩ else ⟨d, Nat.pow 10 (-k).toNat⟩

def lt (a b : Fraction) : Bool :=
  a.num * b.den < b.num * a.den

def le (a b : Fraction) : Bool :=
  a.num * b.den ≤ b.num * a.den

def dist (a b : Fraction) : Fraction :=
  let x := a.num * b.den
  let y := b.num * a.den
  ⟨if x ≤ y then y - x else x - y, a.den * b.den⟩

end Fraction

/-- A positive number of 64 bits with the midpoints to its neighbours. -/
structure Binary where
  value : Fraction
  lower : Fraction
  upper : Fraction
  /-- The midpoints themselves read back as the number. -/
  closed : Bool

/-- The number with the bits of a positive finite float. -/
def Binary.ofBits (bits : Nat) : Binary :=
  let field := bits / Nat.pow 2 52 % Nat.pow 2 11
  let low := bits % Nat.pow 2 52
  let m := if field = 0 then low else low + Nat.pow 2 52
  let q : Int := (if field = 0 then 1 else field : Nat) - 1075
  let lower := if low = 0 && 1 < field then Fraction.scaled (4 * m - 1) (q - 2)
    else Fraction.scaled (2 * m - 1) (q - 1)
  ⟨.scaled m q, lower, .scaled (2 * m + 1) (q - 1), m % 2 = 0⟩

/-- A decimal reads back as the number. -/
def Binary.readsBack (b : Binary) (f : Fraction) : Bool :=
  if b.closed then b.lower.le f && f.le b.upper else b.lower.lt f && f.lt b.upper

/-- The exponent of the leading digit. The first argument bounds the search. -/
def leadingExponent : Nat → Int → Fraction → Int
  | 0, e, _ => e
  | n + 1, e, f =>
    if f.num < f.den then leadingExponent n (e - 1) ⟨f.num * 10, f.den⟩
    else if 10 * f.den ≤ f.num then leadingExponent n (e + 1) ⟨f.num, f.den * 10⟩
    else e

/-- The digits that read back on the grid `10 ^ k`, the nearer neighbour first. -/
def onGrid? (b : Binary) (k : Int) : Option Nat :=
  let unit := Fraction.decimal 1 k
  let d := b.value.num * unit.den / (b.value.den * unit.num)
  let below := Fraction.decimal d k
  let above := Fraction.decimal (d + 1) k
  let nearBelow := (b.value.dist below).le (b.value.dist above)
  if 0 < d && nearBelow && b.readsBack below then some d
  else if b.readsBack above then some (d + 1)
  else if 0 < d && b.readsBack below then some d
  else none

/-- Looks for digits on finer and finer grids. The first argument bounds the number of grids. -/
def searchGrids (b : Binary) : Nat → Int → Nat × Int
  | 0, k => (0, k)
  | n + 1, k =>
    match onGrid? b k with
    | some d => (d, k)
    | none => searchGrids b n (k - 1)

/-- A number without zeros at its end, and the exponent that keeps its value. -/
def dropZeros : Nat → Nat → Int → Nat × Int
  | 0, d, k => (d, k)
  | n + 1, d, k => if d % 10 = 0 then dropZeros n (d / 10) (k + 1) else (d, k)

/-- The digits `d` and the exponent `k` for which `d * 10 ^ k` is the shortest decimal of a positive
finite float with these bits. -/
def shortest (bits : Nat) : Nat × Int :=
  let b := Binary.ofBits bits
  let (d, k) := searchGrids b 18 (leadingExponent 700 0 b.value)
  dropZeros 20 d k

/-! ## Notation -/

/-- How a number is written. -/
structure FloatStyle where
  /-- The exponents of the leading digit for which no exponent is written. -/
  positional : Int → Bool
  /-- The sign of a positive exponent. -/
  plus : String
  /-- Whole numbers get a point and a zero. -/
  pointZero : Bool

def digitText (n : Nat) : List Char :=
  Nat.toDigits 10 n

def zeros (n : Nat) : List Char :=
  List.replicate n '0'

/-- The number `d * 10 ^ k` without an exponent. -/
def positionalText (pointZero : Bool) (d : Nat) (k : Int) : List Char :=
  let ds := digitText d
  if 0 ≤ k then ds ++ zeros k.toNat ++ (if pointZero then ['.', '0'] else [])
  else
    let places := (-k).toNat
    if places < ds.length then ds.take (ds.length - places) ++ ['.'] ++ ds.drop (ds.length - places)
    else ['0', '.'] ++ zeros (places - ds.length) ++ ds

/-- The number `d * 10 ^ k` with an exponent. -/
def exponentText (plus : String) (d : Nat) (k : Int) : List Char :=
  let ds := digitText d
  let e : Int := k + (ds.length - 1 : Nat)
  let mantissa := ds.take 1 ++ (if ds.length = 1 then [] else '.' :: ds.drop 1)
  mantissa ++ ['e'] ++ (if 0 ≤ e then plus.toList else []) ++ (toString e).toList

/-- A floating-point number in a notation. -/
def floatText (style : FloatStyle) (x : Float) : String :=
  let bits := x.toBits.toNat
  let magnitude := bits % Nat.pow 2 63
  let sign := if bits = magnitude then "" else "-"
  if 0x7FF * Nat.pow 2 52 < magnitude then "NaN"
  else if magnitude = 0x7FF * Nat.pow 2 52 then sign ++ "inf"
  else if magnitude = 0 then sign ++ (if style.pointZero then "0.0" else "0")
  else
    let (d, k) := shortest magnitude
    let lead : Int := k + ((digitText d).length - 1 : Nat)
    sign ++ String.ofList (if style.positional lead then positionalText style.pointZero d k
      else exponentText style.plus d k)

end FirstClaim.Decimal
