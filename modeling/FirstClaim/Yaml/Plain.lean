import FirstClaim.Decimal.Nearest
import FirstClaim.Decimal.Shortest
import FirstClaim.Hex
import FirstClaim.Shape

/-!
# What plain scalars stand for

A plain scalar can stand for an absent value, a truth value or a number. `Meaning.ofPlain` finds out
which; all other scalars are texts.
-/

set_option autoImplicit false

namespace FirstClaim.Yaml

/-- What a scalar stands for. -/
inductive Meaning where
  | null
  | bool (b : Bool)
  /-- A whole number that fits into 64 bits. -/
  | integer (n : Int)
  /-- A whole number that fits into 128 bits only, and the type that it has then. -/
  | wide (n : Int) (type : String)
  | float (x : Float)
  | text

/-- The words for an absent value. -/
def isNullWord (s : String) : Bool :=
  ["null", "Null", "NULL", "~"].contains s

def boolWord? (s : String) : Option Bool :=
  if ["true", "True", "TRUE"].contains s then some true
  else if ["false", "False", "FALSE"].contains s then some false
  else none

/-! ## Whole numbers -/

/-- The value of digits in a base. There is at least one digit. -/
def inBase? (base : Nat) (digits : List Char) : Option Nat :=
  if digits.isEmpty then none
  else
    digits.foldl (fun n d => n.bind fun n => (hexValue? d).bind fun v =>
      if v < base then some (n * base + v) else none) (some 0)

/-- The base and the digits behind a mark of a base. -/
def splitBase? : List Char → Option (Nat × List Char)
  | '0' :: 'x' :: rest => some (16, rest)
  | '0' :: 'o' :: rest => some (8, rest)
  | '0' :: 'b' :: rest => some (2, rest)
  | _ => none

/-- Digits that begin with a zero and yet are more than one, with or without a sign. -/
def isZeroPadded (cs : List Char) : Bool :=
  let cs := match cs with
    | '-' :: rest => rest
    | '+' :: rest => rest
    | cs => cs
  1 < cs.length && cs.head? = some '0' && cs.all Char.isDigit

/-- The value of digits with or without a mark of a base. -/
def magnitude? (cs : List Char) : Option Nat :=
  match splitBase? cs with
  | some (base, digits) => inBase? base digits
  | none => inBase? 10 cs

def wholeNumber? (cs : List Char) : Option Int :=
  if isZeroPadded cs then none
  else
    match cs with
    | '+' :: rest => (magnitude? rest).map Int.ofNat
    | '-' :: rest => (magnitude? rest).map fun n => -Int.ofNat n
    | cs => (magnitude? cs).map Int.ofNat

/-- What a whole number stands for, unless it is too great. -/
def Meaning.ofWhole? (n : Int) : Option Meaning :=
  if -(Nat.pow 2 63 : Int) ≤ n && n < Nat.pow 2 64 then some (.integer n)
  else if 0 ≤ n && n < Nat.pow 2 128 then some (.wide n "u128")
  else if n < 0 && -(Nat.pow 2 127 : Int) ≤ n then some (.wide n "i128")
  else none

/-! ## Floating-point numbers -/

/-- The floating-point number that a plain scalar stands for. -/
def plainFloat? (s : String) : Option Float :=
  let cs := s.toList
  let (plus, unsigned) := match cs with
    | '+' :: rest => (true, rest)
    | cs => (false, cs)
  let word := String.ofList unsigned
  if [".inf", ".Inf", ".INF"].contains word then some (1.0 / 0.0)
  else if ["-.inf", "-.Inf", "-.INF"].contains s then some (-1.0 / 0.0)
  else if [".nan", ".NaN", ".NAN"].contains s then some (0.0 / 0.0)
  else if isZeroPadded cs || (plus && unsigned.head? = some '-') then none
  else Decimal.readFloat? unsigned

/-- How floating-point numbers are written in an error: without an exponent. -/
def floatStyle : Decimal.FloatStyle :=
  ⟨fun _ => true, "", true⟩

/-! ## Scalars -/

/-- What a plain scalar stands for. -/
def Meaning.ofPlain (s : String) : Meaning :=
  if s.isEmpty || isNullWord s then .null
  else
    match boolWord? s with
    | some b => .bool b
    | none =>
      match (wholeNumber? s.toList).bind Meaning.ofWhole? with
      | some m => m
      | none =>
        match plainFloat? s with
        | some x => .float x
        | none => .text

end FirstClaim.Yaml
