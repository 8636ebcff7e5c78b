/-!
# SHA-256

`Sha256.digest` is the digest of a text in hexadecimal digits. The constants are the first 32 bits
of the fractional parts of square and cube roots of the first primes.
-/

set_option autoImplicit false

namespace FirstClaim.Sha256

/-! ## Constants -/

/-- The greatest `r` with `r ^ k ≤ n` that continues `r`, with `bits` bits to find. -/
def rootFrom (k n : Nat) : Nat → Nat → Nat
  | 0, r => r
  | bits + 1, r =>
    let larger := r + Nat.pow 2 bits
    if Nat.pow larger k ≤ n then rootFrom k n bits larger else rootFrom k n bits r

/-- The first 32 bits of the fractional part of the `k`-th root of `p`. -/
def rootBits (k p : Nat) : UInt32 :=
  UInt32.ofNat (rootFrom k (p * Nat.pow 2 (32 * k)) 40 0)

def primes : List Nat :=
  (List.range 312).filter fun n =>
    2 ≤ n && (List.range n).all fun d => d < 2 || n % d ≠ 0

/-- The constants of the 64 rounds. -/
def roundConstants : List UInt32 :=
  primes.map (rootBits 3)

/-! ## Rounds -/

/-- The eight words that a block changes. -/
structure State where
  a : UInt32
  b : UInt32
  c : UInt32
  d : UInt32
  e : UInt32
  f : UInt32
  g : UInt32
  h : UInt32
deriving DecidableEq, Repr

namespace State

def start : State :=
  ⟨rootBits 2 2, rootBits 2 3, rootBits 2 5, rootBits 2 7, rootBits 2 11, rootBits 2 13,
    rootBits 2 17, rootBits 2 19⟩

def add (s t : State) : State :=
  ⟨s.a + t.a, s.b + t.b, s.c + t.c, s.d + t.d, s.e + t.e, s.f + t.f, s.g + t.g, s.h + t.h⟩

def words (s : State) : List UInt32 :=
  [s.a, s.b, s.c, s.d, s.e, s.f, s.g, s.h]

end State

def rotate (x n : UInt32) : UInt32 :=
  (x >>> n) ||| (x <<< (32 - n))

/-- One round with its constant and its word of the schedule. -/
def round (s : State) (k w : UInt32) : State :=
  let s1 := rotate s.e 6 ^^^ rotate s.e 11 ^^^ rotate s.e 25
  let choice := (s.e &&& s.f) ^^^ ((~~~s.e) &&& s.g)
  let t1 := s.h + s1 + choice + k + w
  let s0 := rotate s.a 2 ^^^ rotate s.a 13 ^^^ rotate s.a 22
  let majority := (s.a &&& s.b) ^^^ (s.a &&& s.c) ^^^ (s.b &&& s.c)
  ⟨t1 + (s0 + majority), s.a, s.b, s.c, s.d + t1, s.e, s.f, s.g⟩

/-- The word of the schedule that follows 16 words, given the last one first. -/
def nextWord (before : List UInt32) : UInt32 :=
  let x := before.getD 14 0
  let y := before.getD 1 0
  let s0 := rotate x 7 ^^^ rotate x 18 ^^^ (x >>> 3)
  let s1 := rotate y 17 ^^^ rotate y 19 ^^^ (y >>> 10)
  before.getD 15 0 + s0 + before.getD 6 0 + s1

/-- Puts `n` more words before a schedule that is given with its last word first. -/
def extend : Nat → List UInt32 → List UInt32
  | 0, ws => ws
  | n + 1, ws => extend n (nextWord ws :: ws)

/-- The state after a block of 16 words. -/
def compress (s : State) (block : List UInt32) : State :=
  let schedule := (extend 48 block.reverse).reverse
  s.add ((roundConstants.zip schedule).foldl (fun t kw => round t kw.1 kw.2) s)

/-! ## Blocks -/

/-- The eight bytes of a number, the highest one first. -/
def lengthBytes (n : Nat) : List UInt8 :=
  (List.range 8).map fun i => UInt8.ofNat (n / Nat.pow 2 (8 * (7 - i)))

/-- The bytes, a bit that ends them, zeros up to a whole number of blocks and the number of
bits. -/
def padded (bytes : List UInt8) : List UInt8 :=
  let zeros := (119 - bytes.length % 64) % 64
  bytes ++ 0x80 :: List.replicate zeros 0 ++ lengthBytes (8 * bytes.length)

def toWords : List UInt8 → List UInt32
  | a :: b :: c :: d :: rest =>
    (a.toUInt32 <<< 24 ||| b.toUInt32 <<< 16 ||| c.toUInt32 <<< 8 ||| d.toUInt32) :: toWords rest
  | _ => []

/-- The state after as many blocks as there are. The first argument is their number. -/
def compressAll : Nat → State → List UInt32 → State
  | 0, s, _ => s
  | n + 1, s, ws => compressAll n (compress s (ws.take 16)) (ws.drop 16)

/-- A digit of a word, counted from the highest one. -/
def wordDigit (w : UInt32) (i : Nat) : Char :=
  Nat.digitChar (w.toNat / Nat.pow 16 (7 - i) % 16)

def wordText (w : UInt32) : List Char :=
  (List.range 8).map (wordDigit w)

/-- The digest of bytes in hexadecimal digits. -/
def digestBytes (bytes : List UInt8) : String :=
  let ws := toWords (padded bytes)
  String.ofList ((compressAll (ws.length / 16) .start ws).words.flatMap wordText)

/-- The digest of a text in hexadecimal digits. -/
def digest (text : String) : String :=
  digestBytes text.toUTF8.toList

end FirstClaim.Sha256
