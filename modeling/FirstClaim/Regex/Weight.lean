import FirstClaim.Regex.Node

/-!
# How much memory a pattern may take

A matching machine reads bytes, so each character of a pattern costs as many states as its UTF-8
form has bytes and a set costs a state for each way that byte ranges can begin. `Node.weight` adds
this up over all copies that repetitions make. Patterns heavier than `weightLimit` are refused.
-/

set_option autoImplicit false

namespace FirstClaim.Regex

/-- The bytes that a state, a transition and a reference to a state take. -/
def stateBytes : Nat := 32
def transitionBytes : Nat := 8
def referenceBytes : Nat := 4

def weightLimit : Nat :=
  10 * Nat.pow 2 20

/-! ## Byte ranges of a set -/

def utf8Bytes (n : Nat) : List Nat :=
  if n < 0x80 then [n]
  else if n < 0x800 then [0xC0 + n / 64, 0x80 + n % 64]
  else if n < 0x10000 then [0xE0 + n / 4096, 0x80 + n / 64 % 64, 0x80 + n % 64]
  else [0xF0 + n / 262144, 0x80 + n / 4096 % 64, 0x80 + n / 64 % 64, 0x80 + n % 64]

/-- Cuts a range where the length of the UTF-8 form changes and around the surrogates. -/
def cutByLength (r : CodeRange) : List CodeRange :=
  let blocks : List CodeRange :=
    [⟨0, 0x7F⟩, ⟨0x80, 0x7FF⟩, ⟨0x800, 0xD7FF⟩, ⟨0xE000, 0xFFFF⟩, ⟨0x10000, 0x10FFFF⟩]
  blocks.filterMap (CharSet.commonRange? r)

/-- Cuts a range so that each piece either lies in one block of size `m` or consists of whole
blocks. -/
def cutAtBlocks (m : Nat) (r : CodeRange) : List CodeRange :=
  if r.lo / m = r.hi / m then [r]
  else
    let lo := if r.lo % m = 0 then r.lo else (r.lo / m + 1) * m
    let hi := if r.hi % m = m - 1 then r.hi else r.hi / m * m - 1
    let head := if lo = r.lo then [] else [⟨r.lo, lo - 1⟩]
    let body := if lo ≤ hi then [⟨lo, hi⟩] else []
    let tail := if hi = r.hi then [] else [⟨hi + 1, r.hi⟩]
    head ++ body ++ tail

/-- The byte ranges, one after the other, that together match the code points of a range. -/
def byteSequences (r : CodeRange) : List (List (Nat × Nat)) :=
  let pieces := cutByLength r
  let pieces := pieces.flatMap fun r =>
    if r.hi < 0x80 then [r]
    else ((cutAtBlocks 64 r).flatMap (cutAtBlocks 4096)).flatMap (cutAtBlocks 262144)
  pieces.map fun r => (utf8Bytes r.lo).zip (utf8Bytes r.hi)

/-- The number of beginnings of a list that are not beginnings of the list before it. -/
def newBeginnings : List (Nat × Nat) → List (Nat × Nat) → Nat
  | a :: as, b :: bs => if a = b then newBeginnings as bs else (b :: bs).length
  | _, bs => bs.length

/-- The number of different beginnings in a list of sequences in which equal beginnings stand
together. -/
def countBeginnings (last : List (Nat × Nat)) : List (List (Nat × Nat)) → Nat
  | [] => 0
  | s :: rest => newBeginnings last s + countBeginnings s rest

def setWeight (s : CharSet) : Nat :=
  if s.isAscii then 2 * stateBytes + transitionBytes * s.ranges.length
  else
    let sequences := s.ranges.flatMap byteSequences
    stateBytes * (2 + countBeginnings [] sequences) + referenceBytes * sequences.length

/-! ## Patterns -/

/-- The weight of a repetition of something that weighs `w`. -/
def repeatWeight (w min : Nat) : Option Nat → Nat
  | none => min * w + stateBytes + (if min = 0 then w + stateBytes else 0)
  | some max => max * w + (max - min) * (stateBytes + 2 * referenceBytes) + stateBytes

/-- The bytes that the machine for a pattern takes. -/
def Node.weight : Node → Nat
  | .empty => stateBytes
  | .literal cs => stateBytes * (cs.map fun c => c.utf8Size).sum
  | .set s => setWeight s
  | .look _ => stateBytes
  | .group _ sub => sub.weight + 2 * stateBytes
  | .rep min max _ sub => repeatWeight sub.weight min max
  | .cat a b => a.weight + b.weight
  | .alt a b => a.weight + b.weight + stateBytes

end FirstClaim.Regex
