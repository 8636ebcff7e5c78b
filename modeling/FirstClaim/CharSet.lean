/-!
# Sets of characters

A character set is a list of ranges of code points in ascending order, no two of which touch.
`CharSet.ofRanges` brings any list of ranges into that form; union, intersection, complement and
the differences are built on it. `CharSet.ofCounts` reads the run-length text in which the tables
of Unicode properties are kept.
-/

set_option autoImplicit false

namespace FirstClaim

/-- The code points from `lo` to `hi`, both included. -/
structure CodeRange where
  lo : Nat
  hi : Nat
deriving DecidableEq, Repr

def CodeRange.has (r : CodeRange) (n : Nat) : Bool :=
  decide (r.lo ≤ n) && decide (n ≤ r.hi)

/-- A set of characters, as ascending ranges of code points that do not touch. -/
structure CharSet where
  ranges : List CodeRange
deriving DecidableEq, Repr

namespace CharSet

def maxCode : Nat :=
  0x10FFFF

def hasCode (s : CharSet) (n : Nat) : Bool :=
  s.ranges.any (·.has n)

def contains (s : CharSet) (c : Char) : Bool :=
  s.hasCode c.toNat

def empty : CharSet :=
  ⟨[]⟩

def full : CharSet :=
  ⟨[⟨0, maxCode⟩]⟩

def isEmpty (s : CharSet) : Bool :=
  s.ranges.isEmpty

/-- Joins ranges that overlap or touch, in a list that ascends by `lo`. -/
def joinTouching : List CodeRange → List CodeRange
  | [] => []
  | [r] => [r]
  | r :: s :: rest =>
    if s.lo ≤ r.hi + 1 then joinTouching (⟨r.lo, max r.hi s.hi⟩ :: rest)
    else r :: joinTouching (s :: rest)
termination_by rs => rs.length

/-- Puts a range before the first one that does not begin earlier. -/
def insertSorted (r : CodeRange) : List CodeRange → List CodeRange
  | [] => [r]
  | s :: rest => if r.lo ≤ s.lo then r :: s :: rest else s :: insertSorted r rest

/-- The set of the code points of any of the ranges. -/
def ofRanges (rs : List CodeRange) : CharSet :=
  ⟨joinTouching (rs.foldr insertSorted [])⟩

def range (lo hi : Nat) : CharSet :=
  ⟨[⟨lo, hi⟩]⟩

def singleton (c : Char) : CharSet :=
  range c.toNat c.toNat

def union (a b : CharSet) : CharSet :=
  ofRanges (a.ranges ++ b.ranges)

def unions (sets : List CharSet) : CharSet :=
  ofRanges (sets.flatMap (·.ranges))

/-- The code points that two ranges share. -/
def commonRange? (r s : CodeRange) : Option CodeRange :=
  let lo := max r.lo s.lo
  let hi := min r.hi s.hi
  if lo ≤ hi then some ⟨lo, hi⟩ else none

def inter (a b : CharSet) : CharSet :=
  ofRanges (a.ranges.flatMap fun r => b.ranges.filterMap (commonRange? r))

/-- The code points from `next` to `top` that lie in none of the ascending ranges. -/
def gaps (top next : Nat) : List CodeRange → List CodeRange
  | [] => if next ≤ top then [⟨next, top⟩] else []
  | r :: rs =>
    let rest := gaps top (max next (r.hi + 1)) rs
    if next < r.lo then ⟨next, r.lo - 1⟩ :: rest else rest

/-- The code points up to `top` that are not in the set. -/
def complUpTo (top : Nat) (s : CharSet) : CharSet :=
  ⟨gaps top 0 s.ranges⟩

/-- All characters that are not in the set. -/
def compl (s : CharSet) : CharSet :=
  s.complUpTo maxCode

def diff (a b : CharSet) : CharSet :=
  a.inter b.compl

/-- The characters in exactly one of two sets. -/
def symmDiff (a b : CharSet) : CharSet :=
  (a.union b).diff (a.inter b)

def isAscii (s : CharSet) : Bool :=
  s.ranges.all (·.hi < 0x80)

def single? (s : CharSet) : Option Char :=
  match s.ranges with
  | [r] => if r.lo = r.hi then some (Char.ofNat r.lo) else none
  | _ => none

/-! ## Run-length tables -/

/-- The decimal numbers in a text of digits and other characters. -/
def readCounts (text : String) : List Nat :=
  let step := fun (done, open?) (c : Char) =>
    if c.isDigit then (done, some (open?.getD 0 * 10 + (c.toNat - '0'.toNat)))
    else match open? with
      | some n => (n :: done, none)
      | none => (done, none)
  let (done, last) : List Nat × Option Nat := text.foldl step ([], none)
  (last.toList ++ done).reverse

/-- Ranges from counts that alternately leave out and take in code points, from `next` on. -/
def rangesOfCounts (next : Nat) : List Nat → List CodeRange
  | skip :: take :: rest =>
    ⟨next + skip, next + skip + take - 1⟩ :: rangesOfCounts (next + skip + take) rest
  | _ => []

/-- The set whose table alternately counts code points left out and code points taken in. -/
def ofCounts (text : String) : CharSet :=
  ⟨rangesOfCounts 0 (readCounts text)⟩

end CharSet

end FirstClaim
