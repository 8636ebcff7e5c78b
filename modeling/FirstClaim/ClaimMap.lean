import FirstClaim.Claim

/-!
# The claims on one text

`ClaimMap` holds the claims made on one text in the order of their starts. A span is free when no
claim reaches into it (`ClaimMap.isFree`); `ClaimMap.commit` takes over the claims of one rule in
turn and leaves out those that are empty or meet a claim made before.
-/

set_option autoImplicit false

namespace FirstClaim

/-- Disjoint claims in the order of their starts. -/
structure ClaimMap where
  toList : List Claim
deriving DecidableEq, Repr

namespace ClaimMap

def empty : ClaimMap :=
  ⟨[]⟩

def size (m : ClaimMap) : Nat :=
  m.toList.length

def isEmpty (m : ClaimMap) : Bool :=
  m.toList.isEmpty

/-- No claim lies between `start` and `stop`: the first claim that ends after `start` begins at
`stop` or later. -/
def isFree (m : ClaimMap) (start stop : Nat) : Bool :=
  match m.toList.dropWhile (·.stop ≤ start) with
  | [] => true
  | next :: _ => stop ≤ next.start

/-- Puts a claim before the first one that does not start earlier. -/
def insertSorted (c : Claim) : List Claim → List Claim
  | [] => [c]
  | d :: ds => if d.start < c.start then d :: insertSorted c ds else c :: d :: ds

/-- Adds one claim, unless it is empty or meets a claim of the map. -/
def insert (m : ClaimMap) (c : Claim) : ClaimMap :=
  if c.isEmpty || !m.isFree c.start c.stop then m else ⟨insertSorted c m.toList⟩

def commit (m : ClaimMap) (pending : List Claim) : ClaimMap :=
  pending.foldl insert m

end ClaimMap

end FirstClaim
