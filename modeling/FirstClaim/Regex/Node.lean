import FirstClaim.CharSet

/-!
# Patterns as matched

`Node` is a pattern with all flags resolved: what is left are characters, assertions, groups,
repetitions, sequences and ordered choices. Nodes are built with `Node.ofSet`, `Node.repeated`,
`Node.concat` and `Node.alternation`, which bring them into a normal form: sequences lean to the
right and hold no empty part and no two literals in a row, a choice between single characters is a
set, and a choice whose branches all begin with the same parts is a sequence.
-/

set_option autoImplicit false

namespace FirstClaim.Regex

/-- An assertion about word characters on both sides of a place. -/
inductive WordLook where
  | boundary
  | notBoundary
  | start
  | stop
  | startHalf
  | stopHalf
deriving DecidableEq, Repr

/-- An assertion about a place in the text. -/
inductive Look where
  | textStart
  | textEnd
  /-- A line starts here; with `crlf` a carriage return ends lines as well. -/
  | lineStart (crlf : Bool)
  | lineEnd (crlf : Bool)
  /-- An assertion about word characters, which are ASCII ones unless `unicode`. -/
  | word (unicode : Bool) (kind : WordLook)
deriving DecidableEq, Repr

/-- A pattern with all flags resolved. -/
inductive Node where
  | empty
  | literal (cs : List Char)
  | set (s : CharSet)
  | look (l : Look)
  | group (index : Nat) (sub : Node)
  | rep (min : Nat) (max : Option Nat) (greedy : Bool) (sub : Node)
  | cat (a b : Node)
  | alt (a b : Node)
deriving DecidableEq, Repr

namespace Node

/-! ## Views -/

def factors : Node → List Node
  | empty => []
  | cat a b => a.factors ++ b.factors
  | n => [n]

def branches : Node → List Node
  | alt a b => a.branches ++ b.branches
  | n => [n]

/-- No text but the empty one can match. -/
def onlyEmpty : Node → Bool
  | empty => true
  | literal _ => false
  | set _ => false
  | look _ => true
  | group _ sub => sub.onlyEmpty
  | rep _ max _ sub => max == some 0 || (max.isSome && sub.onlyEmpty)
  | cat a b => a.onlyEmpty && b.onlyEmpty
  | alt a b => a.onlyEmpty && b.onlyEmpty

/-- The indices of the groups, from left to right. -/
def groupIndices : Node → List Nat
  | group index sub => index :: sub.groupIndices
  | rep _ _ _ sub => sub.groupIndices
  | cat a b => a.groupIndices ++ b.groupIndices
  | alt a b => a.groupIndices ++ b.groupIndices
  | _ => []

/-! ## Normal forms -/

/-- One character of a set. A set with one member is a literal. -/
def ofSet (s : CharSet) : Node :=
  match s.single? with
  | some c => .literal [c]
  | none => .set s

/-- A repetition. What matches only the empty text is repeated at most once. -/
def repeated (min : Nat) (max : Option Nat) (greedy : Bool) (sub : Node) : Node :=
  let once := sub.onlyEmpty
  let min := if once then Nat.min min 1 else min
  let max := if once then some ((max.map (Nat.min · 1)).getD 1) else max
  if min = 0 && max = some 0 then .empty
  else if min = 1 && max = some 1 then sub
  else .rep min max greedy sub

/-- Puts a part in front of others, joining two literals. -/
def consFactor : Node → List Node → List Node
  | .literal a, .literal b :: rest => .literal (a ++ b) :: rest
  | n, rest => n :: rest

/-- The sequence of parts that are in normal form. -/
def ofFactors : List Node → Node
  | [] => .empty
  | [n] => n
  | n :: ns => .cat n (ofFactors ns)

def concat (ns : List Node) : Node :=
  ofFactors ((ns.flatMap factors).foldr consFactor [])

/-- The choice between branches, the first one preferred. -/
def ofBranches : List Node → Node
  | [] => .set .empty
  | [n] => n
  | n :: ns => .alt n (ofBranches ns)

def char? : Node → Option Char
  | .literal [c] => some c
  | _ => none

def set? : Node → Option CharSet
  | .set s => some s
  | _ => none

/-- The choice between branches that are no choices themselves. -/
def choose (ns : List Node) : Node :=
  match ns with
  | [] => .set .empty
  | [n] => n
  | ns =>
    match ns.mapM char?, ns.mapM set? with
    -- single characters are alternatives without an order of preference
    | some cs, _ => ofSet (CharSet.unions (cs.map CharSet.singleton))
    | _, some sets => ofSet (CharSet.unions sets)
    | _, _ => ofBranches ns

/-- The longest list that two lists begin with. -/
def commonPrefix : List Node → List Node → List Node
  | a :: as, b :: bs => if a = b then a :: commonPrefix as bs else []
  | _, _ => []

/-- The parts that all branches begin with, if each branch is a sequence. -/
def sharedFactors (ns : List Node) : List Node :=
  match ns.map factors with
  | [] => []
  | fs :: rest =>
    if (fs :: rest).all (1 < ·.length) then rest.foldl commonPrefix fs else []

/-- A choice. Parts that all branches begin with are taken out in front. -/
def alternation (ns : List Node) : Node :=
  let ns := ns.flatMap branches
  match choose ns with
  | .alt a b =>
    let shared := sharedFactors ns
    if shared.isEmpty then .alt a b
    else
      -- the rests may be choices themselves by now
      let rests := ns.map fun n => concat (n.factors.drop shared.length)
      concat (shared ++ [choose (rests.flatMap branches)])
  | n => n

end Node

end FirstClaim.Regex
