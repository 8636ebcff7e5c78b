/-!
# Similar words

`similarity` is the Jaro similarity of two words: the mean of the shares of each word that the other
one has at about the same place and of the share of these characters that are in the same order.
-/

set_option autoImplicit false

namespace FirstClaim.CommandLine

/-- Marks the first character that equals `c`, is not marked yet and stands between two places. -/
def markFirst (c : Char) (low high : Nat) : Nat → List (Char × Bool) → Option (List (Char × Bool))
  | _, [] => none
  | place, (d, marked) :: rest =>
    if low ≤ place && place < high && c == d && !marked then some ((d, true) :: rest)
    else (markFirst c low high (place + 1) rest).map ((d, marked) :: ·)

/-- Finds for each character of a word an equal one of the other word that stands at most `range`
places away. Gives the characters found and the other word with marks. -/
def matchChars (range : Nat) : Nat → List Char → List (Char × Bool) →
    List Char × List (Char × Bool)
  | _, [], other => ([], other)
  | place, c :: rest, other =>
    match markFirst c (place - range) (place + range + 1) 0 other with
    | some other =>
      let (found, other) := matchChars range (place + 1) rest other
      (c :: found, other)
    | none => matchChars range (place + 1) rest other

def similarity (a b : String) : Float :=
  let range := max a.length b.length / 2 - 1
  let (found, marked) := matchChars range 0 a.toList (b.toList.map fun c => (c, false))
  let other := marked.filterMap fun (c, isMarked) => if isMarked then some c else none
  let displaced := ((found.zip other).filter fun (c, d) => c ≠ d).length / 2
  let share (n m : Nat) : Float := n.toFloat / m.toFloat
  if found.isEmpty then 0
  else
    (share found.length a.length + share found.length b.length +
      share (found.length - displaced) found.length) / 3

/-- The word among some that is most similar to a given one, if any is similar at all. Of equally
similar words the last one is taken. -/
def mostSimilar? (word : String) (words : List String) : Option String :=
  let better (best : Option (Float × String)) (w : String) : Option (Float × String) :=
    let s := similarity word w
    if 0.7 < s && (best.map fun b => decide (b.1 ≤ s)).getD true then some (s, w) else best
  (words.foldl better none).map (·.2)

end FirstClaim.CommandLine
