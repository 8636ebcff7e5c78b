import FirstClaim.Regex.Interpretation
import FirstClaim.Regex.Reader
import FirstClaim.Regex.Search
import FirstClaim.Regex.Weight

/-!
# Regular expressions

`Regex.build` turns the source of a pattern into a regular expression, starting from the flags of a
`Mode`, or says why it cannot. `Regex.findAll` gives its matches in a text: of all matches the
leftmost one first, and of those that begin at one place the one that the pattern prefers.
-/

set_option autoImplicit false

namespace FirstClaim

/-- A pattern that can be matched. -/
structure Regex where
  source : String
  node : Regex.Node
deriving DecidableEq, Repr

namespace Regex

/-- Why a source is no regular expression. -/
inductive BuildError where
  /-- The source is refused. -/
  | refused (source : String) (error : Error)
  /-- The pattern needs more memory than allowed. -/
  | tooBig
deriving DecidableEq, Repr

def BuildError.message : BuildError → String
  | refused source error => error.render source
  | tooBig => s!"Compiled regex exceeds size limit of {weightLimit} bytes."

/-- The pattern as matched, under the flags of a mode. -/
def Node.ofSource (mode : Mode) (source : String) : Except Error Node := do
  let ast ← Ast.read source
  ast.interpret mode

def build (mode : Mode) (source : String) : Except BuildError Regex :=
  match Node.ofSource mode source with
  | .error e => .error (.refused source e)
  | .ok node => if node.weight ≤ weightLimit then .ok ⟨source, node⟩ else .error .tooBig

def groupCount (r : Regex) : Nat :=
  r.node.groupIndices.length

/-- The largest index of a group. -/
def groupBound (r : Regex) : Nat :=
  r.node.groupIndices.foldl max 0

def findAll (r : Regex) (text : String) : List Match :=
  (Program.ofNode r.node).allMatches r.groupBound text

end Regex

end FirstClaim
