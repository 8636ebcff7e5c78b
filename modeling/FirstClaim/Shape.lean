import FirstClaim.Quoted

/-!
# What was found in the place of something else

When a file holds a value of the wrong kind, the error names the kind that was found and describes
what was expected.
-/

set_option autoImplicit false

namespace FirstClaim

/-- The kind of a value in a file. A floating-point number is given by its text. -/
inductive Shape where
  | null
  | bool (b : Bool)
  | integer (n : Int)
  | float (text : String)
  | string (s : String)
  | sequence
  | map
deriving DecidableEq, Repr

/-- The kind in words, with the word for an absent value. -/
def Shape.describe (nullWord : String) : Shape → String
  | null => nullWord
  | bool b => s!"boolean `{b}`"
  | integer n => s!"integer `{n}`"
  | float text => s!"floating point `{text}`"
  | string s => s!"string {quoted s}"
  | sequence => "sequence"
  | map => "map"

end FirstClaim
