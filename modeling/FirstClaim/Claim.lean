/-!
# Claims

A claim is a span of the input text that one rule has taken, together with the text that is to
stand in its place. Spans are half open and count bytes of the text's UTF-8 form.
-/

set_option autoImplicit false

namespace FirstClaim

/-- A span of the text taken by the rule at index `rule`. -/
structure Claim where
  rule : Nat
  matched : String
  replacement : String
  start : Nat
  stop : Nat
deriving DecidableEq, Repr

namespace Claim

def isEmpty (c : Claim) : Bool :=
  c.start == c.stop

/-- Whether `p` is one of the positions that `c` covers. -/
def Covers (c : Claim) (p : Nat) : Prop :=
  c.start ≤ p ∧ p < c.stop

instance (c : Claim) (p : Nat) : Decidable (c.Covers p) :=
  inferInstanceAs (Decidable (_ ∧ _))

end Claim

end FirstClaim
