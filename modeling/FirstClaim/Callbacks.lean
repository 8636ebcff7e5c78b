import FirstClaim.Rule

/-!
# Ready-made callbacks

Callbacks that need nothing but the match, their parameters and the number of earlier calls.
-/

set_option autoImplicit false

namespace FirstClaim.Callback

/-- The matched text with the ASCII letters `a` to `z` in upper case. -/
def upper : Callback := fun _ call =>
  .ok (call.matched.map Char.toUpper)

def const (text : String) : Callback := fun _ _ =>
  .ok text

/-- The matched text, a bar and the groups with commas between them. A hyphen stands for a group
that took no part. -/
def groups : Callback := fun _ call =>
  .ok (call.matched ++ "|" ++ String.intercalate "," (call.groups.map (·.getD "-")))

def count : Callback := fun earlier _ =>
  .ok s!"#{earlier.length}"

/-- Fails at the call that `n` others came before, and gives the text in upper case otherwise. -/
def failAt (n : Nat) (message : String) : Callback := fun earlier call =>
  if earlier.length = n then .error message else upper earlier call

/-! ## Numbers -/

/-- The largest number that fits into a word of 64 bits. -/
def wordMax : Nat :=
  Nat.pow 2 64 - 1

/-- Reads a word in decimal digits with an optional plus sign. The first character that is no digit
is at fault unless the digits before it are already too many. -/
def readWord (text : String) : Except String Nat :=
  let digits := match text.toList with
    | ['+'] => ['+']
    | '+' :: rest => rest
    | cs => cs
  if digits.isEmpty then .error "cannot parse integer from empty string"
  else digits.foldlM (fun n c =>
    if !c.isDigit then .error "invalid digit found in string"
    else
      let n := n * 10 + (c.toNat - '0'.toNat)
      if n ≤ wordMax then .ok n else .error "number too large to fit in target type") 0

/-- Twice the number in group 1, or in `0` where there is no such text. -/
def double : Callback := fun _ call => do
  let n ← readWord (call.groups.head?.join.getD "0")
  if 2 * n ≤ wordMax then .ok (toString (2 * n)) else .error "overflow"

end FirstClaim.Callback
