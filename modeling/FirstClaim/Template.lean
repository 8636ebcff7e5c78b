/-!
# Replacement templates

A template is text in which `$` followed by decimal digits may refer to a capture group. At each `$`
the longest run of following digits that names a group is taken, so `$10` is group 10 when there are
ten groups and group 1 followed by a `0` otherwise.

A `$` that starts no reference stays as it is, and so does a reference to a group that took no part
in the match. The text of a group is not looked at again.
-/

set_option autoImplicit false

namespace FirstClaim.Template

/-- Larger numbers are not read. -/
def largestNumber : Nat :=
  18446744073709551615

def number? (digits : List Char) : Option Nat :=
  let value := Nat.ofDigitChars 10 digits 0
  if digits.isEmpty ∨ largestNumber < value then none else some value

/-- The longest reference to one of `count` groups in the first `length` digits, as the group and the
number of its digits. -/
def longestReference (count : Nat) (digits : List Char) : Nat → Option (Nat × Nat)
  | 0 => none
  | length + 1 =>
    match (number? (digits.take (length + 1))).filter fun index => 1 ≤ index ∧ index ≤ count with
    | some index => some (index, length + 1)
    | none => longestReference count digits length

def groupReference (digits : List Char) (count : Nat) : Option (Nat × Nat) :=
  longestReference count digits digits.length

/-- Goes on with the rest of a template after `out`; group 1 is the first entry of `groups`. -/
def expandRest (groups : List (Option String)) (out : String) (rest : List Char) : String :=
  match _h : rest.dropWhile (· ≠ '$') with
  | [] => out ++ String.ofList rest
  | _ :: after =>
    let out := out ++ String.ofList (rest.takeWhile (· ≠ '$'))
    match groupReference (after.takeWhile Char.isDigit) groups.length with
    | some (index, length) =>
      let inserted := match groups[index - 1]? with
        | some (some text) => text
        -- the group took no part; references name no other entries than those of `groups`
        | _ => String.ofList ('$' :: after.take length)
      expandRest groups (out ++ inserted) (after.drop length)
    | none => expandRest groups (out.push '$') after
termination_by rest.length
decreasing_by
  all_goals
    have hle : (rest.dropWhile (· ≠ '$')).length ≤ rest.length :=
      (List.dropWhile_sublist _).length_le
    rw [_h, List.length_cons] at hle
  · rw [List.length_drop]
    omega
  · exact hle

/-- Expands a template; group 1 is the first entry of `groups`. -/
def expand (template : String) (groups : List (Option String)) : String :=
  if '$' ∈ template.toList then expandRest groups "" template.toList else template

end FirstClaim.Template
