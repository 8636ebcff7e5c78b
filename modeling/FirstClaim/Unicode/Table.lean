import FirstClaim.CharSet

/-!
# Tables of named sets

A table lists sets of characters under their names. Names are written in lower case and without
blanks, hyphens and underscores, which is the form that `looseName` brings a name into.
-/

set_option autoImplicit false

namespace FirstClaim.Unicode

/-- A set of characters under its names, as counts of code points left out and taken in. -/
structure NamedSet where
  names : List String
  counts : String

/-- A list of named sets. -/
abbrev Table := List NamedSet

def NamedSet.chars? (s : NamedSet) : Option CharSet :=
  if s.counts.isEmpty then none else some (CharSet.ofCounts s.counts)

/-- The entry of a name in loose form. -/
def Table.find? (t : Table) (name : String) : Option NamedSet :=
  List.find? (fun s => s.names.contains name) t

/--
The loose form of a property name: a leading `is`, blanks, hyphens, underscores and characters
beyond ASCII are dropped and letters are lowered. Only `isc` keeps its first two letters, since
`c` alone is the name of another set.
-/
def looseName (name : String) : String :=
  let (isDropped, cs) := match name.toList with
    | a :: b :: rest =>
      if (a = 'i' || a = 'I') && (b = 's' || b = 'S') then (true, rest) else (false, a :: b :: rest)
    | cs => (false, cs)
  let isKept (c : Char) : Bool := c.toNat < 0x80 && c != ' ' && c != '_' && c != '-'
  let kept := (cs.filter isKept).map (·.toLower)
  if isDropped && kept = ['c'] then "isc" else String.ofList kept

end FirstClaim.Unicode
