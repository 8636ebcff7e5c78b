import FirstClaim.Store

/-!
# Where the store is

The store stands in a data directory: the one that is asked for, or else one below the home
directory of the user.
-/

set_option autoImplicit false

namespace FirstClaim

/-- The directory that holds the store. -/
structure DataDirectory where
  root : String
deriving DecidableEq, Repr

namespace DataDirectory

/-- The directory that is used when none is asked for. -/
def ofHome (home : String) : DataDirectory :=
  ⟨[".local", "share", "reformat"].foldl Path.join home⟩

/-- The directory asked for, or else the one below the home directory. -/
def choose (home : String) (requested : Option String) : DataDirectory :=
  match requested with
  | some root => ⟨root⟩
  | none => ofHome home

def store (d : DataDirectory) : Store :=
  .below d.root

end DataDirectory

end FirstClaim
