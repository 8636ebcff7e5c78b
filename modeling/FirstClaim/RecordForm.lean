/-!
# Records in files

A file holds records. A `RecordForm` lists the members of a record with the way each is read; it
is the same for every file format. A format is a monad `R` of readers that knows how to read a
text, a value that may be absent, a list and a record (`FileFormat`).
-/

set_option autoImplicit false

namespace FirstClaim

/-- A member of a record: its name, and how its value is read into the record. -/
structure Member (R : Type → Type) (σ : Type) where
  name : String
  /-- A record without this member is refused. -/
  required : Bool := false
  read : σ → R σ

/-- A record as it stands in a file. -/
structure RecordForm (R : Type → Type) (σ : Type) where
  /-- What an error calls the record. -/
  title : String
  /-- What the record holds before its members are read. -/
  start : σ
  members : List (Member R σ)

namespace RecordForm

variable {R : Type → Type} {σ : Type}

/-- The member of a name. -/
def member? (form : RecordForm R σ) (name : String) : Option (Member R σ) :=
  form.members.find? (·.name == name)

/-- The first required member that is not among the names. -/
def missing? (form : RecordForm R σ) (seen : List String) : Option String :=
  (form.members.find? fun m => m.required && !seen.contains m.name).map (·.name)

end RecordForm

/-- What is read from a file, whatever its format. -/
class FileFormat (R : Type → Type) extends Monad R where
  text : R String
  optional {α : Type} : R α → R (Option α)
  list {α : Type} : R α → R (List α)
  record {σ : Type} : RecordForm R σ → R σ

end FirstClaim
