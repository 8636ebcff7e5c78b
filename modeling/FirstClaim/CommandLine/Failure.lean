import FirstClaim.Store

/-!
# Failures of a run

A `Failure` says what could not be done and, underneath, why.
-/

set_option autoImplicit false

namespace FirstClaim

/-- An error on files in words, and the error behind it. -/
def IoError.causes (e : IoError) : List String :=
  [e.message]

/-- The error in words, and what is behind it. -/
def StoreError.causes (e : StoreError) : List String :=
  match e with
  | invalidName _ => [e.message]
  | io inner => [e.message, inner.message]
  | json inner => [e.message, inner.message]

namespace CommandLine

/-- What could not be done, and why. -/
inductive Failure where
  | makeDirectory (path : String) (error : IoError)
  | openStore (path : String) (error : StoreError)
  | load (name : String) (error : StoreError)
  | notStored (name : String) (directory : String)
  | save (name : String) (error : StoreError)
  | readInput (path : Option String) (error : IoError)
  | writeOutput (path : String) (error : IoError)
  | print (error : IoError)
  | showRules (error : IoError)
deriving DecidableEq, Repr

namespace Failure

def summary : Failure → String
  | makeDirectory path _ => s!"Failed to create data directory {path}"
  | openStore path _ => s!"Failed to open rule store in {path}"
  | load name _ => s!"Failed to load rule set '{name}'"
  | notStored name directory => s!"Rule set '{name}' not found in {directory}"
  | save name _ => s!"Failed to save rule set '{name}'"
  | readInput path _ =>
    let place := path.getD "stdin"
    s!"Failed to read {place}"
  | writeOutput path _ => s!"Failed to write {path}"
  | print error => error.message
  | showRules error => s!"failed printing to stdout: {error.message}"

def causes : Failure → List String
  | makeDirectory _ error | readInput _ error | writeOutput _ error => error.causes
  | openStore _ error | load _ error | save _ error => error.causes
  | notStored _ _ | print _ | showRules _ => []

def indentRest (blanks : Nat) (text : String) : String :=
  String.join (text.toList.map fun c =>
    if c = '\n' then "\n" ++ String.ofList (List.replicate blanks ' ') else c.toString)

def causeText (several : Bool) (cause : String × Nat) : String :=
  if several then
    let digits := toString cause.2
    String.ofList (List.replicate (5 - digits.length) ' ') ++ digits ++ ": " ++ indentRest 7 cause.1
  else "    " ++ indentRest 4 cause.1

def text (f : Failure) : String :=
  let several := 1 < f.causes.length
  let causes := if f.causes.isEmpty then "" else
    "\n\nCaused by:" ++ String.join (f.causes.zipIdx.map fun c => "\n" ++ causeText several c)
  match f with
  -- this is a panic; its place in the library is left out
  | showRules _ => f.summary ++ "\n"
  | _ => s!"Error: {f.summary}" ++ causes ++ "\n"

def exitCode : Failure → UInt32
  | showRules _ => 101
  | _ => 1

end Failure

end CommandLine

end FirstClaim
