import FirstClaim.CommandLine.Setting
import FirstClaim.CommandLine.Similarity

/-!
# Reading the command line

`Arguments.read` turns the arguments of a call into `Arguments`, or says why it cannot
(`UsageError`). Arguments are read from left to right. A value is noted together with its setting
only when the next setting is read (`Reading.settle`), which decides what error comes first.
-/

set_option autoImplicit false

namespace FirstClaim.CommandLine

/-- What the program is asked to do. -/
structure Arguments where
  input : Option String := none
  output : Option String := none
  rules : Option String := none
  store : Option String := none
  ruleSet : Option String := none
  saveAs : Option String := none
  showRules : Bool := false
  report : Bool := false
  verbose : Bool := false
deriving DecidableEq, Repr

/-! ## Errors -/

/-- Why arguments are refused. Errors carry the settings that a right call might have. -/
inductive UsageError where
  | missingValue (setting : Setting)
  | unexpectedValue (value : String) (setting : Setting) (used : List Setting)
  | unexpectedArgument (argument : String) (suggestion : Option Setting) (used : List Setting)
  | repeated (setting : Setting)
  | conflict (setting other : Setting) (used : List Setting)
deriving DecidableEq, Repr

namespace UsageError

def summary : UsageError → String
  | missingValue s => s!"a value is required for '{s.spelling}' but none was supplied"
  | unexpectedValue value s _ =>
    s!"unexpected value '{value}' for '{s.spelling}' found; no more were expected"
  | unexpectedArgument argument _ _ => s!"unexpected argument '{argument}' found"
  | repeated s => s!"the argument '{s.spelling}' cannot be used multiple times"
  | conflict s other _ =>
    s!"the argument '{s.spelling}' cannot be used with '{other.spelling}'"

def advice : UsageError → List String
  | missingValue _ => []
  | unexpectedValue _ _ used => [usageLine used]
  | unexpectedArgument _ none used => [usageLine used]
  | unexpectedArgument _ (some s) used =>
    [s!"  tip: a similar argument exists: '--{s.name}'", usageLine used]
  | repeated _ => [usageLine []]
  | conflict _ _ used => [usageLine used]

def text (e : UsageError) : String :=
  let parts := s!"error: {e.summary}" :: e.advice ++ ["For more information, try '--help'."]
  String.intercalate "\n\n" parts ++ "\n"

end UsageError

/-- Why the reading of arguments ends early. -/
inductive Stop where
  | help
  | misuse (error : UsageError)
deriving DecidableEq, Repr

/-! ## Settings with their values -/

/-- The settings read so far. -/
structure Reading where
  /-- Settings with their values in the order in which they came; the value of a setting without
  one is empty. -/
  given : List (Setting × String) := []
  /-- A setting that is not noted yet, and its value as soon as there is one. -/
  pending : Option (Setting × Option String) := none
deriving DecidableEq, Repr

namespace Reading

def used (r : Reading) : List Setting :=
  r.given.map (·.1)

def usedWith (r : Reading) (s : Setting) : List Setting :=
  if r.used.contains s then r.used else r.used ++ [s]

/-- Notes a setting. One that was given before is forgotten and refused. -/
def note (r : Reading) (s : Setting) (value : String) : Reading × Option UsageError :=
  if r.used.contains s then
    ({ r with given := r.given.filter (·.1 ≠ s) }, some (.repeated s))
  else ({ r with given := r.given ++ [(s, value)] }, none)

/-- Notes the setting that is not noted yet. -/
def settle (r : Reading) : Reading × Option UsageError :=
  match r.pending with
  | none => (r, none)
  | some (s, none) => ({ r with pending := none }, some (.missingValue s))
  | some (s, some value) => note { r with pending := none } s value

def orStop : Reading × Option UsageError → Except Stop Reading
  | (r, none) => .ok r
  | (_, some e) => .error (.misuse e)

/-- Reads a setting that has its value with it, or that has none. -/
def take (r : Reading) (s : Setting) (value : String) : Except Stop Reading := do
  let r ← orStop r.settle
  if s = .help then .error .help else orStop (r.note s value)

/-- Reads a setting whose value is the next argument. -/
def await (r : Reading) (s : Setting) : Except Stop Reading := do
  let r ← orStop r.settle
  .ok { r with pending := some (s, none) }

def unknown {α : Type} (argument : String) : Except Stop α :=
  .error (.misuse (.unexpectedArgument argument none []))

/-- The error for a long name that is not known. A similar name is suggested. -/
def unknownName {α : Type} (r : Reading) (name : String) : Except Stop α :=
  let r := r.settle.1
  let suggestion := mostSimilar? name (Setting.all.map (·.name)) >>= Setting.ofName?
  let used := (suggestion.map r.usedWith).getD r.used
  .error (.misuse (.unexpectedArgument s!"--{name}" suggestion used))

def readName (r : Reading) (name : String) (value : Option String) : Except Stop Reading :=
  match Setting.ofName? name, value with
  | none, _ => r.unknownName name
  | some s, some value =>
    if s.takesValue then r.take s value
    else .error (.misuse (.unexpectedValue value s (r.usedWith s)))
  | some s, none => if s.takesValue then r.await s else r.take s ""

def readLetters (r : Reading) : List Char → Except Stop Reading
  | [] => .ok r
  | c :: rest =>
    match Setting.ofLetter? c with
    | none => unknown s!"-{c}"
    | some s =>
      if s.takesValue then
        match rest with
        | [] => r.await s
        | '=' :: value => r.take s (String.ofList value)
        | value => r.take s (String.ofList value)
      else do readLetters (← r.take s "") rest

/-- Reads an argument that names no setting. -/
def readWord (r : Reading) (word : String) : Except Stop Reading :=
  match r.pending with
  | some (s, none) => .ok { r with pending := some (s, some word) }
  | _ => unknown word

/-- A text before and behind its first equals sign. -/
def splitAtEquals (cs : List Char) : String × Option String :=
  let name := String.ofList (cs.takeWhile (· ≠ '='))
  match cs.dropWhile (· ≠ '=') with
  | [] => (name, none)
  | _ :: value => (name, some (String.ofList value))

/-- Reads arguments. Behind two hyphens alone none is expected. -/
def readAll (r : Reading) : List String → Except Stop Reading
  | [] => orStop r.settle
  | argument :: rest =>
    match argument.toList with
    | ['-', '-'] =>
      match rest with
      | [] => orStop r.settle
      | next :: _ => unknown next
    | '-' :: '-' :: cs => do
      let (name, value) := splitAtEquals cs
      readAll (← r.readName name value) rest
    | '-' :: c :: cs => do readAll (← r.readLetters (c :: cs)) rest
    | _ => do readAll (← r.readWord argument) rest

/-- The first setting that another one given cannot be used with. -/
def conflict? (r : Reading) : Option UsageError :=
  r.used.findSome? fun s =>
    (s.conflicts.find? r.used.contains).map fun other =>
      .conflict s other (r.used.filter (!s.conflicts.contains ·))

def value? (r : Reading) (s : Setting) : Option String :=
  r.given.lookup s

def arguments (r : Reading) : Arguments where
  input := r.value? .input
  output := r.value? .output
  rules := r.value? .rules
  store := r.value? .store
  ruleSet := r.value? .ruleSet
  saveAs := r.value? .saveAs
  showRules := r.used.contains .showRules
  report := r.used.contains .report
  verbose := r.used.contains .verbose

end Reading

/-- Reads the arguments of a call. -/
def Arguments.read (arguments : List String) : Except Stop Arguments := do
  let r ← Reading.readAll {} arguments
  match r.conflict? with
  | some e => .error (.misuse e)
  | none => .ok r.arguments

end FirstClaim.CommandLine
