import FirstClaim.Medium
import FirstClaim.StoredRuleSet

/-!
# The store of rule sets

A store is a directory with one file for each rule set, whose name is the name of the rule set with
the extension `json`. Names are checked before any file is touched (`checkName`), so that no
operation leaves the directory.
-/

set_option autoImplicit false

namespace FirstClaim

/-- Why an operation on a store fails. -/
inductive StoreError where
  | invalidName (name : String)
  | io (error : IoError)
  | json (error : Json.Error)
deriving DecidableEq, Repr

def StoreError.message : StoreError → String
  | invalidName name =>
    s!"invalid rule set name '{name}' (allowed: letters, digits, '-', '_')"
  | io error => s!"io error: {error.message}"
  | json error => s!"json error: {error.message}"

/-! ## Names -/

/-- A character that may stand in the name of a rule set. -/
def isNameChar (c : Char) : Bool :=
  c.isAlphanum || c == '-' || c == '_'

/-- Whether a text may name a rule set in a store. -/
def isStoreName (name : String) : Bool :=
  !name.isEmpty && name.toList.all isNameChar

def checkName (name : String) : Except StoreError Unit :=
  if isStoreName name then .ok () else .error (.invalidName name)

/-! ## Stores -/

/-- A directory that rule sets are stored in. -/
structure Store where
  directory : String
deriving DecidableEq, Repr

namespace Store

/-- The store below a directory. -/
def below (parent : String) : Store :=
  ⟨Path.join parent "rulesets"⟩

def path (s : Store) (name : String) : String :=
  Path.join s.directory (name ++ ".json")

/-- Makes the directory of a store unless it is there. -/
def create (s : Store) (files : FileTree) : Except StoreError FileTree :=
  (files.makeDirectories s.directory).mapError .io

/-- The rule set of a name, if there is one. -/
def load (s : Store) (files : FileTree) (name : String) :
    Except StoreError (Option StoredRuleSet) := do
  checkName name
  if files.contains (s.path name) then
    let text ← (files.readText (s.path name)).mapError .io
    some <$> (StoredRuleSet.parse text).mapError .json
  else .ok none

def save (s : Store) (files : FileTree) (name : String) (config : Config) (now : Timestamp) :
    Except StoreError FileTree := do
  checkName name
  let text := (StoredRuleSet.ofConfig config now).render
  (files.write (s.path name) text.toUTF8).mapError .io

/-- Saves a rule set where writing may break off. -/
def saveOn (s : Store) (files : FileTree) (media : Media) (name : String) (config : Config)
    (now : Timestamp) : FileTree × Except StoreError Unit :=
  match checkName name with
  | .error e => (files, .error e)
  | .ok () =>
    let text := (StoredRuleSet.ofConfig config now).render
    let (files, result) := files.writeOn media (s.path name) text.toUTF8
    (files, result.mapError .io)

def remove (s : Store) (files : FileTree) (name : String) : Except StoreError FileTree := do
  checkName name
  if files.contains (s.path name) then (files.removeFile (s.path name)).mapError .io
  else .ok files

/-- The names of what is stored, in the order of their characters. -/
def list (s : Store) (files : FileTree) : Except StoreError (List String) := do
  let names ← (files.namesIn s.directory).mapError .io
  -- only the extension decides: the rest of such a name need not be one that the store takes
  let stored := names.filter fun name => Path.nameExtension? name == some "json"
  .ok ((stored.map Path.stem).mergeSort fun a b => decide (a ≤ b))

end Store

/-! ## Storage that may be switched off -/

/-- Where rule sets are stored. Nowhere, nothing is ever found and names do not matter. -/
inductive Storage where
  | store (store : Store)
  | nowhere
deriving DecidableEq, Repr

namespace Storage

def load (s : Storage) (files : FileTree) (name : String) :
    Except StoreError (Option StoredRuleSet) :=
  match s with
  | store s => s.load files name
  | nowhere => .ok none

def save (s : Storage) (files : FileTree) (name : String) (config : Config) (now : Timestamp) :
    Except StoreError FileTree :=
  match s with
  | store s => s.save files name config now
  | nowhere => .ok files

def remove (s : Storage) (files : FileTree) (name : String) : Except StoreError FileTree :=
  match s with
  | store s => s.remove files name
  | nowhere => .ok files

def list (s : Storage) (files : FileTree) : Except StoreError (List String) :=
  match s with
  | store s => s.list files
  | nowhere => .ok []

end Storage

end FirstClaim
