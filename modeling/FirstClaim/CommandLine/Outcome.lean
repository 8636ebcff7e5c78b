import FirstClaim.CommandLine.Arguments
import FirstClaim.CommandLine.Failure
import FirstClaim.CommandLine.Log
import FirstClaim.DataDirectory

/-!
# What a run does

`Invocation.outcome` says what a run of the program leaves behind: its exit code, what it prints and
the files. The rules are loaded and saved first, then the input is read, and the text that the rules
make of it goes to a file or to the output at the very end.
-/

set_option autoImplicit false

namespace FirstClaim.CommandLine

/-- What a run has to do with. -/
structure Invocation where
  arguments : List String
  /-- What can be read when no file is given. -/
  input : ByteArray
  home : String
  files : FileTree
  now : Timestamp
  media : Media := .usual

/-! ## Messages -/

/-- What is told besides the output. -/
inductive Message where
  | log (event : LogEvent)
  | report (config : Config) (report : Report) (now : Timestamp)
  | failure (failure : Failure)
  | misuse (error : UsageError)
deriving DecidableEq, Repr

def claimValue (c : Claim) : Json.Value :=
  .object [("end", .number c.stop), ("original", .string c.matched),
    ("replacement", .string c.replacement), ("rule_index", .number c.rule),
    ("start", .number c.start)]

def skippedValue (s : Skipped) : Json.Value :=
  .object [("pattern", (s.pattern.map Json.Value.string).getD .null),
    ("reason", .string s.text), ("rule_index", .number s.rule)]

def reportValue (elapsed : Nat) (config : Config) (r : Report) (now : Timestamp) : Json.Value :=
  .object [("changed", .bool r.changed), ("claims", .array (r.claims.map claimValue)),
    ("elapsed_micros", .number elapsed), ("fingerprint", .string config.fingerprint),
    ("generated_at", .string (now.text "+00:00")), ("rule_set", .string config.name),
    ("skipped", .array (r.skipped.map skippedValue))]

namespace Message

/-- The text of a message; `elapsed` is the time that the rules took, in microseconds. -/
def text (elapsed : Nat) : Message → String
  | log event => event.text elapsed
  | report config r now => (reportValue elapsed config r now).pretty ++ "\n"
  | failure f => f.text
  | misuse e => e.text

/-- Whether a message is shown; what is for debugging is shown on demand. -/
def isShown (verbose : Bool) : Message → Bool
  | log event => verbose || event.level ≠ .debug
  | _ => true

end Message

/-! ## Steps -/

/-- What has come about so far. -/
structure Progress where
  files : FileTree
  messages : List Message := []
  printed : ByteArray := .empty

/-- A step of a run, which may fail. -/
abbrev Step := ExceptT Failure (StateM Progress)

namespace Step

def tell (m : Message) : Step Unit :=
  modify fun p => { p with messages := p.messages ++ [m] }

def log (e : LogEvent) : Step Unit :=
  tell (.log e)

/-- The result of an operation, or else a failure. -/
def attempt {ε α : Type} (fail : ε → Failure) : Except ε α → Step α
  | .ok a => pure a
  | .error e => throw (fail e)

def changeFiles {ε : Type} (fail : ε → Failure) (change : FileTree → Except ε FileTree) :
    Step Unit := do
  let files ← attempt fail (change (← get).files)
  modify ({ · with files })

/-- Writes into a file. What is written before a failure stays. -/
def writeFile {ε : Type} (fail : ε → Failure) (write : FileTree → FileTree × Except ε Unit) :
    Step Unit := do
  let (files, result) := write (← get).files
  modify ({ · with files })
  attempt fail result

def print (fail : IoError → Failure) (room : Room) (text : String) : Step Unit := do
  modify fun p => { p with printed := p.printed ++ room.taken text.toUTF8 }
  attempt fail (room.result text.toUTF8)

/-- Makes a data directory and the store in it unless they are there. -/
def openStore (d : DataDirectory) : Step Store := do
  changeFiles (.makeDirectory d.root) (·.makeDirectories d.root)
  changeFiles (.openStore d.root) d.store.create
  pure d.store

/-- The rules of a stored rule set. -/
def loadStored (d : DataDirectory) (name : String) : Step Config := do
  let store ← openStore d
  match ← attempt (.load name) (store.load (← get).files name) with
  | none => throw (.notStored name store.directory)
  | some stored =>
    log (.storedLoaded name stored.config.rules.length)
    -- changed rules are used all the same
    if !stored.isIntact then log (.storedChanged name)
    log (.storedUsed name stored.savedAt)
    pure stored.config

/-- The rules of a file, or the built-in ones. -/
def loadFile (path : Option String) : Step Config := do
  let (config, error) := Config.loadOrBuiltin (← get).files path
  match path with
  | some path =>
    if let some e := error then log (.loadFailed path e)
    log (.rulesLoaded path config.rules.length)
  | none => log (.builtinUsed config.rules.length)
  pure config

def loadRules (home : String) (a : Arguments) : Step Config :=
  match a.ruleSet with
  | some name => loadStored (.choose home a.store) name
  | none => loadFile a.rules

/-- Saves rules in the store if a name is given, which becomes their name. -/
def saveRules (i : Invocation) (a : Arguments) (config : Config) : Step Config :=
  match a.saveAs with
  | none => pure config
  | some name => do
    -- from here on the rules go by that name in the output as well
    let config := { config with name }
    let store ← openStore (.choose i.home a.store)
    writeFile (.save name) (store.saveOn · i.media name config i.now)
    log (.stored name config.fingerprint)
    log (.saved name config.rules.length)
    pure config

def readInput (i : Invocation) (a : Arguments) : Step String := do
  let files := (← get).files
  attempt (.readInput a.input) <| match a.input with
    | some path => files.readText path
    | none => decodeText i.input

def applyRules (config : Config) (text : String) : Step Report := do
  log (.engineBuilt config.name config.rules.length)
  let r := ((Engine.mk config.toRules).transform text).1
  r.skipped.forM fun s => log (.ruleSkipped s)
  if !text.isEmpty && !config.rules.isEmpty then
    log (.transformed config.rules.length r.claims.length r.skipped.length)
  pure r

/-- Writes a text into a file if a path is given, and prints it otherwise. -/
def writeOutput (i : Invocation) (path : Option String) (text : String) : Step Unit :=
  match path with
  | none => print .print i.media.output text
  | some path => do
    writeFile (.writeOutput path) (·.writeOn i.media path text.toUTF8)
    log (.outputWritten path)

/-- All that a run does. -/
def all (i : Invocation) (a : Arguments) : Step Unit := do
  let config ← loadRules i.home a
  let config ← saveRules i a config
  if a.showRules then print .showRules i.media.output (config.render .yaml)
  else
    let text ← readInput i a
    let r ← applyRules config text
    -- the report goes ahead of the output, so it is told even if that cannot be written
    if a.report then tell (.report config r i.now)
    writeOutput i a.output r.output

end Step

/-! ## Outcomes -/

/-- What a run leaves behind. -/
structure Outcome where
  exitCode : UInt32
  output : ByteArray
  messages : List Message
  files : FileTree

/-- What is told besides the output. -/
def Outcome.errorText (o : Outcome) (elapsed : Nat) : String :=
  String.join (o.messages.map (·.text elapsed))

def Invocation.outcome (i : Invocation) : Outcome :=
  match Arguments.read i.arguments with
  | .error .help => ⟨0, i.media.output.taken helpText.toUTF8, [], i.files⟩
  | .error (.misuse e) => ⟨2, .empty, [.misuse e], i.files⟩
  | .ok a =>
    let shown (p : Progress) : List Message := p.messages.filter (·.isShown a.verbose)
    match (Step.all i a).run.run { files := i.files } with
    | (.ok (), p) => ⟨0, p.printed, shown p, p.files⟩
    | (.error f, p) => ⟨f.exitCode, p.printed, shown p ++ [.failure f], p.files⟩

end FirstClaim.CommandLine
