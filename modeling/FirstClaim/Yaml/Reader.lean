import FirstClaim.RecordForm
import FirstClaim.Yaml.Document
import FirstClaim.Yaml.Plain

/-!
# Reading records from a YAML file

`Reader` is a file format. A record stands as a mapping, and any scalar is a text. An absent node
counts as an empty record or an empty list.
-/

set_option autoImplicit false

namespace FirstClaim.Yaml

/-- Where a value stands. -/
structure Scope where
  document : Document
  /-- The path of the value, empty for the whole document. -/
  path : String := ""
  /-- The path and the mark of the record or list around it. -/
  outer : String × Mark := ("", .start)

/-- Reads a value that begins with the item of a number; gives the number of the item behind it. -/
abbrev Reader := ReaderT Scope (StateT Nat (Except Error))

namespace Reader

def peek : Reader (Item × Mark) := fun scope n =>
  match scope.document.items[n]? with
  | some item => .ok (item, n)
  | none => .error (scope.document.failure.getD .endOfText)

def skip : Reader Unit := modify (· + 1)

def refuse {α : Type} (reason : Reason) (m : Mark) : Reader α := fun scope _ =>
  .error (.content reason scope.path m)

/-- An error of the record or list around the value. -/
def refuseOuter {α : Type} (reason : Reason) : Reader α := fun scope _ =>
  .error (.content reason scope.outer.1 scope.outer.2)

/-- Reads a node, of which the first item and its mark are given and passed over. In the place of an
alias the node is read that it points at. -/
def node {α : Type} (read : Item → Mark → Reader α) : Reader α := do
  let (item, m) ← peek
  match item with
  | .aliasOf target => fun scope n => do
    let (first, m) ← (peek scope target).map (·.1)
    let (a, _) ← read first m scope (target + 1)
    .ok (a, n + 1)
  | item =>
    skip
    read item m

/-- Reads a value below the present one. -/
def below {α : Type} (path : String) (m : Mark) (read : Reader α) : Reader α := fun scope n =>
  read { scope with path, outer := (scope.path, m) } n

/-! ## Values that are not wanted -/

/-- The tag of a name of the standard. -/
def standardTag (name : String) : String :=
  "tag:yaml.org,2002:" ++ name

/-- The reason for refusing a scalar that stands for something. -/
def meaningReason (expected text : String) : Meaning → Reason
  | .null => .mismatch .null expected
  | .bool b => .mismatch (.bool b) expected
  | .integer n => .mismatch (.integer n) expected
  | .wide n type => .wideMismatch n type expected
  | .float x => .mismatch (.float (Decimal.floatText floatStyle x)) expected
  | .text => .mismatch (.string text) expected

/-- The meaning that a tag wants, if the text has it, and what the text should have been. -/
def taggedMeaning? (tag text : String) : Option (Option Meaning × String) :=
  if tag = standardTag "bool" then some ((boolWord? text).map .bool, "a boolean")
  else if tag = standardTag "int" then
    some ((wholeNumber? text.toList).bind Meaning.ofWhole?, "an integer")
  else if tag = standardTag "float" then some ((plainFloat? text).map .float, "a float")
  else if tag = standardTag "null" then
    some (if isNullWord text then some .null else none, "null")
  else none

/-- The reason for refusing a scalar in the place of something else. -/
def scalarReason (expected text : String) (style : ScalarStyle) (tag : Option String) : Reason :=
  let own := if style = .plain then Meaning.ofPlain text else .text
  match tag with
  | none => meaningReason expected text own
  | some tag =>
    match taggedMeaning? tag text with
    | some (some meaning, _) => meaningReason expected text meaning
    | some (none, wanted) => .invalidValue text wanted
    | none => meaningReason expected text (if tag.startsWith "!" then own else .text)

/-- The error for an item in the place of something else. -/
def mismatch {α : Type} (expected : String) (item : Item) (m : Mark) : Reader α :=
  match item with
  | .scalar text style tag => refuse (scalarReason expected text style tag) m
  | .sequenceStart => refuse (.mismatch .sequence expected) m
  | .mappingStart => refuse (.mismatch .map expected) m
  | _ => throw .endOfText

/-- Whether an item is an absent node. -/
def isAbsent : Item → Bool
  | .nothing => true
  | .scalar text style _ => text.isEmpty && style = .plain
  | _ => false

/-- The number of the item behind a node. The first argument bounds the number of items, the second
is the number of collections that are open. -/
def behindNode (items : Array (Item × Mark)) : Nat → Nat → Nat → Option Nat
  | 0, _, _ => none
  | fuel + 1, depth, n =>
    match items[n]? with
    | none => none
    | some (item, _) =>
      let depth := match item with
        | .sequenceStart => depth + 1
        | .mappingStart => depth + 1
        | .sequenceEnd => depth - 1
        | .mappingEnd => depth - 1
        | _ => depth
      if depth = 0 then some (n + 1) else behindNode items fuel depth (n + 1)

def skipNode : Reader Unit := fun scope n =>
  match behindNode scope.document.items (scope.document.items.size + 1) 0 n with
  | some behind => .ok ((), behind)
  | none => .error (scope.document.failure.getD .endOfText)

/-! ## Values that are wanted -/

/-- Reads a text, which errors describe by `expected`. -/
def textAs (expected : String) : Reader String :=
  node fun item m =>
    match item with
    | .scalar text _ _ => pure text
    | item => mismatch expected item m

def isPresent (item : Item) : Reader Bool :=
  match item with
  | .nothing => pure false
  | .scalar text style tag =>
    if style ≠ .plain then pure true
    else
      match tag with
      | none => pure !(text.isEmpty || isNullWord text)
      | some tag =>
        if tag ≠ standardTag "null" then pure true
        else if isNullWord text then pure false
        else refuseOuter (.invalidValue text "null")
  | _ => pure true

def readOptional {α : Type} (read : Reader α) : Reader (Option α) := fun scope n => do
  let (first, _) ← (peek scope n).map (·.1)
  let (shown, _) ← match first with
    | .aliasOf target => (peek scope target).map (·.1)
    | item => .ok (item, Mark.start)
  let (present, _) ← isPresent shown scope n
  if present then
    let (a, n) ← read scope n
    .ok (some a, n)
  else .ok (none, n + 1)

/-- Reads the entries of a list. The first argument bounds their number, `before` holds the ones
read, the last one first. -/
def readEntries {α : Type} (read : Reader α) (path : String) (m : Mark) :
    Nat → List α → Reader (List α)
  | 0, _ => throw .endOfText
  | fuel + 1, before => do
    let (item, _) ← peek
    if item = .sequenceEnd then
      skip
      pure before.reverse
    else
      let a ← below s!"{path}[{before.length}]" m read
      readEntries read path m fuel (a :: before)

def readList {α : Type} (read : Reader α) : Reader (List α) := do
  let scope ← MonadReader.read
  node fun item m =>
    if item = .sequenceStart then
      readEntries read scope.path m (scope.document.items.size + 1) []
    else if isAbsent item then pure []
    else mismatch "a sequence" item m

/-- The path of the value of a key. -/
def memberPath (path : String) (key : Item) : String :=
  let parent := if path.isEmpty then "" else path ++ "."
  match key with
  | .scalar text _ _ => parent ++ text
  | _ => parent ++ "?"

/-- Reads the members of a mapping into a record. The first argument bounds their number, `seen`
holds the names of the ones read. -/
def readMembers {σ : Type} (form : RecordForm Reader σ) (m : Mark) :
    Nat → List String → σ → Reader σ
  | 0, _, _ => throw .endOfText
  | fuel + 1, seen, s => do
    let (item, _) ← peek
    if item = .mappingEnd then
      skip
      match form.missing? seen with
      | some name => refuse (.missingField name) m
      | none => pure s
    else
      let key ← textAs "field identifier"
      match form.member? key with
      | none =>
        skipNode
        readMembers form m fuel seen s
      | some member =>
        if seen.contains key then refuse (.duplicateField key) m
        else
          let scope ← MonadReader.read
          let s ← below (memberPath scope.path item) m (member.read s)
          readMembers form m fuel (key :: seen) s

def readRecord {σ : Type} (form : RecordForm Reader σ) : Reader σ := do
  let scope ← MonadReader.read
  node fun item m =>
    if item = .mappingStart then
      readMembers form m (scope.document.items.size + 1) [] form.start
    else if isAbsent item then
      match form.missing? [] with
      | some name => refuse (.missingField name) m
      | none => pure form.start
    else mismatch form.title item m

end Reader

instance : FileFormat Reader where
  text := Reader.textAs "a string"
  optional := Reader.readOptional
  list := Reader.readList
  record := Reader.readRecord

def parse {α : Type} (read : Reader α) (text : String) : Except Error α := do
  let (document, last) := Document.ofText text
  let (a, _) ← read { document } 0
  match document.failure with
  | some e => .error e
  | none => if last then .ok a else .error .severalDocuments

end FirstClaim.Yaml
