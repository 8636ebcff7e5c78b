import FirstClaim.Hex
import FirstClaim.Json.Number
import FirstClaim.RecordForm

/-!
# Reading records from a JSON file

`Reader` is a file format. A record stands as an object, or as an array of its members in their
order. Members that the record does not have are passed over (`skipValue`), to any depth.
-/

set_option autoImplicit false

namespace FirstClaim.Json

/-- Reads a value from the place reached. -/
abbrev Reader := StateT Cursor (Except Error)

/-! ## Strings -/

/-- Four hexadecimal digits as a number. -/
def hexValue4? : List Char → Option Nat
  | a :: b :: c :: d :: _ => do
    let x ← hexValue? a
    let y ← hexValue? b
    let z ← hexValue? c
    let w ← hexValue? d
    some (((x * 16 + y) * 16 + z) * 16 + w)
  | _ => none

def readHex (c : Cursor) : Except Error (Nat × Cursor) :=
  match Cursor.placeAtBytes? c.place 4 c.rest with
  | none => .error ⟨.endInString, c.endPlace⟩
  | some p =>
    match hexValue4? c.rest with
    | none => .error ⟨.invalidEscape, p⟩
    | some n => .ok (n, ⟨c.rest.drop 4, p⟩)

/-- The character of an escape that stands for one. -/
def escapedChar? : Char → Option Char
  | '"' => some '"'
  | '\\' => some '\\'
  | '/' => some '/'
  | 'b' => some '\x08'
  | 'f' => some '\x0c'
  | 'n' => some '\n'
  | 'r' => some '\r'
  | 't' => some '\t'
  | _ => none

/-- Reads the second half of a pair of escapes that stands for one character. -/
def readTrail (lead : Nat) (c : Cursor) : Except Error (Char × Cursor) :=
  match c.rest with
  | [] => c.fail .endInString
  | '\\' :: _ =>
    let c := c.advance
    match c.rest with
    | [] => c.fail .endInString
    | 'u' :: _ => do
      let (n, c) ← readHex c.advance
      if 0xDC00 ≤ n && n ≤ 0xDFFF then
        .ok (Char.ofNat (0x10000 + (lead - 0xD800) * 0x400 + (n - 0xDC00)), c)
      else c.fail .loneSurrogate
    | _ => c.failAhead .endOfHexEscape
  | _ => c.failAhead .endOfHexEscape

def readEscape (c : Cursor) : Except Error (Char × Cursor) :=
  match c.rest with
  | [] => c.fail .endInString
  | 'u' :: _ => do
    let (n, c) ← readHex c.advance
    if 0xDC00 ≤ n && n ≤ 0xDFFF then c.fail .loneSurrogate
    else if 0xD800 ≤ n && n ≤ 0xDBFF then readTrail n c
    else .ok (Char.ofNat n, c)
  | x :: _ =>
    match escapedChar? x with
    | some y => .ok (y, c.advance)
    | none => c.failAhead .invalidEscape

/-- Reads the characters of a string up to its end. The first argument bounds the characters,
`before` holds the ones read, the last one first. -/
def readChars : Nat → List Char → Cursor → Except Error (String × Cursor)
  | 0, _, c => c.fail .endInString
  | fuel + 1, before, c =>
    match c.rest with
    | [] => c.fail .endInString
    | '"' :: _ => .ok (String.ofList before.reverse, c.advance)
    | '\\' :: _ => do
      let (x, c) ← readEscape c.advance
      readChars fuel (x :: before) c
    | x :: _ =>
      if x.toNat < 0x20 then c.failAhead .controlCharacter
      else readChars fuel (x :: before) c.advance

def readString (c : Cursor) : Except Error (String × Cursor) :=
  readChars (c.rest.length + 1) [] c

def skipEscape (c : Cursor) : Except Error Cursor :=
  match c.rest with
  | [] => c.fail .endInString
  | 'u' :: _ => (readHex c.advance).map (·.2)
  | x :: _ => if (escapedChar? x).isSome then .ok c.advance else c.failAhead .invalidEscape

def skipChars : Nat → Cursor → Except Error Cursor
  | 0, c => c.fail .endInString
  | fuel + 1, c =>
    match c.rest with
    | [] => c.fail .endInString
    | '"' :: _ => .ok c.advance
    | '\\' :: _ => do skipChars fuel (← skipEscape c.advance)
    | x :: _ => if x.toNat < 0x20 then c.fail .controlCharacter else skipChars fuel c.advance

def skipString (c : Cursor) : Except Error Cursor :=
  skipChars (c.rest.length + 1) c

/-! ## Words -/

def readLetters : List Char → Cursor → Except Error Cursor
  | [], c => .ok c
  | x :: xs, c =>
    match c.head? with
    | none => c.fail .endInValue
    | some y => if x = y then readLetters xs c.advance else c.failAhead .expectedIdent

/-- The word that begins with a character, and its meaning. -/
def wordOf? : Char → Option (String × Shape)
  | 'n' => some ("null", .null)
  | 't' => some ("true", .bool true)
  | 'f' => some ("false", .bool false)
  | _ => none

/-! ## Values that are not wanted -/

/-- Finds out what stands here in the place of what was expected. -/
def readShape (c : Cursor) : Except Error (Shape × Cursor) :=
  match c.head? with
  | none => c.failAhead .expectedValue
  | some '"' => do
    let (s, c) ← readString c.advance
    .ok (.string s, c)
  | some '[' => .ok (.sequence, c)
  | some '{' => .ok (.map, c)
  | some '-' => readNumber true c.advance
  | some x =>
    match wordOf? x with
    | some (word, shape) => do .ok (shape, ← readLetters word.toList c)
    | none => if x.isDigit then readNumber false c else c.failAhead .expectedValue

/-- The error for what stands here in the place of what was expected. -/
def refuse {α : Type} (expected : String) (c : Cursor) : Except Error α := do
  let (shape, c) ← readShape c
  c.fail (.mismatch shape expected)

/-- What an array or an object is closed with. -/
inductive Frame where
  | array
  | object
deriving DecidableEq, Repr

def Frame.closing : Frame → Char
  | array => ']'
  | object => '}'

/-- The error when the text ends within. -/
def Frame.endCause : Frame → ErrorCause
  | array => .endInList
  | object => .endInObject

/-- The error when neither a comma nor the closing bracket follows an item. -/
def Frame.separatorCause : Frame → ErrorCause
  | array => .expectedListEnd
  | object => .expectedObjectEnd

def skipKey (c : Cursor) : Except Error Cursor := do
  let c := c.skipBlanks
  match c.head? with
  | none => c.failAhead .endInObject
  | some '"' =>
    let c ← skipString c.advance
    let c := c.skipBlanks
    match c.head? with
    | none => c.failAhead .endInObject
    | some ':' => .ok c.advance
    | some _ => c.failAhead .expectedColon
  | some _ => c.failAhead .keyMustBeString

/-- Passes over what stands before an item of the innermost frame. -/
def skipItemStart (frame : Frame) (c : Cursor) : Except Error Cursor :=
  match frame with
  | .array => .ok c
  | .object => skipKey c

def skipAtom (c : Cursor) : Except Error Cursor :=
  match c.head? with
  | none => c.failAhead .endInValue
  | some '"' => skipString c.advance
  | some '-' => skipNumber c.advance
  | some x =>
    match wordOf? x with
    | some (word, _) => readLetters word.toList c
    | none => if x.isDigit then skipNumber c else c.failAhead .expectedValue

mutual

/-- Passes over a value. The frames are the arrays and objects that it stands in, the innermost
one first. The first argument bounds the steps. -/
def skipValueIn : Nat → List Frame → Cursor → Except Error Cursor
  | 0, _, c => c.fail .endInValue
  | fuel + 1, frames, c =>
    let c := c.skipBlanks
    match c.head? with
    | some '[' => skipFirstItem fuel .array frames c.advance
    | some '{' => skipFirstItem fuel .object frames c.advance
    | _ => do skipRest fuel frames (← skipAtom c)

def skipFirstItem : Nat → Frame → List Frame → Cursor → Except Error Cursor
  | 0, _, _, c => c.fail .endInValue
  | fuel + 1, frame, frames, c =>
    let c := c.skipBlanks
    match c.head? with
    | none => c.failAhead frame.endCause
    | some x =>
      if x = frame.closing then skipRest fuel frames c.advance
      else do skipValueIn fuel (frame :: frames) (← skipItemStart frame c)

/-- Passes over what follows an item. -/
def skipRest : Nat → List Frame → Cursor → Except Error Cursor
  | 0, _, c => c.fail .endInValue
  | _ + 1, [], c => .ok c
  | fuel + 1, frame :: frames, c =>
    let c := c.skipBlanks
    match c.head? with
    | none => c.failAhead frame.endCause
    | some ',' => do skipValueIn fuel (frame :: frames) (← skipItemStart frame c.advance)
    | some x =>
      if x = frame.closing then skipRest fuel frames c.advance
      else c.failAhead frame.separatorCause

end

def skipValue (c : Cursor) : Except Error Cursor :=
  skipValueIn (3 * c.rest.length + 3) [] c

/-! ## Values that are wanted -/

def peek (c : Cursor) : Except Error (Char × Cursor) :=
  let c := c.skipBlanks
  match c.head? with
  | none => c.failAhead .endInValue
  | some x => .ok (x, c)

def readText (expected : String) : Reader String := fun c => do
  let (x, c) ← peek c
  if x = '"' then readString c.advance else refuse expected c

def readOptional {α : Type} (read : Reader α) : Reader (Option α) := fun c =>
  let c := c.skipBlanks
  if c.head? = some 'n' then do .ok (none, ← readLetters "null".toList c)
  else do
    let (a, c) ← read c
    .ok (some a, c)

/-- Whether another item of an array follows, and the cursor before it. -/
def nextItem (first : Bool) (c : Cursor) : Except Error (Bool × Cursor) :=
  let c := c.skipBlanks
  match c.head? with
  | none => c.failAhead .endInList
  | some ']' => .ok (false, c)
  | some x =>
    if first then .ok (true, c)
    else if x = ',' then
      let c := c.advance.skipBlanks
      match c.head? with
      | none => c.failAhead .endInValue
      | some ']' => c.failAhead .trailingComma
      | some _ => .ok (true, c)
    else c.failAhead .expectedListEnd

/-- Reads the items of an array. The first argument bounds their number, `before` holds the ones
read, the last one first. -/
def readItems {α : Type} (read : Reader α) :
    Nat → Bool → List α → Cursor → Except Error (List α × Cursor)
  | 0, _, _, c => c.fail .endInList
  | fuel + 1, first, before, c => do
    let (more, c) ← nextItem first c
    if more then
      let (a, c) ← read c
      readItems read fuel false (a :: before) c
    else .ok (before.reverse, c.advance)

def readList {α : Type} (read : Reader α) : Reader (List α) := fun c => do
  let (x, c) ← peek c
  if x = '[' then readItems read (c.rest.length + 1) true [] c.advance
  else refuse "a sequence" c

/-- Passes over the end of an array that holds nothing more. -/
def endArray (c : Cursor) : Except Error Cursor :=
  let c := c.skipBlanks
  match c.head? with
  | none => c.failAhead .endInList
  | some ']' => .ok c.advance
  | some ',' =>
    let c := c.advance.skipBlanks
    c.failAhead (if c.head? = some ']' then .trailingComma else .trailingCharacters)
  | some _ => c.failAhead .trailingCharacters

/-- The cursor behind the end of an object, if it ends here. -/
def behindObject (c : Cursor) : Cursor :=
  let c := c.skipBlanks
  if c.head? = some '}' then c.advance else c

/-- Whether another member of an object follows, and the cursor before its key. -/
def nextMember (first : Bool) (c : Cursor) : Except Error (Bool × Cursor) :=
  let c := c.skipBlanks
  match c.head? with
  | none => c.failAhead .endInObject
  | some '}' => .ok (false, c)
  | some x =>
    if first then if x = '"' then .ok (true, c) else c.failAhead .keyMustBeString
    else if x = ',' then
      let c := c.advance.skipBlanks
      match c.head? with
      | none => c.failAhead .endInValue
      | some '"' => .ok (true, c)
      | some '}' => c.failAhead .trailingComma
      | some _ => c.failAhead .keyMustBeString
    else c.failAhead .expectedObjectEnd

def readColon (c : Cursor) : Except Error Cursor :=
  let c := c.skipBlanks
  match c.head? with
  | none => c.failAhead .endInObject
  | some ':' => .ok c.advance
  | some _ => c.failAhead .expectedColon

/-- Reads the members of an object into a record. The first argument bounds their number, `seen`
holds the names of the ones read. -/
def readMembers {σ : Type} (form : RecordForm Reader σ) :
    Nat → Bool → List String → σ → Cursor → Except Error (σ × Cursor)
  | 0, _, _, _, c => c.fail .endInObject
  | fuel + 1, first, seen, s, c => do
    let (more, c) ← nextMember first c
    if more then
      let (key, c) ← readString c.advance
      match form.member? key with
      | none =>
        let c ← skipValue (← readColon c)
        readMembers form fuel false seen s c
      | some m =>
        if seen.contains key then (behindObject c).fail (.duplicateField key)
        else
          let (s, c) ← m.read s (← readColon c)
          readMembers form fuel false (key :: seen) s c
    else
      let c := c.advance
      match form.missing? seen with
      | some name => c.fail (.missingField name)
      | none => .ok (s, c)

/-- Reads members from the items of an array, in their order. Those that are lacking keep what the
record holds before; `count` is the number of members read. -/
def readColumns {σ : Type} (form : RecordForm Reader σ) :
    List (Member Reader σ) → Nat → σ → Cursor → Except Error (σ × Cursor)
  | [], _, s, c => do .ok (s, ← endArray c)
  | m :: rest, count, s, c => do
    let (more, c) ← nextItem (count == 0) c
    if more then
      let (s, c) ← m.read s c
      readColumns form rest (count + 1) s c
    else if (m :: rest).any (·.required) then
      c.advance.fail
        (.invalidLength count s!"{form.title} with {form.members.length} elements")
    else .ok (s, c.advance)

def readRecord {σ : Type} (form : RecordForm Reader σ) : Reader σ := fun c => do
  let (x, c) ← peek c
  if x = '{' then readMembers form (c.rest.length + 1) true [] form.start c.advance
  else if x = '[' then readColumns form form.members 0 form.start c.advance
  else refuse form.title c

instance : FileFormat Reader where
  text := readText "a string"
  optional := readOptional
  list := readList
  record := readRecord

def parse {α : Type} (read : Reader α) (text : String) : Except Error α := do
  let (a, c) ← read (.ofString text)
  let c := c.skipBlanks
  if c.rest = [] then .ok a else c.failAhead .trailingCharacters

end FirstClaim.Json
