import FirstClaim.Shape

/-!
# The text of a JSON file while it is read

A `Cursor` is what is left of a text together with the line and the column reached. Columns count
bytes. An `Error` is a reason with a place.
-/

set_option autoImplicit false

namespace FirstClaim.Json

/-- Why a text is refused. -/
inductive ErrorCause where
  | endInList
  | endInObject
  | endInString
  | endInValue
  | expectedColon
  | expectedListEnd
  | expectedObjectEnd
  | expectedIdent
  | expectedValue
  | invalidEscape
  | invalidNumber
  | numberOutOfRange
  | controlCharacter
  | keyMustBeString
  | loneSurrogate
  | endOfHexEscape
  | trailingComma
  | trailingCharacters
  | mismatch (found : Shape) (expected : String)
  | duplicateField (name : String)
  | missingField (name : String)
  | invalidLength (found : Nat) (expected : String)
  /-- A string that is not of the form wanted, with the reason. -/
  | custom (message : String)
deriving DecidableEq, Repr

def ErrorCause.message : ErrorCause → String
  | endInList => "EOF while parsing a list"
  | endInObject => "EOF while parsing an object"
  | endInString => "EOF while parsing a string"
  | endInValue => "EOF while parsing a value"
  | expectedColon => "expected `:`"
  | expectedListEnd => "expected `,` or `]`"
  | expectedObjectEnd => "expected `,` or `\x7d`"
  | expectedIdent => "expected ident"
  | expectedValue => "expected value"
  | invalidEscape => "invalid escape"
  | invalidNumber => "invalid number"
  | numberOutOfRange => "number out of range"
  | controlCharacter => "control character (\\u0000-\\u001F) found while parsing a string"
  | keyMustBeString => "key must be a string"
  | loneSurrogate => "lone leading surrogate in hex escape"
  | endOfHexEscape => "unexpected end of hex escape"
  | trailingComma => "trailing comma"
  | trailingCharacters => "trailing characters"
  | mismatch found expected =>
    let shape := found.describe "null"
    s!"invalid type: {shape}, expected {expected}"
  | duplicateField name => s!"duplicate field `{name}`"
  | missingField name => s!"missing field `{name}`"
  | invalidLength found expected => s!"invalid length {found}, expected {expected}"
  | custom message => message

/-- A place in a text: its line and the number of bytes before it in that line. -/
structure Place where
  line : Nat
  column : Nat
deriving DecidableEq, Repr

/-- A reason and the place where it was found. -/
structure Error where
  cause : ErrorCause
  place : Place
deriving DecidableEq, Repr

def Error.message (e : Error) : String :=
  s!"{e.cause.message} at line {e.place.line} column {e.place.column}"

/-- The rest of a text that is being read. -/
structure Cursor where
  rest : List Char
  place : Place
deriving Repr

namespace Cursor

def ofString (text : String) : Cursor :=
  ⟨text.toList, ⟨1, 0⟩⟩

def placeAfter (p : Place) (c : Char) : Place :=
  if c = '\n' then ⟨p.line + 1, 0⟩ else ⟨p.line, p.column + c.utf8Size⟩

def advance (c : Cursor) : Cursor :=
  match c.rest with
  | [] => c
  | x :: xs => ⟨xs, placeAfter c.place x⟩

/-- The place one byte behind the one reached, unless the text ends here. -/
def peekPlace (c : Cursor) : Place :=
  match c.rest with
  | [] => c.place
  | x :: _ => if x = '\n' then ⟨c.place.line + 1, 0⟩ else ⟨c.place.line, c.place.column + 1⟩

def fail {α : Type} (c : Cursor) (cause : ErrorCause) : Except Error α :=
  .error ⟨cause, c.place⟩

/-- An error at the character that stands here. -/
def failAhead {α : Type} (c : Cursor) (cause : ErrorCause) : Except Error α :=
  .error ⟨cause, c.peekPlace⟩

/-- Passes over blanks, from a place on. -/
def skipBlanksFrom (p : Place) : List Char → Cursor
  | [] => ⟨[], p⟩
  | x :: xs =>
    if x = ' ' || x = '\n' || x = '\t' || x = '\r' then skipBlanksFrom (placeAfter p x) xs
    else ⟨x :: xs, p⟩

def skipBlanks (c : Cursor) : Cursor :=
  skipBlanksFrom c.place c.rest

/-- Passes over decimal digits, from a place on. -/
def takeDigitsFrom (p : Place) : List Char → List Char × Cursor
  | [] => ([], ⟨[], p⟩)
  | x :: xs =>
    if x.isDigit then
      let (ds, c) := takeDigitsFrom (placeAfter p x) xs
      (x :: ds, c)
    else ([], ⟨x :: xs, p⟩)

def takeDigits (c : Cursor) : List Char × Cursor :=
  takeDigitsFrom c.place c.rest

def head? (c : Cursor) : Option Char :=
  c.rest.head?

/-- The place `n` bytes further, if there are as many. -/
def placeAtBytes? (p : Place) : Nat → List Char → Option Place
  | 0, _ => some p
  | _ + 1, [] => none
  | n + 1, x :: xs =>
    if x.utf8Size ≤ n + 1 then placeAtBytes? (placeAfter p x) (n + 1 - x.utf8Size) xs
    else some ⟨p.line, p.column + (n + 1)⟩

def endPlace (c : Cursor) : Place :=
  c.rest.foldl placeAfter c.place

end Cursor

end FirstClaim.Json
