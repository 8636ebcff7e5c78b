/-!
# The text of a YAML file while it is read

A `Cursor` is what is left of a text, with the mark reached. Characters are blanks, breaks or
neither. A break is a line feed, a carriage return with or without a line feed, or one of three
further characters; the first four kinds all read as a line feed.
-/

set_option autoImplicit false

namespace FirstClaim.Yaml

/-! ## Characters -/

def isBlank (c : Char) : Bool :=
  c = ' ' || c = '\t'

/-- A character that ends a line. -/
def isBreak (c : Char) : Bool :=
  c = '\n' || c = '\r' || c = '\x85' || c = '\u2028' || c = '\u2029'

/-- What a break is read as. -/
def breakChar (c : Char) : Char :=
  if c = '\u2028' || c = '\u2029' then c else '\n'

/-- The characters that stand for something of their own within brackets. -/
def isFlowIndicator (c : Char) : Bool :=
  c = ',' || c = '[' || c = ']' || c = '{' || c = '}'

/-- The characters that no plain scalar begins with. -/
def isIndicator (c : Char) : Bool :=
  isFlowIndicator c || "#&*!|>'\"%@`".toList.contains c

def isWordChar (c : Char) : Bool :=
  c.isAlphanum || c = '-' || c = '_'

/-- A character that a file may hold. -/
def isAllowed (c : Char) : Bool :=
  let n := c.toNat
  n = 0x09 || n = 0x0A || n = 0x0D || (0x20 ≤ n && n ≤ 0x7E) || n = 0x85 ||
    (0xA0 ≤ n && n ≤ 0xD7FF) || (0xE000 ≤ n && n ≤ 0xFFFD) || 0x10000 ≤ n

/-- A text that begins with a blank or a break, or is empty. -/
def startsBlank : List Char → Bool
  | [] => true
  | c :: _ => isBlank c || isBreak c

/-- A text that begins with a break, or is empty. -/
def startsBreak : List Char → Bool
  | [] => true
  | c :: _ => isBreak c

/-- A text that begins with three times a character and then a blank, a break or its end. -/
def startsWithIndicator (c : Char) : List Char → Bool
  | x :: y :: z :: rest => x = c && y = c && z = c && startsBlank rest
  | _ => false

/-! ## Marks -/

/-- A place in a text: the characters before it, the lines before its line and the characters
before it in its line. -/
structure Mark where
  index : Nat
  line : Nat
  column : Nat
deriving DecidableEq, Repr

namespace Mark

def start : Mark := ⟨0, 0, 0⟩

/-- The mark behind a character of the line. -/
def next (m : Mark) : Mark := ⟨m.index + 1, m.line, m.column + 1⟩

/-- The mark behind a break of `n` characters. -/
def nextLine (m : Mark) (n : Nat) : Mark := ⟨m.index + n, m.line + 1, 0⟩

def isFirst (m : Mark) : Bool := m.line = 0 && m.column = 0

/-- The two marks are in the same line and column. -/
def sameAs (m n : Mark) : Bool := m.line = n.line && m.column = n.column

/-- A mark in words; lines and columns are counted from one. -/
def describe (m : Mark) : String :=
  s!"line {m.line + 1} column {m.column + 1}"

end Mark

/-! ## Cursors -/

/-- What is left of a text, and where it begins. -/
structure Cursor where
  rest : List Char
  mark : Mark
deriving Repr

namespace Cursor

def column (c : Cursor) : Nat := c.mark.column

def head? (c : Cursor) : Option Char := c.rest.head?

def advance (c : Cursor) : Cursor :=
  ⟨c.rest.tail, c.mark.next⟩

def advanceBy : Nat → Cursor → Cursor
  | 0, c => c
  | n + 1, c => advanceBy n c.advance

def skipWhile (p : Char → Bool) (m : Mark) : List Char → Cursor
  | [] => ⟨[], m⟩
  | c :: rest => if p c then skipWhile p m.next rest else ⟨c :: rest, m⟩

def dropWhile (c : Cursor) (p : Char → Bool) : Cursor :=
  skipWhile p c.mark c.rest

/-- The characters that stand here and have a property, and the cursor behind them. -/
def span (c : Cursor) (p : Char → Bool) : List Char × Cursor :=
  (c.rest.takeWhile p, c.dropWhile p)

/-- The break that stands here as it is read, and the cursor behind it. -/
def takeBreak (c : Cursor) : List Char × Cursor :=
  match c.rest with
  | '\r' :: '\n' :: rest => (['\n'], ⟨rest, c.mark.nextLine 2⟩)
  | x :: rest => if isBreak x then ([breakChar x], ⟨rest, c.mark.nextLine 1⟩) else ([], c)
  | [] => ([], c)

/-- Passes over blanks and over a comment, up to the end of the line. -/
def skipComment (c : Cursor) : Cursor :=
  let c := c.dropWhile isBlank
  if c.head? = some '#' then c.dropWhile (!isBreak ·) else c

/-- A document begins or ends here: three hyphens or three points in the first column. -/
def atDocumentIndicator (c : Cursor) : Bool :=
  c.column = 0 && (startsWithIndicator '-' c.rest || startsWithIndicator '.' c.rest)

end Cursor

end FirstClaim.Yaml
