import FirstClaim.Yaml.Cursor
import FirstClaim.Yaml.Plain
import FirstClaim.Yaml.Token

/-!
# Writing scalars

A text is written in the plainest style that reads back as the same text: plain, between
apostrophes, as a block of lines if it has several, or between quotation marks with escapes. A plain
text that would read as a number, a truth value or an absent value is put between apostrophes.
-/

set_option autoImplicit false

namespace FirstClaim.Yaml

/-! ## What a text holds -/

/-- A character that is written as it is. -/
def isPrintable (c : Char) : Bool :=
  let n := c.toNat
  n = 0x0A || (0x20 ≤ n && n ≤ 0x7E) || (0xA0 ≤ n && n ≤ 0xD7FF) ||
    (0xE000 ≤ n && n ≤ 0xFFFD && n ≠ 0xFEFF) || 0x10000 ≤ n

/-- A text holds two neighbours of which the first has one property and the second another. -/
def hasNeighbours (p q : Char → Bool) : List Char → Bool
  | c :: d :: rest => (p c && q d) || hasNeighbours p q (d :: rest)
  | _ => false

def isSpace (c : Char) : Bool := c = ' '

/-- A text begins or ends with a character that has a property. -/
def hasAtEnd (p : Char → Bool) (cs : List Char) : Bool :=
  (cs.head?.map p).getD false || (cs.getLast?.map p).getD false

/-- Behind a first character, indicators that end a plain scalar: a colon before a blank and a
number sign behind one. -/
def hasInnerIndicator : List Char → Bool
  | c :: d :: rest =>
    (d = ':' && startsBlank rest) || (d = '#' && (isBlank c || isBreak c)) ||
      hasInnerIndicator (d :: rest)
  | _ => false

/-- A text begins with an indicator, so that it cannot be a plain scalar. -/
def hasLeadingIndicator (cs : List Char) : Bool :=
  match cs with
  | [] => false
  | c :: rest =>
    isIndicator c ||
      ((c = '?' || c = ':' || c = '-') && startsBlank rest) ||
      "---".toList.isPrefixOf cs || "...".toList.isPrefixOf cs

/-- A text holds what only escapes can write: an unprintable character, or a space before a
break. -/
def needsEscapes (cs : List Char) : Bool :=
  cs.any (!isPrintable ·) || hasNeighbours isSpace isBreak cs

def allowsPlain (cs : List Char) : Bool :=
  !(cs.isEmpty || needsEscapes cs || cs.any isBreak || hasAtEnd isSpace cs ||
    hasLeadingIndicator cs || hasInnerIndicator cs)

def allowsSingleQuoted (cs : List Char) : Bool :=
  !(needsEscapes cs || hasNeighbours isBreak isSpace cs)

/-- A text can be written as a block of lines. -/
def allowsLiteral (cs : List Char) : Bool :=
  !(cs.isEmpty || needsEscapes cs || (cs.getLast?.map isSpace).getD false)

/-- A plain scalar that stands for something else than its text, or that looks like a number. -/
def isMeaningful (s : String) : Bool :=
  match Meaning.ofPlain s with
  | .text => isZeroPadded s.toList
  | _ => true

def styleOf (s : String) : ScalarStyle :=
  let cs := s.toList
  -- other breaks do not make a text one of several lines
  if cs.contains '\n' then if allowsLiteral cs then .literal else .doubleQuoted
  else if !isMeaningful s && allowsPlain cs then .plain
  else if allowsSingleQuoted cs then .singleQuoted
  else .doubleQuoted

/-! ## Styles -/

def spaces (n : Nat) : List Char :=
  List.replicate n ' '

/-- A text between apostrophes, from behind the first of them on. A line behind a break is
indented. -/
def singleQuotedText (indent : Nat) (broken : Bool) : List Char → List Char
  | [] => (if broken then spaces indent else []) ++ ['\'']
  | c :: rest =>
    if isBreak c then c :: singleQuotedText indent true rest
    else
      (if broken then spaces indent else []) ++ (if c = '\'' then ['\'', '\''] else [c]) ++
        singleQuotedText indent false rest

/-- The lines of a text, each indented unless it is empty. -/
def indentedLines (indent : Nat) (atStart : Bool) : List Char → List Char
  | [] => []
  | c :: rest =>
    if isBreak c then c :: indentedLines indent true rest
    else (if atStart then spaces indent else []) ++ c :: indentedLines indent false rest

/-- The sign that says which breaks at the end of a block belong to it. -/
def chompingSign (cs : List Char) : List Char :=
  match cs.reverse with
  | [] => ['-']
  -- a line feed alone would not be kept without a sign
  | [c] => if isBreak c then ['+'] else ['-']
  | c :: d :: _ => if !isBreak c then ['-'] else if isBreak d then ['+'] else []

/-- The number that says how far a block is indented, where its first line does not show it. -/
def indentationHint (cs : List Char) : List Char :=
  match cs with
  | c :: _ => if isSpace c || isBreak c then ['2'] else []
  | [] => []

def literalText (indent : Nat) (cs : List Char) : List Char :=
  '|' :: indentationHint cs ++ chompingSign cs ++ '\n' :: indentedLines indent true cs

/-- A number in hexadecimal digits, `n` of them. -/
def hexText (n v : Nat) : List Char :=
  let digits := (Nat.toDigits 16 v).map Char.toUpper
  List.replicate (n - digits.length) '0' ++ digits

/-- The letter of an escape without digits. -/
def escapeLetter? (c : Char) : Option Char :=
  if c = '\x00' then some '0'
  else if c = '\x07' then some 'a'
  else if c = '\x08' then some 'b'
  else if c = '\t' then some 't'
  else if c = '\n' then some 'n'
  else if c = '\x0b' then some 'v'
  else if c = '\x0c' then some 'f'
  else if c = '\r' then some 'r'
  else if c = '\x1b' then some 'e'
  else if c = '"' then some '"'
  else if c = '\\' then some '\\'
  else if c = '\x85' then some 'N'
  else if c = '\u00a0' then some '_'
  else if c = '\u2028' then some 'L'
  else if c = '\u2029' then some 'P'
  else none

/-- A character between quotation marks. -/
def escapedText (c : Char) : List Char :=
  if isPrintable c && !isBreak c && c ≠ '"' && c ≠ '\\' then [c]
  else
    match escapeLetter? c with
    | some letter => ['\\', letter]
    | none =>
      let v := c.toNat
      if v ≤ 0xFF then '\\' :: 'x' :: hexText 2 v
      else if v ≤ 0xFFFF then '\\' :: 'u' :: hexText 4 v
      else '\\' :: 'U' :: hexText 8 v

/-- A text as a scalar at an indentation, up to the end of its last line. -/
def scalarText (indent : Nat) (s : String) : List Char :=
  let cs := s.toList
  match styleOf s with
  | .plain => cs ++ ['\n']
  | .singleQuoted => '\'' :: singleQuotedText indent false cs ++ ['\n']
  | .literal =>
    literalText indent cs ++ (if (cs.getLast?.map isBreak).getD false then [] else ['\n'])
  | _ => '"' :: cs.flatMap escapedText ++ ['"', '\n']

/-- A member of a mapping at an indentation: its name and its text. -/
def memberText (indent : Nat) (member : String × String) : List Char :=
  member.1.toList ++ ':' :: ' ' :: scalarText (indent + 2) member.2

/-- Members of a mapping that is an entry of a sequence. -/
def entryText (members : List (String × String)) : List Char :=
  match members with
  | [] => "- {}\n".toList
  | first :: rest =>
    '-' :: ' ' :: memberText 2 first ++ rest.flatMap fun m => ' ' :: ' ' :: memberText 2 m

end FirstClaim.Yaml
