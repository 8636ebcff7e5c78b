import FirstClaim.Regex.Ast

/-!
# Why a pattern is refused

`ErrorCause` lists the reasons, `Error` adds the place in the pattern. `Error.render` writes the
pattern with marks under the place at fault, and the reason below it.
-/

set_option autoImplicit false

namespace FirstClaim.Regex

/-- Why a pattern is refused. -/
inductive ErrorCause where
  | classEscapeInvalid
  | classRangeInvalid
  | classRangeLiteral
  | classUnclosed
  | decimalEmpty
  | decimalInvalid
  | escapeHexEmpty
  | escapeHexInvalid
  | escapeHexInvalidDigit
  | escapeUnexpectedEnd
  | escapeUnrecognized
  | flagDanglingNegation
  | flagDuplicate
  | flagRepeatedNegation
  | flagUnexpectedEnd
  | flagUnrecognized
  | groupNameDuplicate
  | groupNameEmpty
  | groupNameInvalid
  | groupNameUnexpectedEnd
  | groupUnclosed
  | groupUnopened
  | nestLimitExceeded (limit : Nat)
  | repetitionCountInvalid
  | repetitionCountDecimalEmpty
  | repetitionCountUnclosed
  | repetitionMissing
  | wordBoundaryUnclosed
  | wordBoundaryUnrecognized
  | wordBoundaryUnexpectedEnd
  | propertyClassInvalid
  | backreference
  | lookAround
  | unicodeNotAllowed
  | invalidUtf8
  | propertyNotFound
  | propertyValueNotFound
deriving DecidableEq, Repr

def ErrorCause.message : ErrorCause → String
  | classEscapeInvalid => "invalid escape sequence found in character class"
  | classRangeInvalid => "invalid character class range, the start must be <= the end"
  | classRangeLiteral => "invalid range boundary, must be a literal"
  | classUnclosed => "unclosed character class"
  | decimalEmpty => "decimal literal empty"
  | decimalInvalid => "decimal literal invalid"
  | escapeHexEmpty => "hexadecimal literal empty"
  | escapeHexInvalid => "hexadecimal literal is not a Unicode scalar value"
  | escapeHexInvalidDigit => "invalid hexadecimal digit"
  | escapeUnexpectedEnd => "incomplete escape sequence, reached end of pattern prematurely"
  | escapeUnrecognized => "unrecognized escape sequence"
  | flagDanglingNegation => "dangling flag negation operator"
  | flagDuplicate => "duplicate flag"
  | flagRepeatedNegation => "flag negation operator repeated"
  | flagUnexpectedEnd => "expected flag but got end of regex"
  | flagUnrecognized => "unrecognized flag"
  | groupNameDuplicate => "duplicate capture group name"
  | groupNameEmpty => "empty capture group name"
  | groupNameInvalid => "invalid capture group character"
  | groupNameUnexpectedEnd => "unclosed capture group name"
  | groupUnclosed => "unclosed group"
  | groupUnopened => "unopened group"
  | nestLimitExceeded limit =>
    s!"exceed the maximum number of nested parentheses/brackets ({limit})"
  | repetitionCountInvalid => "invalid repetition count range, the start must be <= the end"
  | repetitionCountDecimalEmpty => "repetition quantifier expects a valid decimal"
  | repetitionCountUnclosed => "unclosed counted repetition"
  | repetitionMissing => "repetition operator missing expression"
  | wordBoundaryUnclosed =>
    "special word boundary assertion is either unclosed or contains an invalid character"
  | wordBoundaryUnrecognized =>
    "unrecognized special word boundary assertion, valid choices are: start, end, start-half " ++
      "or end-half"
  | wordBoundaryUnexpectedEnd =>
    "found either the beginning of a special word boundary or a bounded repetition on a \\b " ++
      "with an opening brace, but no closing brace"
  | propertyClassInvalid => "invalid Unicode character class"
  | backreference => "backreferences are not supported"
  | lookAround => "look-around, including look-ahead and look-behind, is not supported"
  | unicodeNotAllowed => "Unicode not allowed here"
  | invalidUtf8 => "pattern can match invalid UTF-8"
  | propertyNotFound => "Unicode property not found"
  | propertyValueNotFound => "Unicode property value not found"

/-- A reason with the part of the pattern at fault and, for a clash, the part that came first. -/
structure Error where
  cause : ErrorCause
  span : Span
  related : Option Span := none
deriving DecidableEq, Repr

/-- An error without a related place. -/
def Error.at (cause : ErrorCause) (span : Span) : Error :=
  { cause, span }

/-! ## Rendering -/

/-- The lines of a text: each ends at a line feed, and a carriage return before it is dropped. A
line feed at the very end starts no further line. -/
def textLines (cs : List Char) : List (List Char) :=
  let pieces := cs.splitOn '\n'
  let pieces := if pieces.getLast? = some [] then pieces.dropLast else pieces
  pieces.mapIdx fun i line =>
    if line.getLast? = some '\r' && (i + 1 < pieces.length || cs.getLast? = some '\n') then
      line.dropLast
    else line

def repeated (n : Nat) (c : Char) : String :=
  String.ofList (List.replicate n c)

def marks (column : Nat) : List Span → String
  | [] => ""
  | s :: rest =>
    let gap := (s.start.column - 1) - column
    let width := max 1 (s.stop.column - s.start.column)
    repeated gap ' ' ++ repeated width '^' ++ marks (column + gap + width) rest

/-- A number written with blanks before it to a width. -/
def padded (width n : Nat) : String :=
  let digits := toString n
  repeated (width - digits.length) ' ' ++ digits

/-- The parts of the pattern that an error marks: the part that came first, if any, comes first. -/
def Error.spans (e : Error) : List Span :=
  e.related.toList ++ [e.span]

/-- The pattern line by line, each marked line followed by its marks. -/
def Error.notated (e : Error) (pattern : List Char) : String :=
  let lines := textLines pattern
  let count := lines.length + (if pattern.getLast? = some '\n' then 1 else 0)
  let numberWidth := if count ≤ 1 then 0 else (toString count).length
  let oneLine := e.spans.filter fun s => s.start.line = s.stop.line
  String.join (lines.mapIdx fun i line =>
    let lead := if numberWidth = 0 then "    " else padded numberWidth (i + 1) ++ ": "
    let here := oneLine.filter fun s => s.start.line = i + 1
    let under := if here.isEmpty then "" else repeated lead.length ' ' ++ marks 0 here ++ "\n"
    lead ++ String.ofList line ++ "\n" ++ under)

/-- Where a span that covers several lines begins and ends. -/
def linesNote (s : Span) : String :=
  s!"on line {s.start.line} (column {s.start.column}) " ++
    s!"through line {s.stop.line} (column {s.stop.column - 1})"

/-- The whole error text: the pattern with its marks and the reason. -/
def Error.render (e : Error) (pattern : String) : String :=
  let cs := pattern.toList
  if cs.contains '\n' then
    let divider := repeated 79 '~' ++ "\n"
    let notes := (e.spans.filter fun s => s.start.line != s.stop.line).map linesNote
    let noted := if notes.isEmpty then "" else String.intercalate "\n" notes ++ "\n"
    "regex parse error:\n" ++ divider ++ e.notated cs ++ divider ++ noted ++ "error: " ++
      e.cause.message
  else "regex parse error:\n" ++ e.notated cs ++ "error: " ++ e.cause.message

end FirstClaim.Regex
