import FirstClaim.Regex.Source

/-!
# Escapes

`readEscape` reads what a backslash starts: an escaped sign, a code point in hexadecimal digits, a
class or an assertion. The result is an `Atom`, which the caller turns into a part of a pattern or
of a bracketed class.
-/

set_option autoImplicit false

namespace FirstClaim.Regex

/-- A part of a pattern that stands for itself. -/
inductive Atom where
  | literal (lit : Literal)
  | assertion (span : Span) (kind : AssertionKind)
  | dot (span : Span)
  | shorthand (cls : Shorthand)
  | property (cls : PropertyClass)
deriving Repr

namespace Atom

def span : Atom → Span
  | literal l => l.span
  | assertion s _ => s
  | dot s => s
  | shorthand c => c.span
  | property c => c.span

def toAst : Atom → Ast
  | literal l => .literal l
  | assertion s k => .assertion s k
  | dot s => .dot s
  | shorthand c => .shorthand c
  | property c => .property c

/-- The atom as an item of a bracketed class. -/
def toClassItem : Atom → Except Error ClassItem
  | literal l => .ok (.literal l)
  | shorthand c => .ok (.shorthand c)
  | property c => .ok (.property c)
  | a => .error (.at .classEscapeInvalid a.span)

/-- The atom as an end of a range. -/
def toBoundary : Atom → Except Error Literal
  | literal l => .ok l
  | a => .error (.at .classRangeLiteral a.span)

end Atom

/-! ## Signs -/

/-- A sign that has a meaning of its own somewhere in a pattern. -/
def isMeta (c : Char) : Bool :=
  "\\.+*?()|[]\x7b\x7d^$#&-~".toList.contains c

/-- A character that may stand for itself after a backslash. -/
def isEscapable (c : Char) : Bool :=
  isMeta c || (c.toNat < 0x80 && !c.isAlphanum && c != '<' && c != '>')

def isHexDigit (c : Char) : Bool :=
  c.isDigit || ('a' ≤ c && c ≤ 'f') || ('A' ≤ c && c ≤ 'F')

def hexValue (c : Char) : Nat :=
  if c.isDigit then c.toNat - '0'.toNat
  else if 'a' ≤ c then c.toNat - 'a'.toNat + 10
  else c.toNat - 'A'.toNat + 10

def hexNumber (cs : List Char) : Nat :=
  cs.foldl (fun n c => n * 16 + hexValue c) 0

/-- The character with a code point. -/
def scalar? (n : Nat) : Option Char :=
  if n.isValidChar then some (Char.ofNat n) else none

/-! ## Code points -/

/-- Reads exactly `n` hexadecimal digits; `first` tells that none has been read yet. -/
def readHexDigits (first : Bool) : Nat → Source → Except Error (List Char × Source)
  | 0, s => .ok ([], s.next)
  | n + 1, s =>
    let s := if first then s else s.next
    match s.rest with
    | [] => .error (.at .escapeUnexpectedEnd s.here)
    | c :: _ =>
      if isHexDigit c then do
        let (cs, s) ← readHexDigits false n s
        .ok (c :: cs, s)
      else .error (.at .escapeHexInvalidDigit s.charSpan)

/-- Reads a code point in braces, from the opening brace on. -/
def readHexBraced (start : Position) (s : Source) : Except Error (Literal × Source) :=
  let brace := s.pos
  let inner := s.bump.pos
  let (digits, s) := s.next.takeRun isHexDigit
  if s.atEnd then .error (.at .escapeUnexpectedEnd (s.spanFrom brace))
  else if !s.startsWith '}' then .error (.at .escapeHexInvalidDigit s.charSpan)
  else
    let close := s.pos
    let s := s.next
    if digits.isEmpty then .error (.at .escapeHexEmpty (s.spanFrom brace))
    else match scalar? (hexNumber digits) with
      | some c => .ok (⟨s.spanFrom start, c, false⟩, s)
      | none => .error (.at .escapeHexInvalid ⟨inner, close⟩)

/-- Reads the code point of an escape with `width` digits or with braces, from its letter on. Only
two plain digits may mean a byte. -/
def readHex (start : Position) (width : Nat) (s : Source) : Except Error (Literal × Source) :=
  let s := s.next
  if s.atEnd then .error (.at .escapeUnexpectedEnd s.here)
  else if s.startsWith '{' then readHexBraced start s
  else do
    let first := s.pos
    let (digits, s) ← readHexDigits true width s
    match scalar? (hexNumber digits) with
    | some c => .ok (⟨s.spanFrom start, c, width == 2⟩, s)
    | none => .error (.at .escapeHexInvalid (s.spanFrom first))

/-! ## Classes by property -/

/-- The parts of a text before and after the first place where `sep` stands. -/
def splitFirst? (sep : List Char) : List Char → Option (List Char × List Char)
  | [] => none
  | c :: cs =>
    if sep.isPrefixOf (c :: cs) then some ([], (c :: cs).drop sep.length)
    else (splitFirst? sep cs).map fun (a, b) => (c :: a, b)

/-- The query of a property class in braces, and whether its sign negates it. -/
def propertyQuery (name : List Char) : PropertyQuery × Bool :=
  match splitFirst? ['!', '='] name with
  | some (p, v) => (.valued (String.ofList p) (String.ofList v), true)
  | none =>
    match splitFirst? [':'] name <|> splitFirst? ['='] name with
    | some (p, v) => (.valued (String.ofList p) (String.ofList v), false)
    | none => (.named (String.ofList name), false)

/-- Reads a property class, from its letter on. -/
def readProperty (start : Position) (negated : Bool) (s : Source) :
    Except Error (PropertyClass × Source) :=
  let s := s.next
  match s.rest with
  | [] => .error (.at .escapeUnexpectedEnd s.here)
  | c :: _ =>
    if c = '{' then
      let (name, s) := s.next.takeRun (· != '}')
      if s.atEnd then .error (.at .escapeUnexpectedEnd s.here)
      else
        let s := s.bump
        let (query, opposite) := propertyQuery name
        .ok (⟨s.spanFrom start, query, negated != opposite⟩, s)
    else if c = '\\' then .error (.at .propertyClassInvalid s.charSpan)
    else
      let s := s.next
      .ok (⟨s.spanFrom start, .named (String.ofList [c]), negated⟩, s)

/-! ## Word boundaries -/

/-- The assertion that a word in braces after `\b` stands for. -/
def boundaryKind? (name : List Char) : Option AssertionKind :=
  if name = "start".toList then some .wordStart
  else if name = "end".toList then some .wordEnd
  else if name = "start-half".toList then some .wordStartHalf
  else if name = "end-half".toList then some .wordEndHalf
  else none

/-- Reads a word in braces after `\b`; without a letter after the brace there is none, and the
brace is left for a repetition. -/
def readBoundary? (start : Position) (s : Source) :
    Except Error (Option (AssertionKind × Source)) :=
  let isNameChar := fun (c : Char) => c.isAlpha || c = '-'
  let brace := s.pos
  let s := s.next
  match s.rest with
  | [] => .error (.at .wordBoundaryUnexpectedEnd (s.spanFrom start))
  | c :: _ =>
    if !isNameChar c then .ok none
    else
      let inner := s.pos
      let (name, s) := s.takeRun isNameChar
      if !s.startsWith '}' then .error (.at .wordBoundaryUnclosed (s.spanFrom brace))
      else match boundaryKind? name with
        | some kind => .ok (some (kind, s.bump))
        | none => .error (.at .wordBoundaryUnrecognized (s.spanFrom inner))

def readWordBoundary (start : Position) (s : Source) : Except Error (Atom × Source) :=
  if s.startsWith '{' then do
    match ← readBoundary? start s with
    | some (kind, s) => .ok (.assertion (s.spanFrom start) kind, s)
    | none => .ok (.assertion (s.spanFrom start) .wordBoundary, s)
  else .ok (.assertion (s.spanFrom start) .wordBoundary, s)

/-! ## All escapes -/

/-- The character that a letter after a backslash stands for. -/
def controlEscape? : Char → Option Char
  | 'a' => some '\x07'
  | 'f' => some '\x0c'
  | 't' => some '\t'
  | 'n' => some '\n'
  | 'r' => some '\r'
  | 'v' => some '\x0b'
  | _ => none

/-- The assertion that a letter or angle after a backslash stands for. -/
def assertionEscape? : Char → Option AssertionKind
  | 'A' => some .startText
  | 'z' => some .endText
  | 'B' => some .notWordBoundary
  | '<' => some .wordStart
  | '>' => some .wordEnd
  | _ => none

/-- The shorthand class of a letter after a backslash, and whether it is negated. -/
def shorthandEscape? : Char → Option (ShorthandKind × Bool)
  | 'd' => some (.digit, false)
  | 's' => some (.space, false)
  | 'w' => some (.word, false)
  | 'D' => some (.digit, true)
  | 'S' => some (.space, true)
  | 'W' => some (.word, true)
  | _ => none

/-- The number of digits of a code point escape. -/
def hexWidth? : Char → Option Nat
  | 'x' => some 2
  | 'u' => some 4
  | 'U' => some 8
  | _ => none

def readShortEscape (start : Position) (c : Char) (s : Source) : Except Error (Atom × Source) :=
  let span := s.spanFrom start
  if isEscapable c then .ok (.literal ⟨span, c, false⟩, s)
  else if c = 'b' then readWordBoundary start s
  else match controlEscape? c, assertionEscape? c, shorthandEscape? c with
    | some d, _, _ => .ok (.literal ⟨span, d, false⟩, s)
    | _, some kind, _ => .ok (.assertion span kind, s)
    | _, _, some (kind, negated) => .ok (.shorthand ⟨span, kind, negated⟩, s)
    | _, _, _ => .error (.at .escapeUnrecognized span)

def readEscape (s : Source) : Except Error (Atom × Source) :=
  let start := s.pos
  let s := s.bump
  match s.rest with
  | [] => .error (.at .escapeUnexpectedEnd (s.spanFrom start))
  | c :: _ =>
    if c.isDigit then .error (.at .backreference ⟨start, s.bump.pos⟩)
    else if c = 'p' || c = 'P' then do
      let (cls, s) ← readProperty start (c = 'P') s
      .ok (.property cls, s)
    else match hexWidth? c with
      | some width => do
        let (lit, s) ← readHex start width s
        .ok (.literal lit, s)
      | none => readShortEscape start c s.bump

end FirstClaim.Regex
