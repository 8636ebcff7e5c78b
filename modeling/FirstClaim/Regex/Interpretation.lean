import FirstClaim.Regex.Error
import FirstClaim.Regex.Node
import FirstClaim.Unicode.CaseFolding
import FirstClaim.Unicode.Property

/-!
# What a pattern means

`Ast.interpret` resolves the flags, classes and shorthands of a pattern as written, starting from a
`Mode`, and gives the pattern as matched. Patterns that could match part of a character's encoding
are refused, and so are classes by unknown properties.
-/

set_option autoImplicit false

namespace FirstClaim.Regex

/-- The flags in force at a place of a pattern. -/
structure Mode where
  caseInsensitive : Bool := false
  multiLine : Bool := false
  dotAll : Bool := false
  swapGreed : Bool := false
  unicode : Bool := true
  crlf : Bool := false
deriving DecidableEq, Repr

namespace Mode

def set (m : Mode) (on : Bool) : Flag → Mode
  | .caseInsensitive => { m with caseInsensitive := on }
  | .multiLine => { m with multiLine := on }
  | .dotAll => { m with dotAll := on }
  | .swapGreed => { m with swapGreed := on }
  | .unicode => { m with unicode := on }
  | .crlf => { m with crlf := on }
  | .verbose => m

/-- Turns on the flags of a list up to a negation, and off those after it. -/
def setAll (m : Mode) (on : Bool) : List FlagItem → Mode
  | [] => m
  | .negation :: rest => m.setAll false rest
  | .flag f :: rest => (m.set on f).setAll on rest

end Mode

/-! ## Classes -/

def asciiLetters : CharSet :=
  .ofRanges [⟨0x41, 0x5A⟩, ⟨0x61, 0x7A⟩]

/-- The set with both cases of its ASCII letters. -/
def asciiFoldClosure (s : CharSet) : CharSet :=
  let letters := (s.inter asciiLetters).ranges
  let swapped := letters.flatMap fun r =>
    if r.lo < 0x61 then [⟨r.lo + 0x20, r.hi + 0x20⟩] else [⟨r.lo - 0x20, r.hi - 0x20⟩]
  .ofRanges (s.ranges ++ swapped)

def AsciiKind.chars : AsciiKind → CharSet
  | alnum => .ofRanges [⟨0x30, 0x39⟩, ⟨0x41, 0x5A⟩, ⟨0x61, 0x7A⟩]
  | alpha => asciiLetters
  | ascii => .range 0 0x7F
  | blank => .ofRanges [⟨0x09, 0x09⟩, ⟨0x20, 0x20⟩]
  | cntrl => .ofRanges [⟨0x00, 0x1F⟩, ⟨0x7F, 0x7F⟩]
  | digit => .range 0x30 0x39
  | graph => .range 0x21 0x7E
  | lower => .range 0x61 0x7A
  | print => .range 0x20 0x7E
  | punct => .ofRanges [⟨0x21, 0x2F⟩, ⟨0x3A, 0x40⟩, ⟨0x5B, 0x60⟩, ⟨0x7B, 0x7E⟩]
  | space => .ofRanges [⟨0x09, 0x0D⟩, ⟨0x20, 0x20⟩]
  | upper => .range 0x41 0x5A
  | word => .ofRanges [⟨0x30, 0x39⟩, ⟨0x41, 0x5A⟩, ⟨0x5F, 0x5F⟩, ⟨0x61, 0x7A⟩]
  | xdigit => .ofRanges [⟨0x30, 0x39⟩, ⟨0x41, 0x46⟩, ⟨0x61, 0x66⟩]

def ShorthandKind.chars (unicode : Bool) : ShorthandKind → CharSet
  | digit => if unicode then Unicode.digits else AsciiKind.digit.chars
  | space => if unicode then Unicode.blanks else AsciiKind.space.chars
  | word => if unicode then Unicode.wordChars else AsciiKind.word.chars

namespace Mode

/-- The set with both cases of its letters, where case is ignored. -/
def fold (m : Mode) (s : CharSet) : CharSet :=
  if !m.caseInsensitive then s
  else if m.unicode then Unicode.foldClosure s
  else asciiFoldClosure s

/-- The set, or all other characters. Without Unicode classes hold bytes, and only those of ASCII
characters stand for whole characters. -/
def negate (m : Mode) (span : Span) (negated : Bool) (s : CharSet) : Except Error CharSet :=
  if m.unicode then .ok (if negated then s.compl else s)
  else
    let s := if negated then s.complUpTo 0xFF else s
    if s.isAscii then .ok s else .error (.at .invalidUtf8 span)

def shorthand (m : Mode) (cls : Shorthand) : Except Error CharSet :=
  m.negate cls.span cls.negated (cls.kind.chars m.unicode)

/-- The characters that a property query stands for. -/
def query (span : Span) (q : PropertyQuery) : Except Error CharSet :=
  let found := match q with
    | .named name => Unicode.named name
    | .valued p v => Unicode.valued p v
  match found with
  | .ok s => .ok s
  | .error .unknownProperty => .error (.at .propertyNotFound span)
  | .error .unknownValue => .error (.at .propertyValueNotFound span)

/-- The characters of a class by property. -/
def property (m : Mode) (cls : PropertyClass) : Except Error CharSet :=
  if !m.unicode then .error (.at .unicodeNotAllowed cls.span)
  else do
    let s ← query cls.span cls.query
    m.negate cls.span cls.negated (m.fold s)

/-- The code of a literal in a class: without Unicode it has to be an ASCII character. -/
def classCode (m : Mode) (lit : Literal) : Except Error Nat :=
  if m.unicode || lit.char.toNat < 0x80 then .ok lit.char.toNat
  else if lit.isByte then .error (.at .invalidUtf8 lit.span)
  else .error (.at .unicodeNotAllowed lit.span)

def combine (m : Mode) (op : ClassOp) (a b : CharSet) : CharSet :=
  let a := m.fold a
  let b := m.fold b
  match op with
  | .intersection => a.inter b
  | .difference => a.diff b
  | .symmetricDifference => a.symmDiff b

end Mode

mutual

def ClassItem.chars (m : Mode) : ClassItem → Except Error CharSet
  | .empty _ => .ok .empty
  | .literal lit => do
    let n ← m.classCode lit
    .ok (.range n n)
  | .range _ lo hi => do
    let a ← m.classCode lo
    let b ← m.classCode hi
    .ok (.range a b)
  | .ascii span kind negated => m.negate span negated (m.fold kind.chars)
  | .shorthand cls => m.shorthand cls
  | .property cls => m.property cls
  | .bracketed span negated item => do
    let s ← item.chars m
    m.negate span negated (m.fold s)
  | .union _ items => do
    let sets ← ClassItem.charSets m items
    .ok (.unions sets)
  | .binary _ op lhs rhs => do
    let a ← lhs.chars m
    let b ← rhs.chars m
    .ok (m.combine op a b)

def ClassItem.charSets (m : Mode) : List ClassItem → Except Error (List CharSet)
  | [] => .ok []
  | item :: items => do
    let s ← item.chars m
    let sets ← ClassItem.charSets m items
    .ok (s :: sets)

end

/-! ## Parts -/

/-- A literal character. Where case is ignored it stands for all members of its orbit. -/
def Mode.literal (m : Mode) (lit : Literal) : Except Error Node :=
  if !m.unicode && lit.isByte && 0x80 ≤ lit.char.toNat then .error (.at .invalidUtf8 lit.span)
  else .ok (Node.ofSet (m.fold (.singleton lit.char)))

/-- A dot matches any character but those that end a line. -/
def Mode.dot (m : Mode) (span : Span) : Except Error Node :=
  if !m.unicode then .error (.at .invalidUtf8 span)
  else if m.dotAll then .ok (.set .full)
  else if m.crlf then .ok (.set (CharSet.ofRanges [⟨0x0A, 0x0A⟩, ⟨0x0D, 0x0D⟩]).compl)
  else .ok (.set (CharSet.singleton '\n').compl)

/-- What an assertion looks for. -/
def Mode.look (m : Mode) : AssertionKind → Look
  | .startLine => if m.multiLine then .lineStart m.crlf else .textStart
  | .endLine => if m.multiLine then .lineEnd m.crlf else .textEnd
  | .startText => .textStart
  | .endText => .textEnd
  | .wordBoundary => .word m.unicode .boundary
  | .notWordBoundary => .word m.unicode .notBoundary
  | .wordStart => .word m.unicode .start
  | .wordEnd => .word m.unicode .stop
  | .wordStartHalf => .word m.unicode .startHalf
  | .wordEndHalf => .word m.unicode .stopHalf

def Mode.inside (m : Mode) : GroupKind → Mode
  | .capture _ => m
  | .flags items => m.setAll true items

/-- A group around a node. -/
def GroupKind.wrap : GroupKind → Node → Node
  | .capture index, n => .group index n
  | .flags _, n => n

mutual

/-- The meaning of a pattern under the flags `m`, and the flags in force behind it. -/
def Ast.interpretFrom (m : Mode) : Ast → Except Error (Node × Mode)
  | .empty _ => .ok (.empty, m)
  | .flags _ items => .ok (.empty, m.setAll true items)
  | .literal lit => do
    let n ← m.literal lit
    .ok (n, m)
  | .dot span => do
    let n ← m.dot span
    .ok (n, m)
  | .assertion _ kind => .ok (.look (m.look kind), m)
  | .shorthand cls => do
    let s ← m.shorthand cls
    .ok (Node.ofSet s, m)
  | .property cls => do
    let s ← m.property cls
    .ok (Node.ofSet s, m)
  | .bracketed span negated item => do
    let s ← item.chars m
    let s ← m.negate span negated (m.fold s)
    .ok (Node.ofSet s, m)
  | .repetition _ min max greedy sub => do
    let (n, m) ← sub.interpretFrom m
    .ok (Node.repeated min max (greedy != m.swapGreed) n, m)
  | .group _ kind sub => do
    let (n, _) ← sub.interpretFrom (m.inside kind)
    .ok (kind.wrap n, m)
  | .alternation _ branches => do
    let (ns, m) ← Ast.interpretAll m branches
    .ok (Node.alternation ns, m)
  | .concat _ items => do
    let (ns, m) ← Ast.interpretAll m items
    .ok (Node.concat ns, m)

/-- The meanings of patterns in a row; flags set in one hold in those after it. -/
def Ast.interpretAll (m : Mode) : List Ast → Except Error (List Node × Mode)
  | [] => .ok ([], m)
  | a :: rest => do
    let (n, m) ← a.interpretFrom m
    let (ns, m) ← Ast.interpretAll m rest
    .ok (n :: ns, m)

end

def Ast.interpret (m : Mode) (a : Ast) : Except Error Node := do
  let (n, _) ← a.interpretFrom m
  .ok n

end FirstClaim.Regex
