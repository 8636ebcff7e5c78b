import FirstClaim.Hex
import FirstClaim.Yaml.Error
import FirstClaim.Yaml.Token

/-!
# Reading tags, anchors and directives

A tag has a handle and a suffix. In a suffix an octet may be written by its number; it is kept as a
character of its own, since tags are only compared with tags of the standard.
-/

set_option autoImplicit false

namespace FirstClaim.Yaml

def errorHere {α : Type} (problem : Problem) (c : Cursor) (context : Context) (start : Mark) :
    Except Error α :=
  .error (.malformed problem c.mark (some (context, start)))

/-! ## Anchors -/

/-- The indicators that may follow the name of an anchor. -/
def endsAnchor : List Char → Bool
  | [] => true
  | c :: _ =>
    isBlank c || isBreak c || c = '?' || c = ':' || c = ',' || c = ']' || c = '}' || c = '%' ||
      c = '@' || c = '`'

/-- Reads an anchor or an alias, from its indicator on. -/
def readAnchor (context : Context) (c : Cursor) : Except Error (String × Cursor) :=
  let (name, behind) := c.advance.span isWordChar
  if name = [] || !endsAnchor behind.rest then
    errorHere .noAnchorName behind context c.mark
  else .ok (String.ofList name, behind)

/-! ## Tags -/

/-- The octet that is written here by a percent sign and two hexadecimal digits. -/
def octet? : List Char → Option Nat
  | '%' :: a :: b :: _ => (hexValue? a).bind fun x => (hexValue? b).map fun y => 16 * x + y
  | _ => none

/-- The number of octets of a character by the first of them. -/
def octetCount? (n : Nat) : Option Nat :=
  if n < 0x80 then some 1
  else if 0xC0 ≤ n && n < 0xE0 then some 2
  else if 0xE0 ≤ n && n < 0xF0 then some 3
  else if 0xF0 ≤ n && n < 0xF8 then some 4
  else none

/-- Reads further octets of a character. -/
def readTrailingOctets (context : Context) (start : Mark) :
    Nat → List Char → Cursor → Except Error (List Char × Cursor)
  | 0, before, c => .ok (before, c)
  | n + 1, before, c =>
    match octet? c.rest with
    | none => errorHere .noEscapedOctet c context start
    | some v =>
      if 0x80 ≤ v && v < 0xC0 then
        readTrailingOctets context start n (Char.ofNat v :: before) (c.advanceBy 3)
      else errorHere .badTrailingOctet c context start

def readOctets (context : Context) (start : Mark) (before : List Char) (c : Cursor) :
    Except Error (List Char × Cursor) :=
  match octet? c.rest with
  | none => errorHere .noEscapedOctet c context start
  | some v =>
    match octetCount? v with
    | none => errorHere .badLeadingOctet c context start
    | some n =>
      readTrailingOctets context start (n - 1) (Char.ofNat v :: before) (c.advanceBy 3)

/-- A character that may stand in a suffix; between angle brackets there are three more. -/
def isUriChar (verbatim : Bool) (c : Char) : Bool :=
  isWordChar c || ";/?:@&=+$.%!~*'()".toList.contains c || (verbatim && ",[]".toList.contains c)

/-- Reads the characters of a suffix. The first argument bounds their number, `before` holds the
ones read, the last one first. -/
def readUriChars (verbatim : Bool) (context : Context) (start : Mark) :
    Nat → List Char → Cursor → Except Error (List Char × Cursor)
  | 0, before, c => .ok (before, c)
  | fuel + 1, before, c =>
    match c.rest with
    | [] => .ok (before, c)
    | x :: _ =>
      if x = '%' then do
        let (before, c) ← readOctets context start before c
        readUriChars verbatim context start fuel before c
      else if isUriChar verbatim x then
        readUriChars verbatim context start fuel (x :: before) c.advance
      else .ok (before, c)

/-- Reads a suffix that begins with what was read of it as a handle. -/
def readUri (verbatim : Bool) (context : Context) (head : String) (start : Mark) (c : Cursor) :
    Except Error (String × Cursor) := do
  let (text, behind) ←
    readUriChars verbatim context start (c.rest.length + 1) (head.toList.drop 1).reverse c
  if head.isEmpty && text = [] then errorHere .noTagUri behind context start
  else .ok (String.ofList text.reverse, behind)

/-- Reads a handle: an exclamation mark, word characters and perhaps another mark. -/
def readHandle (context : Context) (start : Mark) (c : Cursor) : Except Error (String × Cursor) :=
  if c.head? = some '!' then
    let (word, c) := c.advance.span isWordChar
    if c.head? = some '!' then .ok (String.ofList ('!' :: word ++ ['!']), c.advance)
    else .ok (String.ofList ('!' :: word), c)
  else errorHere .noTagMark c context start

/-- A handle that ends with an exclamation mark of its own. -/
def isNamedHandle (handle : String) : Bool :=
  2 ≤ handle.length && handle.toList.getLast? = some '!'

def readTagParts (c : Cursor) : Except Error ((String × String) × Cursor) := do
  let start := c.mark
  if c.advance.head? = some '<' then
    let (suffix, c) ← readUri true .tagSuffix "" start (c.advanceBy 2)
    if c.head? = some '>' then .ok (("", suffix), c.advance) else errorHere .noTagEnd c .tag start
  else
    let (handle, c) ← readHandle .tag start c
    if isNamedHandle handle then
      let (suffix, c) ← readUri false .tagSuffix "" start c
      .ok ((handle, suffix), c)
    else
      let (suffix, c) ← readUri false .tagSuffix handle start c
      .ok (if suffix.isEmpty then ("", "!") else ("!", suffix), c)

def readTag (flow : Bool) (c : Cursor) : Except Error ((String × String) × Cursor) := do
  let (tag, behind) ← readTagParts c
  if startsBlank behind.rest || (flow && behind.head? = some ',') then .ok (tag, behind)
  else errorHere .noBlankOrBreak behind .tag c.mark

/-! ## Directives -/

/-- Reads a number of a version, of nine digits at most. -/
def readVersionNumber (start : Mark) (c : Cursor) : Except Error (Nat × Cursor) :=
  let (digits, behind) := c.span Char.isDigit
  if digits = [] then errorHere .noVersionNumber c .versionDirective start
  else if 9 < digits.length then
    errorHere .longVersionNumber (c.advanceBy 9) .versionDirective start
  else .ok (digits.foldl (fun n d => 10 * n + (d.toNat - '0'.toNat)) 0, behind)

/-- Reads a version: two numbers with a point between them. -/
def readVersion (start : Mark) (c : Cursor) : Except Error (TokenKind × Cursor) := do
  let (major, c) ← readVersionNumber start (c.dropWhile isBlank)
  if c.head? = some '.' then
    let (minor, c) ← readVersionNumber start c.advance
    .ok (.versionDirective major minor, c)
  else errorHere .noVersionPoint c .versionDirective start

def readTagDefinition (start : Mark) (c : Cursor) : Except Error (TokenKind × Cursor) := do
  let (handle, c) ← readHandle .tagDirectiveHandle start (c.dropWhile isBlank)
  if handle ≠ "!" && !isNamedHandle handle then errorHere .noTagMark c .tagDirectiveEnd start
  else if !(c.head?.map isBlank).getD false then errorHere .noBlank c .tagDirective start
  else
    let (text, c) ← readUri true .tagDirectivePrefix "" start (c.dropWhile isBlank)
    if startsBlank c.rest then .ok (.tagDirective handle text, c)
    else errorHere .noBlankOrBreak c .tagDirective start

def readDirective (c : Cursor) : Except Error (Token × Cursor) := do
  let start := c.mark
  let (name, c) := c.advance.span isWordChar
  if name = [] then errorHere .noDirectiveName c .directive start
  else if !startsBlank c.rest then errorHere .badDirectiveName c .directive start
  else
    let (kind, c) ←
      if name = "YAML".toList then readVersion start c
      else if name = "TAG".toList then readTagDefinition start c
      else errorHere .unknownDirective c .directive start
    let behind := c.skipComment
    if startsBreak behind.rest then .ok (⟨kind, start, c.mark⟩, behind.takeBreak.2)
    else errorHere .noCommentOrBreak behind .directive start

end FirstClaim.Yaml
