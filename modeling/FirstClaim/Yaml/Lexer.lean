import FirstClaim.Yaml.Scalar
import FirstClaim.Yaml.Tag

/-!
# From text to tokens

A `Lexer` cuts a text into tokens. Indentation makes tokens too: a block begins where a line is
indented more than the block around it and ends where one is indented less. A scalar can turn out to
be a key only when the colon behind it is found, so tokens wait in a queue until it is known that no
key begins at the first of them. `tokens` gives all tokens up to the end of the text or to the first
error.
-/

set_option autoImplicit false

namespace FirstClaim.Yaml

/-- A place where a key may have begun. -/
structure SimpleKey where
  /-- A key has to begin here. -/
  required : Bool
  /-- The number of the token that begins here. -/
  token : Nat
  mark : Mark
deriving Repr

/-- The state of reading tokens. -/
structure Lexer where
  cursor : Cursor
  /-- The column of the innermost block, or minus one. -/
  indent : Int := -1
  /-- The columns of the blocks around it. -/
  indents : List Int := []
  /-- A key may begin here. -/
  keyAllowed : Bool := true
  /-- Where a key may have begun, for each pair of brackets that is open and for the text outside of
  all brackets, the innermost one first. -/
  keys : List (Option SimpleKey) := [none]
  /-- Tokens that were read and not given out. -/
  queue : List Token := []
  /-- The number of tokens given out. -/
  given : Nat := 0
deriving Repr

namespace Lexer

def inFlow (s : Lexer) : Bool := 1 < s.keys.length

def mark (s : Lexer) : Mark := s.cursor.mark

def fail {α : Type} (s : Lexer) (problem : Problem) : Except Error α :=
  .error (.malformed problem s.mark none)

/-! ## Tokens and blocks -/

def push (s : Lexer) (kind : TokenKind) (start stop : Mark) : Lexer :=
  { s with queue := s.queue ++ [⟨kind, start, stop⟩] }

def insert (s : Lexer) (number : Nat) (kind : TokenKind) (mark : Mark) : Lexer :=
  let (before, behind) := s.queue.splitAt (number - s.given)
  { s with queue := before ++ ⟨kind, mark, mark⟩ :: behind }

/-- Opens a block at a column, if the column is behind that of the innermost block. -/
def indented (s : Lexer) (column : Nat) : Option Lexer :=
  if s.inFlow || column ≤ s.indent then none
  else some { s with indents := s.indent :: s.indents, indent := column }

/-- Opens a block at the cursor, with a token at the end of the queue. -/
def openBlock (s : Lexer) (kind : TokenKind) : Lexer :=
  match s.indented s.mark.column with
  | none => s
  | some s => s.push kind s.mark s.mark

/-- Opens a mapping at the place of a key, with a token before that of the key. -/
def openMappingAt (s : Lexer) (key : SimpleKey) : Lexer :=
  match s.indented key.mark.column with
  | none => s
  | some s => s.insert key.token .blockMappingStart key.mark

/-- Closes the blocks behind a column. The argument holds the columns around the innermost block. -/
def closeBlocksIn (s : Lexer) (column : Int) : List Int → Lexer
  | [] => s
  | outer :: rest =>
    if column < s.indent then
      closeBlocksIn { s.push .blockEnd s.mark s.mark with indent := outer, indents := rest }
        column rest
    else s

/-- Closes the blocks behind a column. -/
def closeBlocks (s : Lexer) (column : Int) : Lexer :=
  if s.inFlow then s else s.closeBlocksIn column s.indents

/-! ## Keys -/

/-- A key can no longer be completed: its line has ended or it is too long. -/
def isStale (s : Lexer) (key : SimpleKey) : Bool :=
  key.mark.line < s.mark.line || key.mark.index + 1024 < s.mark.index

/-- The error for a key that has to be there and is not completed. -/
def keyError (s : Lexer) (key : SimpleKey) : Error :=
  .malformed .noKeyColon s.mark (some (.simpleKey, key.mark))

/-- The place of a key unless it is stale. -/
def dropIfStale (s : Lexer) : Option SimpleKey → Except Error (Option SimpleKey)
  | none => .ok none
  | some key =>
    if !s.isStale key then .ok (some key)
    else if key.required then .error (s.keyError key)
    else .ok none

/-- Forgets the places of keys that can no longer be completed, the outermost one first. -/
def dropStaleKeys (s : Lexer) : Except Error Lexer := do
  -- the outermost key comes first: its error is the one that is given
  let keys ← s.keys.reverse.mapM s.dropIfStale
  .ok { s with keys := keys.reverse }

/-- The place where the innermost key may have begun. -/
def currentKey? (s : Lexer) : Option SimpleKey :=
  s.keys.head?.join

def setKey (s : Lexer) (key : Option SimpleKey) : Lexer :=
  { s with keys := key :: s.keys.tail }

def dropKey (s : Lexer) : Except Error Lexer :=
  match s.currentKey? with
  | none => .ok s
  | some key => if key.required then .error (s.keyError key) else .ok (s.setKey none)

/-- Notes that a key may begin at the cursor. -/
def noteKey (s : Lexer) : Except Error Lexer :=
  if s.keyAllowed then do
    let key : SimpleKey :=
      -- in the column of its block nothing but a key can stand
      ⟨!s.inFlow && s.indent == s.mark.column, s.given + s.queue.length, s.mark⟩
    .ok ((← s.dropKey).setKey (some key))
  else .ok s

/-! ## Single tokens -/

def take (s : Lexer) (n : Nat) (kind : TokenKind) : Lexer :=
  let c := s.cursor.advanceBy n
  { s.push kind s.mark c.mark with cursor := c }

/-- Ends the text: the end is in a line of its own. -/
def readEnd (s : Lexer) : Except Error Lexer := do
  let m := s.mark
  let m := if m.column = 0 then m else ⟨m.index, m.line + 1, 0⟩
  let s := { s with cursor := ⟨[], m⟩ }
  let s ← (s.closeBlocks (-1)).dropKey
  .ok ({ s with keyAllowed := false }.push .streamEnd m m)

def readDirective (s : Lexer) : Except Error Lexer := do
  let s ← (s.closeBlocks (-1)).dropKey
  let (token, c) ← Yaml.readDirective s.cursor
  .ok { s with keyAllowed := false, cursor := c, queue := s.queue ++ [token] }

def readDocumentIndicator (s : Lexer) (kind : TokenKind) : Except Error Lexer := do
  let s ← (s.closeBlocks (-1)).dropKey
  .ok ({ s with keyAllowed := false }.take 3 kind)

def readOpening (s : Lexer) (kind : TokenKind) : Except Error Lexer := do
  let s ← s.noteKey
  .ok ({ s with keys := none :: s.keys, keyAllowed := true }.take 1 kind)

def readClosing (s : Lexer) (kind : TokenKind) : Except Error Lexer := do
  let s ← s.dropKey
  let keys := if s.inFlow then s.keys.tail else s.keys
  .ok ({ s with keys, keyAllowed := false }.take 1 kind)

def readComma (s : Lexer) : Except Error Lexer := do
  let s ← s.dropKey
  .ok ({ s with keyAllowed := true }.take 1 .flowEntry)

def readHyphen (s : Lexer) : Except Error Lexer := do
  if !s.inFlow && !s.keyAllowed then s.fail .sequenceEntryNotAllowed
  else
    let s ← (s.openBlock .blockSequenceStart).dropKey
    .ok ({ s with keyAllowed := true }.take 1 .blockEntry)

def readQuestionMark (s : Lexer) : Except Error Lexer := do
  if !s.inFlow && !s.keyAllowed then s.fail .mappingKeyNotAllowed
  else
    let s ← (s.openBlock .blockMappingStart).dropKey
    .ok ({ s with keyAllowed := !s.inFlow }.take 1 .key)

/-- Reads the colon before a value. If a key may have begun, it has. -/
def readColon (s : Lexer) : Except Error Lexer :=
  match s.currentKey? with
  | some key =>
    -- the token of the key comes before the key, which has been read already
    let s := ((s.insert key.token .key key.mark).openMappingAt key).setKey none
    .ok ({ s with keyAllowed := false }.take 1 .value)
  | none =>
    if !s.inFlow && !s.keyAllowed then s.fail .mappingValueNotAllowed
    else
      let s := s.openBlock .blockMappingStart
      .ok ({ s with keyAllowed := !s.inFlow }.take 1 .value)

def readAnchor (s : Lexer) (context : Context) (kind : String → TokenKind) :
    Except Error Lexer := do
  let s ← s.noteKey
  let (name, c) ← Yaml.readAnchor context s.cursor
  .ok { s.push (kind name) s.mark c.mark with keyAllowed := false, cursor := c }

def readTag (s : Lexer) : Except Error Lexer := do
  let s ← s.noteKey
  let ((handle, suffix), c) ← Yaml.readTag s.inFlow s.cursor
  .ok { s.push (.tag handle suffix) s.mark c.mark with keyAllowed := false, cursor := c }

/-- Reads a scalar of lines at an indentation of their own. -/
def readBlock (s : Lexer) (style : ScalarStyle) : Except Error Lexer := do
  let s ← s.dropKey
  let (scalar, c) ← Yaml.readBlock (style == .literal) s.indent s.cursor
  .ok { s.push (.scalar scalar.text style) s.mark scalar.stop with keyAllowed := true, cursor := c }

def readQuoted (s : Lexer) (style : ScalarStyle) : Except Error Lexer := do
  let s ← s.noteKey
  let (scalar, c) ← Yaml.readQuoted (style == .singleQuoted) s.cursor
  let s := s.push (.scalar scalar.text style) s.mark scalar.stop
  .ok { s with keyAllowed := false, cursor := c }

def readPlain (s : Lexer) : Except Error Lexer := do
  let s ← s.noteKey
  let (scalar, c) ← Yaml.readPlain s.inFlow (s.indent + 1).toNat s.cursor
  .ok { s.push (.scalar scalar.text .plain) s.mark scalar.stop with
        keyAllowed := scalar.broken, cursor := c }

/-! ## The next token -/

/-- Passes over blanks, comments and breaks. A tab is passed over only where no key may begin. The
second argument bounds the number of lines; the result says whether a key may begin. -/
def skipToToken (flow : Bool) : Nat → Bool → Cursor → Bool × Cursor
  | 0, allowed, c => (allowed, c)
  | fuel + 1, allowed, c =>
    let c := if c.mark.index = 0 && c.head? = some '\ufeff' then c.advance else c
    let c := c.dropWhile fun x => x = ' ' || ((flow || !allowed) && x = '\t')
    let c := if c.head? = some '#' then c.dropWhile (!isBreak ·) else c
    -- outside of brackets a key may begin in every new line
    if (c.head?.map isBreak).getD false then skipToToken flow fuel (allowed || !flow) c.takeBreak.2
    else (allowed, c)

/-- A plain scalar begins with the character, before the rest. -/
def beginsPlain (flow : Bool) (c : Char) (rest : List Char) : Bool :=
  if c = '-' then !(rest.head?.map isBlank).getD false
  else if c = '?' || c = ':' then !flow && !startsBlank rest
  else !(isBlank c || isBreak c || isIndicator c)

/-- Reads the token that begins with a character, before the rest. -/
def readToken (s : Lexer) (c : Char) (rest : List Char) : Except Error Lexer :=
  let first := s.mark.column = 0
  if first && c = '%' then s.readDirective
  else if first && startsWithIndicator '-' (c :: rest) then s.readDocumentIndicator .documentStart
  else if first && startsWithIndicator '.' (c :: rest) then s.readDocumentIndicator .documentEnd
  else if c = '[' then s.readOpening .flowSequenceStart
  else if c = '{' then s.readOpening .flowMappingStart
  else if c = ']' then s.readClosing .flowSequenceEnd
  else if c = '}' then s.readClosing .flowMappingEnd
  else if c = ',' then s.readComma
  else if c = '-' && startsBlank rest then s.readHyphen
  else if c = '?' && (s.inFlow || startsBlank rest) then s.readQuestionMark
  else if c = ':' && (s.inFlow || startsBlank rest) then s.readColon
  else if c = '*' then s.readAnchor .aliasOf .aliasOf
  else if c = '&' then s.readAnchor .anchor .anchor
  else if c = '!' then s.readTag
  else if c = '|' && !s.inFlow then s.readBlock .literal
  else if c = '>' && !s.inFlow then s.readBlock .folded
  else if c = '\'' then s.readQuoted .singleQuoted
  else if c = '"' then s.readQuoted .doubleQuoted
  else if beginsPlain s.inFlow c rest then s.readPlain
  else .error (.malformed .noToken s.mark (some (.nextToken, s.mark)))

def readNext (s : Lexer) : Except Error Lexer := do
  let (allowed, c) := skipToToken s.inFlow (s.cursor.rest.length + 1) s.keyAllowed s.cursor
  let s ← { s with keyAllowed := allowed, cursor := c }.dropStaleKeys
  let s := s.closeBlocks s.mark.column
  match c.rest with
  | [] => s.readEnd
  | x :: rest => s.readToken x rest

/-- More tokens have to be read before the first of the queue is given out: the queue is empty, or
a key may begin with its first token. -/
def isPending (s : Lexer) : Bool :=
  s.queue.isEmpty || s.keys.any fun key => (key.map fun k => k.token == s.given).getD false

/-- Reads tokens up to the end of the text, and the error that stops the reading. The first argument
bounds the steps, `before` holds the tokens given out, the last one first. -/
def readAll : Nat → List Token → Lexer → List Token × Option Error
  | 0, before, _ => (before.reverse, none)
  | fuel + 1, before, s =>
    let checked := if s.queue.isEmpty then .ok s else s.dropStaleKeys
    match checked with
    | .error e => (before.reverse, some e)
    | .ok s =>
      if s.isPending then
        match s.readNext with
        | .error e => (before.reverse, some e)
        | .ok s => readAll fuel before s
      else
        match s.queue with
        | [] => (before.reverse, none)
        | t :: queue =>
          if t.kind = .streamEnd then ((t :: before).reverse, none)
          else readAll fuel (t :: before) { s with queue, given := s.given + 1 }

end Lexer

/-- The tokens of a text, and the error that ends them. -/
def tokens (text : List Char) : List Token × Option Error :=
  Lexer.readAll (8 * text.length + 8) [] { cursor := ⟨text, .start⟩ }

end FirstClaim.Yaml
