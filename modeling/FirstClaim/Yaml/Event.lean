import FirstClaim.Yaml.Lexer

/-!
# From tokens to events

Events say what a document holds: scalars, aliases, and sequences and mappings from their beginning
to their end. The reading of a node is a list of goals, the next one first; each goal gives one
event and may put other goals before the ones behind it. `events` gives all events up to the end of
the text or to the first error.
-/

set_option autoImplicit false

namespace FirstClaim.Yaml

/-! ## Events -/

/-- What an event is. -/
inductive EventKind where
  | streamEnd
  | documentStart
  | documentEnd
  | aliasOf (name : String)
  | scalar (text : String) (style : ScalarStyle) (tag anchor : Option String)
  | sequenceStart (anchor : Option String)
  | sequenceEnd
  | mappingStart (anchor : Option String)
  | mappingEnd
deriving DecidableEq, Repr

/-- An event with the mark of its beginning. -/
structure Event where
  kind : EventKind
  mark : Mark
deriving DecidableEq, Repr

/-- An absent node: an empty plain scalar. -/
def Event.absent (m : Mark) : Event :=
  ⟨.scalar "" .plain none none, m⟩

/-! ## Goals -/

/-- What comes next. Goals for an entry of a collection hold the mark of the collection. -/
inductive Goal where
  /-- A document, whose beginning is marked unless it is the first. -/
  | document (first : Bool)
  | documentContent
  | documentEnd
  | blockNode
  | blockSequenceFirst
  | blockSequence (start : Mark)
  | indentlessSequence
  | blockMappingFirst
  | blockMappingKey (start : Mark)
  | blockMappingValue (start : Mark)
  | flowSequenceFirst
  | flowSequence (start : Mark) (first : Bool)
  /-- A pair that stands as an entry of a sequence. -/
  | pairKey
  | pairValue
  | pairEnd
  | flowMappingFirst
  | flowMappingKey (start : Mark) (first : Bool)
  | flowMappingValue (start : Mark)
  /-- A key without a value. -/
  | flowMappingNoValue (start : Mark)
deriving DecidableEq, Repr

/-- The state of reading events. -/
structure Parser where
  tokens : List Token
  /-- The error when the tokens are used up. -/
  failure : Error
  goals : List Goal
  /-- Handles of tags with the texts that they stand for. -/
  handles : List (String × String) := []

namespace Parser

def peek (p : Parser) : Except Error Token :=
  match p.tokens with
  | [] => .error p.failure
  | t :: _ => .ok t

def skip (p : Parser) : Parser :=
  { p with tokens := p.tokens.tail }

def then_ (p : Parser) (g : Goal) : Parser :=
  { p with goals := g :: p.goals }

/-- An event and the state behind it. -/
abbrev Step := Except Error (Event × Parser)

def refuse {α : Type} (problem : Problem) (mark : Mark) (context : Context) (start : Mark) :
    Except Error α :=
  .error (.malformed problem mark (some (context, start)))

/-- The absent node at a mark. -/
def absent (p : Parser) (m : Mark) : Step :=
  .ok (Event.absent m, p)

/-! ## Nodes -/

/-- The properties of a node: its anchor, its tag with the mark of the tag, and the mark of the
first of them. -/
structure Properties where
  anchor : Option String := none
  tag : Option (String × String × Mark) := none
  start : Option Mark := none

/-- Reads an anchor and a tag, in either order. -/
def properties (p : Parser) : Except Error (Properties × Parser) := do
  let t ← p.peek
  match t.kind with
  | .anchor name =>
    let p := p.skip
    let u ← p.peek
    match u.kind with
    | .tag handle suffix => .ok (⟨some name, some (handle, suffix, u.start), some t.start⟩, p.skip)
    | _ => .ok (⟨some name, none, some t.start⟩, p)
  | .tag handle suffix =>
    let p := p.skip
    let u ← p.peek
    match u.kind with
    | .anchor name => .ok (⟨some name, some (handle, suffix, t.start), some t.start⟩, p.skip)
    | _ => .ok (⟨none, some (handle, suffix, t.start), some t.start⟩, p)
  | _ => .ok ({}, p)

/-- The full text of a tag. -/
def resolveTag (p : Parser) (start : Mark) :
    Option (String × String × Mark) → Except Error (Option String)
  | none => .ok none
  | some (handle, suffix, m) =>
    if handle.isEmpty then .ok (some suffix)
    else
      match p.handles.lookup handle with
      | some text => .ok (some (text ++ suffix))
      | none => refuse .undefinedTagHandle m .node start

/-- The tag of a scalar: the tag `!` of its own says nothing, and without a tag there is none. -/
def scalarTag : Option String → Option String
  | some "!" => none
  | tag => tag

/-- Reads a node. Only in a block may it be a block collection; where it is the key or value of a
mapping, a sequence need not be indented. -/
def node (block indentless : Bool) (p : Parser) : Step := do
  let t ← p.peek
  match t.kind with
  | .aliasOf name => .ok (⟨.aliasOf name, t.start⟩, p.skip)
  | _ =>
    let (props, p) ← p.properties
    let u ← p.peek
    let start := props.start.getD u.start
    let tag ← p.resolveTag start props.tag
    match u.kind with
    | .scalar text style =>
      .ok (⟨.scalar text style (scalarTag tag) props.anchor, start⟩, p.skip)
    | .flowSequenceStart => .ok (⟨.sequenceStart props.anchor, start⟩, p.then_ .flowSequenceFirst)
    | .flowMappingStart => .ok (⟨.mappingStart props.anchor, start⟩, p.then_ .flowMappingFirst)
    | kind =>
      if indentless && kind = .blockEntry then
        .ok (⟨.sequenceStart props.anchor, start⟩, p.then_ .indentlessSequence)
      else if block && kind = .blockSequenceStart then
        .ok (⟨.sequenceStart props.anchor, start⟩, p.then_ .blockSequenceFirst)
      else if block && kind = .blockMappingStart then
        .ok (⟨.mappingStart props.anchor, start⟩, p.then_ .blockMappingFirst)
      else if props.start.isSome then .ok (⟨.scalar "" .plain tag props.anchor, start⟩, p)
      else refuse .noNodeContent u.start (if block then .blockNode else .flowNode) start

/-! ## Documents -/

/-- Adds a handle of a directive. -/
def define (p : Parser) (handle text : String) (m : Mark) : Except Error Parser :=
  if (p.handles.lookup handle).isSome then .error (.malformed .duplicateTagDirective m none)
  else .ok { p with handles := p.handles ++ [(handle, text)] }

def directives : Nat → Bool → Parser → Except Error Parser
  | 0, _, p => .ok p
  | fuel + 1, versioned, p => do
    let t ← p.peek
    match t.kind with
    | .versionDirective major minor =>
      if versioned then .error (.malformed .duplicateVersion t.start none)
      else if major ≠ 1 || (minor ≠ 1 && minor ≠ 2) then
        .error (.malformed .incompatibleVersion t.start none)
      else directives fuel true p.skip
    | .tagDirective handle text => directives fuel versioned (← p.define handle text t.start).skip
    | _ => .ok p

/-- The handles that every document has, unless it defines them otherwise. -/
def defaultHandles : List (String × String) :=
  [("!", "!"), ("!!", "tag:yaml.org,2002:")]

/-- Adds the default handles behind those of directives. -/
def withDefaults (p : Parser) : Parser :=
  { p with handles := p.handles ++ defaultHandles }

def skipDocumentEnds (p : Parser) : Parser :=
  { p with tokens := p.tokens.dropWhile (·.kind = .documentEnd) }

/-- Whether a token begins a document that says so, or ends the text. -/
def isDocumentBorder : TokenKind → Bool
  | .versionDirective _ _ => true
  | .tagDirective _ _ => true
  | .documentStart => true
  | .streamEnd => true
  | _ => false

/-- Reads the beginning of a document, or the end of the text. -/
def documentStart (first : Bool) (p : Parser) : Step := do
  let p := if first then p else p.skipDocumentEnds
  let t ← p.peek
  if t.kind = .streamEnd then .ok (⟨.streamEnd, t.start⟩, { p.skip with goals := [] })
  else if first && !isDocumentBorder t.kind then
    .ok (⟨.documentStart, t.start⟩, (p.withDefaults.then_ .documentEnd).then_ .blockNode)
  else
    let p := (← directives (p.tokens.length + 1) false p).withDefaults
    let u ← p.peek
    if u.kind = .documentStart then
      .ok (⟨.documentStart, t.start⟩, (p.skip.then_ .documentEnd).then_ .documentContent)
    else .error (.malformed .noDocumentStart u.start none)

/-- Reads what a document holds behind the mark of its beginning. -/
def documentContent (p : Parser) : Step := do
  let t ← p.peek
  if isDocumentBorder t.kind || t.kind = .documentEnd then p.absent t.start
  else p.node true false

def documentEnd (p : Parser) : Step := do
  let t ← p.peek
  let p := if t.kind = .documentEnd then p.skip else p
  .ok (⟨.documentEnd, t.start⟩, { p with handles := [] }.then_ (.document false))

/-! ## Collections in blocks -/

/-- Reads an entry behind its hyphen, or its absence before one of the tokens given. -/
def entry (ends : List TokenKind) (m : Mark) (p : Parser) : Step := do
  let t ← p.peek
  if ends.contains t.kind then p.absent m else p.node true false

/-- Reads an entry of a sequence, or its end. -/
def blockSequence (start : Mark) (p : Parser) : Step := do
  let t ← p.peek
  if t.kind = .blockEntry then
    (p.skip.then_ (.blockSequence start)).entry [.blockEntry, .blockEnd] t.stop
  else if t.kind = .blockEnd then .ok (⟨.sequenceEnd, t.start⟩, p.skip)
  else refuse .noSequenceEntry t.start .blockCollection start

/-- Reads an entry of a sequence that is not indented, or its end. -/
def indentlessSequence (p : Parser) : Step := do
  let t ← p.peek
  if t.kind = .blockEntry then
    (p.skip.then_ .indentlessSequence).entry [.blockEntry, .key, .value, .blockEnd] t.stop
  else .ok (⟨.sequenceEnd, t.start⟩, p)

/-- Reads a key or a value behind its indicator, or its absence. -/
def mappingNode (m : Mark) (p : Parser) : Step := do
  let t ← p.peek
  if [TokenKind.key, .value, .blockEnd].contains t.kind then p.absent m else p.node true true

def blockMappingKey (start : Mark) (p : Parser) : Step := do
  let t ← p.peek
  if t.kind = .key then (p.skip.then_ (.blockMappingValue start)).mappingNode t.stop
  else if t.kind = .blockEnd then .ok (⟨.mappingEnd, t.start⟩, p.skip)
  else refuse .noKey t.start .blockMapping start

def blockMappingValue (start : Mark) (p : Parser) : Step := do
  let t ← p.peek
  let p := p.then_ (.blockMappingKey start)
  if t.kind = .value then p.skip.mappingNode t.stop else p.absent t.start

/-! ## Collections in brackets -/

/-- Reads a node, or its absence before one of the tokens given. -/
def flowNode (ends : List TokenKind) (p : Parser) : Step := do
  let t ← p.peek
  if ends.contains t.kind then p.absent t.start else p.node false false

/-- Passes over the comma before an entry that is not the first. -/
def separator (first : Bool) (problem : Problem) (context : Context) (start : Mark) (p : Parser) :
    Except Error Parser := do
  let t ← p.peek
  if first then .ok p
  else if t.kind = .flowEntry then .ok p.skip
  else refuse problem t.start context start

def flowSequence (start : Mark) (first : Bool) (p : Parser) : Step := do
  let t ← p.peek
  if t.kind = .flowSequenceEnd then .ok (⟨.sequenceEnd, t.start⟩, p.skip)
  else
    let p ← p.separator first .noFlowSequenceSeparator .flowSequence start
    let t ← p.peek
    let next := p.then_ (.flowSequence start false)
    if t.kind = .key then .ok (⟨.mappingStart none, t.start⟩, next.skip.then_ .pairKey)
    else if t.kind = .flowSequenceEnd then .ok (⟨.sequenceEnd, t.start⟩, p.skip)
    else next.node false false

/-- Reads the key of a pair. An absent key takes the token behind it along. -/
def pairKey (p : Parser) : Step := do
  let t ← p.peek
  let next := p.then_ .pairValue
  if [TokenKind.value, .flowEntry, .flowSequenceEnd].contains t.kind then next.skip.absent t.stop
  else next.node false false

def pairValue (p : Parser) : Step := do
  let t ← p.peek
  let next := p.then_ .pairEnd
  if t.kind = .value then next.skip.flowNode [.flowEntry, .flowSequenceEnd]
  else next.absent t.start

def pairEnd (p : Parser) : Step := do
  let t ← p.peek
  .ok (⟨.mappingEnd, t.start⟩, p)

def flowMappingKey (start : Mark) (first : Bool) (p : Parser) : Step := do
  let t ← p.peek
  if t.kind = .flowMappingEnd then .ok (⟨.mappingEnd, t.start⟩, p.skip)
  else
    let p ← p.separator first .noFlowMappingSeparator .flowMapping start
    let t ← p.peek
    if t.kind = .key then
      (p.skip.then_ (.flowMappingValue start)).flowNode [.value, .flowEntry, .flowMappingEnd]
    else if t.kind = .flowMappingEnd then .ok (⟨.mappingEnd, t.start⟩, p.skip)
    else (p.then_ (.flowMappingNoValue start)).node false false

def flowMappingValue (start : Mark) (p : Parser) : Step := do
  let t ← p.peek
  let next := p.then_ (.flowMappingKey start false)
  if t.kind = .value then next.skip.flowNode [.flowEntry, .flowMappingEnd]
  else next.absent t.start

/-- Gives the absent value of a key without one. -/
def flowMappingNoValue (start : Mark) (p : Parser) : Step := do
  let t ← p.peek
  (p.then_ (.flowMappingKey start false)).absent t.start

/-- Passes over the token that begins a collection and reads its first entry. -/
def enter (p : Parser) (read : Mark → Parser → Step) : Step := do
  let t ← p.peek
  read t.start p.skip

/-! ## All events -/

/-- Reaches a goal. -/
def reach (g : Goal) (p : Parser) : Step :=
  match g with
  | .document first => p.documentStart first
  | .documentContent => p.documentContent
  | .documentEnd => p.documentEnd
  | .blockNode => p.node true false
  | .blockSequenceFirst => p.enter blockSequence
  | .blockSequence start => p.blockSequence start
  | .indentlessSequence => p.indentlessSequence
  | .blockMappingFirst => p.enter blockMappingKey
  | .blockMappingKey start => p.blockMappingKey start
  | .blockMappingValue start => p.blockMappingValue start
  | .flowSequenceFirst => p.enter fun start => flowSequence start true
  | .flowSequence start first => p.flowSequence start first
  | .pairKey => p.pairKey
  | .pairValue => p.pairValue
  | .pairEnd => p.pairEnd
  | .flowMappingFirst => p.enter fun start => flowMappingKey start true
  | .flowMappingKey start first => p.flowMappingKey start first
  | .flowMappingValue start => p.flowMappingValue start
  | .flowMappingNoValue start => p.flowMappingNoValue start

/-- Reaches all goals, and the error that stops the reading. The first argument bounds the number of
events, `before` holds the events given, the last one first. -/
def readAll : Nat → List Event → Parser → List Event × Option Error
  | 0, before, _ => (before.reverse, none)
  | fuel + 1, before, p =>
    match p.goals with
    | [] => (before.reverse, none)
    | g :: goals =>
      match reach g { p with goals } with
      | .error e => (before.reverse, some e)
      | .ok (event, p) => readAll fuel (event :: before) p

end Parser

/-- The byte at which the first character stands that no file may hold. -/
def forbiddenOffset? (offset : Nat) : List Char → Option Nat
  | [] => none
  | c :: rest => if isAllowed c then forbiddenOffset? (offset + c.utf8Size) rest else some offset

/-- The events of a text, and the error that ends them. A byte order mark at the beginning says
nothing. -/
def events (text : String) : List Event × Option Error :=
  let (chars, offset) := match text.toList with
    | '\ufeff' :: rest => (rest, 3)
    | chars => (chars, 0)
  match forbiddenOffset? offset chars with
  | some n => ([], some (.forbiddenCharacter n))
  | none =>
    let (ts, e) := tokens chars
    Parser.readAll (4 * ts.length + 8) []
      { tokens := ts, failure := e.getD .endOfText, goals := [.document true] }

end FirstClaim.Yaml
