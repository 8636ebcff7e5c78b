import FirstClaim.Regex.ClassReader

/-!
# Reading a pattern

`Ast.read` reads the source of a pattern into its tree. Groups and alternations that are still open
are kept on a stack, and each step of `Reader.step` reads one part of the pattern. Patterns whose
groups, classes and repetitions nest too deeply are refused (`Ast.checkDepth`).
-/

set_option autoImplicit false

namespace FirstClaim.Regex

/-- Parts of a concatenation read so far, the last one first, and where it began. -/
structure PartRun where
  start : Position
  parts : List Ast

namespace PartRun

/-- No parts, at the place reached. -/
def none (s : Source) : PartRun :=
  ⟨s.pos, []⟩

def push (r : PartRun) (a : Ast) : PartRun :=
  { r with parts := a :: r.parts }

/-- The parts as one pattern that ends at `stop`. -/
def toAst (r : PartRun) (stop : Position) : Ast :=
  match r.parts with
  | [] => .empty ⟨r.start, stop⟩
  | [a] => a
  | parts => .concat ⟨r.start, stop⟩ parts.reverse

end PartRun

/-- What a pattern that is being read waits for. -/
inductive GroupFrame where
  /-- The group that began at `span` is open after `before`; `verbose` holds outside of it. -/
  | opened (before : PartRun) (span : Span) (kind : GroupKind) (verbose : Bool)
  /-- Branches of an alternation read so far, the last one first, and where it began. -/
  | branches (start : Position) (branches : List Ast)

/-- The state between two parts of a pattern. -/
structure Reader where
  source : Source
  parts : PartRun
  frames : List GroupFrame
  /-- The index of the next capture group. -/
  nextIndex : Nat
  /-- The names of groups and where they stand. -/
  names : List (List Char × Span)

namespace Reader

def start (pattern : String) : Reader :=
  let s := Source.ofString pattern
  ⟨s, .none s, [], 1, []⟩

/-! ## Groups -/

/-- A character may stand in the name of a group. -/
def isNameChar (first : Bool) (c : Char) : Bool :=
  c == '_' || Unicode.alphabetic.contains c ||
    (!first && (c == '.' || c == '[' || c == ']' || Unicode.numbers.contains c))

/-- Reads the characters of a group name up to its closing angle. -/
def readNameChars (s : Source) : Bool → List Char → Except Error (List Char × Source)
  | _, [] => .error (.at .groupNameUnexpectedEnd s.here)
  | first, c :: cs =>
    if c = '>' then .ok ([], s)
    else if isNameChar first c then do
      let (name, s) ← readNameChars s.bump false cs
      .ok (c :: name, s)
    else .error (.at .groupNameInvalid s.charSpan)

def readName (names : List (List Char × Span)) (s : Source) :
    Except Error ((List Char × Span) × Source) := do
  let begin := s.pos
  let (name, s) ← readNameChars s true s.rest
  let span := s.spanFrom begin
  if name.isEmpty then .error (.at .groupNameEmpty ⟨begin, begin⟩)
  else match names.lookup name with
    | some first => .error { cause := .groupNameDuplicate, span, related := some first }
    | none => .ok ((name, span), s.bump)

def flag? : Char → Option Flag
  | 'i' => some .caseInsensitive
  | 'm' => some .multiLine
  | 's' => some .dotAll
  | 'U' => some .swapGreed
  | 'u' => some .unicode
  | 'R' => some .crlf
  | 'x' => some .verbose
  | _ => none

/-- Reads the items of a flag list up to its closing sign; `found` holds the items before, the last
one first, with their spans. -/
def readFlags (s : Source) (found : List (FlagItem × Span)) :
    List Char → Except Error (List FlagItem × Source)
  | [] => .error (.at .flagUnexpectedEnd s.here)
  | c :: cs =>
    if c = ':' || c = ')' then
      match found with
      | (.negation, span) :: _ => .error (.at .flagDanglingNegation span)
      | _ => .ok ((found.map (·.1)).reverse, s)
    else
      let item? := if c = '-' then some FlagItem.negation else (flag? c).map .flag
      match item? with
      | none => .error (.at .flagUnrecognized s.charSpan)
      | some item =>
        match found.lookup item with
        | some first =>
          let cause := if item = .negation then .flagRepeatedNegation else .flagDuplicate
          .error { cause, span := s.charSpan, related := some first }
        | none => readFlags s.bump ((item, s.charSpan) :: found) cs

/-- What follows an opening parenthesis. -/
inductive Opening where
  /-- Flags for the rest of the enclosing group. -/
  | setFlags (items : List FlagItem)
  /-- A group, with its name if it has one. -/
  | group (kind : GroupKind) (name : Option (List Char × Span))

/-- A sign of look-around stands here; its length. -/
def lookAround? (s : Source) : Option Nat :=
  match s.rest with
  | '?' :: '=' :: _ => some 2
  | '?' :: '!' :: _ => some 2
  | '?' :: '<' :: '=' :: _ => some 3
  | '?' :: '<' :: '!' :: _ => some 3
  | _ => none

def nameSign? (s : Source) : Option Nat :=
  match s.rest with
  | '?' :: 'P' :: '<' :: _ => some 3
  | '?' :: '<' :: _ => some 2
  | _ => none

def readOpening (r : Reader) : Except Error (Opening × Source) :=
  let s := r.source
  let open' := s.charSpan
  let s := s.next
  match lookAround? s, nameSign? s, s.rest with
  | some n, _, _ => .error (.at .lookAround ((s.bumps n).spanFrom open'.start))
  | _, some n, _ => do
    let (name, s) ← readName r.names (s.bumps n)
    .ok (.group (.capture r.nextIndex) (some name), s)
  | _, _, '?' :: rest =>
    let inner := s.here
    if rest.isEmpty then .error (.at .groupUnclosed open')
    else do
      let (items, s) ← readFlags s.bump [] rest
      if s.startsWith ':' then .ok (.group (.flags items) none, s.bump)
      else if items.isEmpty then .error (.at .repetitionMissing inner)
      else .ok (.setFlags items, s.bump)
  | _, _, _ => .ok (.group (.capture r.nextIndex) none, s)

/-- The number of capture groups that an opening adds. -/
def captures : GroupKind → Nat
  | .capture _ => 1
  | .flags _ => 0

def verboseInside (outside : Bool) : GroupKind → Bool
  | .capture _ => outside
  | .flags items => (flagState? .verbose items).getD outside

def openGroup (r : Reader) : Except Error Reader := do
  let open' := r.source.charSpan
  let (opening, s) ← r.readOpening
  match opening with
  | .setFlags items =>
    let verbose := (flagState? .verbose items).getD s.verbose
    .ok { r with
      source := { s with verbose }
      parts := r.parts.push (.flags (s.spanFrom open'.start) items) }
  | .group kind name =>
    let inner := { s with verbose := verboseInside s.verbose kind }
    .ok { r with
      source := inner
      parts := .none inner
      frames := .opened r.parts open' kind s.verbose :: r.frames
      nextIndex := r.nextIndex + captures kind
      names := name.toList ++ r.names }

/-- Ends the open branch of an alternation. -/
def nextBranch (r : Reader) : Reader :=
  let branch := r.parts.toAst r.source.pos
  let frames := match r.frames with
    | .branches start done :: frames => .branches start (branch :: done) :: frames
    | frames => .branches r.parts.start [branch] :: frames
  let source := r.source.bump
  { r with source, parts := .none source, frames }

/-- The parts of the innermost open group as one pattern, and the frames around them. -/
def closeBranches (r : Reader) : Ast × List GroupFrame :=
  let last := r.parts.toAst r.source.pos
  match r.frames with
  | .branches start done :: frames =>
    (.alternation ⟨start, r.source.pos⟩ (last :: done).reverse, frames)
  | frames => (last, frames)

/-- Ends the innermost open group at its closing parenthesis. -/
def closeGroup (r : Reader) : Except Error Reader :=
  match r.closeBranches with
  | (sub, .opened before span kind verbose :: frames) =>
    let source := { r.source.bump with verbose }
    let group := .group ⟨span.start, source.pos⟩ kind sub
    .ok { r with source, parts := before.push group, frames }
  | _ => .error (.at .groupUnopened r.source.charSpan)

/-! ## Repetitions -/

/-- The part that a repetition sign refers to, and the parts before it. -/
def operand? (r : PartRun) : Option (Ast × PartRun) :=
  match r.parts with
  | [] => none
  | .empty _ :: _ => none
  | .flags _ _ :: _ => none
  | a :: parts => some (a, { r with parts })

/-- Puts a repetition of `sub` behind `before`. A question mark makes it reluctant. -/
def pushRepetition (r : Reader) (before : PartRun) (sub : Ast) (min : Nat) (max : Option Nat)
    (s : Source) : Reader :=
  let greedy := !s.startsWith '?'
  let s := if greedy then s else s.bump
  let span : Span := ⟨sub.span.start, s.pos⟩
  { r with source := s, parts := before.push (.repetition span min max greedy sub) }

/-- Reads a repetition sign of one character. -/
def repeatShort (r : Reader) (min : Nat) (max : Option Nat) : Except Error Reader :=
  match operand? r.parts with
  | none => .error (.at .repetitionMissing r.source.here)
  | some (sub, before) => .ok (r.pushRepetition before sub min max r.source.bump)

def maxCount : Nat :=
  Nat.pow 2 32 - 1

/-- Reads a decimal number, with blanks around it; an error does not end the reading. -/
def readDecimal (s : Source) : Except Error Nat × Source :=
  let s := s.skipBlanks
  let first := s.pos
  let (digits, s) := s.takeRun Char.isDigit
  let span := s.spanFrom first
  let value := digits.foldl (fun n c => n * 10 + hexValue c) 0
  let result :=
    if digits.isEmpty then .error (.at .repetitionCountDecimalEmpty span)
    else if value ≤ maxCount then .ok value
    else .error (.at .decimalInvalid span)
  (result, s.skipBlanks)

/-- Reads the counts of a repetition in braces, from behind the opening brace to the closing one. -/
def readCounts (start : Position) (s : Source) : Except Error (Nat × Option Nat × Source) :=
  let unclosed (s : Source) : Error := .at .repetitionCountUnclosed (s.spanFrom start)
  let (first, s) := readDecimal s
  if s.atEnd then .error (unclosed s)
  else if s.startsWith ',' then
    let s := s.next
    if s.atEnd then .error (unclosed s)
    else if s.startsWith '}' then do
      let min ← first
      .ok (min, none, s)
    else do
      let min ← first
      let (last, s) := readDecimal s
      let max ← last
      .ok (min, some max, s)
  else do
    let min ← first
    .ok (min, some min, s)

def repeatCounted (r : Reader) : Except Error Reader :=
  let start := r.source.pos
  let unclosed (s : Source) : Error := .at .repetitionCountUnclosed (s.spanFrom start)
  match operand? r.parts with
  | none => .error (.at .repetitionMissing r.source.here)
  | some (sub, before) =>
    let s := r.source.next
    if s.atEnd then .error (unclosed s)
    else do
      let (min, max, s) ← readCounts start s
      if !s.startsWith '}' then .error (unclosed s)
      else
        let r' := r.pushRepetition before sub min max s.next
        if max.all (min ≤ ·) then .ok r'
        else .error (.at .repetitionCountInvalid (r'.source.spanFrom start))

/-! ## The whole pattern -/

/-- Reads a character that stands for itself, a dot, a line anchor or an escape. -/
def readAtom (s : Source) : Except Error (Atom × Source) :=
  match s.rest with
  | '\\' :: _ => readEscape s
  | '.' :: _ => .ok (.dot s.charSpan, s.bump)
  | '^' :: _ => .ok (.assertion s.charSpan .startLine, s.bump)
  | '$' :: _ => .ok (.assertion s.charSpan .endLine, s.bump)
  | c :: _ => .ok (.literal ⟨s.charSpan, c, false⟩, s.bump)
  | [] => .error (.at .escapeUnexpectedEnd s.here)

/-- Reads one part of a pattern that begins with the character `c`. -/
def step (r : Reader) (c : Char) : Except Error Reader :=
  match c with
  | '(' => r.openGroup
  | ')' => r.closeGroup
  | '|' => .ok r.nextBranch
  | '[' => do
    let (cls, s) ← readClass r.source
    .ok { r with source := s, parts := r.parts.push cls }
  | '?' => r.repeatShort 0 (some 1)
  | '*' => r.repeatShort 0 none
  | '+' => r.repeatShort 1 none
  | '{' => r.repeatCounted
  | _ => do
    let (a, s) ← readAtom r.source
    .ok { r with source := s, parts := r.parts.push a.toAst }

def finish (r : Reader) : Except Error Ast :=
  match r.closeBranches with
  | (ast, []) => .ok ast
  | (_, .opened _ span _ _ :: _) => .error (.at .groupUnclosed span)
  | (_, .branches start _ :: _) => .error (.at .groupUnclosed ⟨start, start⟩)

/-- Reads parts up to the end of the pattern. The first argument bounds their number. -/
def run : Nat → Reader → Except Error Ast
  | 0, r => r.finish
  | n + 1, r =>
    let r := { r with source := r.source.skip }
    match r.source.rest with
    | [] => r.finish
    | c :: _ => do
      let r ← r.step c
      run n r

end Reader

/-! ## Depth -/

mutual

/-- Checks that no part of a class item lies deeper than `limit`, `depth` being that of the item. -/
def ClassItem.checkDepth (limit depth : Nat) : ClassItem → Except Error Unit
  | .bracketed span _ item =>
    if depth < limit then item.checkDepth limit (depth + 1)
    else .error (.at (.nestLimitExceeded limit) span)
  | .union span items =>
    if depth < limit then ClassItem.checkDepths limit (depth + 1) items
    else .error (.at (.nestLimitExceeded limit) span)
  | .binary span _ lhs rhs =>
    if depth < limit then do
      lhs.checkDepth limit (depth + 1)
      rhs.checkDepth limit (depth + 1)
    else .error (.at (.nestLimitExceeded limit) span)
  | _ => .ok ()

/-- Checks the depth of each item. -/
def ClassItem.checkDepths (limit depth : Nat) : List ClassItem → Except Error Unit
  | [] => .ok ()
  | item :: items => do
    item.checkDepth limit depth
    ClassItem.checkDepths limit depth items

end

mutual

/-- Checks that no part of a pattern lies deeper than `limit`, `depth` being that of the pattern. -/
def Ast.checkDepth (limit depth : Nat) : Ast → Except Error Unit
  | .bracketed span _ item =>
    if depth < limit then item.checkDepth limit (depth + 1)
    else .error (.at (.nestLimitExceeded limit) span)
  | .repetition span _ _ _ sub =>
    if depth < limit then sub.checkDepth limit (depth + 1)
    else .error (.at (.nestLimitExceeded limit) span)
  | .group span _ sub =>
    if depth < limit then sub.checkDepth limit (depth + 1)
    else .error (.at (.nestLimitExceeded limit) span)
  | .alternation span branches =>
    if depth < limit then Ast.checkDepths limit (depth + 1) branches
    else .error (.at (.nestLimitExceeded limit) span)
  | .concat span items =>
    if depth < limit then Ast.checkDepths limit (depth + 1) items
    else .error (.at (.nestLimitExceeded limit) span)
  | _ => .ok ()

/-- Checks the depth of each pattern. -/
def Ast.checkDepths (limit depth : Nat) : List Ast → Except Error Unit
  | [] => .ok ()
  | a :: rest => do
    a.checkDepth limit depth
    Ast.checkDepths limit depth rest

end

/-- How deep groups, classes and repetitions may nest. -/
def nestLimit : Nat :=
  250

/-- Reads the source of a pattern. -/
def Ast.read (pattern : String) : Except Error Ast := do
  let ast ← Reader.run (pattern.length + 1) (Reader.start pattern)
  ast.checkDepth nestLimit 0
  .ok ast

end FirstClaim.Regex
