import FirstClaim.Hex
import FirstClaim.Yaml.Error
import FirstClaim.Yaml.Token

/-!
# Reading scalars

A scalar that is plain or quoted consists of runs of characters with gaps of blanks and breaks
between them; a gap with a break in it is folded (`Gap.text`). A block scalar consists of whole
lines at an indentation of their own.
-/

set_option autoImplicit false

namespace FirstClaim.Yaml

/-- A scalar that was read. -/
structure Scalar where
  text : String
  /-- The mark behind the scalar. -/
  stop : Mark
  /-- A break was passed over behind the scalar. -/
  broken : Bool := false

/-- An error at a mark within a scalar. -/
def scalarError {α : Type} (problem : Problem) (mark : Mark) (context : Context) (start : Mark) :
    Except Error α :=
  .error (.malformed problem mark (some (context, start)))

/-! ## Gaps -/

/-- Blanks and breaks between two runs. -/
structure Gap where
  /-- The blanks before the first break, the last one first. -/
  blanks : List Char := []
  /-- A break was found. -/
  broken : Bool := false
  /-- The first break. -/
  lead : List Char := []
  /-- The other breaks, the last one first. -/
  trail : List Char := []
  /-- The first tab that stands in a line of its own before the columns of the text. -/
  tab : Option Mark := none

namespace Gap

/-- Adds a blank at a mark; the text has its place from the column `limit` on. -/
def addBlank (limit : Nat) (g : Gap) (m : Mark) (c : Char) : Gap :=
  if g.broken then
    if c = '\t' && m.column < limit && g.tab.isNone then { g with tab := some m } else g
  else { g with blanks := c :: g.blanks }

def addBreak (g : Gap) (c : Char) : Gap :=
  if g.broken then { g with trail := c :: g.trail }
  else { broken := true, lead := [c] }

/-- What a gap is read as: its blanks, or its breaks, where a single line feed reads as a space and
the first of several is dropped. -/
def text (g : Gap) : List Char :=
  if !g.broken then g.blanks.reverse
  else if g.lead = ['\n'] then if g.trail.isEmpty then [' '] else g.trail.reverse
  else g.lead ++ g.trail.reverse

def read (limit : Nat) (g : Gap) (m : Mark) : List Char → Gap × Cursor
  | '\r' :: '\n' :: rest => read limit (g.addBreak '\n') (m.nextLine 2) rest
  | c :: rest =>
    if isBlank c then read limit (g.addBlank limit m c) m.next rest
    else if isBreak c then read limit (g.addBreak (breakChar c)) (m.nextLine 1) rest
    else (g, ⟨c :: rest, m⟩)
  | [] => (g, ⟨[], m⟩)

end Gap

/-! ## Plain scalars -/

/-- Reads a run of a plain scalar. A colon that cannot be told from an indicator is an error, which
is given by its mark. -/
def plainRun (flow : Bool) (before : List Char) (m : Mark) :
    List Char → Except Mark (List Char × Cursor)
  | [] => .ok (before, ⟨[], m⟩)
  | c :: rest =>
    if isBlank c || isBreak c then .ok (before, ⟨c :: rest, m⟩)
    else if flow && c = ':' && (rest.head?.map fun d => d = '?' || isFlowIndicator d).getD false
    then .error m
    else if (c = ':' && startsBlank rest) || (flow && isFlowIndicator c) then
      .ok (before, ⟨c :: rest, m⟩)
    else plainRun flow (c :: before) m.next rest

/-- Reads runs and gaps of a plain scalar. The first argument bounds their number, `before` holds
the characters read, the last one first. -/
def plainRuns (flow : Bool) (indent : Nat) (start : Mark) :
    Nat → List Char → Gap → Mark → Cursor → Except Error (Scalar × Cursor)
  | 0, before, gap, stop, c => .ok (⟨String.ofList before.reverse, stop, gap.broken⟩, c)
  | fuel + 1, before, gap, stop, c =>
    if c.atDocumentIndicator || c.head? = some '#' then
      .ok (⟨String.ofList before.reverse, stop, gap.broken⟩, c)
    else
      match plainRun flow [] c.mark c.rest with
      | .error m => scalarError .colonInPlainScalar m .plainScalar start
      | .ok ([], c) => .ok (⟨String.ofList before.reverse, stop, gap.broken⟩, c)
      | .ok (run, behind) =>
        -- the gap before this run belongs to the scalar only now that a run follows
        let before := run ++ (gap.text.reverse ++ before)
        let (gap, c) := Gap.read indent {} behind.mark behind.rest
        match gap.tab with
        | some m => scalarError .tabBeforePlainScalar m .plainScalar start
        | none =>
          if !flow && c.column < indent then
            .ok (⟨String.ofList before.reverse, behind.mark, gap.broken⟩, c)
          else plainRuns flow indent start fuel before gap behind.mark c

/-- Reads a plain scalar. Outside of brackets its lines have at least the column `indent`. -/
def readPlain (flow : Bool) (indent : Nat) (c : Cursor) : Except Error (Scalar × Cursor) :=
  plainRuns flow indent c.mark (c.rest.length + 1) [] {} c.mark c

/-! ## Quoted scalars -/

/-- Reads a run between apostrophes; a doubled apostrophe stands for one. -/
def singleRun (before : List Char) (m : Mark) : List Char → List Char × Cursor
  | '\'' :: '\'' :: rest => singleRun ('\'' :: before) m.next.next rest
  | c :: rest =>
    if c = '\'' || isBlank c || isBreak c then (before, ⟨c :: rest, m⟩)
    else singleRun (c :: before) m.next rest
  | [] => (before, ⟨[], m⟩)

/-- The number written by `n` hexadecimal digits, continuing `v`. -/
def hexNumber? : Nat → Nat → List Char → Option Nat
  | 0, v, _ => some v
  | _ + 1, _, [] => none
  | n + 1, v, c :: rest => (hexValue? c).bind fun d => hexNumber? n (16 * v + d) rest

/-- The character of an escape without digits. -/
def escapedChar? : Char → Option Char
  | '0' => some '\x00'
  | 'a' => some '\x07'
  | 'b' => some '\x08'
  | 't' => some '\t'
  | '\t' => some '\t'
  | 'n' => some '\n'
  | 'v' => some '\x0b'
  | 'f' => some '\x0c'
  | 'r' => some '\r'
  | 'e' => some '\x1b'
  | ' ' => some ' '
  | '"' => some '"'
  | '/' => some '/'
  | '\\' => some '\\'
  | 'N' => some '\x85'
  | '_' => some '\u00a0'
  | 'L' => some '\u2028'
  | 'P' => some '\u2029'
  | _ => none

/-- The number of digits of an escape with digits. -/
def escapeLength? : Char → Option Nat
  | 'x' => some 2
  | 'u' => some 4
  | 'U' => some 8
  | _ => none

/-- Reads an escape of a scalar that began at `start`, from the backslash on. -/
def readEscape (start : Mark) (c : Cursor) : Except Error (Char × Cursor) :=
  match c.advance.head? with
  | none => scalarError .unknownEscape c.mark .escape start
  | some x =>
    let behind := c.advanceBy 2
    match escapedChar? x, escapeLength? x with
    | some y, _ => .ok (y, behind)
    | none, none => scalarError .unknownEscape c.mark .escape start
    | none, some n =>
      match hexNumber? n 0 behind.rest with
      | none => scalarError .noHexNumber behind.mark .escape start
      | some v =>
        if v.isValidChar then .ok (Char.ofNat v, behind.advanceBy n)
        else scalarError .badEscapeCode behind.mark .escape start

/-- Reads a run between quotation marks, and whether an escaped break ends it. The first argument
bounds the number of characters. -/
def doubleRun (start : Mark) : Nat → List Char → Cursor → Except Error (List Char × Bool × Cursor)
  | 0, before, c => .ok (before, false, c)
  | fuel + 1, before, c =>
    match c.rest with
    | [] => .ok (before, false, c)
    | '\\' :: rest =>
      if rest.head?.map isBreak = some true then .ok (before, true, c.advance.takeBreak.2)
      else do
        let (x, c) ← readEscape start c
        doubleRun start fuel (x :: before) c
    | x :: _ =>
      if x = '"' || isBlank x || isBreak x then .ok (before, false, c)
      else doubleRun start fuel (x :: before) c.advance

/-- Reads runs and gaps up to the end of a quoted scalar. -/
def quotedRuns (single : Bool) (start : Mark) :
    Nat → List Char → Cursor → Except Error (Scalar × Cursor)
  | 0, _, c => scalarError .endInScalar c.mark .quotedScalar start
  | fuel + 1, before, c =>
    if c.atDocumentIndicator then
      scalarError .documentIndicatorInScalar c.mark .quotedScalar start
    else if c.rest = [] then scalarError .endInScalar c.mark .quotedScalar start
    else do
      let (before, broken, c) ←
        if single then
          let (before, c) := singleRun before c.mark c.rest
          pure (before, false, c)
        else doubleRun start c.rest.length before c
      if c.head? = some (if single then '\'' else '"') then
        .ok (⟨String.ofList before.reverse, c.advance.mark, false⟩, c.advance)
      else
        let (gap, c) := Gap.read 0 { broken } c.mark c.rest
        quotedRuns single start fuel (gap.text.reverse ++ before) c

def readQuoted (single : Bool) (c : Cursor) : Except Error (Scalar × Cursor) :=
  quotedRuns single c.mark (c.rest.length + 1) [] c.advance

/-! ## Block scalars -/

/-- Which of the breaks at the end of a block scalar belong to it. -/
inductive Chomping where
  | strip
  | clip
  | keep
deriving DecidableEq, Repr

/-- Breaks and indentations before a line of a block scalar. -/
structure Breaks where
  /-- The breaks, the last one first. -/
  breaks : List Char := []
  /-- The mark behind the last break. -/
  stop : Mark
  /-- The greatest column reached. -/
  widest : Nat := 0

/-- Reads breaks and the spaces before the column `indent`, or any spaces if no indentation is
known. A tab in their place is an error, which is given by its mark. -/
def Breaks.read (indent : Option Nat) (b : Breaks) (m : Mark) :
    List Char → Except Mark (Breaks × Cursor)
  | [] => .ok ({ b with widest := max b.widest m.column }, ⟨[], m⟩)
  | '\r' :: '\n' :: rest =>
    let m' := m.nextLine 2
    read indent ⟨'\n' :: b.breaks, m', max b.widest m.column⟩ m' rest
  | c :: rest =>
    let within : Bool := (indent.map fun n => decide (m.column < n)).getD true
    if within && c = ' ' then read indent b m.next rest
    else if within && c = '\t' then .error m
    else if isBreak c then
      let m' := m.nextLine 1
      read indent ⟨breakChar c :: b.breaks, m', max b.widest m.column⟩ m' rest
    else .ok ({ b with widest := max b.widest m.column }, ⟨c :: rest, m⟩)

/-- What a break before a line of a folded scalar and the further breaks read as, the last one
first. -/
def foldedBreaks (lead breaks : List Char) (blankAround : Bool) : List Char :=
  if lead = ['\n'] && !blankAround then if breaks.isEmpty then [' '] else breaks
  else breaks ++ lead

/-- Reads the lines of a block scalar at the column `indent`. The first argument bounds their
number, `before` holds the characters read and `lead` the break behind them. -/
def blockLines (literal : Bool) (chomping : Chomping) (indent : Nat) (start : Mark) :
    Nat → List Char → List Char → Bool → Breaks → Cursor → Except Error (Scalar × Cursor)
  | 0, before, _, _, breaks, c => .ok (⟨String.ofList before.reverse, breaks.stop, true⟩, c)
  | fuel + 1, before, lead, blankBefore, breaks, c =>
    if c.rest = [] || c.column ≠ indent then
      let before := match chomping with
        | .strip => before
        | .clip => lead ++ before
        | .keep => breaks.breaks ++ (lead ++ before)
      .ok (⟨String.ofList before.reverse, breaks.stop, true⟩, c)
    else
      let blankHere := (c.head?.map isBlank).getD false
      let joined := if literal then breaks.breaks ++ lead
        else foldedBreaks lead breaks.breaks (blankBefore || blankHere)
      let (line, c) := c.span (!isBreak ·)
      let (lead, c) := c.takeBreak
      match Breaks.read (some indent) { stop := c.mark } c.mark c.rest with
      | .error m => scalarError .tabInIndentation m .blockScalar start
      | .ok (breaks, c) =>
        blockLines literal chomping indent start fuel (line.reverse ++ (joined ++ before)) lead
          blankHere breaks c

/-- The chomping that a sign stands for. -/
def chompingOf? : Option Char → Option Chomping
  | some '+' => some .keep
  | some '-' => some .strip
  | _ => none

/-- Reads the digit of an indentation, if one stands here. -/
def readIncrement (start : Mark) (c : Cursor) : Except Error (Option Nat × Cursor) :=
  match c.head? with
  | some '0' => scalarError .zeroIndentation c.mark .blockScalar start
  | some d => if d.isDigit then .ok (some (d.toNat - '0'.toNat), c.advance) else .ok (none, c)
  | none => .ok (none, c)

/-- Reads the sign and the digit behind the indicator of a block scalar, in either order. -/
def readHeader (start : Mark) (c : Cursor) : Except Error (Chomping × Option Nat × Cursor) := do
  match chompingOf? c.head? with
  | some chomping =>
    let (increment, c) ← readIncrement start c.advance
    .ok (chomping, increment, c)
  | none =>
    let (increment, c) ← readIncrement start c
    match increment, chompingOf? c.head? with
    | some _, some chomping => .ok (chomping, increment, c.advance)
    | _, _ => .ok (.clip, increment, c)

/-- Reads a block scalar, from its indicator on. The scalar stands in a block at the column
`parent`. -/
def readBlock (literal : Bool) (parent : Int) (c : Cursor) : Except Error (Scalar × Cursor) := do
  let start := c.mark
  let (chomping, increment, c) ← readHeader start c.advance
  let c := c.skipComment
  if !startsBreak c.rest then scalarError .noCommentOrBreak c.mark .blockScalar start
  else
    let c := c.takeBreak.2
    let given := increment.map fun n => parent.toNat + n
    match Breaks.read given { stop := c.mark } c.mark c.rest with
    | .error m => scalarError .tabInIndentation m .blockScalar start
    | .ok (breaks, c) =>
      let indent := given.getD (max breaks.widest (max (parent + 1).toNat 1))
      blockLines literal chomping indent start (c.rest.length + 1) [] [] false breaks c

end FirstClaim.Yaml
