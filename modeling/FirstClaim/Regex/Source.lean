import FirstClaim.Regex.Error
import FirstClaim.Unicode.Property

/-!
# The source of a pattern while it is read

`Source` is what is left of a pattern, with the place reached. In verbose mode blanks and comments
between the parts of a pattern carry no meaning; `Source.skip` passes over them.
-/

set_option autoImplicit false

namespace FirstClaim.Regex

/-- The rest of a pattern that is being read. -/
structure Source where
  rest : List Char
  pos : Position
  verbose : Bool
deriving Repr

namespace Source

def ofString (pattern : String) : Source :=
  ⟨pattern.toList, .first, false⟩

def atEnd (s : Source) : Bool :=
  s.rest.isEmpty

def bump (s : Source) : Source :=
  match s.rest with
  | [] => s
  | c :: cs => { s with rest := cs, pos := s.pos.after c }

def bumps : Nat → Source → Source
  | 0, s => s
  | n + 1, s => bumps n s.bump

/-- What is left after blanks and comments; `inComment` tells that a comment is open. -/
def skipTrivia (pos : Position) (inComment : Bool) : List Char → List Char × Position
  | [] => ([], pos)
  | c :: cs =>
    if inComment then skipTrivia (pos.after c) (c != '\n') cs
    else if Unicode.isBlank c then skipTrivia (pos.after c) false cs
    else if c = '#' then skipTrivia (pos.after c) true cs
    else (c :: cs, pos)

/-- Passes over blanks and comments in verbose mode. -/
def skip (s : Source) : Source :=
  if s.verbose then
    let (rest, pos) := skipTrivia s.pos false s.rest
    { s with rest, pos }
  else s

/-- Passes over one character and what verbose mode skips after it. -/
def next (s : Source) : Source :=
  s.bump.skip

def here (s : Source) : Span :=
  ⟨s.pos, s.pos⟩

/-- The span of the next character. -/
def charSpan (s : Source) : Span :=
  ⟨s.pos, s.bump.pos⟩

/-- The span from an earlier place to the place reached. -/
def spanFrom (start : Position) (s : Source) : Span :=
  ⟨start, s.pos⟩

def startsWith (c : Char) (s : Source) : Bool :=
  s.rest.head? == some c

def afterTrivia? (inComment : Bool) : List Char → Option Char
  | [] => none
  | c :: cs =>
    if Unicode.isBlank c then afterTrivia? inComment cs
    else if !inComment && c == '#' then afterTrivia? true cs
    else some c

/-- The character after the next one; verbose mode looks past blanks. -/
def peek? (s : Source) : Option Char :=
  match s.rest with
  | [] => none
  | _ :: cs => if s.verbose then afterTrivia? false cs <|> cs.head? else cs.head?

/-- The longest run of characters that satisfy `p`, with what verbose mode skips between them. The
first argument bounds its length. -/
def run (p : Char → Bool) : Nat → Source → List Char × Source
  | 0, s => ([], s)
  | n + 1, s =>
    match s.rest with
    | [] => ([], s)
    | c :: _ =>
      if p c then
        let (cs, s) := run p n s.next
        (c :: cs, s)
      else ([], s)

/-- The longest run of characters that satisfy `p`. -/
def takeRun (p : Char → Bool) (s : Source) : List Char × Source :=
  run p s.rest.length s

/-- Passes over blanks, in verbose mode over comments as well. -/
def skipBlanks (s : Source) : Source :=
  (s.takeRun Unicode.isBlank).2

end Source

end FirstClaim.Regex
