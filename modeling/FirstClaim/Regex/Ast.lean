/-!
# Patterns as written

The tree that a regular expression is read into. Each part keeps the span of the source that it
was read from, so that a later check can point at it.
-/

set_option autoImplicit false

namespace FirstClaim.Regex

/-- A place in the source of a pattern: characters before it, its line and its column. -/
structure Position where
  offset : Nat
  line : Nat
  column : Nat
deriving DecidableEq, Repr

def Position.first : Position :=
  ⟨0, 1, 1⟩

/-- The place after the character `c` at `p`. -/
def Position.after (p : Position) (c : Char) : Position :=
  if c = '\n' then ⟨p.offset + 1, p.line + 1, 1⟩ else ⟨p.offset + 1, p.line, p.column + 1⟩

/-- A part of the source of a pattern. -/
structure Span where
  start : Position
  stop : Position
deriving DecidableEq, Repr

/-- A flag that a pattern can set. -/
inductive Flag where
  | caseInsensitive
  | multiLine
  | dotAll
  | swapGreed
  | unicode
  | crlf
  | verbose
deriving DecidableEq, Repr

/-- An item of a flag list: a flag or the sign that turns the flags after it off. -/
inductive FlagItem where
  | flag (f : Flag)
  | negation
deriving DecidableEq, Repr

/-- The state that a flag list gives to a flag, if it names the flag. -/
def flagState? (f : Flag) (items : List FlagItem) : Option Bool :=
  go false items
where
  go (negated : Bool) : List FlagItem → Option Bool
    | [] => none
    | .negation :: rest => go true rest
    | .flag g :: rest => if g = f then some (!negated) else go negated rest

/-- A literal character; `isByte` when it was written as a byte with two hexadecimal digits. -/
structure Literal where
  span : Span
  char : Char
  isByte : Bool
deriving DecidableEq, Repr

/-- An assertion about a place in the text. -/
inductive AssertionKind where
  | startLine
  | endLine
  | startText
  | endText
  | wordBoundary
  | notWordBoundary
  | wordStart
  | wordEnd
  | wordStartHalf
  | wordEndHalf
deriving DecidableEq, Repr

/-- A class with a one-letter escape. -/
inductive ShorthandKind where
  | digit
  | space
  | word
deriving DecidableEq, Repr

structure Shorthand where
  span : Span
  kind : ShorthandKind
  negated : Bool
deriving DecidableEq, Repr

/-- What a property class asks for. -/
inductive PropertyQuery where
  | named (name : String)
  | valued (property value : String)
deriving DecidableEq, Repr

structure PropertyClass where
  span : Span
  query : PropertyQuery
  negated : Bool
deriving DecidableEq, Repr

inductive AsciiKind where
  | alnum
  | alpha
  | ascii
  | blank
  | cntrl
  | digit
  | graph
  | lower
  | print
  | punct
  | space
  | upper
  | word
  | xdigit
deriving DecidableEq, Repr

inductive ClassOp where
  | intersection
  | difference
  | symmetricDifference
deriving DecidableEq, Repr

/-- A part of a bracketed class. -/
inductive ClassItem where
  | empty (span : Span)
  | literal (lit : Literal)
  | range (span : Span) (lo hi : Literal)
  | ascii (span : Span) (kind : AsciiKind) (negated : Bool)
  | shorthand (cls : Shorthand)
  | property (cls : PropertyClass)
  | bracketed (span : Span) (negated : Bool) (item : ClassItem)
  | union (span : Span) (items : List ClassItem)
  | binary (span : Span) (op : ClassOp) (lhs rhs : ClassItem)
deriving Repr

def ClassItem.span : ClassItem → Span
  | .empty s => s
  | .literal l => l.span
  | .range s _ _ => s
  | .ascii s _ _ => s
  | .shorthand c => c.span
  | .property c => c.span
  | .bracketed s _ _ => s
  | .union s _ => s
  | .binary s _ _ _ => s

inductive GroupKind where
  /-- The text that the group matches is kept under an index. -/
  | capture (index : Nat)
  /-- Only groups, with flags that hold inside. -/
  | flags (items : List FlagItem)
deriving DecidableEq, Repr

/-- A pattern as written. -/
inductive Ast where
  | empty (span : Span)
  | flags (span : Span) (items : List FlagItem)
  | literal (lit : Literal)
  | dot (span : Span)
  | assertion (span : Span) (kind : AssertionKind)
  | shorthand (cls : Shorthand)
  | property (cls : PropertyClass)
  | bracketed (span : Span) (negated : Bool) (item : ClassItem)
  | repetition (span : Span) (min : Nat) (max : Option Nat) (greedy : Bool) (sub : Ast)
  | group (span : Span) (kind : GroupKind) (sub : Ast)
  | alternation (span : Span) (branches : List Ast)
  | concat (span : Span) (items : List Ast)
deriving Repr

def Ast.span : Ast → Span
  | .empty s => s
  | .flags s _ => s
  | .literal l => l.span
  | .dot s => s
  | .assertion s _ => s
  | .shorthand c => c.span
  | .property c => c.span
  | .bracketed s _ _ => s
  | .repetition s _ _ _ _ => s
  | .group s _ _ => s
  | .alternation s _ => s
  | .concat s _ => s

end FirstClaim.Regex
