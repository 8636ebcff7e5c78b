import FirstClaim.Regex.Node
import FirstClaim.Unicode.Property

/-!
# Places in a text

A `Place` lies between two characters of a text, or at one of its ends. It knows the character
before it and all characters after it, so assertions about a place need nothing else.
-/

set_option autoImplicit false

namespace FirstClaim.Regex

/-- A place in a text. -/
structure Place where
  /-- The character before the place, unless the text begins there. -/
  before : Option Char
  /-- The characters after the place. -/
  after : List Char
  /-- The number of characters before the place. -/
  index : Nat
  /-- The number of bytes before the place. -/
  offset : Nat
deriving DecidableEq, Repr

namespace Place

def start (text : List Char) : Place :=
  ⟨none, text, 0, 0⟩

/-- The place behind the next character. -/
def advance (p : Place) : Place :=
  match p.after with
  | [] => p
  | c :: cs => ⟨some c, cs, p.index + 1, p.offset + c.utf8Size⟩

/-- The text between a place and a later one. -/
def textTo (p q : Place) : String :=
  String.ofList (p.after.take (q.index - p.index))

theorem after_advance_lt (p : Place) (h : p.after ≠ []) :
    p.advance.after.length < p.after.length := by
  cases hp : p.after with
  | nil => exact absurd hp h
  | cons c cs => simp [advance, hp]

end Place

/-! ## Assertions -/

def isWordChar (unicode : Bool) (c : Char) : Bool :=
  if unicode then Unicode.wordChars.contains c else c.isAlphanum || c == '_'

/-- An assertion about whether a word character stands before and after a place. -/
def WordLook.holds (before after : Bool) : WordLook → Bool
  | .boundary => before != after
  | .notBoundary => before == after
  | .start => !before && after
  | .stop => before && !after
  | .startHalf => !before
  | .stopHalf => !after

/-- The assertion holds at a place. With `crlf` a carriage return together with the line feed
behind it ends a line, and there is no line end between the two. -/
def Look.holds (l : Look) (p : Place) : Bool :=
  match l with
  | .textStart => p.before.isNone
  | .textEnd => p.after.isEmpty
  | .lineStart crlf =>
    p.before.isNone || p.before == some '\n' ||
      (crlf && p.before == some '\r' && p.after.head? != some '\n')
  | .lineEnd crlf =>
    p.after.isEmpty || (crlf && p.after.head? == some '\r') ||
      (p.after.head? == some '\n' && !(crlf && p.before == some '\r'))
  | .word unicode kind =>
    kind.holds (p.before.any (isWordChar unicode)) (p.after.head?.any (isWordChar unicode))

end FirstClaim.Regex
