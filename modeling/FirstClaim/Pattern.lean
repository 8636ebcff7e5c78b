import FirstClaim.Regex.Basic

/-!
# Patterns of rules

A rule's pattern is source text, or a regular expression that its owner has built. Either way only
the source counts: `Pattern.build` builds a regular expression of its own from it, in which `^` and
`$` look for line ends if either sign occurs anywhere in the source, and a carriage return ends a
line.
-/

set_option autoImplicit false

namespace FirstClaim

/-- The pattern of a rule. -/
inductive Pattern where
  | source (text : String)
  | compiled (regex : Regex)
deriving DecidableEq, Repr

/-- Why a pattern cannot be matched. -/
inductive PatternError where
  | empty
  | invalid (pattern : String) (error : Regex.BuildError)
deriving DecidableEq, Repr

namespace Pattern

def text : Pattern → String
  | source text => text
  | compiled regex => regex.source

def isEmpty (p : Pattern) : Bool :=
  p.text.isEmpty

/-- A source asks for line anchors when it contains one of their signs, whatever it means there. -/
def wantsMultiLine (source : String) : Bool :=
  source.toList.any fun c => c == '^' || c == '$'

/-- The flags that rules are matched with. -/
def mode (source : String) : Regex.Mode :=
  { multiLine := wantsMultiLine source, crlf := true }

/-- The regular expression that a rule is matched with. -/
def build (p : Pattern) : Except PatternError Regex :=
  if p.isEmpty then .error .empty
  -- a compiled pattern is built again from its source, so flags of its own are lost
  else match Regex.build (mode p.text) p.text with
    | .ok regex => .ok regex
    | .error e => .error (.invalid p.text e)

end Pattern

end FirstClaim
