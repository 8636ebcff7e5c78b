import FirstClaim.Pattern
import FirstClaim.Quoted
import FirstClaim.Template

/-!
# Rules

A rule has a pattern and a replacement. The replacement is a template or a callback; a callback
sees the matched text, the groups and the calls made of it before, so a replacement with a callback
keeps these calls (`Replacement.resolve`).

A `RuleRecord` is the form in which rules are stored and edited. Its replacement is a template.
-/

set_option autoImplicit false

namespace FirstClaim

/-- What a callback is called with: the matched text and an entry for each group. -/
structure Call where
  matched : String
  groups : List (Option String)
deriving DecidableEq, Repr

/-- A function from the earlier calls, the last one first, and the present one to the text that
replaces the match, or to the reason for a failure. -/
abbrev Callback := List Call → Call → Except String String

inductive Replacement where
  | template (text : String)
  /-- A callback with the calls made of it so far, the last one first. -/
  | computed (callback : Callback) (earlier : List Call)

/-- Why a rule is not applied. -/
inductive RuleError where
  | emptyPattern
  | invalidPattern (pattern : String) (error : Regex.BuildError)
  | callback (message : String)
deriving DecidableEq, Repr

def RuleError.message : RuleError → String
  | emptyPattern => "rule has an empty pattern"
  | invalidPattern pattern error => s!"invalid pattern '{pattern}': {error.message}"
  | callback message => s!"replacement callback failed: {message}"

/-- The reason why a pattern cannot be matched, as the reason why its rule is not applied. -/
def RuleError.ofPattern : PatternError → RuleError
  | .empty => .emptyPattern
  | .invalid pattern error => .invalidPattern pattern error

/-- The text that replaces a match, and the replacement with the call noted. -/
def Replacement.resolve (r : Replacement) (call : Call) :
    Except RuleError String × Replacement :=
  match r with
  | template text => (.ok (Template.expand text call.groups), r)
  | computed callback earlier =>
    ((callback earlier call).mapError .callback, computed callback (call :: earlier))

def Replacement.describe : Replacement → String
  | template text => s!"Template({quoted text})"
  | computed _ _ => "Computed(<callback>)"

/-- A rule. The id and the description carry no meaning for matching. -/
structure Rule where
  id : Option String := none
  /-- A rule without a pattern is never applied. -/
  pattern : Option Pattern
  replacement : Replacement
  description : Option String := none

/-- The regular expression that a rule is matched with. -/
def Rule.build (r : Rule) : Except RuleError Regex :=
  match r.pattern with
  | none => .error .emptyPattern
  | some pattern => pattern.build.mapError .ofPattern

/-- A rule as it is stored and edited. -/
structure RuleRecord where
  id : Option String := none
  pattern : String := ""
  replacement : String := ""
  description : Option String := none
deriving DecidableEq, Repr

def RuleRecord.toRule (r : RuleRecord) : Rule :=
  { id := r.id, pattern := some (.source r.pattern), replacement := .template r.replacement,
    description := r.description }

end FirstClaim
