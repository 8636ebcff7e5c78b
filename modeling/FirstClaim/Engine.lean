import FirstClaim.ClaimMap
import FirstClaim.Rule

/-!
# Applying rules

`Engine.transform` applies an ordered list of rules to a text. Every rule is matched against the
text as it came in. A match becomes a claim when none of its characters is claimed by an earlier
rule or an earlier match; the claims are then replaced in one pass from left to right. A rule that
cannot be matched or whose callback fails makes no claim at all and is reported as skipped.
-/

set_option autoImplicit false

namespace FirstClaim

/-- The first characters of a text, as many as have at most `n` bytes together. -/
def takeBytes (n : Nat) : List Char → List Char
  | [] => []
  | c :: cs => if c.utf8Size ≤ n then c :: takeBytes (n - c.utf8Size) cs else []

/-- What is left of a text without `takeBytes n`. -/
def dropBytes (n : Nat) : List Char → List Char
  | [] => []
  | c :: cs => if c.utf8Size ≤ n then dropBytes (n - c.utf8Size) cs else c :: cs

/-- A rule that was not applied. -/
structure Skipped where
  rule : Nat
  pattern : Option String
  reason : RuleError
deriving DecidableEq, Repr

/-- The reason as every report and the log show it. -/
def Skipped.text (s : Skipped) : String :=
  s.reason.message

/-- The result of applying rules to a text, with the claims in the order of their starts. -/
structure Report where
  output : String
  claims : List Claim
  skipped : List Skipped
deriving DecidableEq, Repr

def Report.passthrough (text : String) : Report :=
  ⟨text, [], []⟩

def Report.changed (r : Report) : Bool :=
  !r.claims.isEmpty

namespace Rule

/-- The matches that a rule may claim: not empty, free, and behind the one claimed before. -/
def eligible (taken : ClaimMap) (position : Nat) : List Regex.Match → List Regex.Match
  | [] => []
  | m :: rest =>
    if m.whole.start < m.whole.stop && position ≤ m.whole.start &&
        taken.isFree m.whole.start m.whole.stop then
      m :: eligible taken m.whole.stop rest
    else eligible taken position rest

/-- The claims for matches in turn, up to the first failure, and the replacement after that. -/
def resolveEach (index : Nat) (r : Replacement) :
    List Regex.Match → Except RuleError (List Claim) × Replacement
  | [] => (.ok [], r)
  | m :: rest =>
    match r.resolve ⟨m.whole.text, m.groups.map (·.map (·.text))⟩ with
    -- what was resolved before is lost, but those calls have been made
    | (.error e, r) => (.error e, r)
    | (.ok text, r) =>
      let claim : Claim := ⟨index, m.whole.text, text, m.whole.start, m.whole.stop⟩
      let (claims, r) := resolveEach index r rest
      (claims.map (claim :: ·), r)

/-- The claims that a rule would make beside those already made, and the rule after its callback
has been called. -/
def pending (text : String) (index : Nat) (taken : ClaimMap) (rule : Rule) :
    Except RuleError (List Claim) × Rule :=
  match rule.build with
  | .error e => (.error e, rule)
  | .ok regex =>
    -- all matches are resolved before any of them is claimed
    let (claims, replacement) :=
      resolveEach index rule.replacement (eligible taken 0 (regex.findAll text))
    (claims, { rule with replacement })

end Rule

structure Engine where
  rules : List Rule

namespace Engine

/-- Lets rules claim in turn, beginning with the index of the first one. Gives all claims, the
rules skipped and the rules after their callbacks have been called. -/
def claimAll (text : String) (index : Nat) (taken : ClaimMap) :
    List Rule → ClaimMap × List Skipped × List Rule
  | [] => (taken, [], [])
  | rule :: rest =>
    match rule.pending text index taken with
    | (.ok claims, rule) =>
      let (taken, skipped, rules) := claimAll text (index + 1) (taken.commit claims) rest
      (taken, skipped, rule :: rules)
    | (.error reason, rule) =>
      let (taken, skipped, rules) := claimAll text (index + 1) taken rest
      (taken, ⟨index, rule.pattern.map (·.text), reason⟩ :: skipped, rule :: rules)

/-- The text with each claim replaced; `rest` is what follows byte `position`. -/
def splice (position : Nat) (rest : List Char) : List Claim → List Char
  | [] => rest
  | c :: cs =>
    takeBytes (c.start - position) rest ++ c.replacement.toList ++
      splice c.stop (dropBytes (c.stop - position) rest) cs

/-- Applies the rules to a text. The engine that comes back knows the calls of its callbacks. -/
def transform (e : Engine) (text : String) : Report × Engine :=
  if text.isEmpty || e.rules.isEmpty then (.passthrough text, e)
  else
    let (claims, skipped, rules) := claimAll text 0 .empty e.rules
    let output := String.ofList (splice 0 text.toList claims.toList)
    (⟨output, claims.toList, skipped⟩, ⟨rules⟩)

def apply (e : Engine) (text : String) : String :=
  (e.transform text).1.output

/-- Like `apply`, where the text or the rules may be missing: without rules the text stays. -/
def applyOptional (text : Option String) (rules : Option (List Rule)) : Option String :=
  text.map fun text =>
    match rules with
    | some rules => (Engine.mk rules).apply text
    | none => text

def push (e : Engine) (rule : Rule) : Engine :=
  ⟨e.rules ++ [rule]⟩

end Engine

end FirstClaim
