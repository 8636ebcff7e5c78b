import FirstClaim.ConfigFile
import FirstClaim.Engine
import FirstClaim.Timestamp

/-!
# The log of a run

A run tells what happens in a log. Each `LogEvent` becomes one line with its level, a text and
fields, except that a text may bring line breaks of its own.
-/

set_option autoImplicit false

namespace FirstClaim.CommandLine

/-- How important an event is. -/
inductive Level where
  | debug
  | info
  | warn
deriving DecidableEq, Repr

def Level.label : Level → String
  | debug => "DEBUG"
  | info => " INFO"
  | warn => " WARN"

/-- What can happen in a run. -/
inductive LogEvent where
  | builtinUsed (rules : Nat)
  | rulesLoaded (path : String) (rules : Nat)
  | loadFailed (path : String) (error : LoadError)
  | storedLoaded (name : String) (rules : Nat)
  | storedChanged (name : String)
  | storedUsed (name : String) (savedAt : Timestamp)
  | stored (name fingerprint : String)
  | saved (name : String) (rules : Nat)
  | engineBuilt (name : String) (rules : Nat)
  | ruleSkipped (skipped : Skipped)
  | transformed (rules claims skipped : Nat)
  | outputWritten (path : String)
deriving DecidableEq, Repr

namespace LogEvent

def level : LogEvent → Level
  | loadFailed _ _ | storedChanged _ | ruleSkipped _ => .warn
  | saved _ _ | outputWritten _ => .info
  | builtinUsed _ | rulesLoaded _ _ | storedLoaded _ _ | storedUsed _ _ | stored _ _
  | engineBuilt _ _ | transformed _ _ _ => .debug

def summary : LogEvent → String
  | builtinUsed _ => "using built-in rules"
  | rulesLoaded _ _ => "rules loaded"
  | loadFailed path error =>
    s!"failed to load rules from {path}: {error.message}; using defaults"
  | storedLoaded _ _ => "rule set loaded"
  | storedChanged _ => "stored rules changed since they were saved"
  | storedUsed _ _ => "using stored rule set"
  | stored _ _ => "rule set stored"
  | saved _ _ => "rule set saved to store"
  | engineBuilt _ _ => "building rule engine"
  | ruleSkipped skipped => s!"skipping rule: {skipped.text}"
  | transformed _ _ _ => "transform complete"
  | outputWritten _ => "output written"

/-- The fields of an event; `elapsed` is the time that the rules took, in microseconds. -/
def fields (elapsed : Nat) : LogEvent → List (String × String)
  | builtinUsed rules => [("rules", toString rules)]
  | rulesLoaded path rules => [("path", path), ("rules", toString rules)]
  | loadFailed _ _ => []
  | storedLoaded name rules => [("rule_set", quoted name), ("rules", toString rules)]
  | storedChanged name => [("rule_set", name)]
  | storedUsed name savedAt => [("rule_set", name), ("saved_at", savedAt.plainText)]
  | stored name fingerprint => [("rule_set", quoted name), ("fingerprint", fingerprint)]
  | saved name rules | engineBuilt name rules => [("rule_set", name), ("rules", toString rules)]
  | ruleSkipped skipped =>
    [("rule_index", toString skipped.rule),
      ("pattern", quoted (skipped.pattern.getD "<none>"))]
  | transformed rules claims skipped =>
    [("rules", toString rules), ("claims", toString claims), ("skipped", toString skipped),
      ("elapsed_micros", toString elapsed)]
  | outputWritten path => [("path", path)]

/-- A character of a text, with an escape in the place of one that could steer a terminal. -/
def plainChar (c : Char) : String :=
  if c = '\x1b' || c = '\x07' || c = '\x08' || c = '\x0c' || c = '\x7f' then
    String.ofList ['\\', 'x', Json.hexDigit (c.toNat / 16), Json.hexDigit (c.toNat % 16)]
  else if 0x80 ≤ c.toNat && c.toNat ≤ 0x9F then "\\u\x7b" ++ hexDigits c.toNat ++ "\x7d"
  else c.toString

def text (elapsed : Nat) (e : LogEvent) : String :=
  let words := String.join (e.summary.toList.map plainChar)
  let fields := (e.fields elapsed).map fun f => s!" {f.1}={f.2}"
  s!"{e.level.label} {words}" ++ String.join fields ++ "\n"

end LogEvent

end FirstClaim.CommandLine
