import FirstClaim.Config
import FirstClaim.Json.Reader
import FirstClaim.Timestamp.Reader

/-!
# Stored rule sets

A rule set is stored with the time when it was saved and the fingerprint that its rules had then.
The fingerprint tells whether the rules have been changed since (`StoredRuleSet.isIntact`).
-/

set_option autoImplicit false

namespace FirstClaim

/-- A rule set with what is known about its saving. -/
structure StoredRuleSet where
  config : Config
  savedAt : Timestamp
  fingerprint : String
deriving DecidableEq, Repr

namespace StoredRuleSet

/-- A rule set that is saved at some time. -/
def ofConfig (config : Config) (now : Timestamp) : StoredRuleSet :=
  ⟨config, now, config.fingerprint⟩

/-- Whether the rules are the ones that were saved, as far as the fingerprint tells. -/
def isIntact (s : StoredRuleSet) : Bool :=
  s.config.fingerprint == s.fingerprint

/-! ## Text -/

def readTimestamp : Json.Reader Timestamp := fun c => do
  let (text, c) ← Json.readText "an RFC 3339 formatted date and time string" c
  match Timestamp.parse text with
  | .ok t => .ok (t, c)
  | .error e => c.fail (.custom e.message)

/-- The time before any saving. -/
def epoch : Timestamp :=
  ⟨⟨1970, 1, 1, by decide, by decide, by decide⟩, ⟨0, 0, 0, 0⟩⟩

/-- The members of a stored rule set. All are required. -/
def form : RecordForm Json.Reader StoredRuleSet where
  title := "struct StoredRuleSet"
  start := ⟨{}, epoch, ""⟩
  members :=
    [{ name := "config", required := true,
       read := fun s => do return { s with config := ← Config.read } },
     { name := "saved_at", required := true,
       read := fun s => do return { s with savedAt := ← readTimestamp } },
     { name := "fingerprint", required := true,
       read := fun s => do return { s with fingerprint := ← FileFormat.text } }]

def parse (text : String) : Except Json.Error StoredRuleSet :=
  Json.parse (FileFormat.record form) text

def render (s : StoredRuleSet) : String :=
  (Json.Value.object [("config", s.config.toValue), ("saved_at", .string (s.savedAt.text "Z")),
    ("fingerprint", .string s.fingerprint)]).pretty

end StoredRuleSet

end FirstClaim
