import FirstClaim.Json.Value
import FirstClaim.RecordForm
import FirstClaim.Rule
import FirstClaim.Sha256
import FirstClaim.Yaml.Writer

/-!
# Rule sets in files

A `Config` is a named list of rules as it stands in a file. This module says which members the
records of such a file have, how they are read in any file format (`Config.form`) and written
(`Config.toValue`, `Config.toYaml`), and gives a list of rules its fingerprint.
-/

set_option autoImplicit false

namespace FirstClaim

/-- A named list of rules; a rule goes before those behind it. -/
structure Config where
  name : String := "default"
  description : Option String := none
  rules : List RuleRecord := []
deriving DecidableEq, Repr

/-! ## Built-in rules -/

/-- The rules that turn headings, bold, underlined and struck text and bullet items from the style
of documents into that of chats. -/
def builtinRules : List RuleRecord :=
  [{ pattern := "^#+[ \\t]*(.*)$", replacement := "*_$1_*", description := some "Heading line" },
    { pattern := "\\*\\*(.+?)\\*\\*", replacement := "*$1*", description := some "Bold" },
    { pattern := "__(.+?)__", replacement := "_$1_", description := some "Underline to italic" },
    { pattern := "~~(.+?)~~", replacement := "~$1~", description := some "Strikethrough" },
    { pattern := "^[ \\t]*[-*][ \\t]+", replacement := "• ", description := some "Bullet item" }]

def Config.builtin : Config :=
  { description := some "Markdown-style markup to chat-style markup", rules := builtinRules }

def Config.toRules (c : Config) : List Rule :=
  c.rules.map (·.toRule)

/-! ## Reading -/

section Reading

variable {R : Type → Type} [FileFormat R]

def RuleRecord.form : RecordForm R RuleRecord where
  title := "struct RuleRecord"
  start := {}
  members :=
    [{ name := "id",
       read := fun r => do return { r with id := ← FileFormat.optional FileFormat.text } },
     { name := "pattern", read := fun r => do return { r with pattern := ← FileFormat.text } },
     { name := "replacement",
       read := fun r => do return { r with replacement := ← FileFormat.text } },
     { name := "description",
       read := fun r => do
        return { r with description := ← FileFormat.optional FileFormat.text } }]

def Config.form : RecordForm R Config where
  title := "struct RuleSetConfig"
  start := {}
  members :=
    [{ name := "name", read := fun c => do return { c with name := ← FileFormat.text } },
     { name := "description",
       read := fun c => do
        return { c with description := ← FileFormat.optional FileFormat.text } },
     { name := "rules",
       read := fun c => do
        return { c with rules := ← FileFormat.list (FileFormat.record RuleRecord.form) } }]

def Config.read : R Config :=
  FileFormat.record Config.form

end Reading

/-! ## Writing -/

/-- A member that is written only if it is there. -/
def optionalMember (name : String) (text : Option String) : List (String × String) :=
  text.toList.map fun s => (name, s)

def RuleRecord.members (r : RuleRecord) : List (String × String) :=
  optionalMember "id" r.id ++ [("pattern", r.pattern), ("replacement", r.replacement)] ++
    optionalMember "description" r.description

/-- The members of a rule set before its rules. -/
def Config.members (c : Config) : List (String × String) :=
  ("name", c.name) :: optionalMember "description" c.description

def textMembers (members : List (String × String)) : List (String × Json.Value) :=
  members.map fun m => (m.1, .string m.2)

def rulesValue (rules : List RuleRecord) : Json.Value :=
  .array (rules.map fun r => .object (textMembers r.members))

def Config.toValue (c : Config) : Json.Value :=
  .object (textMembers c.members ++ [("rules", rulesValue c.rules)])

def Config.toYaml (c : Config) : String :=
  let rules := if c.rules.isEmpty then " []\n".toList
    else '\n' :: c.rules.flatMap fun r => Yaml.entryText r.members
  String.ofList (c.members.flatMap (Yaml.memberText 0) ++ "rules:".toList ++ rules)

/-- A digest of the rules with their ids and descriptions. -/
def Config.fingerprint (c : Config) : String :=
  Sha256.digest (rulesValue c.rules).compact

end FirstClaim
